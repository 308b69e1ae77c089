import Backplane.Catalogue
import Backplane.Proofs.Entries

namespace Backplane

namespace Json

def isObject : Json → Bool
  | .object _ => true
  | _ => false

/-- The value that names lead to, each through one object. -/
def at? (document : Json) (path : List String) : Option Json :=
  path.foldlM (fun above name => above.member? name) document

/-- An object has members. -/
theorem exists_of_isObject {document : Json} (object : document.isObject = true) :
    ∃ members, document = .object members := by
  cases document with
  | object members => exact ⟨members, rfl⟩
  | _ => exact absurd object Bool.false_ne_true

/-- A path is followed name by name. -/
theorem at?_cons (document : Json) (name : String) (below : List String) :
    document.at? (name :: below) = (document.member? name).bind (·.at? below) := rfl

mutual

/-- Tells that a condition holds for the names in a document if it is an object, and in every object
among its members. -/
def EachObject (holds : List String → Prop) : Json → Prop
  | .object members => holds (Entries.names members) ∧ EachMember holds members
  | _ => True

def EachMember (holds : List String → Prop) : List (String × Json) → Prop
  | [] => True
  | (_, value) :: rest => EachObject holds value ∧ EachMember holds rest

end

/-- In every object the members are in the order of their names, each name once. -/
def Ordered (document : Json) : Prop := document.EachObject fun names => names.Pairwise (· < ·)

/-- No name in a document is empty or has a point in it. -/
def PlainNames (document : Json) : Prop :=
  document.EachObject fun names => ∀ name ∈ names, name ≠ "" ∧ '.' ∉ name.toList

variable {holds : List String → Prop} {members : List (String × Json)} {name : String}
  {value : Json}

/-- What holds of each member holds of one. -/
theorem EachMember.of_mem (each : EachMember holds members) (listed : (name, value) ∈ members) :
    value.EachObject holds := by
  induction members with
  | nil => exact absurd listed (List.not_mem_nil)
  | cons member rest ih =>
      obtain ⟨first, each⟩ := each
      rcases List.mem_cons.mp listed with rfl | later
      · exact first
      · exact ih each later

/-- A leaf of members is a leaf of one of them, with its name in front. -/
theorem mem_leavesOfMembers_iff {path : List String} {leaf : Json} :
    (path, leaf) ∈ leavesOfMembers members ↔
      ∃ name value below, (name, value) ∈ members ∧ path = name :: below ∧
        (below, leaf) ∈ value.leaves := by
  induction members with
  | nil => simp [leavesOfMembers]
  | cons member rest ih =>
      obtain ⟨name, value⟩ := member
      rw [leavesOfMembers, List.mem_append, ih]
      grind

/-- What is no object is its own leaf. -/
theorem leaves_of_not_object {document : Json} (leaf : document.isObject = false) :
    document.leaves = [([], document)] := by
  cases document with
  | object members => exact absurd leaf.symm Bool.false_ne_true
  | _ => rfl

/-- What is no object has no members. -/
theorem member?_of_not_object {document : Json} (leaf : document.isObject = false) (name : String) :
    document.member? name = none := by
  cases document with
  | object members => exact absurd leaf.symm Bool.false_ne_true
  | _ => rfl

/-- With distinct names every member is found. -/
theorem member?_eq_some_iff (sorted : (Entries.names members).Pairwise (· < ·)) :
    (object members).member? name = some value ↔ (name, value) ∈ members :=
  Entries.get?_eq_some_iff (sorted.imp ne_of_lt)

/-- The leaves are what is found at a path and is no object. -/
theorem mem_leaves_iff {document : Json} (ordered : document.Ordered) (path : List String)
    (leaf : Json) :
    (path, leaf) ∈ document.leaves ↔ document.at? path = some leaf ∧ leaf.isObject = false := by
  -- Down the path; only objects have members, so at every name the value is one or is a leaf.
  induction path generalizing document with
  | nil =>
      rw [at?, List.foldlM_nil]
      cases object : document.isObject with
      | false =>
          rw [leaves_of_not_object object]
          grind
      | true =>
          obtain ⟨members, rfl⟩ := document.exists_of_isObject object
          rw [leaves, mem_leavesOfMembers_iff]
          grind
  | cons name below ih =>
      rw [at?_cons]
      cases object : document.isObject with
      | false =>
          rw [leaves_of_not_object object, member?_of_not_object object]
          simp
      | true =>
          obtain ⟨members, rfl⟩ := document.exists_of_isObject object
          obtain ⟨sorted, each⟩ := ordered
          rw [leaves, mem_leavesOfMembers_iff, Option.bind_eq_some_iff]
          constructor
          · rintro ⟨other, value, rest, listed, same, below⟩
            obtain ⟨rfl, rfl⟩ := List.cons.inj same
            obtain ⟨reached, isLeaf⟩ := (ih (each.of_mem listed)).mp below
            exact ⟨⟨value, (member?_eq_some_iff sorted).mpr listed, reached⟩, isLeaf⟩
          · rintro ⟨⟨value, isMember, reached⟩, isLeaf⟩
            have listed := (member?_eq_some_iff sorted).mp isMember
            exact ⟨name, value, below, listed, rfl, (ih (each.of_mem listed)).mpr ⟨reached, isLeaf⟩⟩

mutual

/-- The leaves come in the order of their paths. -/
theorem leaves_ordered : ∀ document : Json, document.Ordered →
    (document.leaves.map Prod.fst).Pairwise (· < ·)
  | .object members, ⟨ordered, each⟩ => leavesOfMembers_ordered members ordered each
  | .null, _ | .boolean _, _ | .integer _, _ | .float _, _ | .string _, _ | .array _, _ =>
      List.pairwise_singleton _ _

/-- The leaves of members in order come in order. -/
theorem leavesOfMembers_ordered : ∀ members : List (String × Json),
    (Entries.names members).Pairwise (· < ·) →
      EachMember (fun names => names.Pairwise (· < ·)) members →
        ((leavesOfMembers members).map Prod.fst).Pairwise (· < ·)
  | [], _, _ => List.Pairwise.nil
  | (name, value) :: rest, ordered, ⟨first, each⟩ => by
      obtain ⟨least, later⟩ := List.pairwise_cons.mp ordered
      rw [leavesOfMembers, List.map_append, List.map_map, List.pairwise_append]
      refine ⟨?_, leavesOfMembers_ordered rest later each, ?_⟩
      · have inner := leaves_ordered value first
        rw [List.pairwise_map] at inner ⊢
        exact inner.imp fun before => List.cons_lt_cons_iff.mpr (.inr ⟨rfl, before⟩)
      · intro front isFront back isBack
        obtain ⟨⟨below, leaf⟩, -, rfl⟩ := List.mem_map.mp isFront
        obtain ⟨⟨path, other⟩, isLeaf, rfl⟩ := List.mem_map.mp isBack
        obtain ⟨next, held, under, listed, rfl, -⟩ := mem_leavesOfMembers_iff.mp isLeaf
        exact List.cons_lt_cons_iff.mpr (.inl (least next (List.mem_map.mpr ⟨_, listed, rfl⟩)))

end

/-- What holds for the names of every object holds for each name that leads to a leaf. -/
theorem EachObject.of_mem_leaves {allowed : String → Prop} {document : Json}
    (each : document.EachObject fun names => ∀ name ∈ names, allowed name) {path : List String}
    {leaf : Json} (isLeaf : (path, leaf) ∈ document.leaves) : ∀ name ∈ path, allowed name := by
  induction path generalizing document with
  | nil => exact nofun
  | cons name below ih =>
      cases object : document.isObject with
      | false =>
          rw [leaves_of_not_object object] at isLeaf
          simp at isLeaf
      | true =>
          obtain ⟨members, rfl⟩ := document.exists_of_isObject object
          obtain ⟨here, inside⟩ := each
          obtain ⟨_, value, _, listed, same, under⟩ := mem_leavesOfMembers_iff.mp isLeaf
          obtain ⟨rfl, rfl⟩ := List.cons.inj same
          have first : allowed name := here name (List.mem_map.mpr ⟨_, listed, rfl⟩)
          exact List.forall_mem_cons.mpr ⟨first, ih (inside.of_mem listed) under⟩

/-- No leaf of an object is the object itself. -/
theorem path_ne_nil {document : Json} (object : document.isObject = true) {path : List String}
    {leaf : Json} (isLeaf : (path, leaf) ∈ document.leaves) : path ≠ [] := by
  obtain ⟨members, rfl⟩ := document.exists_of_isObject object
  obtain ⟨name, _, below, _, rfl, _⟩ := mem_leavesOfMembers_iff.mp isLeaf
  exact List.cons_ne_nil name below

end Json

end Backplane
