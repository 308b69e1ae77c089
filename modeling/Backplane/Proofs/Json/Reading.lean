import Backplane.Json.Read
import Backplane.Proofs.Json.Leaves

namespace Backplane.Json

/-- What holds of each member still does when a member is added of which it holds. -/
theorem EachMember.insert {holds : List String → Prop} {members : List (String × Json)}
    {name : String} {value : Json} (each : EachMember holds members) (inside : value.EachObject holds) :
    EachMember holds (Entries.insert name value members) := by
  induction members with
  | nil => exact ⟨inside, trivial⟩
  | cons member rest ih =>
      obtain ⟨first, each⟩ := each
      rw [Entries.insert]
      split
      next => exact ⟨inside, first, each⟩
      next =>
        split
        next => exact ⟨inside, each⟩
        next => exact ⟨first, ih each⟩

/-- Adding a member in its place keeps an object in order. -/
theorem Ordered.insert {members : List (String × Json)} (ordered : (object members).Ordered)
    {name : String} {value : Json} (inside : value.Ordered) :
    (object (Entries.insert name value members)).Ordered :=
  ⟨Entries.insert_ordered ordered.1, ordered.2.insert inside⟩

/-- A reader that gives nothing but documents of one kind. -/
structure Gives (kind : Json → Prop) (result : Except Failure (Json × Cursor)) : Prop where
  holds : ∀ document next, result = .ok (document, next) → kind document

namespace Gives

variable {kind : Json → Prop}

theorem error (failure : Failure) : Gives kind (.error failure) := ⟨nofun⟩

theorem ok {document : Json} (fits : kind document) (next : Cursor) :
    Gives kind (.ok (document, next)) := by
  refine ⟨?_⟩
  rintro _ _ ⟨⟩
  exact fits

/-- A reader after another gives what it would give alone. -/
theorem bind {α : Type} {first : Except Failure α} {next : α → Except Failure (Json × Cursor)}
    (continues : ∀ value, first = .ok value → Gives kind (next value)) :
    Gives kind (first >>= next) := by
  cases first with
  | error failure => exact error failure
  | ok value => exact continues value rfl

end Gives

/-- Floats have no members. -/
theorem floatOf_gives (cursor : Cursor) (positive : Bool) (digits : Nat) (exponent : Int) :
    Gives Ordered (floatOf cursor positive digits exponent) := by
  unfold floatOf
  split
  next => exact .ok trivial _
  next => exact .error _

/-- An exponent is read into a number, in order. -/
theorem exponentTail_gives (positive : Bool) (digits : Nat) (exponent : Int) (cursor : Cursor) :
    Gives Ordered (exponentTail positive digits exponent cursor) := by
  unfold exponentTail
  dsimp only
  repeat' split
  all_goals first | exact .error _ | exact .ok trivial _ | exact floatOf_gives ..

/-- What is behind a fraction is read into a number, in order. -/
theorem afterFraction_gives (positive : Bool) (digits : Nat) (exponent : Int) (cursor : Cursor) :
    Gives Ordered (afterFraction positive digits exponent cursor) := by
  unfold afterFraction
  split
  next => exact exponentTail_gives ..
  next => exact exponentTail_gives ..
  next => exact floatOf_gives ..

/-- A fraction is read into a number, in order. -/
theorem fractionTail_gives (positive : Bool) (digits : Nat) (exponent : Int) (cursor : Cursor) :
    Gives Ordered (fractionTail positive digits exponent cursor) := by
  unfold fractionTail
  dsimp only
  split
  next => exact afterFraction_gives ..
  next =>
    split
    next => exact .error _
    next => exact afterFraction_gives ..

/-- Integers have no members. -/
theorem integerOf_ordered (positive : Bool) (digits : Nat) :
    (integerOf positive digits).Ordered := by
  unfold integerOf
  split
  next => trivial
  next => split <;> trivial

/-- Numbers have no members. -/
theorem number_gives (positive : Bool) (cursor : Cursor) :
    Gives Ordered (number positive cursor) := by
  unfold number
  dsimp only
  repeat' split
  all_goals
    first
    | exact .error _
    | exact .ok (integerOf_ordered ..) _
    | exact floatOf_gives ..
    | exact exponentTail_gives ..
    | exact fractionTail_gives ..

/-- With this fuel every reader gives ordered documents. -/
structure ReadersGive (fuel : Nat) : Prop where
  value : ∀ depth cursor, Gives Ordered (value fuel depth cursor)
  elements : ∀ depth cursor first reversed,
    Gives Ordered (elements fuel depth cursor first reversed)
  members : ∀ depth cursor first placed, (object placed).Ordered →
    Gives Ordered (members fuel depth cursor first placed)

namespace ReadersGive

variable {fuel : Nat} (readers : ReadersGive fuel) (depth : Nat) (cursor : Cursor)
include readers

/-- With the readers for less fuel, a value is in order. -/
theorem value_next : Gives Ordered (Json.value (fuel + 1) depth cursor) := by
  rw [Json.value]
  dsimp only
  split
  next => exact .error _
  next => exact .bind fun _ _ => .ok trivial _
  next => exact .bind fun _ _ => .ok trivial _
  next => exact .bind fun _ _ => .ok trivial _
  next => exact number_gives ..
  next => exact .bind fun _ _ => .ok trivial _
  next =>
    split
    next => exact .error _
    next => exact readers.elements ..
  next =>
    split
    next => exact .error _
    next => exact readers.members _ _ _ _ ⟨.nil, trivial⟩
  next =>
    split
    next => exact number_gives ..
    next => exact .error _

/-- With the readers for less fuel, elements are in order. -/
theorem elements_next (first : Bool) (reversed : List Json) :
    Gives Ordered (Json.elements (fuel + 1) depth cursor first reversed) := by
  rw [Json.elements]
  dsimp only
  split
  next => exact .error _
  next => exact .ok trivial _
  next =>
    split
    next => exact .bind fun _ _ => readers.elements ..
    next =>
      split
      next =>
        split
        next => exact .error _
        next => exact .error _
        next => exact .bind fun _ _ => readers.elements ..
      next => exact .error _

/-- Members are put in order as they are read. -/
theorem members_next (first : Bool) {placed : List (String × Json)}
    (ordered : (object placed).Ordered) :
    Gives Ordered (Json.members (fuel + 1) depth cursor first placed) := by
  -- The members that were read are the state of this reader; they stay in order with each new one.
  rw [Json.members]
  dsimp only
  split
  next => exact .error _
  next => exact .ok ordered _
  next =>
    split
    next => exact .error _
    next =>
      split
      next => exact .error _
      next =>
        refine .bind fun name _ => ?_
        split
        next => exact .error _
        next =>
          refine .bind fun element isRead => ?_
          have inside := (readers.value _ _).holds element.1 element.2 isRead
          exact readers.members _ _ _ _ (ordered.insert inside)
        next => exact .error _
      next => exact .error _
      next => exact .error _

end ReadersGive

/-- All readers give documents in order, however much fuel they have. -/
theorem readersGive (fuel : Nat) : ReadersGive fuel := by
  induction fuel with
  | zero => exact ⟨fun _ _ => .error _, fun _ _ _ _ => .error _, fun _ _ _ _ _ => .error _⟩
  | succ fuel ih =>
      exact ⟨ih.value_next, ih.elements_next, fun depth cursor first placed ordered =>
        ih.members_next depth cursor first ordered⟩

/-- In every object of a document that is read the members are in the order of their names. -/
theorem read_ordered {text : String} {document : Json} (done : read text = .ok document) :
    document.Ordered := by
  unfold read at done
  dsimp only at done
  cases outcome : value (2 * text.toList.length + 2) depthLimit ⟨text.toList, 0⟩ with
  | error failure =>
      rw [outcome] at done
      cases done
  | ok result =>
      have fits := ((readersGive _).value _ _).holds result.1 result.2 outcome
      rw [outcome] at done
      change (if _ then Except.ok result.1 else _) = _ at done
      split at done
      next => exact Except.ok.inj done ▸ fits
      next => cases done

end Backplane.Json
