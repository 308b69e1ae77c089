import Backplane.Proofs.Json.Reading
import Backplane.Proofs.Translator
import Mathlib.Data.List.Nodup

namespace Backplane

/-- The text of a leaf: a text as it is, anything else in its compact form. -/
def Json.messageText : Json → String
  | .string text => text
  | leaf => leaf.write

namespace Messages

open Catalogue

/-- A leaf with a key has a text. -/
theorem leafText?_of_ne {key : String} (given : key ≠ "") (leaf : Json) :
    leafText? key leaf = some leaf.messageText := by
  cases leaf <;> simp [leafText?, Json.messageText, given]

/-- Without empty names the key of a path is its names with dots between them. -/
theorem pathKey_of_ne {path : List String} (named : ∀ name ∈ path, name ≠ "") :
    pathKey path = ".".intercalate path := by
  cases path with
  | nil => rfl
  | cons name rest =>
      have given := (List.forall_mem_cons.mp named).1
      rw [pathKey, List.dropWhile_cons_of_neg (by simpa using given)]

/-- Such a key is not empty. -/
theorem intercalate_ne_empty {path : List String} (nonempty : path ≠ [])
    (named : ∀ name ∈ path, name ≠ "") : ".".intercalate path ≠ "" := by
  cases path with
  | nil => exact absurd rfl nonempty
  | cons name rest =>
      have given := (List.forall_mem_cons.mp named).1
      cases rest with
      | nil => simpa using given
      | cons next rest => simp [given]

/-- Names without points can be read back from the key that they join to. -/
theorem splitOn_intercalate {path : List String} (nonempty : path ≠ [])
    (plain : ∀ name ∈ path, '.' ∉ name.toList) :
    (".".intercalate path).toList.splitOn '.' = path.map String.toList := by
  rw [String.toList_intercalate]
  exact List.splitOn_intercalate '.' (by simpa using plain) (by simpa using nonempty)

/-- Names without dots are told from their key. -/
theorem intercalate_inj {path other : List String} (nonempty : path ≠ []) (nonempty' : other ≠ [])
    (plain : ∀ name ∈ path, '.' ∉ name.toList) (plain' : ∀ name ∈ other, '.' ∉ name.toList)
    (same : ".".intercalate path = ".".intercalate other) : path = other := by
  have split := splitOn_intercalate nonempty plain
  rw [same, splitOn_intercalate nonempty' plain'] at split
  exact (List.map_injective_iff.mpr (fun _ _ => String.toList_injective) split).symm

section Plain

variable {document : Json} (object : document.isObject = true) (plain : document.PlainNames)
include object plain

/-- What a leaf of a document with plain names becomes. -/
theorem key_of_mem_leaves {path : List String} {leaf : Json}
    (isLeaf : (path, leaf) ∈ document.leaves) :
    entryOf? "" (path, leaf) = some (".".intercalate path, leaf.messageText) := by
  have named : ∀ name ∈ path, name ≠ "" := fun name on =>
    (Json.EachObject.of_mem_leaves plain isLeaf name on).1
  have given := intercalate_ne_empty (document.path_ne_nil object isLeaf) named
  rw [entryOf?, foldl_joinKey_empty, pathKey_of_ne named]
  dsimp only
  rw [leafText?_of_ne given, Option.map_some]

/-- A document with plain names has an entry for every leaf. -/
theorem flatten_eq_map :
    flatten "" document =
      document.leaves.map fun (path, leaf) => (".".intercalate path, leaf.messageText) := by
  rw [flatten_eq, ← List.filterMap_eq_map]
  exact List.filterMap_congr fun leaf isLeaf => key_of_mem_leaves object plain isLeaf

/-- Its keys are distinct. -/
theorem nodup_keys (ordered : document.Ordered) : ((flatten "" document).map Prod.fst).Nodup := by
  have keys : (flatten "" document).map Prod.fst =
      (document.leaves.map Prod.fst).map (".".intercalate ·) := by
    rw [flatten_eq_map object plain, List.map_map, List.map_map]
    rfl
  rw [keys]
  refine List.Nodup.map_on ?_ ((document.leaves_ordered ordered).imp ne_of_lt)
  intro path isPath other isOther same
  obtain ⟨⟨path, leaf⟩, isLeaf, rfl⟩ := List.mem_map.mp isPath
  obtain ⟨⟨other, leaf'⟩, isLeaf', rfl⟩ := List.mem_map.mp isOther
  exact intercalate_inj (document.path_ne_nil object isLeaf) (document.path_ne_nil object isLeaf')
    (fun name on => (Json.EachObject.of_mem_leaves plain isLeaf name on).2)
    (fun name on => (Json.EachObject.of_mem_leaves plain isLeaf' name on).2) same

end Plain

/-- The messages of one document. -/
def ofDocument (document : Json) : Messages := (∅ : Messages).addAll (flatten "" document)

/-- A key finds the last text that the document has under it. -/
theorem getElem?_ofDocument (document : Json) (key : String) :
    (ofDocument document)[key]? = message? document key := by
  rw [ofDocument, getElem?_addAll, lookup_flatten, Std.TreeMap.getElem?_emptyc, Option.or_none]

/-- With distinct keys nothing is lost on the way into the tree. -/
theorem toList_ofDocument {document : Json}
    (distinct : ((flatten "" document).map Prod.fst).Nodup) :
    (ofDocument document).toList.Perm (flatten "" document) := by
  have once : (ofDocument document).toList.Nodup :=
    Std.TreeMap.distinct_keys_toList.imp fun apart same => apart (by simp [same])
  rw [List.perm_ext_iff_of_nodup once (List.Nodup.of_map _ distinct)]
  rintro ⟨key, text⟩
  have reversed : (Entries.names (flatten "" document).reverse).Nodup := by
    rw [Entries.names, List.map_reverse]
    exact List.nodup_reverse.mpr distinct
  rw [Std.TreeMap.mem_toList_iff_getElem?_eq_some, getElem?_ofDocument, ← lookup_flatten,
    ← List.mem_reverse]
  exact Entries.get?_eq_some_iff reversed

/-- The message of a key in a document is that of the last leaf whose path joins to the key.
Documents are read with the members of each object in order; then the leaves, in the order of their
paths, are all that is found in the document and is no object. If in an object no name is empty or
has a point in it, each leaf becomes one message, under its own path and with its own text, and
there are no other messages. -/
theorem flatten_lossless :
    (∀ (document : Json) (key : String), (ofDocument document)[key]? = message? document key) ∧
      (∀ text document, Json.read text = .ok document → document.Ordered) ∧
        ∀ document : Json, document.Ordered →
          ((document.leaves.map Prod.fst).Pairwise (· < ·) ∧
            ∀ path leaf, (path, leaf) ∈ document.leaves ↔
              document.at? path = some leaf ∧ leaf.isObject = false) ∧
            (document.isObject = true → document.PlainNames →
              flatten "" document = document.leaves.map
                  (fun (path, leaf) => (".".intercalate path, leaf.messageText)) ∧
                ((flatten "" document).map Prod.fst).Nodup ∧
                  (ofDocument document).toList.Perm (flatten "" document)) := by
  refine ⟨getElem?_ofDocument, fun _ _ => Json.read_ordered, fun document ordered => ?_⟩
  refine ⟨⟨document.leaves_ordered ordered, Json.mem_leaves_iff ordered⟩, fun object plain => ?_⟩
  have distinct := nodup_keys object plain ordered
  exact ⟨flatten_eq_map object plain, distinct, toList_ofDocument distinct⟩

/-- A document with leaves at several depths and an object without any. -/
def nested : Json :=
  .object [("errors", .object [("code", .integer 404), ("none", .object []),
    ("not_found", .string "missing")]), ("list", .array [.null]), ("ok", .boolean true)]

def nestedText : String :=
  "\x7b\"ok\": true, \"errors\": \x7b\"none\": \x7b\x7d, \"not_found\": \"missing\", " ++
    "\"code\": 404\x7d, " ++
    "\"list\": [null]\x7d"

/-- Nested members, and leaves that are no texts. -/
theorem flatten_lossless_nested :
    Json.read nestedText = .ok nested ∧ nested.isObject = true ∧ nested.PlainNames ∧
      (ofDocument nested).toList.Perm
        [("errors.code", "404"), ("errors.not_found", "missing"), ("list", "[null]"),
          ("ok", "true")] := by
  obtain ⟨-, isOrdered, each⟩ := flatten_lossless
  have isRead : Json.read nestedText = .ok nested := by rfl
  have plain : nested.PlainNames := by
    simp [nested, Json.PlainNames, Json.EachObject, Json.EachMember, Entries.names]
  obtain ⟨-, -, permuted⟩ := (each nested (isOrdered nestedText nested isRead)).2 rfl plain
  exact ⟨isRead, rfl, plain, permuted⟩

end Messages

end Backplane
