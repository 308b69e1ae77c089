/-
This file defines JSON documents. The members of an object are kept in the order of their names.
-/

import Backplane.Entries

namespace Backplane

/-- A JSON document; numbers without a fraction or an exponent are integers. -/
inductive Json
  | null
  | boolean (value : Bool)
  | integer (value : Int)
  | float (value : Float)
  | string (text : String)
  | array (elements : List Json)
  | object (members : List (String × Json))
deriving Inhabited

namespace Json

/-- The object with the given members; the last of several with one name counts. -/
def ofMembers (members : List (String × Json)) : Json :=
  .object (Entries.ofList members)

/-- The member of the given name, if the document is an object that has it. -/
def member? (name : String) : Json → Option Json
  | .object members => Entries.get? name members
  | _ => none

end Json

end Backplane
