/-
This file defines the replies of a server and reads texts, numbers and lists from them.
-/

import Backplane.Bits
import Backplane.Decimal.Read
import Backplane.Entries
import Backplane.Redis.Error

namespace Backplane.Redis

/-- A reply; a simple text comes without its length and a bulk text with it. -/
inductive Reply
  | nothing
  | integer (value : Int)
  | simple (text : String)
  | bulk (text : String)
  | failure (text : String)
  | array (elements : List Reply)
deriving Inhabited

/-- The classes of failures by the first word of what the server says. -/
def errorKinds : List (String × Kind) :=
  [("ERR", .serverResponse), ("EXECABORT", .serverOther "ExecAbortError"),
    ("LOADING", .serverOther "BusyLoadingError"), ("NOSCRIPT", .serverNoScript),
    ("MOVED", .serverMoved), ("ASK", .serverOther "Ask"), ("TRYAGAIN", .serverOther "TryAgain"),
    ("CLUSTERDOWN", .serverOther "ClusterDown"), ("CROSSSLOT", .serverOther "CrossSlot"),
    ("MASTERDOWN", .serverOther "MasterDown"), ("READONLY", .serverReadOnly),
    ("NOTBUSY", .serverOther "NotBusy"), ("NOSUB", .serverOther "NoSub"),
    ("NOPERM", .serverOther "NoPerm")]

namespace Reply

/-- The failure that the server reports with a text. -/
def refusal (text : String) : Error :=
  let word := text.toList.takeWhile (· ≠ ' ')
  let code := String.ofList word
  ⟨(errorKinds.lookup code).getD .extension, some code,
    String.ofList (text.toList.drop (word.length + 1))⟩

/-- The failure of a reply that is not of the expected form. -/
def unexpected : Error := ⟨.unparsable, none, "Response was of incompatible type"⟩

/-- Passes a reply on unless the server reports a failure. -/
def accept : Reply → Except Error Reply
  | .failure text => .error (refusal text)
  | reply => .ok reply

def toUnit (reply : Reply) : Except Error Unit := do
  let _ ← reply.accept

def toText : Reply → Except Error String
  | .simple text => .ok text
  | .bulk text => .ok text
  | .integer value => .ok (toString value)
  | .failure text => .error (refusal text)
  | _ => .error unexpected

/-- The number of a text within bounds. -/
def numberText (least most : Int) (text : String) : Except Error Int :=
  match Decimal.signed? least most text.toList with
  | some value => .ok value
  | none => .error unexpected

/-- An integer; one that stands as a number is wrapped to 64 bits with a sign. -/
def toInt : Reply → Except Error Int
  | .integer value => .ok value
  | .simple text => numberText (Bits.leastSigned 64) (Bits.mostSigned 64) text
  | .bulk text => numberText (Bits.leastSigned 64) (Bits.mostSigned 64) text
  | .failure text => .error (refusal text)
  | _ => .error unexpected

/-- A count; a negative number is wrapped to 64 bits without a sign. -/
def toCount : Reply → Except Error Nat
  | .integer value => .ok (value % Bits.size 64).toNat
  | .simple text => Int.toNat <$> numberText 0 (Bits.most 64) text
  | .bulk text => Int.toNat <$> numberText 0 (Bits.most 64) text
  | .failure text => .error (refusal text)
  | _ => .error unexpected

def toBool : Reply → Except Error Bool
  | .nothing => .ok false
  | .integer value => .ok (value ≠ 0)
  | .simple text => if text = "OK" ∨ text = "1" then .ok true
      else if text = "0" then .ok false else .error unexpected
  | .bulk text => if text = "1" then .ok true
      else if text = "0" then .ok false else .error unexpected
  | .failure text => .error (refusal text)
  | _ => .error unexpected

def toFloat : Reply → Except Error Float
  | .integer value => .ok (Float.ofInt value)
  | .simple text => (Decimal.float? text).elim (.error unexpected) .ok
  | .bulk text => (Decimal.float? text).elim (.error unexpected) .ok
  | .failure text => .error (refusal text)
  | _ => .error unexpected

/-- A value that may be absent. -/
def toOption (convert : Reply → Except Error α) : Reply → Except Error (Option α)
  | .nothing => .ok none
  | reply => some <$> convert reply

/-- The elements of a list; nothing is an empty list and a bulk text a list of one. -/
def toList (convert : Reply → Except Error α) : Reply → Except Error (List α)
  | .nothing => .ok []
  | .array elements => elements.mapM convert
  | .bulk text => do return [← convert (.bulk text)]
  | .failure text => .error (refusal text)
  | _ => .error unexpected

/-- Pairs that follow each other in a flat list. -/
def pairs {α β : Type} (first : Reply → Except Error α) (second : Reply → Except Error β) :
    List Reply → Except Error (List (α × β))
  | [] => .ok []
  | .array [left, right] :: rest => do
      return (← first left, ← second right) :: (← pairs first second rest)
  | left :: right :: rest => do
      return (← first left, ← second right) :: (← pairs first second rest)
  | [_] => .error unexpected

/-- A list of pairs. -/
def toPairs {α β : Type} (first : Reply → Except Error α) (second : Reply → Except Error β) :
    Reply → Except Error (List (α × β))
  | .nothing => .ok []
  | .array elements => pairs first second elements
  | .failure text => .error (refusal text)
  | _ => .error unexpected

end Reply

end Backplane.Redis
