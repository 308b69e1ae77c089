/-
This file reads bytes as UTF-8.
-/

namespace Backplane.Text

/-- The text of well-formed bytes. -/
def ofUtf8? (bytes : ByteArray) : Option String :=
  String.fromUTF8? bytes

/-- Whether a byte continues a character that began with `lead`, at the given place after it. -/
def continues (lead : Nat) (place : Nat) (byte : Nat) : Bool :=
  if place = 1 then
    if lead = 0xE0 then 0xA0 ≤ byte && byte ≤ 0xBF
    else if lead = 0xED then 0x80 ≤ byte && byte ≤ 0x9F
    else if lead = 0xF0 then 0x90 ≤ byte && byte ≤ 0xBF
    else if lead = 0xF4 then 0x80 ≤ byte && byte ≤ 0x8F
    else 0x80 ≤ byte && byte ≤ 0xBF
  else 0x80 ≤ byte && byte ≤ 0xBF

/-- How many bytes follow a leading byte, if it is one. -/
def followers? (lead : Nat) : Option Nat :=
  if lead < 0x80 then some 0
  else if 0xC2 ≤ lead && lead ≤ 0xDF then some 1
  else if 0xE0 ≤ lead && lead ≤ 0xEF then some 2
  else if 0xF0 ≤ lead && lead ≤ 0xF4 then some 3
  else none

/-- The longest run of following bytes that fit a leading byte. -/
def takeFollowers (lead count place : Nat) : List Nat → List Nat
  | [] => []
  | byte :: rest =>
      if place ≤ count && continues lead place byte then
        byte :: takeFollowers lead count (place + 1) rest
      else []

/-- The code point of a leading byte and all its followers. -/
def codePoint (lead : Nat) (following : List Nat) : Nat :=
  let head :=
    match following.length with
    | 0 => lead
    | 1 => lead % 0x20
    | 2 => lead % 0x10
    | _ => lead % 0x08
  following.foldl (fun value byte => value * 0x40 + byte % 0x40) head

def lossyCharacters : (fuel : Nat) → List Nat → List Char
  | 0, _ => []
  | _, [] => []
  | fuel + 1, lead :: rest =>
      match followers? lead with
      | none => Char.ofNat 0xFFFD :: lossyCharacters fuel rest
      | some count =>
          let following := takeFollowers lead count 1 rest
          let next := lossyCharacters fuel (rest.drop following.length)
          if following.length = count then Char.ofNat (codePoint lead following) :: next
          else Char.ofNat 0xFFFD :: next

/-- Reads any bytes; each maximal ill-formed run becomes one replacement character. -/
def ofUtf8Lossy (bytes : ByteArray) : String :=
  match ofUtf8? bytes with
  | some text => text
  | none =>
      let values := bytes.toList.map UInt8.toNat
      String.ofList (lossyCharacters values.length values)

end Backplane.Text
