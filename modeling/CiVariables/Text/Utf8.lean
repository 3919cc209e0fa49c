import CiVariables.Text.Blank
import CiVariables.Text.Quoted

/-!
# UTF-8

`Utf8.decode` reads bytes as text. Where they stop being the encoding of a text, the error tells
which bytes were looked at and why they are refused.
-/

namespace CiVariables

/-- Where bytes stop being the UTF-8 encoding of a text. -/
structure DecodeError where
  /-- The bytes that were looked at, at least one. -/
  bytes : List UInt8
  position : Nat
  reason : String
  deriving DecidableEq, Inhabited

namespace DecodeError

def message (e : DecodeError) : String :=
  let place :=
    match e.bytes with
    | [b] =>
      "byte 0x" ++ String.ofList (CiVariables.Text.hex 2 b.toNat) ++ " in position " ++
        toString e.position
    | bs =>
      "bytes in position " ++ toString e.position ++ "-" ++
        toString (e.position + bs.length - 1)
  "'utf-8' codec can't decode " ++ place ++ ": " ++ e.reason

end DecodeError

namespace Utf8

/-- How many bytes follow a start byte, and the bounds of the first of them; none for a byte that
starts no character. -/
def shape? (b : UInt8) : Option (Nat × UInt8 × UInt8) :=
  if b < 0xC2 then none
  else if b < 0xE0 then some (1, 0x80, 0xBF)
  else if b = 0xE0 then some (2, 0xA0, 0xBF)
  else if b = 0xED then some (2, 0x80, 0x9F)
  else if b < 0xF0 then some (2, 0x80, 0xBF)
  else if b = 0xF0 then some (3, 0x90, 0xBF)
  else if b < 0xF4 then some (3, 0x80, 0xBF)
  else if b = 0xF4 then some (3, 0x80, 0x8F)
  else none

/-- The payload of a start byte with a count of bytes after it. -/
def startBits (count : Nat) (b : UInt8) : Nat :=
  if count = 1 then b.toNat % 32 else if count = 2 then b.toNat % 16 else b.toNat % 8

/-- The bytes after a start byte: their payload, or the ones that were still fine and why the next
is not. -/
def tail : Nat → UInt8 → UInt8 → Nat → List UInt8 → List UInt8 →
    Except (List UInt8 × String) (Nat × List UInt8)
  | 0, _, _, acc, _, rest => .ok (acc, rest)
  | _ + 1, _, _, _, seen, [] => .error (seen, "unexpected end of data")
  | count + 1, lo, hi, acc, seen, b :: rest =>
    if lo ≤ b && b ≤ hi then
      tail count 0x80 0xBF (acc * 64 + b.toNat % 64) (seen ++ [b]) rest
    else .error (seen, "invalid continuation byte")

def decodeChar (b : UInt8) (rest : List UInt8) :
    Except (List UInt8 × String) (Char × List UInt8) :=
  if b < 0x80 then .ok (Char.ofNat b.toNat, rest)
  else
    match shape? b with
    | none => .error ([b], "invalid start byte")
    | some (count, lo, hi) =>
      match tail count lo hi (startBits count b) [b] rest with
      | .error e => .error e
      | .ok (n, rest) => .ok (Char.ofNat n, rest)

/-- Decodes character after character, each as far on as it has bytes; the fuel bounds the number of
characters. -/
def decodeFrom : Nat → Nat → List UInt8 → List Char → Except DecodeError (List Char)
  | 0, _, _, acc => .ok acc.reverse
  | _, _, [], acc => .ok acc.reverse
  | fuel + 1, position, b :: rest, acc =>
    match decodeChar b rest with
    | .ok (c, left) => decodeFrom fuel (position + c.utf8Size) left (c :: acc)
    | .error (bytes, reason) => .error ⟨bytes, position, reason⟩

/-- The characters that bytes encode, or where and why they encode none. -/
def decode (bytes : List UInt8) : Except DecodeError (List Char) :=
  decodeFrom bytes.length 0 bytes []

/-- The bytes without a byte order mark in front, which may have been cut short. -/
def dropMark : List UInt8 → List UInt8
  | 0xEF :: 0xBB :: 0xBF :: rest => rest
  | [0xEF, 0xBB] | [0xEF] => []
  | bytes => bytes

/-- Every sort of line end as a line feed. -/
def unifyNewlines : List Char → List Char
  | [] => []
  | '\r' :: '\n' :: rest => '\n' :: unifyNewlines rest
  | '\r' :: rest => '\n' :: unifyNewlines rest
  | c :: rest => c :: unifyNewlines rest

end Utf8

end CiVariables
