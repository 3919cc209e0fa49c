import CiVariables.Text.Utf8

/-!
# The characters of a YAML stream

A stream is UTF-8, or UTF-16 if it starts with that byte order mark. It may hold only printable
characters, tabs and line ends. One byte order mark in front is no part of the text.
-/

namespace CiVariables.Yaml

open CiVariables

/-- The character may stand in a stream. -/
def isPrintable (c : Char) : Bool :=
  let n := c.toNat
  n == 9 || n == 10 || n == 13 || (0x20 ≤ n && n ≤ 0x7E) || n == 0x85 ||
    (0xA0 ≤ n && n ≤ 0xD7FF) || (0xE000 ≤ n && n ≤ 0xFFFD) || 0x10000 ≤ n

/-- The units of a UTF-16 text. -/
def units16? (littleEndian : Bool) : List UInt8 → Option (List Nat)
  | [] => some []
  | [_] => none
  | a :: b :: rest =>
    (units16? littleEndian rest).map fun us =>
      (if littleEndian then b.toNat * 256 + a.toNat else a.toNat * 256 + b.toNat) :: us

/-- The text of UTF-16 units. -/
def chars16? : List Nat → Option (List Char)
  | [] => some []
  | u :: rest =>
    if 0xD800 ≤ u ∧ u < 0xDC00 then
      match rest with
      | v :: rest =>
        if 0xDC00 ≤ v ∧ v < 0xE000 then
          (chars16? rest).map (Char.ofNat (0x10000 + (u - 0xD800) * 1024 + (v - 0xDC00)) :: ·)
        else none
      | [] => none
    else if 0xDC00 ≤ u ∧ u < 0xE000 then none
    else (chars16? rest).map (Char.ofNat u :: ·)

/-- The text of a stream, whatever its encoding. -/
def decodeStream? : List UInt8 → Option (List Char)
  | bytes@(0xFF :: 0xFE :: _) => (units16? true bytes).bind chars16?
  | bytes@(0xFE :: 0xFF :: _) => (units16? false bytes).bind chars16?
  | bytes => (Utf8.decode bytes).toOption

/-- The characters of a stream without a byte order mark, if all of them may stand there. -/
def sourceChars? (bytes : List UInt8) : Option (List Char) :=
  match decodeStream? bytes with
  | none => none
  | some cs =>
    if cs.all isPrintable then
      match cs with
      | '\uFEFF' :: rest => some rest
      | cs => some cs
    else none

end CiVariables.Yaml
