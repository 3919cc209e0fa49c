/-!
# Halves of surrogate pairs

An escape may name a code point that is only one half of a pair and no character. A text holds such
a half as a character of the last plane, at the same place among its code points; `codeOf` gives
the half back, and `charOf` and `codeOf` are inverse on halves. Where a text has to be encoded, a
half cannot be: it is refused, or each of the three bytes that it would take is replaced.
-/

namespace CiVariables.Text

/-- How far a half is moved. -/
def halfShift : Nat := 0x100000

/-- The code point is one half of a pair. -/
def isHalfCode (n : Nat) : Bool := 0xD800 ≤ n && n < 0xE000

/-- The character that stands for a code point. Half of a surrogate pair is none, so one of the
private characters of the last plane stands for it. -/
def charOf (n : Nat) : Char := Char.ofNat (if isHalfCode n then n + halfShift else n)

/-- The character stands for half of a surrogate pair. -/
def isHalf (c : Char) : Bool := halfShift ≤ c.toNat && isHalfCode (c.toNat - halfShift)

def codeOf (c : Char) : Nat := if isHalf c then c.toNat - halfShift else c.toNat

/-- The text holds a half, and so cannot be encoded. -/
def hasHalf (s : String) : Bool := s.toList.any isHalf

/-- The code point of the first half in a text, and the positions from which to which halves stand
together there. -/
def firstHalves? (s : String) : Option (Nat × Nat × Nat) :=
  let before := s.toList.takeWhile fun c => !isHalf c
  let halves := (s.toList.drop before.length).takeWhile isHalf
  halves.head?.map fun c => (codeOf c, before.length, before.length + halves.length - 1)

/-- A text whose halves are each replaced by three replacement characters, one for every byte of its
encoding. -/
def replaceHalves (s : String) : String :=
  String.ofList (s.toList.flatMap fun c =>
    if isHalf c then ['\uFFFD', '\uFFFD', '\uFFFD'] else [c])

theorem codeOf_charOf {n : Nat} (h : isHalfCode n = true) : codeOf (charOf n) = n := by
  have hn : 0xD800 ≤ n ∧ n < 0xE000 := by simpa [isHalfCode] using h
  have hv : (n + halfShift).isValidChar := by
    right
    unfold halfShift
    omega
  have ht : (Char.ofNat (n + halfShift)).toNat = n + halfShift := by
    rw [Char.ofNat, dif_pos hv]
    rfl
  simp [codeOf, charOf, isHalf, h, ht]

end CiVariables.Text
