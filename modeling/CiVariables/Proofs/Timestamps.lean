import CiVariables.Timestamp
import CiVariables.Proofs.JsonText

/-!
# Points in time are read back

A point in universal time is read back from its written form (`Timestamp.readFull?_toText`).
-/

namespace CiVariables

-- A power is the one of the core library, whatever else is imported.
attribute [local instance (2000)] instPowNat

namespace Timestamp

/-- A point in universal time, in a year from 1 to 9999. -/
structure IsUniversal (t : Timestamp) : Prop where
  year : 1 ≤ t.year ∧ t.year ≤ 9999
  date : isDate t.year t.month t.day = true
  hour : t.hour < 24
  minute : t.minute < 60
  second : t.second < 60
  microsecond : t.microsecond < 1000000
  offset : t.offset = some 0

/-! ## Numbers of a fixed width -/

theorem isDigit_of_mem_padded {width n : Nat} {c : Char} (h : c ∈ padded width n) :
    c.isDigit = true := by
  rcases List.mem_append.1 h with h | h
  · rw [(List.mem_replicate.1 h).2]
    rfl
  · exact Nat.isDigit_of_mem_toDigits (by decide) (by decide) h

theorem length_padded {width n : Nat} (hwidth : 0 < width) (hn : n < 10 ^ width) :
    (padded width n).length = width := by
  have hlength := (Nat.length_toDigits_le_iff (by decide) hwidth).2 hn
  simp only [padded, List.length_append, List.length_replicate]
  omega

theorem digitsValue_padded (width n : Nat) : Json.digitsValue (padded width n) = n := by
  have hzeros (k : Nat) : Json.digitsValue (List.replicate k '0') = 0 := by
    induction k with
    | zero => rfl
    | succ k ih => exact ih
  have hdigits := Json.digitsValue_toDigits n
  unfold Json.digitsValue at hzeros hdigits ⊢
  rw [padded, List.foldl_append, hzeros, hdigits]

/-- Digits that fill a field are read back from it. -/
theorem takeDigits?_padded {width n : Nat} (hwidth : 0 < width) (hn : n < 10 ^ width)
    (rest : List Char) : takeDigits? width (padded width n ++ rest) = some (n, rest) := by
  have hlength := length_padded hwidth hn
  have htake : (padded width n ++ rest).take width = padded width n :=
    List.take_left' hlength
  have hdrop : (padded width n ++ rest).drop width = rest := List.drop_left' hlength
  have hdigits : (padded width n).all Char.isDigit = true :=
    List.all_eq_true.2 fun c hc => isDigit_of_mem_padded hc
  unfold takeDigits?
  simp only [htake, hdrop]
  rw [if_pos ⟨hlength, hdigits⟩]
  exact congrArg (fun k => some (k, rest)) (digitsValue_padded width n)

theorem microseconds_padded {n : Nat} (h : n < 1000000) : microseconds (padded 6 n) = n := by
  have hlength : (padded 6 n).length = 6 := length_padded (by decide) h
  have htake : (padded 6 n).take 6 = padded 6 n := List.take_of_length_le (by omega)
  have hvalue := digitsValue_padded 6 n
  unfold Json.digitsValue at hvalue
  unfold microseconds
  simp only [htake, hlength, hvalue]
  exact Nat.mul_one n

/-! ## Date and time -/

variable {t : Timestamp}

theorem month_day_lt {year month day : Nat} (h : isDate year month day = true) :
    month < 100 ∧ day < 100 := by
  simp only [isDate, Bool.and_eq_true, decide_eq_true_eq] at h
  have hdays : daysIn year month ≤ 31 := by
    unfold daysIn
    repeat' split
    all_goals omega
  omega

/-- A date is read back. -/
theorem readDate?_padded {year month day : Nat} (hyear : year ≤ 9999)
    (h : isDate year month day = true) (rest : List Char) :
    readDate? (padded 4 year ++ '-' :: (padded 2 month ++ '-' :: (padded 2 day ++ rest))) =
      some ((year, month, day), rest) := by
  obtain ⟨hmonth, hday⟩ := month_day_lt h
  unfold readDate?
  rw [takeDigits?_padded (by decide) (by omega)]
  simp only
  rw [takeDigits?_padded (by decide) hmonth]
  simp only
  rw [takeDigits?_padded (by decide) hday]
  simp only [h, if_true]

/-- The seconds, with the fraction that is left out when it is zero. -/
theorem readSeconds?_padded {second micro : Nat} (hsecond : second < 60)
    (hmicro : micro < 1000000) :
    readSeconds? (padded 2 second ++ ((if micro = 0 then [] else '.' :: padded 6 micro) ++ ['Z'])) =
      some ((second, micro), ['Z']) := by
  unfold readSeconds?
  rw [takeDigits?_padded (by decide) (by omega)]
  simp only [ge_iff_le, Nat.not_le.2 hsecond, if_false]
  by_cases hzero : micro = 0
  · rw [if_pos hzero, hzero]
    rfl
  · have hdigits : ∀ c ∈ padded 6 micro, c.isDigit = true := fun c => isDigit_of_mem_padded
    have htake : (padded 6 micro ++ ['Z']).takeWhile Char.isDigit = padded 6 micro := by
      rw [List.takeWhile_append_of_pos hdigits]
      simp [List.takeWhile]
    have hdrop : (padded 6 micro ++ ['Z']).dropWhile Char.isDigit = ['Z'] := by
      rw [List.dropWhile_append_of_pos hdigits]
      simp [List.dropWhile]
    have hsome : padded 6 micro ≠ [] := by
      rw [← List.length_pos_iff, length_padded (by decide) hmicro]
      decide
    rw [if_neg hzero, List.cons_append]
    simp only [htake, hdrop, microseconds_padded hmicro]

/-- The text of a point in time, field by field. -/
theorem toList_toText (h : t.IsUniversal) : t.toText.toList =
    padded 4 t.year ++ '-' :: (padded 2 t.month ++ '-' :: (padded 2 t.day ++
      'T' :: (padded 2 t.hour ++ ':' :: (padded 2 t.minute ++ ':' :: (padded 2 t.second ++
        ((if t.microsecond = 0 then [] else '.' :: padded 6 t.microsecond) ++ ['Z'])))))) := by
  simp [toText, h.offset, offsetText]

/-- The written form of a point in universal time is read as it. -/
theorem readFull?_toText (h : t.IsUniversal) : readFull? t.toText.toList = some t := by
  have hhour : t.hour < 10 ^ 2 := Nat.lt_trans h.hour (by decide)
  have hminute : t.minute < 10 ^ 2 := Nat.lt_trans h.minute (by decide)
  have htime : ¬(t.hour ≥ 24 ∨ t.minute ≥ 60) := by
    have := h.hour
    have := h.minute
    omega
  rw [toList_toText h]
  unfold readFull?
  rw [readDate?_padded h.year.2 h.date]
  simp only [Option.bind_eq_bind, Option.bind_some]
  rw [takeDigits?_padded (by decide) hhour]
  simp only [Option.bind_some]
  rw [takeDigits?_padded (by decide) hminute]
  simp only [Option.bind_some, if_neg htime]
  rw [readSeconds?_padded h.second h.microsecond]
  simp only [Option.bind_some]
  rw [show readOffset? ['Z'] = some (some 0) from rfl, ← h.offset]
  rfl

theorem isHalf_of_isDigit {c : Char} (h : c.isDigit = true) : Text.isHalf c = false := by
  have hdigit : c.toNat ≤ 57 := by
    simp only [Char.isDigit, Bool.and_eq_true, decide_eq_true_eq] at h
    exact h.2
  have hplane : ¬Text.halfShift ≤ c.toNat := by
    unfold Text.halfShift
    omega
  rw [Text.isHalf, decide_eq_false hplane, Bool.false_and]

theorem hasHalf_toText (h : t.IsUniversal) : Text.hasHalf t.toText = false := by
  have hpadded (width n : Nat) : (padded width n).any Text.isHalf = false :=
    List.any_eq_false.2 fun c hc => by simp [isHalf_of_isDigit (isDigit_of_mem_padded hc)]
  have hdash : Text.isHalf '-' = false := rfl
  have hletter : Text.isHalf 'T' = false := rfl
  have hcolon : Text.isHalf ':' = false := rfl
  have hpoint : Text.isHalf '.' = false := rfl
  have hzone : Text.isHalf 'Z' = false := rfl
  have hfraction : (if t.microsecond = 0 then [] else '.' :: padded 6 t.microsecond).any
      Text.isHalf = false := by
    split
    · rfl
    · rw [List.any_cons, hpoint, hpadded, Bool.false_or]
  rw [Text.hasHalf, toList_toText h]
  simp only [List.any_append, List.any_cons, List.any_nil, hpadded, hfraction, hdash, hletter,
    hcolon, hzone, Bool.or_false]

end Timestamp

end CiVariables
