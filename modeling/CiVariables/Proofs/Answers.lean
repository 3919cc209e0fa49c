import Mathlib.Data.List.TakeWhile
import CiVariables.Cli.Prompt

/-!
# Which lines mean yes

A line answers a question if it is one of a few words, apart from space around it and from letter
case (`Prompt.Says`). The question is answered by the first line that answers at all, and the answer
is yes exactly if that line says so (`Prompt.ask_eq_yes_iff`), whatever the question is.
-/

namespace CiVariables

/-! ## Trimming -/

namespace Text

/-- Trimming cuts characters that pass the test off both ends. -/
theorem exists_trimBoth (p : Char → Bool) (cs : List Char) :
    ∃ front back, cs = front ++ trimBoth p cs ++ back ∧ ∀ c ∈ front ++ back, p c = true := by
  let rest := cs.dropWhile p
  refine ⟨cs.takeWhile p, (rest.reverse.takeWhile p).reverse, ?_, List.forall_mem_append.2
    ⟨fun c hc => List.mem_takeWhile_imp hc,
      fun c hc => List.mem_takeWhile_imp (List.mem_reverse.1 hc)⟩⟩
  have hrest : rest = trimBoth p cs ++ (rest.reverse.takeWhile p).reverse := by
    have h := congrArg List.reverse (List.takeWhile_append_dropWhile (p := p) (l := rest.reverse))
    rw [List.reverse_append, List.reverse_reverse] at h
    exact h.symm
  rw [List.append_assoc, ← hrest]
  exact List.takeWhile_append_dropWhile.symm

variable {p : Char → Bool} {front middle back : List Char}

/-- Characters that pass the test are dropped behind those that fail it. -/
theorem dropRightWhile_append (hmiddle : ∀ c ∈ middle, p c = false)
    (hback : ∀ c ∈ back, p c = true) : dropRightWhile p (middle ++ back) = middle := by
  have hself : middle.reverse.dropWhile p = middle.reverse :=
    List.dropWhile_eq_self_iff.2 fun hlength => by
      simpa using hmiddle _ (List.mem_reverse.1 (List.getElem_mem hlength))
  unfold dropRightWhile
  rw [List.reverse_append,
    List.dropWhile_append_of_pos fun c hc => hback c (List.mem_reverse.1 hc), hself,
    List.reverse_reverse]

/-- What no character of passes the test is left by trimming, and nothing else. -/
theorem trimBoth_append (hends : ∀ c ∈ front ++ back, p c = true)
    (hmiddle : ∀ c ∈ middle, p c = false) : trimBoth p (front ++ middle ++ back) = middle := by
  obtain ⟨hfront, hback⟩ := List.forall_mem_append.1 hends
  unfold trimBoth
  rw [List.append_assoc, List.dropWhile_append_of_pos hfront]
  cases middle with
  | nil =>
    rw [List.nil_append, List.dropWhile_eq_nil_iff.2 hback]
    rfl
  | cons c rest =>
    rw [List.cons_append, List.dropWhile_cons_of_neg (by simp [hmiddle c List.mem_cons_self]),
      ← List.cons_append]
    exact dropRightWhile_append hmiddle hback

/-- Space has no letter case. -/
theorem lowerChar_of_isSpacing {c : Char} (h : isSpacing c = true) : lowerChar c = c := by
  have hrange : ¬(65 ≤ c.toNat ∧ c.toNat ≤ 90) ∧ c.toNat ≠ 0x212A := by
    unfold isSpacing isBlank at h
    simp only [Bool.or_eq_true, Bool.and_eq_true, decide_eq_true_eq, beq_iff_eq] at h
    omega
  unfold lowerChar Char.toLower
  rw [if_neg hrange.2]
  exact dif_neg hrange.1

end Text

/-! ## Lines -/

namespace Cli.Prompt

open CiVariables.Text (isSpacing lowerChar)

/-- The line is this word, apart from space around it and from letter case. -/
def Says (line word : String) : Prop :=
  ∃ front middle back, line.toList = front ++ middle ++ back ∧
    (∀ c ∈ front ++ back, isSpacing c = true) ∧ middle.map lowerChar = word.toList

/-- The line says yes. -/
def Agrees (line : String) : Prop := Says line "y" ∨ Says line "yes"

/-- The line says no, or nothing. -/
def Declines (line : String) : Prop := Says line "n" ∨ Says line "no" ∨ Says line ""

/-- The first of the lines that says yes or no says yes. -/
def Approves (lines : List String) : Prop :=
  ∃ before line after, lines = before ++ line :: after ∧
    (∀ other ∈ before, ¬Agrees other ∧ ¬Declines other) ∧ Agrees line

/-- A line says a word without space if it is the word once it is trimmed and in lower case. -/
theorem says_iff {line word : String} (hword : word.toList.any isSpacing = false) :
    Says line word ↔ CiVariables.Text.lower
      (String.ofList (CiVariables.Text.trimBoth isSpacing line.toList)) = word := by
  have hlower (cs : List Char) :
      CiVariables.Text.lower (String.ofList cs) = word ↔ cs.map lowerChar = word.toList := by
    unfold CiVariables.Text.lower
    rw [String.toList_ofList, ← String.toList_inj, String.toList_ofList]
  rw [hlower]
  constructor
  · rintro ⟨front, middle, back, hline, hends, hmiddle⟩
    have hplain : ∀ c ∈ middle, isSpacing c = false := by
      intro c hc
      refine Bool.eq_false_iff.2 fun hspace => List.any_eq_false.1 hword c ?_ hspace
      rw [← hmiddle, ← CiVariables.Text.lowerChar_of_isSpacing hspace]
      exact List.mem_map_of_mem hc
    rw [hline, CiVariables.Text.trimBoth_append hends hplain, hmiddle]
  · intro h
    obtain ⟨front, back, hline, hends⟩ :=
      CiVariables.Text.exists_trimBoth isSpacing line.toList
    exact ⟨front, _, back, hline, hends, h⟩

/-- A line is read as yes exactly if it agrees. -/
theorem answer?_eq_yes_iff {line : String} : answer? line = some .yes ↔ Agrees line := by
  unfold answer? Agrees
  rw [says_iff (by decide), says_iff (by decide)]
  simp only
  split <;> simp_all

/-- A line that neither agrees nor declines is asked for again. -/
theorem answer?_eq_none_iff {line : String} :
    answer? line = none ↔ ¬Agrees line ∧ ¬Declines line := by
  unfold answer? Agrees Declines
  rw [says_iff (by decide), says_iff (by decide), says_iff (by decide), says_iff (by decide),
    says_iff (by decide)]
  simp only
  split <;> simp_all

/-- The first line that is a reply decides. -/
theorem approves_cons_iff {line : String} {rest : List String} :
    Approves (line :: rest) ↔ Agrees line ∨ (¬Agrees line ∧ ¬Declines line) ∧ Approves rest := by
  constructor
  · rintro ⟨before, first, after, hsplit, hbefore, hfirst⟩
    cases before with
    | nil =>
      cases hsplit
      exact .inl hfirst
    | cons other before =>
      cases hsplit
      obtain ⟨hother, hbefore⟩ := List.forall_mem_cons.1 hbefore
      exact .inr ⟨hother, before, first, after, rfl, hbefore, hfirst⟩
  · rintro (hline | ⟨hline, before, first, after, rfl, hbefore, hfirst⟩)
    · exact ⟨[], line, rest, rfl, nofun, hline⟩
    · exact ⟨line :: before, first, after, rfl, List.forall_mem_cons.2 ⟨hline, hbefore⟩, hfirst⟩

/-- The question is answered with yes exactly if the first line that answers says so. -/
theorem ask_eq_yes_iff (question : String) (lines : List String) :
    (ask question lines).2.1 = .yes ↔ Approves lines := by
  induction lines with
  | nil =>
    exact iff_of_false nofun fun ⟨before, _, _, hsplit, _⟩ => by cases before <;> cases hsplit
  | cons line rest ih =>
    rw [approves_cons_iff, ← answer?_eq_none_iff, ← answer?_eq_yes_iff]
    unfold ask
    cases hanswer : answer? line with
    | some reply => simp
    | none => simpa using ih

end Cli.Prompt

end CiVariables
