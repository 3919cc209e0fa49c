import CiVariables.Proofs.JsonText
import CiVariables.Proofs.Progress
import CiVariables.Proofs.Showing
import CiVariables.Report.Failure

/-!
# Counts and how they are told

The counts of a plan add up to its changes (`Tally.sum_ofChanges`) and, without those that are kept,
to what is carried out (`Plan.length_actionable`). A phrase starts with the digit zero and a blank
exactly if it counts nothing (`Report.countsNothing_countPhrase`), so the line about a partial
result lists the counts that are not zero (`Report.partialResult_eq`). A plan is shown as one
without changes exactly if it has none (`Report.plan_eq_noChanges_iff`).
-/

namespace CiVariables

/-! ## Counts -/

namespace Tally

/-- How many actions there are of each sort. -/
def ofActions (actions : List Action) : Tally :=
  ⟨actions.count .create, actions.count .update, actions.count .delete, actions.count .keep⟩

/-- How many changes of each action were told to be carried out. -/
def ofFinished (told : List Event) : Tally := ofActions (told.filterMap Event.finished?)

/-- There is no change to carry out. -/
def IsIdle (t : Tally) : Prop := t.create = 0 ∧ t.update = 0 ∧ t.delete = 0

instance (t : Tally) : Decidable t.IsIdle :=
  inferInstanceAs (Decidable (t.create = 0 ∧ t.update = 0 ∧ t.delete = 0))

theorem ofChanges_eq (cs : List Change) : ofChanges cs = ofActions (cs.map Change.action) := by
  have hcount (a : Action) : countOf a cs = ((cs.map Change.action).count a : Nat) := by
    unfold countOf
    rw [List.count_eq_countP, List.countP_map]
    rfl
  simp [ofChanges, ofActions, hcount]

/-- The counts add up to the number of changes. -/
theorem sum_ofChanges (cs : List Change) :
    (ofChanges cs).create + (ofChanges cs).update + (ofChanges cs).delete + (ofChanges cs).keep =
      cs.length := by
  rw [ofChanges_eq]
  induction cs with
  | nil => rfl
  | cons c rest ih =>
    simp only [ofActions, List.map_cons, List.count_cons, List.length_cons] at ih ⊢
    cases c.action <;> simp <;> omega

theorem length_filter_isActionable (cs : List Change) :
    ((cs.filter Change.isActionable).length : Int) =
      (ofChanges cs).create + (ofChanges cs).update + (ofChanges cs).delete := by
  rw [ofChanges_eq]
  induction cs with
  | nil => rfl
  | cons c rest ih =>
    simp only [ofActions, List.map_cons, List.count_cons, List.filter_cons, Change.isActionable,
      Action.isActionable] at ih ⊢
    obtain ⟨-, -, action, -⟩ := c
    cases action <;> simp <;> omega

end Tally

theorem Plan.length_actionable (p : Plan) :
    (p.actionable.length : Int) = p.summary.create + p.summary.update + p.summary.delete :=
  Tally.length_filter_isActionable p.changes

/-- A plan counts nothing to do exactly if it has nothing to do. -/
theorem Plan.isIdle_summary_iff (p : Plan) : p.summary.IsIdle ↔ p.actionable = [] := by
  have hlength := p.length_actionable
  unfold Tally.IsIdle
  rw [← List.length_eq_zero_iff]
  simp only [Plan.summary, Tally.ofChanges_eq, Tally.ofActions] at hlength ⊢
  omega

namespace Report

/-! ## Plans without changes -/

theorem newline_mem_of_change {color : Bool} {c : Change} {block : String}
    (h : change color c = .ok block) : '\n' ∈ block.toList := by
  obtain ⟨pairs, -, rfl⟩ := change_eq_ok h
  unfold changeLines
  simp only [List.cons_append]
  rw [CiVariables.Text.join_cons_cons]
  simp

/-- A plan is shown as one without changes exactly if it has none. -/
theorem plan_eq_noChanges_iff (color : Bool) (p : Plan) :
    plan color p = .ok noChanges ↔ p.actionable = [] := by
  constructor
  · intro h
    refine List.eq_nil_iff_forall_not_mem.2 fun c hc => ?_
    obtain ⟨blocks, block, hmem, hblock, htext⟩ := plan_eq_ok h c hc
    have hnewline : '\n' ∈ (CiVariables.Text.join "\n\n" blocks).toList :=
      (CiVariables.Text.infix_join hmem).subset (newline_mem_of_change hblock)
    rw [← htext] at hnewline
    exact absurd hnewline (by decide)
  · intro h
    unfold plan changes
    rw [show p.changes.filter Change.isActionable = [] from h]
    rfl

/-! ## Phrases -/

theorem toList_toString_ofNat (n : Nat) : (toString (n : Int)).toList = Nat.toDigits 10 n := by
  show (Nat.repr n).toList = _
  simp [Nat.repr]

/-- The text of a number starts with zero only if it is zero. -/
theorem head?_toString_ne_zero {n : Int} (h : n ≠ 0) : (toString n).toList.head? ≠ some '0' := by
  cases n with
  | ofNat n =>
    have hn : 0 < n := Nat.pos_of_ne_zero fun hzero => h (congrArg Int.ofNat hzero)
    rw [show (toString (Int.ofNat n)).toList = Nat.toDigits 10 n from toList_toString_ofNat n]
    exact CiVariables.Json.head?_toDigits_ne_zero hn
  | negSucc n =>
    rw [show toString (Int.negSucc n) = "-" ++ toString (n + 1) from rfl, String.toList_append]
    simp

theorem countPhrase_plain (t : Tally) (applied : Bool) (a : Action) :
    countPhrase t applied false a = toString (t.count a) ++ " " ++ countWords applied a := by
  unfold countPhrase
  simp [Terminal.styleIf]

/-- A phrase starts with the digit zero and a blank exactly if it counts nothing: ten and a hundred
start with another digit. -/
theorem countsNothing_countPhrase (t : Tally) (applied : Bool) (a : Action) :
    countsNothing (countPhrase t applied false a) = decide (t.count a = 0) := by
  rw [countPhrase_plain]
  unfold countsNothing
  by_cases hzero : t.count a = 0
  · rw [hzero, show toString (0 : Int) = "0" from rfl]
    simp
  · rw [decide_eq_false hzero, Bool.eq_false_iff, ne_eq, List.isPrefixOf_iff_prefix]
    intro hprefix
    refine head?_toString_ne_zero hzero ?_
    simp only [String.toList_append, List.append_assoc] at hprefix
    generalize (toString (t.count a)).toList = digits at hprefix ⊢
    cases digits with
    | nil => exact absurd (List.cons_prefix_cons.1 hprefix).1 (by decide)
    | cons d ds => exact congrArg some (List.cons_prefix_cons.1 hprefix).1.symm

/-! ## The partial result -/

/-- The line that lists the counts that are not zero; none without such. -/
def partialOf (t : Tally) : List String :=
  match [Action.create, .update, .delete].filter (t.count · ≠ 0) with
  | [] => []
  | done =>
    ["  Partial result: " ++ CiVariables.Text.join ", "
      (done.map fun a => toString (t.count a) ++ " " ++ countWords true a) ++ "."]

/-- There is no partial result exactly if nothing was counted. -/
theorem partialOf_eq_nil_iff (t : Tally) : partialOf t = [] ↔ t.IsIdle := by
  have hdone : [Action.create, .update, .delete].filter (t.count · ≠ 0) = [] ↔ t.IsIdle := by
    rw [List.filter_eq_nil_iff, List.forall_mem_cons, List.forall_mem_cons,
      List.forall_mem_singleton]
    simp only [decide_eq_true_eq, ne_eq, Decidable.not_not]
    rfl
  rw [← hdone]
  unfold partialOf
  split
  · next hnil => exact iff_of_true rfl hnil
  · next done hsome => exact iff_of_false (List.cons_ne_nil _ _) hsome

/-- The phrases that count something are those of the counts that are not zero. -/
theorem filter_countPhrases (t : Tally) :
    (countPhrases t true false).filter (!countsNothing ·) =
      ([Action.create, .update, .delete].filter (t.count · ≠ 0)).map fun a =>
        toString (t.count a) ++ " " ++ countWords true a := by
  unfold countPhrases
  rw [List.filter_map]
  have hcounts : (fun a => !countsNothing (countPhrase t true false a)) =
      fun a => decide (t.count a ≠ 0) := by
    funext a
    rw [countsNothing_countPhrase]
    exact (decide_not ..).symm
  have hphrases : countPhrase t true false =
      fun a => toString (t.count a) ++ " " ++ countWords true a :=
    funext (countPhrase_plain t true)
  show List.map _ (List.filter (fun a => !countsNothing (countPhrase t true false a)) _) = _
  rw [hcounts, hphrases]

theorem partialResult_eq (applied : List Change) :
    partialResult applied = partialOf (Tally.ofChanges applied) := by
  unfold partialResult partialOf
  rw [filter_countPhrases]
  cases [Action.create, .update, .delete].filter ((Tally.ofChanges applied).count · ≠ 0) <;> rfl

/-! ## The lines of a failure -/

/-- The start of the line about a partial result. -/
def partialStart : String := "  Partial result: "

/-- The line is about a partial result. -/
def isPartial (line : String) : Bool := partialStart.toList.isPrefixOf line.toList

/-- The lines about a partial result among those that tell of a failure. -/
def partialLines (failure : Failure) : List String := (failureLines failure).filter isPartial

theorem isPartial_start (rest : String) : isPartial (partialStart ++ rest) = true := by
  unfold isPartial
  rw [List.isPrefixOf_iff_prefix, String.toList_append]
  exact List.prefix_append _ _

/-- A line that starts otherwise is not about a partial result. -/
theorem not_isPartial_of_start (start rest : String)
    (h : ¬start.toList <+: partialStart.toList) (h' : ¬partialStart.toList <+: start.toList) :
    ¬isPartial (start ++ rest) = true := by
  unfold isPartial
  rw [List.isPrefixOf_iff_prefix, String.toList_append]
  intro hprefix
  exact (List.prefix_or_prefix_of_prefix hprefix (List.prefix_append _ _)).elim h' h

theorem partialLines_apply (applied : List Change) (address reason : String)
    (cause : Option Failure) : partialLines (.apply applied address reason cause) =
      partialOf (Tally.ofChanges applied) := by
  have hmessage : ¬isPartial (Failure.message (.apply applied address reason cause)) = true := by
    unfold Failure.message
    simp only [String.append_assoc]
    exact not_isPartial_of_start _ _ (by decide) (by decide)
  show List.filter isPartial (Failure.message _ :: partialResult applied) = _
  rw [List.filter_cons_of_neg hmessage, partialResult_eq]
  unfold partialOf
  split
  · rfl
  · next done _ =>
    have hline (phrases : String) : isPartial ("  Partial result: " ++ phrases ++ ".") = true := by
      rw [String.append_assoc]
      exact isPartial_start _
    exact List.filter_cons_of_pos (hline _)

/-- Only a change that failed leaves a partial result. -/
theorem partialLines_eq_nil {failure : Failure}
    (h : ∀ applied address reason cause, failure ≠ .apply applied address reason cause) :
    partialLines failure = [] := by
  have hone (start rest : String) (hstart : ¬start.toList <+: partialStart.toList)
      (hstart' : ¬partialStart.toList <+: start.toList) : [start ++ rest].filter isPartial = [] :=
    List.filter_cons_of_neg (not_isPartial_of_start start rest hstart hstart')
  unfold partialLines failureLines
  split
  · exact hone _ _ (by decide) (by decide)
  · next errors =>
    rw [List.filter_cons_of_neg (by decide), List.filter_eq_nil_iff]
    intro line hline
    obtain ⟨error, -, rfl⟩ := List.mem_map.1 hline
    exact not_isPartial_of_start _ _ (by decide) (by decide)
  · next applied address reason cause => exact absurd rfl (h applied address reason cause)
  · exact List.filter_cons_of_neg (by decide)
  · split
    · exact hone _ _ (by decide) (by decide)
    · exact hone _ _ (by decide) (by decide)
  · exact hone _ _ (by decide) (by decide)

/-! ## Runs -/

/-- What a run over the changes of a plan reports agrees with the progress that was told: without a
failure all changes were announced, and the count of each action is that of the changes which were
told to be carried out. -/
def Counts (p : Plan) (told : List Event) : Except Failure (List Change) → Prop
  | .ok applied =>
    (told.countP Event.isStarted : Int) =
        p.summary.create + p.summary.update + p.summary.delete ∧
      Tally.ofChanges applied = Tally.ofFinished told
  | .error failure => partialLines failure = partialOf (Tally.ofFinished told)

/-- A run that tells of its changes counts those whose end it told. -/
theorem counts_of_told {accept : Applying.Follower} {p : Plan} {told : List Event}
    {result : Except Failure (List Change)}
    (h : Applying.Told accept [] p.actionable told result) :
    (∃ failure, result = .error failure ∧ Applying.Refuses accept p.actionable failure) ∨
      Counts p told result := by
  have hnames {applied : List Change} (h : Applying.Names [] told applied) :
      Tally.ofChanges applied = Tally.ofFinished told := by
    rw [Tally.ofChanges_eq, Tally.ofFinished, h]
    rfl
  have haccount := h.account
  cases result with
  | ok applied =>
    obtain ⟨hstarted, happlied⟩ := haccount
    exact .inr ⟨by rw [hstarted, p.length_actionable], hnames happlied⟩
  | error failure =>
    obtain hrefused | ⟨applied, address, reason, cause, rfl, happlied⟩ := haccount
    · exact .inl ⟨failure, rfl, hrefused⟩
    · refine .inr ?_
      rw [Counts, partialLines_apply, hnames happlied]

end Report

end CiVariables
