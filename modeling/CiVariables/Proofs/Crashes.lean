import CiVariables.Proofs.Halves
import CiVariables.Proofs.Script

/-!
# Scripts that crash

A script crashes where it ends with a failure that goes unreported (`Script.Crashes`). Writing to
the stream of output crashes on halves of surrogate pairs and on nothing else
(`Script.crashes_put_out`); writing to the stream of errors and reporting never do. All other early
endings are clean (`Script.Reports`): the user said no or went away, or the lines of the failure
were told before.
-/

namespace CiVariables.Cli

open CiVariables.Text (hasHalf)

/-! ## Clean endings -/

/-- The lines of a failure as they are told. -/
def failureTexts (setting : Setting) (color : Bool) (failure : Failure) : List Written :=
  (Report.failureLines failure).map fun line =>
    ⟨.err, Script.withHalvesWritten (Script.shown setting (Report.failureLine color line ++ "\n"))⟩

/-- A run ends normally, the user did not want it or went away, or the lines of its failure were
told, which gives the code of a failure. -/
inductive Clean (setting : Setting) (color : Bool) (sh sh' : Shell) : Ending → Prop where
  | done : Clean setting color sh sh' .done
  | canceled : Clean setting color sh sh' .canceled
  | aborted : Clean setting color sh sh' .aborted
  | told {failure : Failure} {texts : List Written} (hwritten : sh'.written = sh.written ++ texts)
    (htold : failureTexts setting color failure <:+: texts)
    (hcode : (Ending.failed failure).exitCode = Report.failureCode) :
    Clean setting color sh sh' (.failed failure)

/-- What was written before does not matter. -/
theorem Clean.of_longer {setting : Setting} {color : Bool} {sh mid sh' : Shell} {ending : Ending}
    (hlonger : sh.written <+: mid.written) (h : Clean setting color mid sh' ending) :
    Clean setting color sh sh' ending := by
  cases h with
  | done => exact .done
  | canceled => exact .canceled
  | aborted => exact .aborted
  | @told _ texts hwritten htold hcode =>
    obtain ⟨before, hbefore⟩ := hlonger
    have hall : sh'.written = sh.written ++ (before ++ texts) := by
      rw [hwritten, ← hbefore, List.append_assoc]
    exact .told hall (htold.trans (List.suffix_append _ _).isInfix) hcode

/-- How log lines are shown does not matter. -/
theorem Clean.of_logging {setting : Setting} {logging : Logging} {color : Bool} {sh sh' : Shell}
    {ending : Ending} (h : Clean { setting with logging := logging } color sh sh' ending) :
    Clean setting color sh sh' ending := by
  cases h with
  | done => exact .done
  | canceled => exact .canceled
  | aborted => exact .aborted
  | told hwritten htold hcode => exact .told hwritten htold hcode

/-! ## Scripts that crash -/

namespace Script

variable {α β : Type} {setting : Setting} {color : Bool} {sh : Shell}

/-- From this shell the script ends with a failure that goes unreported. -/
def Crashes (x : Script α) (sh : Shell) : Prop :=
  ∃ failure, (x.outcome sh).1 = .error (.crashed failure)

/-- A sequence crashes in its first part, or in its second after the first went well. -/
theorem crashes_bind {x : Script α} {f : α → Script β} :
    (x >>= f).Crashes sh ↔
      x.Crashes sh ∨ ∃ a mid, x.outcome sh = (.ok a, mid) ∧ (f a).Crashes mid := by
  unfold Crashes
  rw [outcome_bind]
  rcases hx : x.outcome sh with ⟨ending | a, mid⟩
  · simp
  · simp

theorem crashes_bind_ok {x : Script α} {f : α → Script β} {a : α} {mid : Shell}
    (h : x.outcome sh = (.ok a, mid)) : (x >>= f).Crashes sh ↔ (f a).Crashes mid := by
  unfold Crashes
  rw [outcome_bind_ok h]

/-- What always goes on does not crash. -/
theorem Passes.not_crashes {x : Script Unit} (h : x.Passes) (sh : Shell) : ¬x.Crashes sh := by
  obtain ⟨sh', hx, -⟩ := h sh
  rintro ⟨failure, hfailure⟩
  rw [hx] at hfailure
  cases hfailure

/-! ## Writing -/

theorem unwritable?_eq_none {text : String} (h : hasHalf text = false) :
    unwritable? text = none := by
  rw [unwritable?, CiVariables.Text.firstHalves?_eq_none h]
  rfl

theorem hasHalf_shown (setting : Setting) (text : String) :
    hasHalf (shown setting (text ++ "\n")) = hasHalf text := by
  have hline : hasHalf (text ++ "\n") = hasHalf text := by
    rw [CiVariables.Text.hasHalf_append, show hasHalf "\n" = false from rfl, Bool.or_false]
  unfold shown
  split
  · exact hline
  · rw [Terminal.hasHalf_strip, hline]

theorem passes_put_out {text : String} (h : hasHalf text = false) : (put .out text).Passes := by
  intro sh
  refine ⟨sh.told [⟨.out, text⟩], ?_, sh.tells_told _⟩
  rw [outcome_put_out, unwritable?_eq_none h]

/-- Writing a text crashes exactly if it holds a half. -/
theorem crashes_put_out {text : String} : (put .out text).Crashes sh ↔ hasHalf text = true := by
  cases h : hasHalf text with
  | false => simpa using (passes_put_out h).not_crashes sh
  | true =>
    refine iff_of_true ?_ rfl
    cases hhalves : CiVariables.Text.firstHalves? text with
    | none => simp [CiVariables.Text.hasHalf_of_firstHalves?_none hhalves] at h
    | some halves =>
      refine ⟨.unwritable halves.1 halves.2.1 halves.2.2, ?_⟩
      rw [outcome_put_out, unwritable?, hhalves]
      rfl

theorem passes_line {text : String} (h : hasHalf text = false) : (line setting .out text).Passes :=
  passes_put_out ((hasHalf_shown setting text).trans h)

/-- Writing a line crashes exactly if it holds a half. -/
theorem crashes_line {text : String} :
    (line setting .out text).Crashes sh ↔ hasHalf text = true := by
  rw [← hasHalf_shown setting text]
  exact crashes_put_out

/-- The lines of a failure are told, whatever they are. -/
theorem outcome_report (setting : Setting) (color : Bool) (failure : Failure) (sh : Shell) :
    (report setting color failure).outcome sh =
      (.ok (), sh.told (failureTexts setting color failure)) := by
  unfold report failureTexts
  generalize Report.failureLines failure = texts
  induction texts generalizing sh with
  | nil => simp [Shell.told]
  | cons text rest ih =>
    have hline : (line setting .err (Report.failureLine color text)).outcome sh =
      (.ok (), sh.told [⟨.err, withHalvesWritten
        (shown setting (Report.failureLine color text ++ "\n"))⟩]) := rfl
    rw [show (text :: rest).forM (fun text => line setting .err (Report.failureLine color text)) =
      (do
        line setting .err (Report.failureLine color text)
        rest.forM fun text => line setting .err (Report.failureLine color text)) from rfl,
      outcome_bind_ok hline, ih, Shell.told_told]
    rfl

/-- The script never crashes. -/
def Safe (x : Script α) : Prop := ∀ sh, ¬x.Crashes sh

theorem Safe.bind {x : Script α} {f : α → Script β} (h : x.Safe) (hf : ∀ a, (f a).Safe) :
    (x >>= f).Safe := fun sh hcrash => by
  obtain hx | ⟨a, mid, -, hrest⟩ := crashes_bind.1 hcrash
  · exact h sh hx
  · exact hf a mid hrest

theorem safe_pure (a : α) : (pure a : Script α).Safe := by
  rintro sh ⟨failure, ⟨⟩⟩

theorem safe_get : (get : Script Shell).Safe := by
  rintro sh ⟨failure, ⟨⟩⟩

/-- A failure that is reported is no crash. -/
theorem safe_guarded (setting : Setting) (color : Bool) (result : Except Failure α) :
    (guarded setting color result).Safe := by
  rintro sh ⟨failure, h⟩
  cases result with
  | ok a => cases h
  | error other =>
    have hrun : (guarded setting color (.error other : Except Failure α)).outcome sh = _ :=
      outcome_bind_ok (outcome_report setting color other sh)
    rw [hrun] at h
    cases h

/-- Work against the service does not crash, whatever its outcome is. -/
theorem safe_work (setting : Setting) (w : Work α) : (work setting w).Safe := by
  rintro sh ⟨failure, h⟩
  obtain ⟨sh', -, hrun⟩ := outcome_work setting w sh
  rw [hrun] at h
  cases h

/-! ## Early endings -/

/-- The script ends early by a crash or by such an ending. -/
def EndsBy (P : Ending → Prop) (x : Script α) : Prop :=
  ∀ sh ending, (x.outcome sh).1 = .error ending → x.Crashes sh ∨ P ending

namespace EndsBy

variable {P : Ending → Prop}

theorem pure (a : α) : (Pure.pure a : Script α).EndsBy P := nofun

theorem crash (failure : Failure) : (MonadExcept.throw (.crashed failure) : Script α).EndsBy P :=
  fun _ _ _ => .inl ⟨failure, rfl⟩

theorem throw {ending : Ending} (h : P ending) :
    (MonadExcept.throw ending : Script α).EndsBy P :=
  fun _ _ hending => .inr (Except.error.inj hending ▸ h)

theorem get : (MonadState.get : Script Shell).EndsBy P := nofun

theorem set (sh : Shell) : (MonadStateOf.set sh : Script PUnit).EndsBy P := nofun

/-- A sequence ends as its parts do. -/
theorem bind {x : Script α} {f : α → Script β} (h : x.EndsBy P) (hf : ∀ a, (f a).EndsBy P) :
    (x >>= f).EndsBy P := by
  intro sh ending hending
  rw [crashes_bind]
  rcases hrun : (x >>= f).outcome sh with ⟨result, sh'⟩
  rw [hrun] at hending
  obtain rfl : result = .error ending := hending
  obtain ⟨early, hx, heq⟩ | ⟨a, mid, hx, hrest⟩ := bind_cases hrun
  · cases heq
    exact (h sh ending (congrArg Prod.fst hx)).imp_left .inl
  · exact (hf a mid ending (congrArg Prod.fst hrest)).imp_left fun hcrash =>
      .inr ⟨a, mid, hx, hcrash⟩

theorem forM {f : α → Script PUnit} (hf : ∀ a, (f a).EndsBy P) (as : List α) :
    (as.forM f).EndsBy P := by
  induction as with
  | nil => exact pure _
  | cons a rest ih => exact (hf a).bind fun _ => ih

theorem put (stream : Stream) (text : String) : (Script.put stream text).EndsBy P := by
  intro sh ending hending
  cases stream with
  | err => cases hending
  | out =>
    rw [outcome_put_out] at hending
    cases h : unwritable? text with
    | none =>
      rw [h] at hending
      cases hending
    | some failure => exact .inl ⟨failure, by rw [outcome_put_out, h]⟩

theorem line (stream : Stream) (text : String) : (Script.line setting stream text).EndsBy P :=
  put stream _

theorem unguarded (result : Except Failure α) : (Script.unguarded result).EndsBy P := by
  cases result with
  | ok a => exact pure a
  | error failure => exact crash failure

theorem crashed {x : Script α} (h : x.EndsBy fun _ => False) {ending : Ending} {sh' : Shell}
    (hx : x.outcome sh = (.error ending, sh')) : ∃ failure, ending = .crashed failure := by
  obtain ⟨failure, hcrash⟩ | hfalse := h sh ending (congrArg Prod.fst hx)
  · rw [hx] at hcrash
    exact ⟨failure, Except.error.inj hcrash⟩
  · cases hfalse

end EndsBy

/-- The script only adds to what was written, and an early ending of it is a crash or clean. -/
structure Reports (setting : Setting) (color : Bool) (x : Script α) : Prop where
  written : x.Within fun sh sh' => sh.written <+: sh'.written
  ending : ∀ sh ending, (x.outcome sh).1 = .error ending →
    x.Crashes sh ∨ Clean setting color sh (x.outcome sh).2 ending

namespace Reports

/-- A sequence reports if its parts do. -/
theorem bind {x : Script α} {f : α → Script β} (h : x.Reports setting color)
    (hf : ∀ a, (f a).Reports setting color) : (x >>= f).Reports setting color where
  written := h.written.bind .trans fun a => (hf a).written
  ending := by
    intro sh ending hending
    rcases hrun : (x >>= f).outcome sh with ⟨result, sh'⟩
    rw [hrun] at hending
    obtain rfl : result = .error ending := hending
    rw [crashes_bind]
    obtain ⟨early, hx, heq⟩ | ⟨a, mid, hx, hrest⟩ := bind_cases hrun
    · cases heq
      have hearly := h.ending sh ending (congrArg Prod.fst hx)
      rw [hx] at hearly
      exact hearly.imp_left .inl
    · have hlater := (hf a).ending mid ending (congrArg Prod.fst hrest)
      rw [hrest] at hlater
      exact hlater.imp (fun hcrash => .inr ⟨a, mid, hx, hcrash⟩)
        (.of_longer (h.written.of_outcome hx))

/-- A script with early endings that are clean whatever was told. -/
theorem of_endsBy {x : Script α} (hwritten : x.Within fun sh sh' => sh.written <+: sh'.written)
    (h : x.EndsBy fun ending => ∀ sh sh', Clean setting color sh sh' ending) :
    x.Reports setting color :=
  ⟨hwritten, fun sh ending hending => (h sh ending hending).imp_right fun hclean => hclean sh _⟩

theorem of_telling {x : Script α} (htelling : x.Telling)
    (h : x.EndsBy fun ending => ∀ sh sh', Clean setting color sh sh' ending) :
    x.Reports setting color :=
  of_endsBy (fun sh => (htelling sh).written) h

theorem pure (a : α) : (Pure.pure a : Script α).Reports setting color :=
  of_telling (.pure a) (.pure a)

theorem get : (MonadState.get : Script Shell).Reports setting color := of_telling .refl nofun

theorem line (stream : Stream) (text : String) :
    (Script.line setting stream text).Reports setting color :=
  of_telling (telling_line setting stream text) (.line stream text)

theorem writeLog (log : List LogLine) : (Script.writeLog setting log).Reports setting color :=
  of_telling (telling_writeLog setting log) (.forM (fun _ => .put .err _) _)

/-- The lines of a failure are told before the run ends with it. -/
theorem told {failure : Failure} {x : Script α} (hx : x.Telling)
    (hending : x.EndsBy (· = .failed failure)) :
    (report setting color failure >>= fun _ => x).Reports setting color where
  written sh := ((telling_report setting color failure).bind (fun _ => hx) sh).written
  ending := by
    intro sh ending h
    have hreport := outcome_report setting color failure sh
    rw [outcome_bind_ok hreport] at h ⊢
    rw [crashes_bind_ok hreport]
    obtain hcrash | rfl := hending _ _ h
    · exact .inl hcrash
    · obtain ⟨more, hmore⟩ := (hx (sh.told (failureTexts setting color failure))).written
      refine .inr (.told ?_ (List.prefix_append _ more).isInfix rfl)
      rw [← hmore, Shell.told, List.append_assoc]

theorem guarded (result : Except Failure α) :
    (Script.guarded setting color result).Reports setting color := by
  cases result with
  | ok a => exact pure a
  | error failure => exact told (.throw _) (.throw rfl)

theorem work (w : Work α) : (Script.work setting w).Reports setting color where
  written sh := by
    obtain ⟨sh', htells, hrun⟩ := outcome_work setting w sh
    rw [hrun]
    exact htells.written
  ending sh ending hending := by
    obtain ⟨sh', -, hrun⟩ := outcome_work setting w sh
    rw [hrun] at hending
    cases hending

end Reports

end Script

end CiVariables.Cli
