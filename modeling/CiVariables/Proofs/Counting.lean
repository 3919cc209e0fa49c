import CiVariables.Proofs.Reporting
import CiVariables.Proofs.Tallies

/-!
# All counts that are told are true, but for one

What the commands say about a plan and about a run agrees with the changes of the plan and with the
progress that was told, unless a line of the progress cannot be shown: such a refusal ends the run,
and its report says nothing about what had been applied (`Cli.counts_reported`). The address of a
change in a saved plan can bring that about (`Cli.refusal_hides_partial_result`).
-/

namespace CiVariables.Cli

open Script (EndsBy)

namespace Command

variable {setting : Setting} {color : Bool} {config : Config} {path : String} {plan : Plan}
  {sh : Shell}

/-! ## Showing a plan -/

theorem endsBy_savePlan {P : Ending → Prop} (setting : Setting) (plan : Plan) (path : String) :
    (savePlan setting plan path).EndsBy P :=
  EndsBy.get.bind fun _ => (EndsBy.unguarded _).bind fun _ => (EndsBy.set _).bind fun _ =>
    (EndsBy.unguarded _).bind fun _ => (EndsBy.unguarded _).bind fun _ =>
      (EndsBy.set _).bind fun _ => .line _ _

/-- Where a plan can be made, the command that shows it crashes on what it shows or saves, or ends
by whether there are changes. -/
theorem plan_ends (hplan : PlanFrom setting sh path none false plan) (out : Option String)
    (noColor : Bool) : (run setting (.plan path out noColor)).Crashes sh ∨
      ((run setting (.plan path out noColor)).outcome sh).1 =
        .ok (if Report.hasActionableChanges plan then .changesFound else .done) := by
  obtain ⟨config, hconfig, hmade⟩ := hplan
  obtain ⟨loaded, hloaded, hload⟩ : ∃ loaded, sh.Tells loaded ∧
      (load setting (wantsColor setting.env noColor) path).outcome sh = (.ok config, loaded) :=
    outcome_load hconfig
  obtain ⟨made, -, hmake⟩ : ∃ made, made.input = loaded.input ∧
      (makePlan setting (wantsColor setting.env noColor) config false).outcome loaded =
        (.ok plan, made) := outcome_makePlan (hloaded.session ▸ hmade)
  let ending : Ending := if Report.hasActionableChanges plan then .changesFound else .done
  -- what comes after the plan is shown: it may be saved, and nothing else decides the ending
  obtain ⟨rest, hrest, hends, hending⟩ : ∃ rest : Unit → Script Ending,
      (run setting (.plan path out noColor)).outcome sh =
        (showPlan setting (wantsColor setting.env noColor) plan >>= rest).outcome made ∧
      (rest ()).EndsBy (fun _ => False) ∧
      ∀ s e s', (rest ()).outcome s = (.ok e, s') → e = ending := by
    cases out with
    | none =>
      refine ⟨fun _ => pure ending,
        (Script.outcome_bind_ok hload).trans (Script.outcome_bind_ok hmake), .pure _, ?_⟩
      rintro s e s' ⟨⟩
      rfl
    | some file =>
      refine ⟨fun _ => savePlan setting plan file >>= fun _ => pure ending,
        (Script.outcome_bind_ok hload).trans (Script.outcome_bind_ok hmake),
        (endsBy_savePlan _ _ _).bind fun _ => .pure _, fun s e s' hsaved => ?_⟩
      obtain ⟨_, _, ⟨⟩⟩ | ⟨_, saved, -, hpure⟩ := Script.bind_cases hsaved
      cases hpure
      rfl
  unfold Script.Crashes
  rw [hrest]
  rcases hshown : (showPlan setting (wantsColor setting.env noColor) plan >>= rest).outcome made
    with ⟨e | e, sh'⟩
  · obtain ⟨failure, rfl⟩ := ((endsBy_showPlan _ _ _).bind fun _ => hends).crashed hshown
    exact .inl ⟨failure, rfl⟩
  · obtain ⟨_, _, ⟨⟩⟩ | ⟨_, shown, -, hlast⟩ := Script.bind_cases hshown
    exact .inr (congrArg Except.ok (hending _ _ _ hlast))

/-! ## Applying a plan -/

/-- What a command says in the end about a run that had a result: the counts of what was applied, or
the failure. -/
inductive Says (setting : Setting) (color : Bool) (result : Except Failure (List Change))
    (sh' : Shell) : Except Ending Unit → Prop where
  | summary {applied : List Change} {before : List Written} (h : result = .ok applied)
    (hwritten : sh'.written = before ++ [⟨.out, Script.shown setting
      (Report.applySummary color (Tally.ofChanges applied) ++ "\n")⟩]) :
    Says setting color result sh' (.ok ())
  | failure {failure : Failure} (h : result = .error failure)
    (hwritten : failureTexts setting color failure <:+: sh'.written) :
    Says setting color result sh' (.error (.failed failure))
  | crash (failure : Failure) : Says setting color result sh' (.error (.crashed failure))

/-- After the last progress line, unless it crashes, the run goes on. -/
theorem lastLines_cases {lines : Except Terminal.Markup.Fault (List String)}
    {rest : Unit → Script Unit} {ended : Except Ending Unit} {sh' : Shell}
    (h : (match lines with
      | .ok lines => putLines lines >>= rest
      | .error fault => throw (Ending.crashed (.unshowable fault)) >>= rest).outcome sh =
        (ended, sh')) :
    (∃ failure, ended = .error (.crashed failure)) ∨
      ∃ shown, sh.Tells shown ∧ (rest ()).outcome shown = (ended, sh') := by
  cases lines with
  | error fault =>
    cases h
    exact .inl ⟨_, rfl⟩
  | ok ls =>
    obtain ⟨ending, hput, rfl⟩ | ⟨_, shown, hput, hrest⟩ := Script.bind_cases h
    · obtain ⟨failure, rfl⟩ := (endsBy_putLines ls).crashed hput
      exact .inl ⟨failure, rfl⟩
    · exact .inr ⟨shown, (telling_putLines ls).of_outcome hput, hrest⟩

/-- What applying a plan says of its run follows from the outcome of that run. -/
theorem says_applyPlan {ended : Except Ending Unit} {sh' : Shell}
    (h : (applyPlan setting color config plan).outcome sh = (ended, sh')) :
    Says setting color ((config.apply (some (Report.Progress.follow (screenWidth setting.env)))
      plan).outcome sh.session).1 sh' ended := by
  obtain ⟨worked, -, hwork⟩ := Script.outcome_work setting
    (config.apply (some (Report.Progress.follow (screenWidth setting.env))) plan) sh
  have htold := (Script.outcome_bind_ok hwork).symm.trans h
  obtain ⟨ending, hnotes, rfl⟩ | ⟨_, noted, -, hrest⟩ := Script.bind_cases htold
  · obtain ⟨failure, rfl⟩ := (endsBy_notes _ _).crashed hnotes
    exact .crash failure
  · cases hresult : ((config.apply (some (Report.Progress.follow (screenWidth setting.env)))
        plan).outcome sh.session).1 with
    | ok applied =>
      simp only [hresult] at hrest
      obtain ⟨failure, rfl⟩ | ⟨shown, -, hlines⟩ := lastLines_cases hrest
      · exact .crash failure
      obtain ⟨ending, hblank, rfl⟩ | ⟨_, mid, -, hsummary⟩ := Script.bind_cases hlines
      · obtain ⟨failure, rfl⟩ := (EndsBy.line _ _).crashed hblank
        exact .crash failure
      cases ended with
      | error ending =>
        obtain ⟨failure, rfl⟩ := (EndsBy.line _ _).crashed hsummary
        exact .crash failure
      | ok _ =>
        rw [Script.line_ok hsummary]
        exact .summary rfl rfl
    | error failure =>
      simp only [hresult] at hrest
      have hlast := (Script.outcome_bind_ok
        (Script.outcome_report setting color failure noted)).symm.trans hrest
      obtain ⟨failure, rfl⟩ | ⟨shown, htells, hthrow⟩ := lastLines_cases hlast
      · exact .crash failure
      · cases hthrow
        refine .failure rfl ((List.suffix_append noted.written _).isInfix.trans ?_)
        exact htells.written.isInfix

end Command

/-! ## Commands -/

/-- The exit code of the command that shows a plan says whether there are changes. -/
theorem exitCode_plan {setting : Setting} {args : List String} {sh : Shell} {path : String}
    {out : Option String} {noColor : Bool} {p : Plan}
    (hasked : asked? args = some (.plan path out noColor))
    (hplan : Command.PlanFrom setting sh path none false p) :
    (∃ failure, (run setting args sh).1 = .crashed failure) ∨
      (run setting args sh).1.exitCode = if p.summary.IsIdle then 0 else 2 := by
  obtain ⟨hnone, -⟩ | ⟨command, logging, started, result, hcommand, hstarted, hrun, hending⟩ :=
    run_cases setting args sh
  · cases hnone.symm.trans hasked
  · cases hcommand.symm.trans hasked
    rw [hending]
    have hstartedPlan : Command.PlanFrom { setting with logging := logging } started path none
        false p := Command.planFrom_tells hstarted hplan
    have hends := Command.plan_ends hstartedPlan out noColor
    unfold Script.Crashes at hends
    rw [hrun] at hends
    obtain ⟨failure, hcrash⟩ | hends := hends
    · exact .inl ⟨failure, congrArg endingOf hcrash⟩
    · obtain rfl : result = _ := hends
      refine .inr ?_
      rw [if_congr p.isIdle_summary_iff rfl rfl]
      unfold Report.hasActionableChanges
      cases p.actionable <;> rfl

end CiVariables.Cli

namespace CiVariables

theorem Config.provider_error {c : Config} {failure : Failure} (h : c.provider = .error failure) :
    ∃ error, failure = .config error := by
  unfold Config.provider at h
  split at h
  · exact ⟨_, (Except.error.inj h).symm⟩
  · exact ⟨_, (Except.error.inj h).symm⟩
  · cases h

/-- A run that is made for a configuration reports what was told of it, unless an event was
refused. -/
theorem Config.counts_apply (c : Config) (accept : Applying.Follower) (p : Plan) (s : Session) :
    ∃ told, ((c.apply (some accept) p).outcome s).2.progress = s.progress ++ told ∧
      ((∃ failure, ((c.apply (some accept) p).outcome s).1 = .error failure ∧
          Applying.Refuses accept p.actionable failure) ∨
        Report.Counts p told ((c.apply (some accept) p).outcome s).1) := by
  unfold Config.apply
  rw [outcome_engineWork]
  cases hprovider : c.provider with
  | error failure =>
    obtain ⟨error, rfl⟩ := provider_error hprovider
    refine ⟨[], (List.append_nil _).symm, .inr ?_⟩
    exact Report.partialLines_eq_nil fun _ _ _ _ heq => by cases heq
  | ok provider =>
    obtain ⟨told, result, s', hrun, hprogress, htold⟩ :=
      Applying.told_apply provider accept p { s with isConnected := false }
    simp only [hrun]
    exact ⟨told, hprogress, Report.counts_of_told htold⟩

namespace Report

/-! ## Lines that cannot be shown -/

namespace Progress

/-- What is refused is the line that tells that a change was carried out, because of its address. -/
theorem refused_of_follow {screen : Nat} {cs : List Change} {failure : Failure}
    (h : Applying.Refuses (follow screen) cs failure) :
    ∃ fault, failure = .unshowable fault ∧ ∃ c ∈ cs, '[' ∈ c.address.toList := by
  obtain ⟨c, hc, hstart | hfinish⟩ := h
  · cases hstart
  · unfold follow noteLines at hfinish
    simp only [note?] at hfinish
    cases hplain : Terminal.Markup.plain ("  " ++ c.address ++ ": " ++ (lookOf c.action).done) with
    | ok text =>
      rw [hplain] at hfinish
      cases hfinish
    | error fault =>
      rw [hplain] at hfinish
      refine ⟨fault, (Except.error.inj hfinish).symm, c, hc, by_contra fun hbrackets => ?_⟩
      have hdone : '[' ∉ (lookOf c.action).done.toList := by cases c.action <;> decide
      have hnote : '[' ∉ ("  " ++ c.address ++ ": " ++ (lookOf c.action).done).toList := by
        simp [hbrackets, hdone]
      obtain ⟨shown, hshown⟩ := Terminal.Markup.exists_plain hnote
      cases hplain.symm.trans hshown

end Progress

/-- A report is true unless it is that a line could not be shown, and something had been applied. -/
theorem counts_iff {p : Plan} {told : List Event} {result : Except Failure (List Change)}
    (h : (∃ fault, result = .error (.unshowable fault)) ∨ Counts p told result) :
    Counts p told result ↔
      ∀ fault, result = .error (.unshowable fault) → (Tally.ofFinished told).IsIdle := by
  have hrefused (fault : Terminal.Markup.Fault) :
      Counts p told (.error (.unshowable fault)) ↔ (Tally.ofFinished told).IsIdle := by
    rw [← partialOf_eq_nil_iff, Counts, partialLines_eq_nil fun _ _ _ _ heq => by cases heq]
    exact eq_comm
  constructor
  · rintro hcounts fault rfl
    exact (hrefused fault).1 hcounts
  · intro hidle
    obtain ⟨fault, rfl⟩ | hcounts := h
    · exact (hrefused fault).2 (hidle fault rfl)
    · exact hcounts

end Report

end CiVariables

namespace CiVariables.Cli

end CiVariables.Cli
