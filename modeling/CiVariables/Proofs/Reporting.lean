import CiVariables.Proofs.Tripping

/-!
# Failures are reported, but for those of showing

`validate` never crashes: it ends normally or with its failure told. `apply` and `destroy` do so as
well, unless what they show of a plan trips them up; then they crash (`Cli.failures_reported`). The
plan in a file that is well formed may do so (`Cli.crashes_on_incomplete_difference`).
-/

namespace CiVariables.Cli

open CiVariables.Text (hasHalf)

namespace Command

variable {setting : Setting} {color autoApprove : Bool} {config : Config} {question : String}
  {plan : Plan} {sh : Shell}

/-! ## Early endings -/

open Script (EndsBy Reports)

theorem reports_load (setting : Setting) (color : Bool) (path : String) :
    (load setting color path).Reports setting color :=
  Reports.get.bind fun _ => (Reports.writeLog _).bind fun _ => .guarded _

theorem reports_takePlan (setting : Setting) (color : Bool) (config : Config)
    (planFile : Option String) (destroy : Bool) :
    (takePlan setting color config planFile destroy).Reports setting color := by
  cases planFile with
  | some file => exact Reports.get.bind fun _ => .guarded _
  | none => exact (Reports.work _).bind fun _ => .guarded _

theorem endsBy_showPlan {P : Ending → Prop} (setting : Setting) (color : Bool) (plan : Plan) :
    (showPlan setting color plan).EndsBy P :=
  (EndsBy.unguarded _).bind fun _ => (EndsBy.line _ _).bind fun _ =>
    (EndsBy.line _ _).bind fun _ => .line _ _

theorem reports_showPlan (setting : Setting) (color : Bool) (plan : Plan) :
    (showPlan setting color plan).Reports setting color :=
  .of_telling (telling_showPlan setting color plan) (endsBy_showPlan setting color plan)

theorem reports_ask (setting : Setting) (color : Bool) (question : String) :
    (Script.ask question).Reports setting color := by
  have htelling (text : String) (answer : Reply) : (do
      Script.put .out text
      pure answer : Script Reply).Telling := (Script.telling_put _ _).bind fun _ => .pure _
  have hends (text : String) (answer : Reply) : (do
      Script.put .out text
      pure answer : Script Reply).EndsBy fun ending =>
        ∀ sh sh', Clean setting color sh sh' ending :=
    (EndsBy.put _ _).bind fun _ => .pure _
  refine ⟨fun sh => ?_, fun sh ending hending => ?_⟩
  · rw [outcome_ask_eq]
    exact (htelling _ _ { sh with input := (Prompt.ask question sh.input).2.2 }).written
  · unfold Script.Crashes
    rw [outcome_ask_eq] at hending ⊢
    exact (hends _ _ _ ending hending).imp_right fun hclean => hclean sh _

theorem reports_approve (setting : Setting) (color autoApprove : Bool) (question : String) :
    (approve setting autoApprove question).Reports setting color := by
  unfold approve
  split
  · exact .pure _
  · refine (reports_ask setting color question).bind fun answer => ?_
    cases answer with
    | yes => exact .pure _
    | no =>
      exact (Reports.line _ _).bind fun _ =>
        .of_telling (.throw _) (.throw fun _ _ => .canceled)
    | ended =>
      exact (Reports.line _ _).bind fun _ =>
        .of_telling (.throw _) (.throw fun _ _ => .aborted)

theorem endsBy_putLines {P : Ending → Prop} (lines : List String) : (putLines lines).EndsBy P :=
  .forM (fun _ => .put _ _) lines

theorem endsBy_notes {P : Ending → Prop} (screen : Nat) (events : List Event) :
    (events.forM fun e => putLines
      ((Report.Progress.noteLines screen e).toOption.getD [])).EndsBy P :=
  .forM (fun _ => endsBy_putLines _) _

theorem endsBy_lastLines {P : Ending → Prop} (lines : Except Terminal.Markup.Fault (List String))
    {rest : Unit → Script Unit} (hrest : (rest ()).EndsBy P) :
    (match lines with
      | .ok lines => putLines lines >>= rest
      | .error fault => throw (Ending.crashed (.unshowable fault)) >>= rest).EndsBy P := by
  cases lines with
  | ok lines => exact (endsBy_putLines lines).bind fun _ => hrest
  | error fault => exact (EndsBy.crash _).bind fun _ => hrest

/-- Applying a plan reports its failure, unless it crashes. -/
theorem reports_applyPlan (setting : Setting) (color : Bool) (config : Config) (plan : Plan) :
    (applyPlan setting color config plan).Reports setting color := by
  have hnotes (events : List Event) : (events.forM fun e => putLines
      ((Report.Progress.noteLines (screenWidth setting.env) e).toOption.getD [])).Reports
        setting color :=
    .of_telling (.forM (fun _ => telling_putLines _) _) (endsBy_notes _ events)
  refine (Reports.work _).bind fun worked => (hnotes worked.2).bind fun _ => ?_
  cases worked.1 with
  | ok applied =>
    refine Reports.of_telling (telling_lastLines _ fun _ => ?_) (endsBy_lastLines _ ?_)
    · exact (Script.telling_line _ _ _).bind fun _ => Script.telling_line _ _ _
    · exact (EndsBy.line _ _).bind fun _ => .line _ _
  | error failure =>
    exact Reports.told (telling_lastLines _ fun _ => .throw _) (endsBy_lastLines _ (.throw rfl))

theorem reports_review (setting : Setting) (color : Bool) (config : Config) (autoApprove : Bool)
    (question nothing : String) (plan : Plan) :
    (review setting color config autoApprove question nothing plan).Reports setting color := by
  unfold review
  split
  · exact (reports_showPlan _ _ _).bind fun _ => (Reports.line _ _).bind fun _ =>
      (reports_approve _ _ _ _).bind fun _ => reports_applyPlan _ _ _ _
  · exact .line _ _

/-- A run that asks before it applies a plan reports its failure, unless it crashes. -/
theorem reports_reviewed (setting : Setting) (path : String) (planFile : Option String)
    (destroy autoApprove noColor : Bool) (question nothing : String) :
    (reviewed setting path planFile destroy autoApprove noColor question nothing).Reports setting
      (wantsColor setting.env noColor) :=
  (reports_load _ _ _).bind fun _ => (reports_takePlan _ _ _ _ _).bind fun _ =>
    (reports_review _ _ _ _ _ _ _).bind fun _ => .pure _

theorem done_of_reviewed {path nothing : String} {planFile : Option String}
    {destroy noColor : Bool} {ending : Ending} {sh' : Shell}
    (h : (reviewed setting path planFile destroy autoApprove noColor question nothing).outcome sh =
      (.ok ending, sh')) : ending = .done := by
  obtain ⟨_, _, ⟨⟩⟩ | ⟨config, loaded, -, h⟩ := Script.bind_cases h
  obtain ⟨_, _, ⟨⟩⟩ | ⟨plan, mid, -, h⟩ := Script.bind_cases h
  obtain ⟨_, _, ⟨⟩⟩ | ⟨_, _, -, h⟩ := Script.bind_cases h
  cases h
  rfl

theorem reports_validate (setting : Setting) (path : String) (noColor : Bool) :
    (run setting (.validate path noColor)).Reports setting (wantsColor setting.env noColor) :=
  (reports_load _ _ _).bind fun _ => (Reports.line _ _).bind fun _ => .pure _

theorem hasHalf_validText (n : Nat) : hasHalf (validText n) = false := by
  unfold validText
  simp only [CiVariables.Text.hasHalf_append, CiVariables.Text.hasHalf_toString_nat]
  split <;> decide

/-- Nothing that `validate` shows trips it up. -/
theorem safe_validate (setting : Setting) (path : String) (noColor : Bool) :
    (run setting (.validate path noColor)).Safe := by
  refine (safe_load _ _ _).bind fun config => Script.Safe.bind ?_ fun _ => Script.safe_pure _
  refine (Script.passes_line ?_).not_crashes
  rw [Terminal.hasHalf_styleIf]
  exact hasHalf_validText _

theorem done_of_validate {path : String} {noColor : Bool} {ending : Ending} {sh' : Shell}
    (h : (run setting (.validate path noColor)).outcome sh = (.ok ending, sh')) :
    ending = .done := by
  obtain ⟨_, _, ⟨⟩⟩ | ⟨config, loaded, -, h⟩ := Script.bind_cases h
  obtain ⟨_, _, ⟨⟩⟩ | ⟨_, _, -, h⟩ := Script.bind_cases h
  cases h
  rfl

end Command

/-! ## The program -/

/-- A run that does not crash ends cleanly. -/
theorem clean_of_reports {setting : Setting} {logging : Logging} {color : Bool}
    {x : Script Ending} {sh started sh' : Shell} {result : Except Ending Ending}
    (hreports : x.Reports { setting with logging := logging } color)
    (hstarted : sh.Tells started) (hrun : x.outcome started = (result, sh'))
    (hdone : ∀ ending, x.outcome started = (.ok ending, sh') → ending = .done)
    (hcrash : ¬x.Crashes started) :
    Clean setting color sh sh' (endingOf result) := by
  cases result with
  | ok ending =>
    rw [hdone ending hrun]
    exact .done
  | error ending =>
    have hended := hreports.ending started ending (congrArg Prod.fst hrun)
    rw [hrun] at hended
    exact ((hended.resolve_left hcrash).of_longer hstarted.written).of_logging

/-- A run that asks before it applies a plan ends cleanly if the plan does not trip it up, and
crashes if it does. -/
theorem reviewed_ends {setting : Setting} {logging : Logging} {path question nothing : String}
    {planFile : Option String} {destroy autoApprove noColor : Bool} {sh started sh' : Shell}
    {result : Except Ending Ending} (hnothing : hasHalf nothing = false)
    (hstarted : sh.Tells started)
    (hrun : (Command.reviewed { setting with logging := logging } path planFile destroy autoApprove
      noColor question nothing).outcome started = (result, sh')) :
    (¬Command.TripsUp setting sh path planFile destroy autoApprove noColor question →
      Clean setting (wantsColor setting.env noColor) sh sh' (endingOf result)) ∧
    (Command.TripsUp setting sh path planFile destroy autoApprove noColor question →
      ∃ failure, endingOf result = .crashed failure) := by
  rw [← Command.crashes_reviewed hnothing hstarted]
  constructor
  · have hreports := Command.reports_reviewed { setting with logging := logging } path planFile
      destroy autoApprove noColor question nothing
    exact clean_of_reports hreports hstarted hrun fun _ => Command.done_of_reviewed
  · rintro ⟨failure, hcrash⟩
    rw [hrun] at hcrash
    exact ⟨failure, congrArg endingOf hcrash⟩

/-- The name of the member for want of which a run crashed. -/
def missing? : Ending → Option String
  | .crashed (.missingMember name) => some name
  | _ => none

theorem eq_of_missing? {ending : Ending} {name : String} (h : missing? ending = some name) :
    ending = .crashed (.missingMember name) := by
  unfold missing? at h
  split at h
  · cases h
    rfl
  · cases h

end CiVariables.Cli
