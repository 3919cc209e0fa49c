import CiVariables.Proofs.Accepted
import CiVariables.Proofs.Approval
import CiVariables.Proofs.Crashes
import CiVariables.Proofs.Following
import CiVariables.Proofs.Showing

/-!
# What trips up a command

A run that asks before it applies a plan crashes exactly if what it shows of the plan trips it up
(`Command.crashes_reviewed`): halves of surrogate pairs in the text of the plan or in the lines that
the user types, and in a saved plan a difference that does not say from what to what an attribute
changes, or an address in which a tag closes nothing. Nothing else that it does crashes, whatever
the service and the files are.
-/

namespace CiVariables

open CiVariables.Terminal
open CiVariables.Text (hasHalf)

/-! ## Plans that were made -/

namespace Config

variable {config : Config} {now : Timestamp} {destroy : Bool} {s : Session} {plan : Plan}

/-- Every change of a plan that was made for a configuration is about one of its declarations. -/
theorem origin_of_plan (h : ((config.plan now destroy).outcome s).1 = .ok plan) {c : Change}
    (hc : c ∈ plan.changes) :
    ∃ d ∈ config.declarations, ∃ store, Planning.Origin store d destroy c := by
  unfold Config.plan at h
  rw [outcome_engineWork] at h
  cases hprovider : config.provider with
  | error failure =>
    rw [hprovider] at h
    cases h
  | ok provider =>
    rw [hprovider] at h
    simp only at h
    rcases hrun : (Planning.plan provider now destroy config.declarations).outcome
      { s with isConnected := false } with ⟨result, s'⟩
    rw [hrun] at h
    obtain rfl : result = .ok plan := h
    obtain ⟨-, -, horigin⟩ := Planning.origin_of_plan hrun
    obtain ⟨d, hd, hc⟩ := horigin c hc
    exact ⟨d, hd, _, hc⟩

/-- A plan that was made says from what to what every attribute changes. -/
theorem complete_of_plan (h : ((config.plan now destroy).outcome s).1 = .ok plan) :
    ∀ c ∈ plan.actionable, c.IsComplete := by
  intro c hc
  obtain ⟨d, -, store, horigin⟩ := origin_of_plan h (List.mem_filter.1 hc).1
  exact horigin.isComplete

/-- The address of a well-formed declaration has no brackets. -/
theorem noBrackets_address {d : Declaration} (h : d.WellFormed) : '[' ∉ d.address.toList := by
  have hname : '[' ∉ d.name.toList := by
    intro hmem
    have hall := (Bool.and_eq_true_iff.1 h.name).2
    exact absurd (List.all_eq_true.1 hall '[' hmem) (by decide)
  have htype : '[' ∉ (variableType ++ ".").toList := by decide
  unfold Declaration.address
  rw [String.toList_append, List.mem_append]
  exact fun hmem => hmem.elim htype hname

/-- The addresses in a plan that was made have no brackets. -/
theorem noBrackets_of_plan (hconfig : config.Accepted)
    (h : ((config.plan now destroy).outcome s).1 = .ok plan) :
    ∀ c ∈ plan.actionable, '[' ∉ c.address.toList := by
  intro c hc
  obtain ⟨d, hd, store, horigin⟩ := origin_of_plan h (List.mem_filter.1 hc).1
  rw [horigin.address_eq]
  exact noBrackets_address (hconfig.wellFormed d hd)

end Config

namespace Cli.Command

variable {setting : Setting} {color autoApprove : Bool} {config : Config} {question : String}
  {plan : Plan} {sh : Shell}

/-! ## Showing and asking -/

theorem passes_showPlan {text : String} (htext : Report.plan color plan = .ok text)
    (h : hasHalf text = false) : (showPlan setting color plan).Passes := by
  have hlines : (do
      Script.line setting .out text
      Script.line setting .out ""
      Script.line setting .out (Report.planSummary color plan.summary)).Passes :=
    (Script.passes_line h).bind ((Script.passes_line rfl).bind
      (Script.passes_line (Report.hasHalf_planSummary color _)))
  intro sh
  obtain ⟨sh', hrun, htells⟩ := hlines sh
  exact ⟨sh', (Script.outcome_bind_ok (Script.outcome_unguarded htext sh)).trans hrun, htells⟩

/-- Showing a plan crashes exactly if it cannot be shown, or its text holds a half. -/
theorem crashes_showPlan : (showPlan setting color plan).Crashes sh ↔
    ∀ text, Report.plan color plan = .ok text → hasHalf text = true := by
  cases hplan : Report.plan color plan with
  | error failure =>
    refine iff_of_true (Script.crashes_bind.2 (.inl ⟨failure, ?_⟩)) nofun
    rw [hplan]
    rfl
  | ok text =>
    cases htext : hasHalf text with
    | true =>
      refine iff_of_true ?_ fun _ heq => Except.ok.inj heq ▸ htext
      unfold showPlan
      rw [Script.crashes_bind_ok (Script.outcome_unguarded hplan sh)]
      exact Script.crashes_bind.2 (.inl (Script.crashes_line.2 htext))
    | false =>
      refine iff_of_false ((passes_showPlan hplan htext).not_crashes sh) fun h => ?_
      cases htext.symm.trans (h text rfl)

/-- Asking crashes exactly if what is shown of the lines that are typed holds a half. -/
theorem crashes_ask : (Script.ask question).Crashes sh ↔
    hasHalf (Prompt.ask question sh.input).1 = true := by
  have hrun : (Script.ask question).Crashes sh ↔ (do
      Script.put .out (Prompt.ask question sh.input).1
      pure (reply question sh) : Script Reply).Crashes
        { sh with input := (Prompt.ask question sh.input).2.2 } := by
    unfold Script.Crashes
    rw [outcome_ask_eq]
  rw [hrun, Script.crashes_bind, Script.crashes_put_out]
  exact or_iff_left fun ⟨_, _, _, hcrash⟩ => Script.safe_pure _ _ hcrash

/-- Only the lines that the user types can trip up the question. -/
theorem crashes_approve : (approve setting autoApprove question).Crashes sh ↔
    autoApprove = false ∧ hasHalf (Prompt.ask question sh.input).1 = true := by
  unfold approve
  cases autoApprove with
  | true => exact iff_of_false (fun ⟨_, h⟩ => by cases h) (by simp)
  | false =>
    simp only [Bool.false_eq_true, if_false, true_and]
    rw [Script.crashes_bind, crashes_ask]
    refine or_iff_left fun ⟨answer, mid, _, failure, hcrash⟩ => ?_
    cases answer <;> cases hcrash

theorem approve_ok {asked : Shell}
    (h : (approve setting autoApprove question).outcome sh = (.ok (), asked)) :
    asked.session = sh.session ∧ (autoApprove = true ∨ Prompt.Approves sh.input) := by
  obtain ⟨hsession, happroved | ⟨-, -, _, hresult, -⟩⟩ := approve_cases h
  · exact ⟨hsession, happroved⟩
  · cases hresult

/-- An approval that does not crash goes on. -/
theorem outcome_approve (happroved : autoApprove = true ∨ Prompt.Approves sh.input)
    (h : ¬(approve setting autoApprove question).Crashes sh) :
    ∃ asked, asked.session = sh.session ∧
      (approve setting autoApprove question).outcome sh = (.ok (), asked) := by
  cases autoApprove with
  | true => exact ⟨sh, rfl, rfl⟩
  | false =>
    obtain ⟨hreply | ⟨failure, hcrash⟩, hsession⟩ := outcome_ask question sh
    · rw [(reply_eq_yes_iff question).2 (happroved.resolve_left (by decide))] at hreply
      rcases hask : (Script.ask question).outcome sh with ⟨result, asked⟩
      rw [hask] at hreply hsession
      obtain rfl : result = .ok .yes := hreply
      exact ⟨asked, hsession, Script.outcome_bind_ok hask⟩
    · exact absurd (Script.crashes_bind.2 (.inl ⟨failure, hcrash⟩)) h

/-! ## Applying -/

/-- What happens while a plan is applied. -/
def told (env : Environment) (config : Config) (plan : Plan) (s : Session) : List Event :=
  let follower := Report.Progress.follow (screenWidth env)
  ((config.apply (some follower) plan).outcome s).2.trace.drop s.trace.length

/-- The progress of a run when it has ended. -/
def finalProgress (env : Environment) (config : Config) (plan : Plan) (s : Session) :
    Report.Progress :=
  (told env config plan s).foldl Report.Progress.after { total := plan.actionable.length }

/-- What happens while a plan is applied tells of its changes only. -/
theorem tellsOf_told (env : Environment) (config : Config) (plan : Plan) (s : Session) :
    ∀ e ∈ told env config plan s, e.TellsOf plan.actionable := by
  obtain ⟨events, htrace, htells⟩ := config.follows_apply
    (some (Report.Progress.follow (screenWidth env))) plan s
  unfold told
  simpa only [htrace, List.drop_left] using htells

/-- What is going on in the end cannot be shown exactly if the address of the last change that was
started cannot. -/
theorem finalProgress_eq_error_iff {env : Environment} {s : Session} :
    (∃ fault, (finalProgress env config plan s).lines (screenWidth env) = .error fault) ↔
      ∃ c ∈ plan.actionable, c.LastStarted (told env config plan s) ∧
        Markup.Misclosed [] (Markup.tags ("[progress.description]" ++ c.address)) :=
  have hstart : '[' ∉ "Applying".toList := by decide
  Report.Progress.lines_after_eq_error_iff _ hstart (tellsOf_told env config plan s)

/-- What is going on in the end is the start of the run, or was announced for one of the changes. -/
theorem finalProgress_description {env : Environment} {P : String → Prop} (s : Session)
    (hstart : P "Applying")
    (h : ∀ c ∈ plan.actionable, P (Report.Progress.announcement c.address c.action)) :
    P (finalProgress env config plan s).description := by
  refine Report.Progress.description_after_events hstart fun address action hevent => ?_
  obtain ⟨c, hc, heq | heq⟩ := tellsOf_told env config plan s _ hevent rfl
  · cases heq
    exact h c hc
  · cases heq

theorem passes_putLines {lines : List String} (h : ∀ line ∈ lines, hasHalf line = false) :
    (putLines lines).Passes :=
  .forM fun text htext => Script.passes_put_out (by
    rw [CiVariables.Text.hasHalf_append, h text htext]
    rfl)

/-- Showing the progress for the last time crashes if it cannot be shown. -/
theorem crashes_lastLines {lines : Except Markup.Fault (List String)}
    {rest : Unit → Script Unit} (hlines : ∀ ls, lines = .ok ls → ∀ line ∈ ls, hasHalf line = false)
    (hrest : ∀ sh, ¬(rest ()).Crashes sh) :
    (match lines with
      | .ok lines => putLines lines >>= rest
      | .error fault => throw (Ending.crashed (.unshowable fault)) >>= rest).Crashes sh ↔
      ∃ fault, lines = .error fault := by
  cases lines with
  | error fault => exact iff_of_true ⟨.unshowable fault, rfl⟩ ⟨fault, rfl⟩
  | ok ls =>
    obtain ⟨shown, hput, -⟩ := passes_putLines (hlines ls rfl) sh
    simp only
    rw [Script.crashes_bind_ok hput]
    exact iff_of_false (hrest shown) nofun

theorem hasHalf_announcement {c : Change} (h : hasHalf c.address = false) :
    hasHalf (Report.Progress.announcement c.address c.action) = false := by
  have hdoing : hasHalf (Report.lookOf c.action).doing = false := by cases c.action <;> rfl
  unfold Report.Progress.announcement
  simp only [CiVariables.Text.hasHalf_append, h, hdoing]
  rfl

/-- What is shown of the progress in the end can be written if the addresses can. -/
theorem hasHalf_finalProgress {env : Environment} {s : Session} {lines : List String}
    (h : ∀ c ∈ plan.actionable, hasHalf c.address = false)
    (hlines : (finalProgress env config plan s).lines (screenWidth env) = .ok lines) :
    ∀ line ∈ lines, hasHalf line = false :=
  Report.Progress.hasHalf_lines
    (finalProgress_description (P := fun text => hasHalf text = false) s (by decide)
      fun c hc => hasHalf_announcement (h c hc)) hlines

/-- The notes of what happens can be written if the addresses can. -/
theorem passes_notes {cs : List Change} (h : ∀ c ∈ cs, hasHalf c.address = false) (screen : Nat)
    {events : List Event} (htells : ∀ e ∈ events, e.TellsOf cs) :
    (events.forM fun e =>
      putLines ((Report.Progress.noteLines screen e).toOption.getD [])).Passes := by
  refine .forM fun e he => passes_putLines ?_
  cases hnote : Report.Progress.noteLines screen e with
  | error fault => nofun
  | ok lines =>
    refine Report.Progress.hasHalf_noteLines ?_ hnote
    rintro address action rfl
    obtain ⟨c, hc, heq | heq⟩ := htells _ he rfl
    · cases heq
    · cases heq
      exact h c hc

/-- Applying a plan whose addresses can be written crashes if what is going on in the end cannot be
shown. -/
theorem crashes_applyPlan (h : ∀ c ∈ plan.actionable, hasHalf c.address = false) :
    (applyPlan setting color config plan).Crashes sh ↔
      ∃ fault, (finalProgress setting.env config plan sh.session).lines (screenWidth setting.env) =
        .error fault := by
  have hfinal : ∀ ls,
      (finalProgress setting.env config plan sh.session).lines (screenWidth setting.env) = .ok ls →
        ∀ line ∈ ls, hasHalf line = false := fun _ => hasHalf_finalProgress h
  obtain ⟨worked, -, hwork⟩ := Script.outcome_work setting
    (config.apply (some (Report.Progress.follow (screenWidth setting.env))) plan) sh
  obtain ⟨events, htrace, htells⟩ := config.follows_apply
    (some (Report.Progress.follow (screenWidth setting.env))) plan sh.session
  unfold applyPlan
  rw [Script.crashes_bind_ok hwork]
  unfold finalProgress told at hfinal ⊢
  simp only [htrace, List.drop_left] at hfinal ⊢
  obtain ⟨noted, hnoted, -⟩ := passes_notes h (screenWidth setting.env) htells worked
  rw [Script.crashes_bind_ok hnoted]
  cases ((config.apply (some (Report.Progress.follow (screenWidth setting.env))) plan).outcome
    sh.session).1 with
  | ok applied =>
    refine crashes_lastLines hfinal fun sh => Script.Passes.not_crashes ?_ sh
    exact (Script.passes_line rfl).bind
      (Script.passes_line (Report.hasHalf_applySummary color _))
  | error failure =>
    simp only
    rw [Script.crashes_bind_ok (Script.outcome_report setting color failure noted)]
    exact crashes_lastLines hfinal fun sh ⟨_, hcrash⟩ => by cases hcrash

/-- Asking and applying crash on the lines that were typed, or on the progress of what was approved.
-/
theorem crashes_approved (h : ∀ c ∈ plan.actionable, hasHalf c.address = false) :
    (do
      approve setting autoApprove question
      applyPlan setting color config plan).Crashes sh ↔
      autoApprove = false ∧ hasHalf (Prompt.ask question sh.input).1 = true ∨
        (autoApprove = true ∨ Prompt.Approves sh.input) ∧
          ∃ fault, (finalProgress setting.env config plan sh.session).lines
            (screenWidth setting.env) = .error fault := by
  rw [Script.crashes_bind, crashes_approve]
  constructor
  · rintro (hecho | ⟨_, asked, hrun, hcrash⟩)
    · exact .inl hecho
    · obtain ⟨hsession, happroved⟩ := approve_ok hrun
      exact .inr ⟨happroved, hsession ▸ (crashes_applyPlan h).1 hcrash⟩
  · rintro (hecho | ⟨happroved, hfault⟩)
    · exact .inl hecho
    · by_cases hecho : autoApprove = false ∧ hasHalf (Prompt.ask question sh.input).1 = true
      · exact .inl hecho
      · obtain ⟨asked, hsession, hrun⟩ := outcome_approve happroved (mt crashes_approve.1 hecho)
        exact .inr ⟨(), asked, hrun, (crashes_applyPlan h).2 (hsession ▸ hfault)⟩

/-! ## Reviewing -/

/-- What makes a run that reviews a plan crash. -/
inductive Trips (env : Environment) (color : Bool) (config : Config) (autoApprove : Bool)
    (question : String) (planFile : Option String) (plan : Plan) (sh : Shell) : Prop where
  /-- In a saved plan, a difference does not say from what to what an attribute changes. -/
  | incomplete {c : Change} (hfile : planFile ≠ none) (hc : c ∈ plan.actionable)
    (h : ¬c.IsComplete)
  /-- What is shown of the plan holds halves. -/
  | unwritable {text : String} (hchanges : plan.actionable ≠ [])
    (htext : Report.plan color plan = .ok text) (h : hasHalf text = true)
  /-- The lines that the user types hold halves. -/
  | echo (hchanges : plan.actionable ≠ []) (hasked : autoApprove = false)
    (h : hasHalf (Prompt.ask question sh.input).1 = true)
  /-- A saved plan is approved, and in the address of the change that is started last a tag closes
  nothing. -/
  | unshowable {c : Change} (hfile : planFile ≠ none)
    (happroved : autoApprove = true ∨ Prompt.Approves sh.input) (hc : c ∈ plan.actionable)
    (hlast : c.LastStarted (told env config plan sh.session))
    (h : Markup.Misclosed [] (Markup.tags ("[progress.description]" ++ c.address)))

/-- The plan was made, so that what is asked of a saved one is certain. -/
def IsSound (plan : Plan) : Prop :=
  ∀ c ∈ plan.actionable, c.IsComplete ∧ '[' ∉ c.address.toList

theorem IsSound.exists_lines {env : Environment} {s : Session} (h : IsSound plan) :
    ∃ lines, (finalProgress env config plan s).lines (screenWidth env) = .ok lines := by
  refine Report.Progress.exists_lines _ (finalProgress_description (P := ('[' ∉ ·.toList)) s
    (by decide) fun c hc => ?_)
  have hdoing : '[' ∉ (Report.lookOf c.action).doing.toList := by cases c.action <;> decide
  simp [Report.Progress.announcement, (h c hc).2, hdoing]

section Review

variable {nothing : String} {planFile : Option String} {start : Shell}

/-- Without changes there is a line to write, and nothing that could trip up the run. -/
theorem crashes_review_of_unchanged (hnothing : hasHalf nothing = false)
    (hchanges : plan.actionable = []) :
    (review setting color config autoApprove question nothing plan).Crashes sh ↔
      Trips setting.env color config autoApprove question planFile plan start := by
  have hquiet : Report.hasActionableChanges plan = false := by
    simp [Report.hasActionableChanges, hchanges]
  unfold review
  rw [hquiet]
  refine iff_of_false ((Script.passes_line hnothing).not_crashes sh) fun htrips => ?_
  cases htrips with
  | incomplete hfile hc => exact absurd (hchanges ▸ hc) List.not_mem_nil
  | unwritable h | echo h => exact h hchanges
  | unshowable _ _ hc => exact absurd (hchanges ▸ hc) List.not_mem_nil

/-- A plan that is shown leaves the question and the progress to crash on. -/
theorem crashes_review_of_shown {text : String} (htext : Report.plan color plan = .ok text)
    (hwhole : hasHalf text = false) (hchanges : plan.actionable ≠ []) :
    (review setting color config autoApprove question nothing plan).Crashes sh ↔
      autoApprove = false ∧ hasHalf (Prompt.ask question sh.input).1 = true ∨
        (autoApprove = true ∨ Prompt.Approves sh.input) ∧
          ∃ fault, (finalProgress setting.env config plan sh.session).lines
            (screenWidth setting.env) = .error fault := by
  have hactionable : Report.hasActionableChanges plan = true := by
    simp [Report.hasActionableChanges, hchanges]
  obtain ⟨printed, hshow, hprinted⟩ : ∃ printed,
      (showPlan setting color plan).outcome sh = (.ok (), printed) ∧ sh.Tells printed :=
    passes_showPlan htext hwhole sh
  obtain ⟨mid, hline, hmid⟩ : ∃ mid,
      (Script.line setting .out "").outcome printed = (.ok (), mid) ∧ printed.Tells mid :=
    Script.passes_line rfl printed
  have htells := hprinted.trans hmid
  unfold review
  rw [if_pos hactionable, Script.crashes_bind_ok hshow, Script.crashes_bind_ok hline,
    crashes_approved (Report.hasHalf_address htext hwhole), htells.input, htells.session]

/-- A plan that cannot be shown crashes the run. -/
theorem crashes_review_of_unshown (hchanges : plan.actionable ≠ [])
    (hshown : ∀ text, Report.plan color plan = .ok text → hasHalf text = true) :
    (review setting color config autoApprove question nothing plan).Crashes sh := by
  have hactionable : Report.hasActionableChanges plan = true := by
    simp [Report.hasActionableChanges, hchanges]
  unfold review
  rw [if_pos hactionable]
  exact Script.crashes_bind.2 (.inl (crashes_showPlan.2 hshown))

/-- A review crashes exactly if its plan trips it up. -/
theorem crashes_review (hnothing : hasHalf nothing = false) (hinput : sh.input = start.input)
    (hsaved : planFile ≠ none → sh.session = start.session)
    (hmade : planFile = none → IsSound plan) :
    (review setting color config autoApprove question nothing plan).Crashes sh ↔
      Trips setting.env color config autoApprove question planFile plan start := by
  -- Each of the three is a way of getting through the review up to where it can crash.
  by_cases hchanges : plan.actionable = []
  · exact crashes_review_of_unchanged hnothing hchanges
  by_cases hshown : ∀ text, Report.plan color plan = .ok text → hasHalf text = true
  · refine iff_of_true (crashes_review_of_unshown hchanges hshown) ?_
    by_cases hcomplete : ∀ c ∈ plan.actionable, c.IsComplete
    · obtain ⟨text, htext⟩ := (Report.plan_eq_ok_iff color).2 hcomplete
      exact .unwritable hchanges htext (hshown text htext)
    · obtain ⟨c, hc, hincomplete⟩ : ∃ c ∈ plan.actionable, ¬c.IsComplete := by
        simpa using hcomplete
      exact .incomplete (fun hnone => hincomplete (hmade hnone c hc).1) hc hincomplete
  obtain ⟨text, htext, hwhole⟩ : ∃ text,
      Report.plan color plan = .ok text ∧ hasHalf text = false := by
    simpa using hshown
  rw [crashes_review_of_shown htext hwhole hchanges, hinput]
  constructor
  · rintro (⟨hasked, hecho⟩ | ⟨happroved, fault, hfault⟩)
    · exact .echo hchanges hasked hecho
    · have hfile : planFile ≠ none := by
        intro hnone
        obtain ⟨lines, hlines⟩ := (hmade hnone).exists_lines
        cases hlines.symm.trans hfault
      obtain ⟨c, hc, hlast, hclosed⟩ := finalProgress_eq_error_iff.1 ⟨fault, hfault⟩
      exact .unshowable hfile happroved hc (hsaved hfile ▸ hlast) hclosed
  · intro htrips
    cases htrips with
    | incomplete hfile hc h => exact absurd ((Report.plan_eq_ok_iff color).1 ⟨text, htext⟩ _ hc) h
    | unwritable _ htext' h =>
      cases htext.symm.trans htext'
      cases hwhole.symm.trans h
    | echo _ hasked h => exact .inl ⟨hasked, h⟩
    | unshowable hfile happroved hc hlast h =>
      exact .inr ⟨happroved,
        finalProgress_eq_error_iff.2 ⟨_, hc, (hsaved hfile).symm ▸ hlast, h⟩⟩

end Review

/-! ## The commands -/

section Steps

variable {path : String} {destroy : Bool}

/-- Loading a file fails with a report only. -/
theorem safe_load (setting : Setting) (color : Bool) (path : String) :
    (load setting color path).Safe :=
  Script.safe_get.bind fun _ => Script.Safe.bind (Script.passes_writeLog _ _).not_crashes fun _ =>
    Script.safe_guarded _ _ _

theorem outcome_load (h : (Config.loadFile ⟨sh.files, setting.env⟩ path).1 = .ok config) :
    ∃ loaded, sh.Tells loaded ∧ (load setting color path).outcome sh = (.ok config, loaded) := by
  obtain ⟨loaded, hlog, htells⟩ := Script.passes_writeLog setting
    (Config.loadFile ⟨sh.files, setting.env⟩ path).2 sh
  refine ⟨loaded, htells, ?_⟩
  unfold load
  rw [Script.outcome_bind_ok (Script.outcome_get sh)]
  show (do
    Script.writeLog setting (Config.loadFile ⟨sh.files, setting.env⟩ path).2
    Script.guarded setting color (Config.loadFile ⟨sh.files, setting.env⟩ path).1 :
      Script Config).outcome sh = _
  rw [Script.outcome_bind_ok hlog, h]
  rfl

theorem safe_makePlan (setting : Setting) (color : Bool) (config : Config) (destroy : Bool) :
    (makePlan setting color config destroy).Safe :=
  (Script.safe_work _ _).bind fun _ => Script.safe_guarded _ _ _

theorem outcome_makePlan (h : ((config.plan setting.now destroy).outcome sh.session).1 = .ok plan) :
    ∃ made, made.input = sh.input ∧
      (makePlan setting color config destroy).outcome sh = (.ok plan, made) := by
  obtain ⟨made, htells, hwork⟩ :=
    Script.outcome_work setting (config.plan setting.now destroy) sh
  refine ⟨made, htells.input, ?_⟩
  unfold makePlan
  rw [Script.outcome_bind_ok hwork, h]
  rfl

end Steps

/-- The run is about a plan that trips it up. -/
def TripsUp (setting : Setting) (sh : Shell) (path : String) (planFile : Option String)
    (destroy autoApprove noColor : Bool) (question : String) : Prop :=
  ∃ config plan, (Config.loadFile ⟨sh.files, setting.env⟩ path).1 = .ok config ∧
    PlanFrom setting sh path planFile destroy plan ∧
    Trips setting.env (wantsColor setting.env noColor) config autoApprove question planFile plan sh

/-- Where a plan comes from does not depend on what was told, or on how log lines are shown. -/
theorem planFrom_tells {logging : Logging} {started : Shell} (h : sh.Tells started) {path : String}
    {planFile : Option String} {destroy : Bool}
    (hplan : PlanFrom setting sh path planFile destroy plan) :
    PlanFrom { setting with logging := logging } started path planFile destroy plan := by
  unfold PlanFrom at hplan ⊢
  rwa [h.files, h.session]

/-- The plan that a run is about, read or made. -/
def takePlan (setting : Setting) (color : Bool) (config : Config) (planFile : Option String)
    (destroy : Bool) : Script Plan := do
  match planFile with
  | some file => Script.guarded setting color (readPlan setting.now (← get).files file)
  | none => makePlan setting color config destroy

/-- The run of a command that asks before it applies a plan. -/
def reviewed (setting : Setting) (path : String) (planFile : Option String)
    (destroy autoApprove noColor : Bool) (question nothing : String) : Script Ending := do
  let color := wantsColor setting.env noColor
  let config ← load setting color path
  let plan ← takePlan setting color config planFile destroy
  review setting color config autoApprove question nothing plan
  pure .done

theorem run_apply (setting : Setting) (planFile : Option String) (path : String)
    (autoApprove noColor : Bool) :
    run setting (.apply planFile path autoApprove noColor) =
      reviewed setting path planFile false autoApprove noColor
        "Do you want to apply these changes?" Report.noChanges := by
  cases planFile <;> rfl

theorem run_destroy (setting : Setting) (path : String) (autoApprove noColor : Bool) :
    run setting (.destroy path autoApprove noColor) =
      reviewed setting path none true autoApprove noColor
        "Do you really want to destroy all declared variables?" "No variables to destroy." := rfl

section Taking

variable {path : String} {planFile : Option String} {destroy : Bool}

theorem safe_takePlan (setting : Setting) (color : Bool) (config : Config)
    (planFile : Option String) (destroy : Bool) :
    (takePlan setting color config planFile destroy).Safe := by
  cases planFile with
  | some file => exact Script.safe_get.bind fun _ => Script.safe_guarded _ _ _
  | none => exact safe_makePlan _ _ _ _

theorem outcome_takePlan (hconfig : (Config.loadFile ⟨sh.files, setting.env⟩ path).1 = .ok config)
    (h : PlanFrom setting sh path planFile destroy plan) :
    ∃ mid, (takePlan setting color config planFile destroy).outcome sh = (.ok plan, mid) := by
  cases planFile with
  | some file =>
    refine ⟨sh, ?_⟩
    unfold takePlan
    rw [Script.outcome_bind_ok (Script.outcome_get sh), show readPlan _ _ file = .ok plan from h]
    rfl
  | none =>
    obtain ⟨config', hconfig', hplan⟩ := h
    cases hconfig.symm.trans hconfig'
    obtain ⟨made, -, hmake⟩ : ∃ made, made.input = sh.input ∧
        (makePlan setting color config destroy).outcome sh = (.ok plan, made) :=
      outcome_makePlan hplan
    exact ⟨made, hmake⟩

/-- A plan that was taken is the one that the run is about; one that was made is sound. -/
theorem takePlan_ok {mid : Shell}
    (hconfig : (Config.loadFile ⟨sh.files, setting.env⟩ path).1 = .ok config)
    (h : (takePlan setting color config planFile destroy).outcome sh = (.ok plan, mid)) :
    PlanFrom setting sh path planFile destroy plan ∧ mid.input = sh.input ∧
      (planFile ≠ none → mid.session = sh.session) ∧ (planFile = none → IsSound plan) := by
  cases planFile with
  | some file =>
    unfold takePlan at h
    rw [Script.outcome_bind_ok (Script.outcome_get sh)] at h
    obtain ⟨hplan, rfl⟩ := Script.guarded_ok h
    exact ⟨hplan, rfl, fun _ => rfl, nofun⟩
  | none =>
    have hplan := makePlan_ok h
    have haccepted := Config.accepted_of_loadFile hconfig
    refine ⟨⟨config, hconfig, hplan⟩, ((makePlan_looks _ _ _ _).of_outcome h).input,
      (absurd rfl ·), fun _ c hc => ⟨config.complete_of_plan hplan c hc, ?_⟩⟩
    exact Config.noBrackets_of_plan haccepted hplan c hc

end Taking

/-- A run crashes if its plan trips it up. How log lines are shown, and what was told before, does
not matter. -/
theorem crashes_reviewed {logging : Logging} {start : Shell} {path nothing : String}
    {planFile : Option String} {destroy noColor : Bool} (hnothing : hasHalf nothing = false)
    (hstart : start.Tells sh) :
    (reviewed { setting with logging := logging } path planFile destroy autoApprove noColor question
      nothing).Crashes sh ↔
      TripsUp setting start path planFile destroy autoApprove noColor question := by
  unfold reviewed
  constructor
  · intro hcrash
    -- Neither loading nor taking the plan can crash, so the review of the plan did.
    obtain hload | ⟨config, loaded, hload, hcrash⟩ := Script.crashes_bind.1 hcrash
    · exact absurd hload (safe_load _ _ _ sh)
    have htells := hstart.trans ((telling_load _ _ _).of_outcome hload)
    have hconfig := hstart.files ▸ load_ok hload
    obtain htake | ⟨plan, mid, htake, hcrash⟩ := Script.crashes_bind.1 hcrash
    · exact absurd htake (safe_takePlan _ _ _ _ _ loaded)
    obtain ⟨hplan, hinput, hsaved, hmade⟩ := takePlan_ok (htells.files ▸ hconfig) htake
    obtain hreview | ⟨_, _, -, hpure⟩ := Script.crashes_bind.1 hcrash
    · refine ⟨config, plan, hconfig, planFrom_of_tells htells hplan, ?_⟩
      have htrips := (crashes_review hnothing (hinput.trans htells.input)
        (fun hfile => (hsaved hfile).trans htells.session) hmade).1 hreview
      exact htrips
    · exact absurd hpure (Script.safe_pure _ _)
  · rintro ⟨config, plan, hconfig, hplan, htrips⟩
    obtain ⟨loaded, hloaded, hload⟩ : ∃ loaded, sh.Tells loaded ∧
        (load { setting with logging := logging } (wantsColor setting.env noColor)
          path).outcome sh = (.ok config, loaded) := outcome_load (hstart.files.symm ▸ hconfig)
    have htells := hstart.trans hloaded
    obtain ⟨mid, htake⟩ : ∃ mid, (takePlan { setting with logging := logging }
        (wantsColor setting.env noColor) config planFile destroy).outcome loaded =
          (.ok plan, mid) :=
      outcome_takePlan (htells.files.symm ▸ hconfig) (planFrom_tells htells hplan)
    obtain ⟨-, hinput, hsaved, hmade⟩ := takePlan_ok (htells.files.symm ▸ hconfig) htake
    simp only
    rw [Script.crashes_bind_ok hload, Script.crashes_bind_ok htake, Script.crashes_bind]
    exact .inl ((crashes_review hnothing (hinput.trans htells.input)
      (fun hfile => (hsaved hfile).trans htells.session) hmade).2 htrips)

end Cli.Command

end CiVariables
