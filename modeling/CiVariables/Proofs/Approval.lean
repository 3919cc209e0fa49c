import CiVariables.Proofs.Answers
import CiVariables.Proofs.Identities
import CiVariables.Proofs.Script

/-!
# Nothing is written without approval

Whatever the files, the service, its faults and the user's lines are: `validate` does not touch the
session, `plan` only looks, and `apply` and `destroy` write only after they have shown a plan with
changes and were told to go on, by an option or by a line that says yes
(`Cli.writes_need_approval`). What they write then are requests of the changes that were shown, in
their order.
-/

namespace CiVariables

/-! ## Sessions -/

/-- Between two sessions the service was only looked at. -/
structure Session.Looks (s s' : Session) : Prop where
  calls : ∃ calls, s'.calls = s.calls ++ calls ∧ ∀ c ∈ calls, c.method = .get
  entries : s'.remote.entries = s.remote.entries

namespace Session.Looks

theorem refl (s : Session) : s.Looks s := ⟨⟨[], by simp, nofun⟩, rfl⟩

theorem trans {s s' s'' : Session} (h : s.Looks s') (h' : s'.Looks s'') : s.Looks s'' := by
  obtain ⟨calls, hcalls, honly⟩ := h.calls
  obtain ⟨more, hmore, honly'⟩ := h'.calls
  refine ⟨⟨calls ++ more, ?_, fun c hc => ?_⟩, h'.entries.trans h.entries⟩
  · rw [hmore, hcalls, List.append_assoc]
  · exact (List.mem_append.1 hc).elim (honly c) (honly' c)

end Session.Looks

/-- The kind of call that an action makes. -/
def Action.method? : Action → Option Method
  | .create => some .create
  | .update => some .update
  | .delete => some .delete
  | .keep => none

/-- The call is the request of the change, and of the kind of its action. -/
def Change.Requests (c : Change) (call : Call) : Prop :=
  c.action.method? = some call.method ∧ ∃ w, c.write? (.ok ()) = .ok w ∧ call = w.call

/-- Between two sessions the calls that may change something are requests of some of the changes,
one of each, in their order. -/
def Session.Requests (s s' : Session) (cs : List Change) : Prop :=
  ∃ sent calls, sent.Sublist cs ∧ List.Forall₂ Change.Requests sent calls ∧
    s'.writes = s.writes ++ calls

theorem Session.Requests.none (s : Session) (cs : List Change) : s.Requests s cs :=
  ⟨[], [], List.nil_sublist _, .nil, (List.append_nil _).symm⟩

/-- What is sent for a change is one of its requests. -/
theorem Change.requests_of_write? {c : Change} {reach : Except Failure Unit} {w : Write}
    (h : c.write? reach = .ok w) : c.Requests w.call := by
  obtain ⟨rfl, d, n, -, -, hsends⟩ := write?_eq_ok h
  refine ⟨?_, w, h, rfl⟩
  generalize c.action = a at hsends ⊢
  cases hsends <;> rfl

/-- The calls of executions are requests of those that could be sent. -/
theorem Execution.requests (xs : List Execution) :
    ∃ sent, sent.Sublist (xs.map Execution.change) ∧
      List.Forall₂ Change.Requests sent (xs.flatMap Execution.calls) := by
  induction xs with
  | nil => exact ⟨[], .slnil, .nil⟩
  | cons x rest ih =>
    obtain ⟨sent, hsent, hrequests⟩ := ih
    rw [List.flatMap_cons]
    cases hw : x.change.write? x.reach with
    | error failure =>
      have hcalls : x.calls = [] := by simp only [Execution.calls, hw, Write.callsOf]
      exact ⟨sent, hsent.cons _, by rwa [hcalls]⟩
    | ok w =>
      have hcalls : x.calls = [w.call] := by simp only [Execution.calls, hw, Write.callsOf]
      refine ⟨x.change :: sent, hsent.cons_cons _, ?_⟩
      rw [hcalls]
      exact .cons (Change.requests_of_write? hw) hrequests

namespace Config

variable (c : Config)

theorem outcome_engineWork {α : Type} (work : Provider → Work α) (s : Session) :
    (c.engineWork work).outcome s = match c.provider with
      | .error failure => (.error failure, s)
      | .ok p => (work p).outcome { s with isConnected := false } := by
  unfold engineWork
  cases c.provider <;> rfl

/-- Making a plan only looks at the service. -/
theorem looks_plan (now : Timestamp) (destroy : Bool) (s : Session) :
    s.Looks ((c.plan now destroy).outcome s).2 := by
  unfold Config.plan
  rw [outcome_engineWork]
  cases c.provider with
  | error failure => exact .refl s
  | ok p =>
    obtain ⟨calls, result, s', hends, hgrows, hrun⟩ := Planning.outcome_plan_ends p now destroy
      c.declarations { s with isConnected := false }
    simp only [hrun]
    exact ⟨⟨calls, hgrows.calls, hends.only_get⟩, hends.entries⟩

/-- A run sends requests of the actionable changes of its plan, in their order. -/
theorem requests_apply (follower : Option Applying.Follower) (p : Plan) (s : Session) :
    s.Requests ((c.apply follower p).outcome s).2 p.actionable := by
  unfold Config.apply
  rw [outcome_engineWork]
  cases c.provider with
  | error failure => exact .none s _
  | ok provider =>
    obtain ⟨xs, hexecuted, hchanges⟩ := Applying.executes_apply provider follower p
      { s with isConnected := false }
    obtain ⟨sent, hsent, hrequests⟩ := Execution.requests xs
    exact ⟨sent, _, hsent.trans hchanges, hrequests, hexecuted.writes⟩

end Config

namespace Cli

/-! ## Up to the question -/

/-- Between two shells the service was only looked at, and nothing the user typed was read. -/
structure Shell.Looks (sh sh' : Shell) : Prop where
  session : sh.session.Looks sh'.session
  input : sh'.input = sh.input

theorem Shell.Looks.trans {sh sh' sh'' : Shell} (h : sh.Looks sh') (h' : sh'.Looks sh'') :
    sh.Looks sh'' :=
  ⟨h.session.trans h'.session, h'.input.trans h.input⟩

theorem Shell.Tells.looks {sh sh' : Shell} (h : sh.Tells sh') : sh.Looks sh' :=
  ⟨h.session ▸ .refl _, h.input⟩

namespace Command

variable {setting : Setting} {color : Bool} {config : Config} {path : String} {plan : Plan}
  {sh sh' : Shell}

theorem telling_load (setting : Setting) (color : Bool) (path : String) :
    (load setting color path).Telling :=
  Script.Telling.bind .refl fun _ => (Script.telling_writeLog _ _).bind fun _ =>
    Script.telling_guarded _ _ _

/-- What loading gives is what the loader accepted. -/
theorem load_ok (h : (load setting color path).outcome sh = (.ok config, sh')) :
    (Config.loadFile ⟨sh.files, setting.env⟩ path).1 = .ok config := by
  obtain ⟨_, _, hfail⟩ | ⟨_, _, hget, h⟩ := Script.bind_cases h
  · cases hfail
  · cases hget
    obtain ⟨_, _, hfail⟩ | ⟨_, _, -, h⟩ := Script.bind_cases h
    · cases hfail
    · exact (Script.guarded_ok h).1

theorem makePlan_looks (setting : Setting) (color : Bool) (config : Config) (destroy : Bool) :
    (makePlan setting color config destroy).Within Shell.Looks := by
  refine Script.Within.bind .trans (fun sh => ?_) fun _ sh =>
    (Script.telling_guarded setting color _ sh).looks
  obtain ⟨worked, htells, hrun⟩ :=
    Script.outcome_work setting (config.plan setting.now destroy) sh
  have hlooks : sh.Looks
      { sh with session := ((config.plan setting.now destroy).outcome sh.session).2 } :=
    ⟨config.looks_plan setting.now destroy sh.session, rfl⟩
  rw [hrun]
  exact hlooks.trans htells.looks

/-- The plan that was made is that of the engine. -/
theorem makePlan_ok {destroy : Bool}
    (h : (makePlan setting color config destroy).outcome sh = (.ok plan, sh')) :
    ((config.plan setting.now destroy).outcome sh.session).1 = .ok plan := by
  obtain ⟨worked, -, hrun⟩ := Script.outcome_work setting (config.plan setting.now destroy) sh
  unfold makePlan at h
  rw [Script.outcome_bind_ok hrun] at h
  exact (Script.guarded_ok h).1

theorem telling_showPlan (setting : Setting) (color : Bool) (plan : Plan) :
    (showPlan setting color plan).Telling :=
  (Script.telling_unguarded _).bind fun _ => (Script.telling_line _ _ _).bind fun _ =>
    (Script.telling_line _ _ _).bind fun _ => Script.telling_line _ _ _

/-- The texts that show a plan and its counts. -/
def planTexts (setting : Setting) (color : Bool) (plan : Plan) (text : String) : List Written :=
  [text, "", Report.planSummary color plan.summary].map fun text =>
    ⟨.out, Script.shown setting (text ++ "\n")⟩

/-- What a plan that is shown adds to what was written. -/
theorem showPlan_ok (h : (showPlan setting color plan).outcome sh = (.ok (), sh')) :
    ∃ text, Report.plan color plan = .ok text ∧
      sh' = sh.told (planTexts setting color plan text) := by
  obtain ⟨_, _, hfail⟩ | ⟨text, before, hshown, hlines⟩ := Script.bind_cases h
  · cases hfail
  obtain ⟨htext, hbefore⟩ := Script.unguarded_ok hshown
  obtain ⟨_, _, hfail⟩ | ⟨_, _, hfirst, hrest⟩ := Script.bind_cases hlines
  · cases hfail
  obtain ⟨_, _, hfail⟩ | ⟨_, _, hsecond, hthird⟩ := Script.bind_cases hrest
  · cases hfail
  refine ⟨text, htext, ?_⟩
  rw [Script.line_ok hthird, Script.line_ok hsecond, Script.line_ok hfirst, Shell.told_told,
    Shell.told_told, hbefore]
  rfl

/-! ## The question -/

/-- What came of a question, from the lines that the user types. -/
def reply (question : String) (sh : Shell) : Reply := (Prompt.ask question sh.input).2.1

/-- Asking is answered with yes exactly if the lines that are typed approve. -/
theorem reply_eq_yes_iff (question : String) :
    reply question sh = .yes ↔ Prompt.Approves sh.input := Prompt.ask_eq_yes_iff question sh.input

/-- The question is shown with the lines that were typed, and the other lines are left. -/
theorem outcome_ask_eq (question : String) (sh : Shell) :
    (Script.ask question).outcome sh =
      (do
        Script.put .out (Prompt.ask question sh.input).1
        pure (reply question sh) : Script Reply).outcome
          { sh with input := (Prompt.ask question sh.input).2.2 } := by
  unfold Script.ask
  rw [Script.outcome_bind_ok (Script.outcome_get sh)]
  exact Script.outcome_bind_ok (Script.outcome_set _ _)

/-- Asking gives the reply, unless the lines that were typed cannot be shown. -/
theorem outcome_ask (question : String) (sh : Shell) :
    (((Script.ask question).outcome sh).1 = .ok (reply question sh) ∨
      ∃ failure, ((Script.ask question).outcome sh).1 = .error (.crashed failure)) ∧
    ((Script.ask question).outcome sh).2.session = sh.session := by
  rw [outcome_ask_eq, Script.outcome_bind, Script.outcome_put_out]
  cases Script.unwritable? (Prompt.ask question sh.input).1 with
  | none => exact ⟨.inl rfl, rfl⟩
  | some failure => exact ⟨.inr ⟨failure, rfl⟩, rfl⟩

/-- Without an option or an answer that says to go on, the run ends with the code of a failure. -/
theorem approve_cases {autoApprove : Bool} {question : String} {result : Except Ending Unit}
    (h : (approve setting autoApprove question).outcome sh = (result, sh')) :
    sh'.session = sh.session ∧
      ((autoApprove = true ∨ Prompt.Approves sh.input) ∨
        autoApprove = false ∧ ¬Prompt.Approves sh.input ∧
          ∃ ending, result = .error ending ∧ ending.exitCode = 1) := by
  rw [← reply_eq_yes_iff question]
  cases autoApprove with
  | true =>
    cases h
    exact ⟨rfl, .inl (.inl rfl)⟩
  | false =>
    obtain ⟨hreply, hsession⟩ := outcome_ask question sh
    obtain ⟨ending, hask, rfl⟩ | ⟨answer, mid, hask, h⟩ := Script.bind_cases h
    · rw [hask] at hreply hsession
      refine ⟨hsession, ?_⟩
      obtain hreply | ⟨failure, hcrashed⟩ := hreply
      · cases hreply
      · cases hcrashed
        by_cases hyes : reply question sh = .yes
        · exact .inl (.inr hyes)
        · exact .inr ⟨rfl, hyes, _, rfl, rfl⟩
    · rw [hask] at hreply hsession
      obtain hreply | ⟨failure, hcrashed⟩ := hreply
      · obtain rfl := Except.ok.inj hreply
        generalize reply question sh = answer at h ⊢
        cases answer with
        | yes =>
          cases h
          exact ⟨hsession, .inl (.inr rfl)⟩
        | no =>
          cases h
          exact ⟨hsession, .inr ⟨rfl, nofun, _, rfl, rfl⟩⟩
        | ended =>
          cases h
          exact ⟨hsession, .inr ⟨rfl, nofun, _, rfl, rfl⟩⟩
      · cases hcrashed

/-! ## Applying -/

theorem telling_putLines (lines : List String) : (putLines lines).Telling :=
  .forM (fun _ => Script.telling_put _ _) lines

/-- The last progress line, if it can be shown, and what is told after it. -/
theorem telling_lastLines (lines : Except Terminal.Markup.Fault (List String))
    {rest : Unit → Script Unit} (hrest : ∀ u, (rest u).Telling) :
    (match lines with
      | .ok lines => putLines lines >>= rest
      | .error fault => throw (Ending.crashed (.unshowable fault)) >>= rest).Telling := by
  cases lines with
  | ok lines => exact (telling_putLines lines).bind hrest
  | error fault => exact (Script.Telling.throw _).bind hrest

/-- Telling of the progress and of how a run ended changes nothing else. -/
theorem applyPlan_session (setting : Setting) (color : Bool) (config : Config) (plan : Plan)
    (sh : Shell) : ((applyPlan setting color config plan).outcome sh).2.session =
      ((config.apply (some (Report.Progress.follow (screenWidth setting.env))) plan).outcome
        sh.session).2 := by
  obtain ⟨worked, hworked, hwork⟩ := Script.outcome_work setting
    (config.apply (some (Report.Progress.follow (screenWidth setting.env))) plan) sh
  unfold applyPlan
  rw [Script.outcome_bind_ok hwork]
  refine Eq.trans (Shell.Tells.session ?_) hworked.session
  refine Script.Telling.bind (.forM (fun _ => telling_putLines _) _) (fun _ => ?_) worked
  cases ((config.apply (some (Report.Progress.follow (screenWidth setting.env))) plan).outcome
    sh.session).1 with
  | ok applied =>
    exact telling_lastLines _ fun _ =>
      (Script.telling_line _ _ _).bind fun _ => Script.telling_line _ _ _
  | error failure =>
    exact (Script.telling_report _ _ _).bind fun _ => telling_lastLines _ fun _ => .throw _

end Command

/-- The last texts that were written show the plan and its counts, as they stand before a question.
-/
def Shell.Shows (sh : Shell) (setting : Setting) (color : Bool) (plan : Plan) : Prop :=
  ∃ text before, Report.plan color plan = .ok text ∧
    sh.written = before ++ Command.planTexts setting color plan text ++
      [⟨.out, Script.shown setting "\n"⟩]

/-- How a run that asks before it applies a plan ends. `IsPlan` says which plan it is about. -/
inductive Reviewed (setting : Setting) (color autoApprove : Bool) (IsPlan : Plan → Prop)
    (sh : Shell) : Ending → Shell → Prop where
  /-- Nobody was asked, and nothing was applied. -/
  | unasked {ending : Ending} {sh' : Shell} (h : sh.Looks sh') :
    Reviewed setting color autoApprove IsPlan sh ending sh'
  /-- The plan was shown, and the first line that answers, if there is one, does not say yes. -/
  | refused {plan : Plan} {mid sh' : Shell} {ending : Ending} (hplan : IsPlan plan)
    (hchanges : plan.actionable ≠ []) (hlooks : sh.Looks mid)
    (hshown : mid.Shows setting color plan) (hauto : autoApprove = false)
    (hreply : ¬Prompt.Approves mid.input) (hending : ending.exitCode = 1)
    (hsession : sh'.session = mid.session) :
    Reviewed setting color autoApprove IsPlan sh ending sh'
  /-- The plan was shown, and approved by an option or by the first line that answers. -/
  | approved {plan : Plan} {mid sh' : Shell} {ending : Ending} (hplan : IsPlan plan)
    (hchanges : plan.actionable ≠ []) (hlooks : sh.Looks mid)
    (hshown : mid.Shows setting color plan)
    (happroved : autoApprove = true ∨ Prompt.Approves mid.input)
    (hrequests : mid.session.Requests sh'.session plan.actionable) :
    Reviewed setting color autoApprove IsPlan sh ending sh'

/-- What was only looked at before, and how log lines are shown, does not change how the run ends.
-/
theorem Reviewed.of_looks {setting : Setting} {logging : Logging} {color autoApprove : Bool}
    {IsPlan IsPlan' : Plan → Prop} {sh sh₁ sh' : Shell} {ending : Ending}
    (h : sh.Looks sh₁) (hiff : ∀ p, IsPlan p → IsPlan' p)
    (hreviewed :
      Reviewed { setting with logging } color autoApprove IsPlan sh₁ ending sh') :
    Reviewed setting color autoApprove IsPlan' sh ending sh' := by
  cases hreviewed with
  | unasked hlooks => exact .unasked (h.trans hlooks)
  | refused hplan hchanges hlooks hshown hauto hreply hending hsession =>
    exact .refused (hiff _ hplan) hchanges (h.trans hlooks) hshown hauto hreply hending hsession
  | approved hplan hchanges hlooks hshown happroved hrequests =>
    exact .approved (hiff _ hplan) hchanges (h.trans hlooks) hshown happroved hrequests

/-- How a run ends, early or not. -/
def endingOf : Except Ending Ending → Ending
  | .ok ending => ending
  | .error ending => ending

namespace Command

variable {setting : Setting} {color autoApprove : Bool} {config : Config} {path : String}
  {question : String} {IsPlan : Plan → Prop} {plan : Plan} {sh sh' : Shell}

/-- A review that ends is one of the ways of reviewing. -/
theorem reviewed_review {nothing : String} {result : Except Ending Unit} (hplan : IsPlan plan)
    (h : (review setting color config autoApprove question nothing plan).outcome sh =
      (result, sh')) :
    Reviewed setting color autoApprove IsPlan sh
      (endingOf (result.map fun _ => .done)) sh' := by
  unfold review at h
  split at h
  · next hactionable =>
    have hchanges : plan.actionable ≠ [] := by
      intro hnil
      simp [Report.hasActionableChanges, hnil] at hactionable
    obtain ⟨_, hfail, -⟩ | ⟨_, printed, hshow, hrest⟩ := Script.bind_cases h
    · exact .unasked ((telling_showPlan _ _ _).of_outcome hfail).looks
    have hprinted := ((telling_showPlan _ _ _).of_outcome hshow).looks
    obtain ⟨text, htext, rfl⟩ := showPlan_ok hshow
    obtain ⟨_, hfail, -⟩ | ⟨_, mid, hline, hasked⟩ := Script.bind_cases hrest
    · exact .unasked (hprinted.trans ((Script.telling_line _ _ _).of_outcome hfail).looks)
    have hmid := hprinted.trans ((Script.telling_line _ _ _).of_outcome hline).looks
    have hshown : mid.Shows setting color plan :=
      ⟨text, sh.written, htext, by rw [Script.line_ok hline]; rfl⟩
    obtain ⟨ending, hended, rfl⟩ | ⟨_, asked, happrove, happly⟩ := Script.bind_cases hasked
    · obtain ⟨hsession, happroved | ⟨hauto, hreply, _, hresult, hcode⟩⟩ := approve_cases hended
      · exact .approved hplan hchanges hmid hshown happroved (hsession ▸ .none _ _)
      · cases hresult
        exact .refused hplan hchanges hmid hshown hauto hreply hcode hsession
    · obtain ⟨hsession, happroved | ⟨-, -, _, hresult, -⟩⟩ := approve_cases happrove
      · refine .approved hplan hchanges hmid hshown happroved ?_
        have happlied := applyPlan_session setting color config plan asked
        rw [happly] at happlied
        rw [happlied, ← hsession]
        exact config.requests_apply _ plan asked.session
      · cases hresult
  · exact .unasked ((Script.telling_line _ _ _).of_outcome h).looks

/-! ## The commands -/

/-- The plan that a run is about: the one in the file that is named, or the one that is made for the
declaration file. -/
def PlanFrom (setting : Setting) (sh : Shell) (path : String) (planFile : Option String)
    (destroy : Bool) (p : Plan) : Prop :=
  match planFile with
  | some file => readPlan setting.now sh.files file = .ok p
  | none => ∃ config, (Config.loadFile ⟨sh.files, setting.env⟩ path).1 = .ok config ∧
      ((config.plan setting.now destroy).outcome sh.session).1 = .ok p

/-- How log lines are shown, and what was told before, does not change which plan it is. -/
theorem planFrom_of_tells {logging : Logging} {started : Shell} (h : sh.Tells started)
    {planFile : Option String} {destroy : Bool}
    (hplan : PlanFrom { setting with logging := logging } started path planFile destroy plan) :
    PlanFrom setting sh path planFile destroy plan := by
  unfold PlanFrom at hplan ⊢
  rwa [h.files, h.session] at hplan

theorem telling_validate (noColor : Bool) : (run setting (.validate path noColor)).Telling :=
  (telling_load _ _ _).bind fun _ => (Script.telling_line _ _ _).bind fun _ => .pure _

/-- Saving changes files, and if it does not end the run the text of the plan has been written. -/
theorem savePlan_cases {result : Except Ending Unit}
    (h : (savePlan setting plan path).outcome sh = (result, sh')) :
    sh'.session = sh.session ∧ (result = .ok () → ∃ parents text,
      sh.files.makeParents path = .ok parents ∧ plan.toText = .ok text ∧
        parents.write path text.toUTF8.toList = .ok sh'.files) := by
  unfold savePlan at h
  rw [Script.outcome_bind_ok (Script.outcome_get sh)] at h
  obtain ⟨_, hfail, rfl⟩ | ⟨parents, _, hmake, hset⟩ := Script.bind_cases h
  · exact ⟨((Script.telling_unguarded _).of_outcome hfail).session, nofun⟩
  obtain ⟨hparents, rfl⟩ := Script.unguarded_ok hmake
  rw [Script.outcome_bind_ok (Script.outcome_set _ _)] at hset
  obtain ⟨_, hfail, rfl⟩ | ⟨text, _, hprint, hwrite⟩ := Script.bind_cases hset
  · exact ⟨((Script.telling_unguarded _).of_outcome hfail).session, nofun⟩
  obtain ⟨htext, rfl⟩ := Script.unguarded_ok hprint
  obtain ⟨_, hfail, rfl⟩ | ⟨files, _, hput, hlast⟩ := Script.bind_cases hwrite
  · exact ⟨((Script.telling_unguarded _).of_outcome hfail).session, nofun⟩
  obtain ⟨hfiles, rfl⟩ := Script.unguarded_ok hput
  rw [Script.outcome_bind_ok (Script.outcome_set _ _)] at hlast
  have htold := (Script.telling_line _ _ _).of_outcome hlast
  exact ⟨htold.session, fun _ => ⟨parents, text, hparents, htext, by rw [hfiles, htold.files]⟩⟩

/-- The command that plans only looks at the service. -/
theorem looks_plan (setting : Setting) (path : String) (out : Option String) (noColor : Bool)
    (sh : Shell) :
    sh.session.Looks ((run setting (.plan path out noColor)).outcome sh).2.session := by
  rcases hrun : (run setting (.plan path out noColor)).outcome sh with ⟨result, sh'⟩
  obtain ⟨_, hfail, -⟩ | ⟨config, loaded, hload, hrest⟩ := Script.bind_cases hrun
  · exact ((telling_load _ _ _).of_outcome hfail).looks.session
  have hloaded := ((telling_load _ _ _).of_outcome hload).looks
  obtain ⟨_, hfail, -⟩ | ⟨plan, made, hmake, hshowing⟩ := Script.bind_cases hrest
  · exact (hloaded.trans ((makePlan_looks _ _ _ _).of_outcome hfail)).session
  have hmade := hloaded.trans ((makePlan_looks _ _ _ _).of_outcome hmake)
  obtain ⟨_, hfail, -⟩ | ⟨_, printed, hshow, hsaving⟩ := Script.bind_cases hshowing
  · exact (hmade.trans ((telling_showPlan _ _ _).of_outcome hfail).looks).session
  have hprinted := (hmade.trans ((telling_showPlan _ _ _).of_outcome hshow).looks).session
  cases out with
  | none =>
    cases hsaving
    exact hprinted
  | some file =>
    obtain ⟨_, hsave, -⟩ | ⟨_, _, hsave, hlast⟩ := Script.bind_cases hsaving
    · exact (savePlan_cases hsave).1 ▸ hprinted
    · cases hlast
      exact (savePlan_cases hsave).1 ▸ hprinted

theorem reviewed_done {nothing : String} {result : Except Ending Ending} {IsPlan : Plan → Prop}
    (hplan : IsPlan plan)
    (h : (do
      review setting color config autoApprove question nothing plan
      pure .done : Script Ending).outcome sh = (result, sh')) :
    Reviewed setting color autoApprove IsPlan sh (endingOf result) sh' := by
  obtain ⟨ending, hreview, rfl⟩ | ⟨_, mid, hreview, hpure⟩ := Script.bind_cases h
  · exact reviewed_review hplan hreview
  · cases hpure
    exact reviewed_review hplan hreview

/-- A plan that is made for a configuration, and then asked about. -/
theorem reviewed_made {destroy : Bool} {nothing : String} {result : Except Ending Ending}
    (h : (do
      let plan ← makePlan setting color config destroy
      review setting color config autoApprove question nothing plan
      pure .done : Script Ending).outcome sh = (result, sh')) :
    Reviewed setting color autoApprove
      (fun p => ((config.plan setting.now destroy).outcome sh.session).1 = .ok p) sh
      (endingOf result) sh' := by
  obtain ⟨_, hfail, -⟩ | ⟨plan, made, hmake, hreview⟩ := Script.bind_cases h
  · exact .unasked ((makePlan_looks _ _ _ _).of_outcome hfail)
  · have hmade := (makePlan_looks _ _ _ _).of_outcome hmake
    exact (reviewed_done (makePlan_ok hmake) hreview).of_looks hmade fun _ => id

/-- The command that applies reviews a plan that was read or made. -/
theorem reviewed_apply {planFile : Option String} {noColor : Bool}
    {result : Except Ending Ending}
    (h : (run setting (.apply planFile path autoApprove noColor)).outcome sh = (result, sh')) :
    Reviewed setting (wantsColor setting.env noColor) autoApprove
      (PlanFrom setting sh path planFile false) sh (endingOf result) sh' := by
  obtain ⟨_, hfail, -⟩ | ⟨config, loaded, hload, hrest⟩ := Script.bind_cases h
  · exact .unasked ((telling_load _ _ _).of_outcome hfail).looks
  have hloaded := (telling_load _ _ _).of_outcome hload
  cases planFile with
  | some file =>
    rw [Script.outcome_bind_ok (Script.outcome_get loaded)] at hrest
    obtain ⟨_, hfail, -⟩ | ⟨plan, _, hread, hreview⟩ := Script.bind_cases hrest
    · exact .unasked
        (hloaded.looks.trans ((Script.telling_guarded _ _ _).of_outcome hfail).looks)
    obtain ⟨hplan, rfl⟩ := Script.guarded_ok hread
    rw [hloaded.files] at hplan
    exact (reviewed_done hplan hreview).of_looks hloaded.looks fun _ => id
  | none =>
    refine (reviewed_made hrest).of_looks hloaded.looks fun p hp => ?_
    rw [hloaded.session] at hp
    exact ⟨config, load_ok hload, hp⟩

/-- The command that destroys reviews a plan to destroy. -/
theorem reviewed_destroy {noColor : Bool} {result : Except Ending Ending}
    (h : (run setting (.destroy path autoApprove noColor)).outcome sh = (result, sh')) :
    Reviewed setting (wantsColor setting.env noColor) autoApprove
      (PlanFrom setting sh path none true) sh (endingOf result) sh' := by
  obtain ⟨_, hfail, -⟩ | ⟨config, loaded, hload, hrest⟩ := Script.bind_cases h
  · exact .unasked ((telling_load _ _ _).of_outcome hfail).looks
  have hloaded := (telling_load _ _ _).of_outcome hload
  refine (reviewed_made hrest).of_looks hloaded.looks fun p hp => ?_
  rw [hloaded.session] at hp
  exact ⟨config, load_ok hload, hp⟩

end Command

/-! ## The program -/

/-- The command that the arguments ask to run, if they ask for one. -/
def asked? (args : List String) : Option Command :=
  match Request.read args with
  | .ok (.command _ name rest) =>
    match name.read rest with
    | .ok (.run command) => some command
    | .ok .help | .error _ => none
  | .ok .nothing | .ok .help | .ok .version | .error _ => none

/-- How the program ends and what it leaves behind, by the script that it runs. -/
theorem run_eq (setting : Setting) (args : List String) (sh : Shell) :
    run setting args sh = (endingOf ((script setting args).outcome sh).1,
      ((script setting args).outcome sh).2) := by
  show (match (script setting args).outcome sh with
    | (.ok ending, shell) => (ending, shell)
    | (.error ending, shell) => (ending, shell)) = _
  rcases (script setting args).outcome sh with ⟨ending | ending, sh'⟩ <;> rfl

theorem telling_refuse (setting : Setting) (command : Option CommandName) (m : Misuse) :
    (refuse setting command m : Script Ending).Telling :=
  (Script.telling_put _ _).bind fun _ => .throw _

/-- A warning about the way of logging is told first, if there is one. -/
theorem outcome_command (setting : Setting) {args rest : List String} {verbosity : Nat}
    {name : CommandName} (h : Request.read args = .ok (.command verbosity name rest))
    (sh : Shell) : ∃ logging started, sh.Tells started ∧
      (script setting args).outcome sh =
        (runNamed { setting with logging := logging } name rest).outcome started := by
  unfold script
  rw [h]
  rcases hchosen : Logging.choose setting.env verbosity with ⟨logging, warning⟩
  cases warning with
  | none => exact ⟨logging, sh, .refl sh, by simp only [hchosen]⟩
  | some text =>
    refine ⟨logging, _, (Script.telling_line setting .err text) sh, ?_⟩
    simp only [hchosen]
    rfl

/-- A run runs the command that is asked for, after it may have told of an unknown way of logging;
without a command it only tells something. -/
theorem run_cases (setting : Setting) (args : List String) (sh : Shell) :
    (asked? args = none ∧ sh.Tells (run setting args sh).2) ∨
      ∃ command logging started result, asked? args = some command ∧ sh.Tells started ∧
        (command.run { setting with logging := logging }).outcome started =
          (result, (run setting args sh).2) ∧ (run setting args sh).1 = endingOf result := by
  rw [run_eq]
  unfold asked?
  cases hread : Request.read args with
  | error m =>
    refine .inl ⟨rfl, ?_⟩
    unfold script
    rw [hread]
    exact telling_refuse setting none m sh
  | ok request =>
    cases request with
    | nothing | help =>
      refine .inl ⟨rfl, ?_⟩
      unfold script
      rw [hread]
      exact (Script.Telling.bind (Script.telling_put _ _) fun _ => .pure _) sh
    | version =>
      refine .inl ⟨rfl, ?_⟩
      unfold script
      rw [hread]
      exact ((Script.telling_line _ _ _).bind fun _ => .pure _) sh
    | command verbosity name rest =>
      obtain ⟨logging, started, htells, hrun⟩ := outcome_command setting hread sh
      rw [hrun]
      unfold runNamed
      simp only
      cases name.read rest with
      | error m => exact .inl ⟨rfl, htells.trans (telling_refuse _ _ m started)⟩
      | ok request =>
        cases request with
        | help =>
          refine .inl ⟨rfl, htells.trans ?_⟩
          exact (Script.Telling.bind (Script.telling_put _ _) fun _ => .pure _) started
        | run command =>
          exact .inr ⟨command, logging, started, _, rfl, htells, rfl, rfl⟩

/-- **Nothing is written without approval.** Whatever the arguments, the files, the environment, the
service with its faults and the user's lines are, a run without a command or of `validate` leaves
the session as it was, and `plan` makes no call but to get. `apply` and `destroy` do no more either,
unless a plan with changes was shown and approved, by the option or by a yes in the first line that
answers; then the calls that may change something are, in order, at most one for each of its
changes, of the kind of that change. -/
theorem writes_need_approval (setting : Setting) (args : List String) (sh : Shell) :
    match asked? args with
    | none | some (.validate ..) => (run setting args sh).2.session = sh.session
    | some (.plan ..) => sh.session.Looks (run setting args sh).2.session
    | some (.apply planFile path autoApprove noColor) =>
      Reviewed setting (wantsColor setting.env noColor) autoApprove
        (Command.PlanFrom setting sh path planFile false) sh
        (run setting args sh).1 (run setting args sh).2
    | some (.destroy path autoApprove noColor) =>
      Reviewed setting (wantsColor setting.env noColor) autoApprove
        (Command.PlanFrom setting sh path none true) sh
        (run setting args sh).1 (run setting args sh).2 := by
  obtain ⟨hnone, htells⟩ | ⟨command, logging, started, result, hcommand, hstarted, hrun, hending⟩ :=
    run_cases setting args sh
  · rw [hnone]
    exact htells.session
  · rw [hcommand, hending]
    cases command with
    | validate path noColor =>
      have htells := Script.Within.of_outcome (Command.telling_validate noColor) hrun
      exact htells.session.trans hstarted.session
    | plan path out noColor =>
      have hlooks := Command.looks_plan { setting with logging } path out noColor started
      rw [hrun, hstarted.session] at hlooks
      exact hlooks
    | apply planFile path autoApprove noColor =>
      refine (Command.reviewed_apply hrun).of_looks hstarted.looks fun p hp => ?_
      exact Command.planFrom_of_tells hstarted hp
    | destroy path autoApprove noColor =>
      refine (Command.reviewed_destroy hrun).of_looks hstarted.looks fun p hp => ?_
      exact Command.planFrom_of_tells hstarted hp

end Cli

end CiVariables
