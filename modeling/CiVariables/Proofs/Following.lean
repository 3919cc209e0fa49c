import CiVariables.Config.Load
import CiVariables.Proofs.Lines
import CiVariables.Proofs.Session
import CiVariables.Proofs.Tags

/-!
# What is told while a plan is applied

A run adds to the trace, and the progress that it tells is that of the changes it applies
(`Config.follows_apply`). So what a progress line says is going on is the start of a run or the
announcement of the change that was started last. It can be shown unless a tag in the address of
that change closes nothing (`Report.Progress.lines_after_eq_error_iff`).
-/

namespace CiVariables

/-- If the event tells of progress, it is that of one of these changes. -/
def Event.TellsOf (e : Event) (cs : List Change) : Prop :=
  e.isProgress = true → ∃ c ∈ cs, e = .started c.address c.action ∨ e = .finished c.address c.action

/-- Between two sessions these events happened. -/
def Session.Follows (s s' : Session) (cs : List Change) : Prop :=
  ∃ events, s'.trace = s.trace ++ events ∧ ∀ e ∈ events, e.TellsOf cs

namespace Session.Follows

variable {s s' s'' : Session} {cs : List Change}

theorem still (h : s'.trace = s.trace) : s.Follows s' cs :=
  ⟨[], by rw [h, List.append_nil], List.forall_mem_nil _⟩

theorem trans (h : s.Follows s' cs) (h' : s'.Follows s'' cs) : s.Follows s'' cs := by
  obtain ⟨events, htrace, htells⟩ := h
  obtain ⟨more, htrace', htells'⟩ := h'
  exact ⟨events ++ more, by rw [htrace', htrace, List.append_assoc],
    List.forall_mem_append.2 ⟨htells, htells'⟩⟩

theorem noted {e : Event} (s : Session) (he : e.TellsOf cs) : s.Follows (s.noted e) cs :=
  ⟨[e], rfl, List.forall_mem_singleton.2 he⟩

end Session.Follows

/-- However the computation ends, the progress that it tells is that of these changes. -/
def Work.Follows {α : Type} (w : Work α) (cs : List Change) : Prop :=
  ∀ s : Session, s.Follows (w.outcome s).2 cs

namespace Work.Follows

variable {α β : Type} {cs : List Change}

theorem pure (a : α) : (Pure.pure a : Work α).Follows cs := fun _ => .still rfl

theorem throw (failure : Failure) : (MonadExcept.throw failure : Work α).Follows cs :=
  fun _ => .still rfl

/-- The progress of a sequence is that of its parts. -/
theorem bind {w : Work α} {f : α → Work β} (h : w.Follows cs) (hf : ∀ a, (f a).Follows cs) :
    (w >>= f).Follows cs := by
  intro s
  have hw := h s
  rw [outcome_bind]
  rcases hrun : w.outcome s with ⟨failure | a, s'⟩
  · rwa [hrun] at hw
  · rw [hrun] at hw
    exact hw.trans (hf a s')

/-- Handling a failure adds its progress to what was told before. -/
theorem tryCatch {w : Work α} {handle : Failure → Work α} (h : w.Follows cs)
    (hhandle : ∀ failure, (handle failure).Follows cs) :
    (MonadExcept.tryCatch w handle).Follows cs := by
  intro s
  have hw := h s
  rw [outcome_tryCatch]
  rcases hrun : w.outcome s with ⟨failure | a, s'⟩
  · rw [hrun] at hw
    exact hw.trans (hhandle failure s')
  · rwa [hrun] at hw

theorem note {e : Event} (he : e.TellsOf cs) : (Work.note e).Follows cs := fun s => .noted s he

theorem log (level : LogLevel) (source : LogSource) (text : String) :
    (Work.log level source text).Follows cs := note nofun

theorem call (c : Call) : (Work.call c).Follows cs := by
  intro s
  rw [outcome_call]
  exact .noted s nofun

theorem entries : Work.entries.Follows cs := fun _ => .still rfl

theorem setEntries (store : Store) : (Work.setEntries store).Follows cs := fun _ => .still rfl

theorem ofChecked (model : String) (checked : Schema.Checked α) :
    (Work.ofChecked model checked).Follows cs := by
  cases checked with
  | valid a => exact pure a
  | invalid issues => exact throw _

end Work.Follows

variable {cs : List Change}

theorem Provider.follows_connect (p : Provider) : p.connect.Follows cs := by
  intro s
  rw [outcome_connect]
  split
  · exact .still rfl
  · cases p.connection with
    | ok c => exact .noted s nofun
    | error failure => exact .still rfl

namespace Client

theorem follows_createVariable (project : ProjectId) (request : CreateRequest) :
    (createVariable project request).Follows cs := by
  refine (Work.Follows.call _).bind fun _ => Work.Follows.entries.bind fun store => ?_
  split
  · exact (Work.Follows.setEntries _).bind fun _ => .ofChecked _ _
  · exact .throw _

theorem follows_updateVariable (project : ProjectId) (key : String) (request : UpdateRequest) :
    (updateVariable project key request).Follows cs := by
  refine (Work.Follows.call _).bind fun _ => Work.Follows.entries.bind fun store => ?_
  split
  · exact (Work.Follows.setEntries _).bind fun _ => .ofChecked _ _
  · exact .throw _

theorem follows_removeVariable (project : ProjectId) (key : String)
    (request : Option RemoveRequest) : (removeVariable project key request).Follows cs := by
  refine (Work.Follows.call _).bind fun _ => Work.Follows.entries.bind fun store => ?_
  split
  · exact .setEntries _
  · exact .throw _

end Client

namespace Declaration

theorem follows_project (d : Declaration) : d.project.Follows cs := by
  unfold project
  split
  · exact .pure _
  · exact .throw _

theorem follows_delete (provider : Provider) (d : Declaration) :
    (d.delete provider).Follows cs := by
  refine .tryCatch ?_ fun failure => ?_
  · exact provider.follows_connect.bind fun _ => d.follows_project.bind fun _ =>
      (Client.follows_removeVariable _ _ _).bind fun _ => .pure _
  · split
    · exact (Work.Follows.log _ _ _).bind fun _ => .pure _
    · exact .throw _

end Declaration

namespace Applying

theorem follows_run (provider : Provider) (c : Change) : (run provider c).Follows cs := by
  unfold run
  split
  · exact .throw _
  · refine (Work.Follows.ofChecked _ _).bind fun d => ?_
    split
    · exact (provider.follows_connect.bind fun _ => d.follows_project.bind fun _ =>
        Client.follows_createVariable _ _).bind fun _ => .pure _
    · exact (provider.follows_connect.bind fun _ => d.follows_project.bind fun _ =>
        Client.follows_updateVariable _ _ _).bind fun _ => .pure _
    · exact d.follows_delete provider
    · exact .throw _

theorem follows_report (follower : Option Follower) {e : Event} (he : e.TellsOf cs) :
    (report follower e).Follows cs := by
  unfold report
  split
  · exact .pure _
  · split
    · exact .note he
    · exact .throw _

/-- By induction over the changes that are still to be carried out, each of which tells of itself
only. -/
theorem follows_applyChanges (provider : Provider) (follower : Option Follower)
    (changes : List Change) (hchanges : changes ⊆ cs) : ∀ applied,
      (applyChanges provider follower applied changes).Follows cs := by
  induction changes with
  | nil => exact fun applied => .pure applied
  | cons c rest ih =>
    obtain ⟨hc, hrest⟩ := List.cons_subset.1 hchanges
    intro applied
    refine (Work.Follows.log _ _ _).bind fun _ =>
      (follows_report follower fun _ => ⟨c, hc, .inl rfl⟩).bind fun _ =>
        (Work.Follows.tryCatch (follows_run provider c) fun _ => .throw _).bind fun done => ?_
    cases done with
    | true =>
      exact (follows_report follower fun _ => ⟨c, hc, .inr rfl⟩).bind fun _ => ih hrest _
    | false => exact ih hrest applied

theorem follows_apply (provider : Provider) (follower : Option Follower) (p : Plan) :
    (apply provider follower p).Follows p.actionable :=
  (Work.Follows.log _ _ _).bind fun _ =>
    follows_applyChanges provider follower p.actionable (List.Subset.refl _) []

end Applying

/-- The progress that is told of a run is that of the changes of its plan. -/
theorem Config.follows_apply (c : Config) (follower : Option Applying.Follower) (p : Plan) :
    (c.apply follower p).Follows p.actionable := by
  intro s
  unfold Config.apply Config.engineWork
  cases c.provider with
  | error failure => exact .still rfl
  | ok provider =>
    exact Applying.follows_apply provider follower p { s with isConnected := false }

/-! ## What is going on -/

/-- The last start that these events tell of is that of this change. -/
def Change.LastStarted (c : Change) (events : List Event) : Prop :=
  ∃ before after, events = before ++ .started c.address c.action :: after ∧
    ∀ e ∈ after, ∀ address action, e ≠ .started address action

namespace Report.Progress

open CiVariables.Terminal

/-- What is announced before a change is carried out. -/
def announcement (address : String) (action : Action) : String :=
  address ++ ": " ++ (lookOf action).doing ++ "..."

/-- What is going on after some events is what was before, or announced by one of them. -/
theorem description_after_events {P : String → Prop} {p : Progress} {events : List Event}
    (hp : P p.description)
    (hevents : ∀ address action, .started address action ∈ events →
      P (announcement address action)) : P (events.foldl after p).description := by
  refine List.foldlRecOn (motive := fun p => P p.description) events after hp ?_
  intro p hp e he
  cases e with
  | started address action => exact hevents address action he
  | _ => exact hp

/-- Events that tell of no start leave what is going on as it was. -/
theorem description_of_unstarted {p : Progress} {events : List Event}
    (h : ∀ e ∈ events, ∀ address action, e ≠ .started address action) :
    (events.foldl after p).description = p.description :=
  description_after_events (P := (· = p.description)) rfl fun address action hmem =>
    absurd rfl (h _ hmem address action)

/-- What is going on is the announcement of the last change that was started. -/
theorem description_of_lastStarted {p : Progress} {c : Change} {events : List Event}
    (h : c.LastStarted events) :
    (events.foldl after p).description = announcement c.address c.action := by
  obtain ⟨before, rest, rfl, hrest⟩ := h
  rw [List.foldl_append, List.foldl_cons, description_of_unstarted hrest]
  rfl

/-- Among events that tell of some changes, one of these was started last, if any was started. -/
theorem exists_lastStarted {cs : List Change} {events : List Event}
    (htells : ∀ e ∈ events, e.TellsOf cs) :
    (∀ e ∈ events, ∀ address action, e ≠ .started address action) ∨
      ∃ c ∈ cs, c.LastStarted events := by
  induction events with
  | nil => exact .inl nofun
  | cons e rest ih =>
    obtain ⟨he, hrest⟩ := List.forall_mem_cons.1 htells
    obtain hnone | ⟨c, hc, before, more, rfl, hmore⟩ := ih hrest
    · cases e with
      | started address action =>
        -- No later event tells of a start, so this one is the last.
        obtain ⟨c, hc, heq | heq⟩ := he rfl
        · exact .inr ⟨c, hc, [], rest, by rw [heq]; rfl, hnone⟩
        · cases heq
      | _ => exact .inl (List.forall_mem_cons.2 ⟨nofun, hnone⟩)
    · exact .inr ⟨c, hc, e :: before, more, rfl, hmore⟩

/-! ## Whether it can be shown -/

/-- What is shown of an announcement has the tags of the address: the rest has no brackets. -/
theorem tags_descriptionMarkup {p : Progress} {address : String} {action : Action}
    (h : p.description = announcement address action) :
    Markup.tags p.descriptionMarkup = Markup.tags ("[progress.description]" ++ address) := by
  have htail : ∀ d ∈ (": " ++ (lookOf action).doing ++ "...").toList, d ≠ '[' ∧ d ≠ ']' := by
    cases action <;> simp [lookOf]
  have htext : p.descriptionMarkup.toList = ("[progress.description]" ++ address).toList ++
      (": " ++ (lookOf action).doing ++ "...").toList := by
    unfold descriptionMarkup
    rw [h, announcement, ← String.toList_append]
    simp only [String.append_assoc]
  unfold Markup.tags
  rw [htext, Markup.tagsFrom_append htail 0 0 [] []]

/-- What is going on cannot be shown exactly if one of its tags closes nothing. -/
theorem lines_eq_error_iff {p : Progress} {screen : Nat} :
    (∃ fault, p.lines screen = .error fault) ↔
      Markup.Misclosed [] (Markup.tags p.descriptionMarkup) := by
  rw [← Markup.plain_eq_error_iff]
  unfold lines
  cases Markup.plain p.descriptionMarkup <;> simp

/-- What is going on can be shown if it has no brackets: the tag before it closes nothing. -/
theorem exists_lines {p : Progress} (screen : Nat) (h : '[' ∉ p.description.toList) :
    ∃ lines, p.lines screen = .ok lines := by
  cases hlines : p.lines screen with
  | ok lines => exact ⟨lines, rfl⟩
  | error fault =>
    have hmarkup : p.descriptionMarkup.toList =
        '[' :: ("progress.description".toList ++ ']' :: p.description.toList) := by
      have hopen : "[progress.description]".toList =
          '[' :: ("progress.description".toList ++ [']']) := by decide
      unfold descriptionMarkup
      rw [String.toList_append, hopen, List.cons_append, List.append_assoc, List.singleton_append]
    have htag : Markup.tag? p.descriptionMarkup.toList =
        some (0, "progress.description".toList, p.description.toList) :=
      Markup.tag?_eq_some_iff.2
        ⟨hmarkup, 'p', "rogress.description".toList, rfl, by decide, by simp⟩
    have htags : Markup.tags p.descriptionMarkup =
        [.ofContent "progress.description".toList] := by
      unfold Markup.tags
      rw [Markup.tagsFrom_of_tag htag, Markup.tagsFrom_eq_nil h, List.append_nil,
        if_neg (by decide)]
    have hname (rest : List Char) :
        (Markup.Tag.ofContent "progress.description".toList).name.toList ≠ '/' :: rest := by
      simp [Markup.Tag.ofContent]
    have hclosed := lines_eq_error_iff.1 ⟨fault, hlines⟩
    rw [htags] at hclosed
    exact absurd hclosed (Markup.not_misclosed_singleton hname)

/-- What is going on after some changes cannot be shown exactly if the address of the last one that
was started cannot, as the markup that it is shown as. -/
theorem lines_after_eq_error_iff {p : Progress} {cs : List Change} {events : List Event}
    (screen : Nat) (hp : '[' ∉ p.description.toList) (htells : ∀ e ∈ events, e.TellsOf cs) :
    (∃ fault, (events.foldl after p).lines screen = .error fault) ↔
      ∃ c ∈ cs, c.LastStarted events ∧
        Markup.Misclosed [] (Markup.tags ("[progress.description]" ++ c.address)) := by
  have hshown {c : Change} (hlast : c.LastStarted events) :
      (∃ fault, (events.foldl after p).lines screen = .error fault) ↔
        Markup.Misclosed [] (Markup.tags ("[progress.description]" ++ c.address)) := by
    rw [lines_eq_error_iff, tags_descriptionMarkup (description_of_lastStarted hlast)]
  constructor
  · rintro ⟨fault, hlines⟩
    obtain hnone | ⟨c, hc, hlast⟩ := exists_lastStarted htells
    · obtain ⟨lines, hok⟩ := exists_lines screen (p := events.foldl after p)
        (by rwa [description_of_unstarted hnone])
      cases hok.symm.trans hlines
    · exact ⟨c, hc, hlast, (hshown hlast).1 ⟨fault, hlines⟩⟩
  · rintro ⟨c, -, hlast, hclosed⟩
    exact (hshown hlast).2 hclosed

end Report.Progress

end CiVariables
