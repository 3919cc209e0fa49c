import CiVariables.Provider

/-!
# What a computation leaves behind

`Work.outcome` is what a computation gives from a session and the session that it leaves. Between
two sessions, `Session.Grows` says which calls were made and which progress was told; log lines and
the making of a connection are not looked at. It composes along a computation, so that each
operation needs one statement of its own.
-/

namespace CiVariables

/-! ## Outcomes -/

/-- What a computation gives from a session, and the session that it leaves. -/
def Work.outcome {α : Type} (w : Work α) (s : Session) : Except Failure α × Session := w.run.run s

namespace Work

variable {α β : Type}

@[simp] theorem outcome_pure (a : α) (s : Session) : (pure a : Work α).outcome s = (.ok a, s) := rfl

@[simp] theorem outcome_throw (failure : Failure) (s : Session) :
    (throw failure : Work α).outcome s = (.error failure, s) := rfl

/-- A sequence goes on with the value of its first part, or fails with it. -/
theorem outcome_bind (w : Work α) (f : α → Work β) (s : Session) :
    (w >>= f).outcome s = match w.outcome s with
      | (.ok a, s') => (f a).outcome s'
      | (.error failure, s') => (.error failure, s') := by
  show (ExceptT.bind w f s : Except Failure β × Session) = _
  unfold outcome ExceptT.run StateT.run
  simp only [ExceptT.bind, ExceptT.mk, bind, StateT.bind]
  cases w s with
  | mk result s' => cases result <;> rfl

theorem outcome_bind_ok {w : Work α} {f : α → Work β} {s s' : Session} {a : α}
    (h : w.outcome s = (.ok a, s')) : (w >>= f).outcome s = (f a).outcome s' := by
  rw [outcome_bind, h]

theorem outcome_bind_error {w : Work α} {f : α → Work β} {s s' : Session} {failure : Failure}
    (h : w.outcome s = (.error failure, s')) : (w >>= f).outcome s = (.error failure, s') := by
  rw [outcome_bind, h]

theorem outcome_bind_pure {w : Work α} {s s' : Session} {result : Except Failure α}
    (h : w.outcome s = (result, s')) (f : α → β) :
    (w >>= fun a => pure (f a)).outcome s = (result.map f, s') := by
  rw [outcome_bind, h]
  cases result <;> rfl

/-- A failure is handled in the session that it leaves behind. -/
theorem outcome_tryCatch (w : Work α) (handle : Failure → Work α) (s : Session) :
    (tryCatch w handle).outcome s = match w.outcome s with
      | (.ok a, s') => (.ok a, s')
      | (.error failure, s') => (handle failure).outcome s' := by
  show (ExceptT.tryCatch w handle s : Except Failure α × Session) = _
  unfold outcome ExceptT.run StateT.run
  simp only [ExceptT.tryCatch, ExceptT.mk, bind, StateT.bind]
  cases w s with
  | mk result s' => cases result <;> rfl

theorem outcome_tryCatch_ok {w : Work α} {handle : Failure → Work α} {s s' : Session} {a : α}
    (h : w.outcome s = (.ok a, s')) : (tryCatch w handle).outcome s = (.ok a, s') := by
  rw [outcome_tryCatch, h]

theorem outcome_tryCatch_error {w : Work α} {handle : Failure → Work α} {s s' : Session}
    {failure : Failure} (h : w.outcome s = (.error failure, s')) :
    (tryCatch w handle).outcome s = (handle failure).outcome s' := by
  rw [outcome_tryCatch, h]

@[simp] theorem outcome_entries (s : Session) : entries.outcome s = (.ok s.remote.entries, s) := rfl

theorem outcome_ofChecked_valid (model : String) (a : α) (s : Session) :
    (ofChecked model (.valid a)).outcome s = (.ok a, s) := rfl

theorem outcome_ofChecked_invalid (model : String) (issues : List Schema.Issue) (s : Session) :
    (ofChecked model (.invalid issues) : Work α).outcome s = (.error (.schema model issues), s) :=
  rfl

end Work

/-! ## What happened between two sessions -/

/-- The event tells of the progress of a run. -/
def Event.isProgress : Event → Bool
  | started _ _ | finished _ _ => true
  | _ => false

/-- The progress told so far. -/
def Session.progress (s : Session) : List Event := s.trace.filter Event.isProgress

/-- Between two sessions these calls were made and this progress was told. A connection that was
there is still there. -/
structure Session.Grows (s s' : Session) (calls : List Call) (progress : List Event) : Prop where
  calls : s'.calls = s.calls ++ calls
  progress : s'.progress = s.progress ++ progress
  isConnected : s.isConnected = true → s'.isConnected = true

namespace Session.Grows

theorem refl (s : Session) : Grows s s [] [] := ⟨by simp, by simp, id⟩

/-- What two steps add to calls and progress, they add one after the other. -/
theorem trans {s s' s'' : Session} {calls calls' : List Call} {progress progress' : List Event}
    (h : Grows s s' calls progress) (h' : Grows s' s'' calls' progress') :
    Grows s s'' (calls ++ calls') (progress ++ progress') where
  calls := by rw [h'.calls, h.calls, List.append_assoc]
  progress := by rw [h'.progress, h.progress, List.append_assoc]
  isConnected := h'.isConnected ∘ h.isConnected

/-- What happens without a call and without progress. -/
theorem trans_quiet {s s' s'' : Session} {calls : List Call} {progress : List Event}
    (h : Grows s s' calls progress) (h' : Grows s' s'' [] []) : Grows s s'' calls progress := by
  simpa using h.trans h'

theorem quiet_trans {s s' s'' : Session} {calls : List Call} {progress : List Event}
    (h : Grows s s' [] []) (h' : Grows s' s'' calls progress) : Grows s s'' calls progress := by
  simpa using h.trans h'

end Session.Grows

/-! ## Noting events -/

/-- The session after an event. -/
def Session.noted (s : Session) (e : Event) : Session := { s with trace := s.trace ++ [e] }

/-- The session with another service. -/
def Session.withRemote (s : Session) (r : Remote) : Session := { s with remote := r }

@[simp] theorem Session.noted_remote (s : Session) (e : Event) :
    (s.noted e).remote = s.remote := rfl

theorem Work.outcome_note (e : Event) (s : Session) :
    (note e).outcome s = (.ok (), s.noted e) := rfl

theorem Work.outcome_log (level : LogLevel) (source : LogSource) (text : String) (s : Session) :
    (log level source text).outcome s = (.ok (), s.noted (.logged ⟨level, source, text⟩)) := rfl

theorem Work.outcome_setEntries (entries : Store) (s : Session) :
    (setEntries entries).outcome s =
      (.ok (), s.withRemote { s.remote with entries := entries }) := rfl

theorem Session.grows_withRemote (s : Session) (r : Remote) : s.Grows (s.withRemote r) [] [] :=
  ⟨by simp [calls, withRemote], by simp [progress, withRemote], id⟩

/-- An event adds itself to calls or progress, if it is one. -/
theorem Session.grows_noted (s : Session) (e : Event) :
    s.Grows (s.noted e) e.call?.toList (if e.isProgress then [e] else []) where
  calls := by
    unfold Session.calls noted
    rw [List.filterMap_append]
    cases h : e.call? <;> simp [h]
  progress := by
    unfold Session.progress noted
    rw [List.filter_append]
    cases h : e.isProgress <;> simp [h]
  isConnected := id

/-- Writing a log line is not looked at. -/
theorem Session.grows_logged (s : Session) (line : LogLine) :
    s.Grows (s.noted (.logged line)) [] [] := s.grows_noted _

/-- The computation gives a value and does no more than write log lines. -/
def Work.Quiet {α : Type} (w : Work α) (a : α) : Prop :=
  ∀ s : Session, ∃ s', s'.remote = s.remote ∧ s.Grows s' [] [] ∧ w.outcome s = (.ok a, s')

namespace Work.Quiet

variable {α β : Type}

theorem pure (a : α) : (Pure.pure a : Work α).Quiet a := fun s => ⟨s, rfl, .refl s, rfl⟩

theorem log (level : LogLevel) (source : LogSource) (text : String) :
    (Work.log level source text).Quiet () := fun s =>
  ⟨s.noted (.logged ⟨level, source, text⟩), rfl, s.grows_logged _, rfl⟩

theorem bind {w : Work α} {a : α} {f : α → Work β} {b : β} (h : w.Quiet a) (hf : (f a).Quiet b) :
    (w >>= f).Quiet b := by
  intro s
  obtain ⟨s₁, hremote₁, hgrows₁, hrun₁⟩ := h s
  obtain ⟨s₂, hremote₂, hgrows₂, hrun₂⟩ := hf s₁
  exact ⟨s₂, hremote₂.trans hremote₁, hgrows₁.trans_quiet hgrows₂,
    (outcome_bind_ok hrun₁).trans hrun₂⟩

end Work.Quiet

/-- A call that is recorded, and the faults after it. -/
theorem Work.outcome_call (c : Call) (s : Session) :
    (call c).outcome s =
      ((match (Fault.strike s.remote.faults c).1 with
        | some failure => .error failure
        | none => .ok ()),
        (s.noted (.called c)).withRemote
          { s.remote with faults := (Fault.strike s.remote.faults c).2 }) := by
  unfold call
  rw [outcome_bind_ok (outcome_note _ s)]
  show (match (Fault.strike s.remote.faults c).1 with
    | some failure => (throw failure : Work Unit)
    | none => pure ()).outcome _ = _
  cases (Fault.strike s.remote.faults c).1 <;> rfl

/-! ## Connecting -/

/-- Whether a provider has or can make a connection in a session, or why not. -/
def Provider.reach (p : Provider) (s : Session) : Except Failure Unit :=
  if p.isReady || s.isConnected then .ok () else p.connection.map fun _ => ()

/-- A service that was reached stays in reach. -/
theorem Provider.reach_of_grows {p : Provider} {s s' : Session} {calls : List Call}
    {progress : List Event} (h : s.Grows s' calls progress) (hreach : p.reach s = .ok ()) :
    p.reach s' = .ok () := by
  unfold reach at hreach ⊢
  by_cases hready : p.isReady = true
  · simp [hready]
  · cases hs' : s'.isConnected with
    | true => simp
    | false =>
      cases hs : s.isConnected with
      | true => simp [h.isConnected hs] at hs'
      | false => simpa [hready, hs] using hreach

theorem Provider.outcome_connect (p : Provider) (s : Session) :
    p.connect.outcome s = (if p.isReady || s.isConnected then pure () else
      match p.connection with
      | .ok c => do
        Work.note (.connected c)
        modify fun s => { s with isConnected := true }
      | .error failure => throw failure : Work Unit).outcome s := rfl

/-- A connection is made once, without a call. -/
theorem Provider.outcome_connect_ok {p : Provider} {s : Session} (h : p.reach s = .ok ()) :
    ∃ s', p.connect.outcome s = (.ok (), s') ∧ s'.remote = s.remote ∧ s.Grows s' [] [] := by
  unfold reach at h
  have hrun := p.outcome_connect s
  by_cases hready : (p.isReady || s.isConnected) = true
  · rw [if_pos hready] at hrun
    exact ⟨s, hrun, rfl, .refl s⟩
  · rw [if_neg hready] at hrun h
    cases hc : p.connection with
    | error failure => simp [hc, Except.map] at h
    | ok c =>
      rw [hc] at hrun
      refine ⟨_, hrun, rfl, ?_⟩
      have hnoted := s.grows_noted (.connected c)
      exact ⟨hnoted.calls, hnoted.progress, fun _ => rfl⟩

theorem Provider.outcome_connect_error {p : Provider} {s : Session} {failure : Failure}
    (h : p.reach s = .error failure) : p.connect.outcome s = (.error failure, s) := by
  unfold reach at h
  have hrun := p.outcome_connect s
  by_cases hready : (p.isReady || s.isConnected) = true
  · simp [hready] at h
  · rw [if_neg hready] at hrun h
    cases hc : p.connection with
    | ok c => simp [hc, Except.map] at h
    | error other =>
      rw [hc] at hrun
      simp only [hc, Except.map, Except.error.injEq] at h
      rw [hrun, h]
      rfl

end CiVariables
