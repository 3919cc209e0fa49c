import CiVariables.Lifecycle
import CiVariables.Proofs.Requests
import CiVariables.Proofs.Store
import CiVariables.Proofs.Session

/-!
# What the service does with a request

A `Write` is a request that changes the store, and `Write.perform` is what the service does with it
where no fault strikes: it touches one entry, or refuses. `Remote.serve` puts the faults in front.
The operations of the client and of a declaration are then described by what they serve: each makes
one call, and afterwards reads the entry that was touched (`Declaration.outcome_create` and its
siblings). Looking is described in the same way by `Declaration.look`.
-/

namespace CiVariables

/-- A request that changes the store. -/
inductive Write where
  | create (project : ProjectId) (request : CreateRequest)
  | update (project : ProjectId) (key : String) (request : UpdateRequest)
  | delete (project : ProjectId) (key : String) (request : Option RemoveRequest)

namespace Write

/-- The call that sends a request. -/
def call : Write → Call
  | create project request => ⟨.create, project, some request.key, request.body⟩
  | update project key request => ⟨.update, project, some key, request.body⟩
  | delete project key request =>
    ⟨.delete, project, some key,
      scopeQuery (ScopeFilter.scopeOf (request.bind RemoveRequest.filter))⟩

/-- The refusal to create an entry whose identity is taken. -/
def taken (key : String) : Failure :=
  .service ⟨.create, "(" ++ key ++ ") has already been taken", some 400⟩

/-- The entry that a request touches and the store after it, or a refusal. -/
def perform (store : Store) : Write → Except Failure (Entry × Store)
  | create project request =>
    match store.create? project request.body with
    | some touched => .ok touched
    | none => .error (taken request.key)
  | update project key request =>
    let scope := ScopeFilter.scopeOf request.filter
    match store.find? project key scope with
    | some e => .ok (Fields.update e request.changes,
        store.updateFirst (Entry.isAddressed project key scope)
          (Fields.update · request.changes))
    | none => .error (Client.notFound .update)
  | delete project key request =>
    let scope := ScopeFilter.scopeOf (request.bind RemoveRequest.filter)
    match store.find? project key scope with
    | some e => .ok (e, store.eraseP (Entry.isAddressed project key scope))
    | none => .error (Client.notFound .delete)

/-- An entry is created unless there is one with its identity. -/
theorem perform_create (project : ProjectId) (p : Parameters) (store : Store) :
    let entry := Entry.created project (CreateRequest.ofParameters p).body
    (create project (CreateRequest.ofParameters p)).perform store =
      if store.any (Entry.sameIdentity entry) then .error (taken p.key)
      else .ok (entry, store ++ [entry]) := by
  intro entry
  unfold perform Store.create?
  by_cases htaken : store.any (Entry.sameIdentity entry) = true
  · simp only [if_pos htaken, entry]
    rfl
  · simp only [if_neg htaken, entry]

end Write

/-- What the service answers to a request, and the service after it: a fault that strikes leaves the
store alone. -/
def Remote.serve (r : Remote) (w : Write) : Except Failure Entry × Remote :=
  match Fault.strike r.faults w.call with
  | (some failure, faults) => (.error failure, { r with faults })
  | (none, faults) =>
    match w.perform r.entries with
    | .ok (e, entries) => (.ok e, { entries, faults })
    | .error failure => (.error failure, { r with faults })

/-- A failure leaves the entries alone, and an answer is what the request does to them. -/
theorem Remote.serve_cases (r : Remote) (w : Write) :
    (∃ failure faults, r.serve w = (.error failure, { r with faults })) ∨
      ∃ e entries faults, w.perform r.entries = .ok (e, entries) ∧
        r.serve w = (.ok e, { entries, faults }) := by
  unfold serve
  rcases Fault.strike r.faults w.call with ⟨failure?, faults⟩
  cases failure? with
  | some failure => exact .inl ⟨failure, faults, rfl⟩
  | none =>
    cases hperform : w.perform r.entries with
    | error failure => exact .inl ⟨failure, faults, by simp⟩
    | ok touched => exact .inr ⟨touched.1, touched.2, faults, rfl, by simp⟩

/-- The call that looks for a variable. -/
def Client.getCall (project : ProjectId) (key : String) (request : Option GetRequest) : Call :=
  ⟨.get, project, some key, scopeQuery (ScopeFilter.scopeOf (request.bind GetRequest.filter))⟩

/-- An entry read as a variable, or why it is none. -/
def Entry.read (e : Entry) : Except Failure Observed :=
  match e.observe with
  | .valid o => .ok o
  | .invalid issues => .error (.schema "RemoteVariable" issues)

/-- What the service answers about a variable, and the service after it. -/
def Remote.look (r : Remote) (project : ProjectId) (key : String) (request : Option GetRequest) :
    Except Failure Observed × Remote :=
  match Fault.strike r.faults (Client.getCall project key request) with
  | (some failure, faults) => (.error failure, { r with faults })
  | (none, faults) =>
    (match r.entries.find? project key (ScopeFilter.scopeOf (request.bind GetRequest.filter)) with
      | some e => e.read
      | none => .error (Client.notFound .get), { r with faults })

namespace Entry

/-- An entry is read exactly as what it shows. -/
theorem read_eq_ok_iff {e : Entry} {o : Observed} : e.read = .ok o ↔ e.Shows o := by
  rw [← observe_eq_valid_iff]
  unfold read
  cases e.observe <;> simp

theorem read_of_shows {e : Entry} {o : Observed} (h : e.Shows o) : e.read = .ok o :=
  read_eq_ok_iff.2 h

theorem read_eq_error {e : Entry} {failure : Failure} (h : e.read = .error failure) :
    ∃ issues, failure = .schema "RemoteVariable" issues := by
  unfold read at h
  split at h
  · cases h
  · next issues _ =>
    cases h
    exact ⟨issues, rfl⟩

theorem not_gone_of_read_error {e : Entry} {failure : Failure} (h : e.read = .error failure) :
    failure.isServiceNotFound = false := by
  obtain ⟨issues, rfl⟩ := read_eq_error h
  rfl

end Entry

namespace Client

theorem outcome_readAnswer (e : Entry) (s : Session) :
    (readAnswer e.attributes).outcome s = (e.read, s) := by
  unfold readAnswer Entry.read Entry.observe
  cases Observed.check .data (.ofJson (.obj e.attributes)) <;> rfl

/-- A call, and what follows where no fault strikes. -/
theorem outcome_call_bind {α : Type} (c : Call) (rest : Work α) (s : Session) :
    ∃ s', s'.remote = { s.remote with faults := (Fault.strike s.remote.faults c).2 } ∧
      s.Grows s' [c] [] ∧
      (Work.call c >>= fun _ => rest).outcome s =
        match (Fault.strike s.remote.faults c).1 with
        | some failure => (.error failure, s')
        | none => rest.outcome s' := by
  refine ⟨(s.noted (.called c)).withRemote
    { s.remote with faults := (Fault.strike s.remote.faults c).2 }, rfl,
    (s.grows_noted (.called c)).trans_quiet (Session.grows_withRemote _ _), ?_⟩
  have hcall := Work.outcome_call c s
  cases hstrike : (Fault.strike s.remote.faults c).1 with
  | none =>
    rw [hstrike] at hcall
    rw [Work.outcome_bind_ok hcall]
  | some failure =>
    rw [hstrike] at hcall
    rw [Work.outcome_bind_error hcall]

/-- Sending a request: one call, and where it is answered, what is made of the touched entry. -/
theorem outcome_send {α : Type} {w : Write} {finish : Entry → Except Failure α} {rest : Work α}
    (hrest : ∀ s : Session, rest.outcome s =
      match w.perform s.remote.entries with
      | .ok (e, entries) => (finish e, s.withRemote { s.remote with entries := entries })
      | .error failure => (.error failure, s)) (s : Session) :
    ∃ s', s'.remote = (s.remote.serve w).2 ∧ s.Grows s' [w.call] [] ∧
      (Work.call w.call >>= fun _ => rest).outcome s =
        ((s.remote.serve w).1.bind finish, s') := by
  obtain ⟨s₁, hremote, hgrows, hrun⟩ := outcome_call_bind w.call rest s
  unfold Remote.serve
  rcases hstrike : Fault.strike s.remote.faults w.call with ⟨failure?, faults⟩
  rw [hstrike] at hremote hrun
  cases failure? with
  | some failure => exact ⟨s₁, hremote, hgrows, hrun⟩
  | none =>
    simp only at hrun
    rw [hrun, hrest s₁, hremote]
    simp only
    cases w.perform s.remote.entries with
    | error failure => exact ⟨s₁, hremote, hgrows, rfl⟩
    | ok touched => exact ⟨_, rfl, hgrows.trans_quiet (Session.grows_withRemote _ _), rfl⟩

section Requests

variable (project : ProjectId) (key : String) (s : Session)

/-- What a request to create does to the service, and what it adds to the calls. -/
theorem outcome_createVariable (request : CreateRequest) :
    ∃ s', s'.remote = (s.remote.serve (.create project request)).2 ∧
      s.Grows s' [(Write.create project request).call] [] ∧
      (createVariable project request).outcome s =
        ((s.remote.serve (.create project request)).1.bind Entry.read, s') := by
  refine outcome_send (fun s => ?_) s
  rw [Work.outcome_bind_ok (Work.outcome_entries s)]
  unfold Write.perform
  simp only
  cases s.remote.entries.create? project request.body with
  | none => rfl
  | some touched =>
    simp only
    rw [Work.outcome_bind_ok (Work.outcome_setEntries ..), outcome_readAnswer]

/-- What a request to update does to the service, and what it adds to the calls. -/
theorem outcome_updateVariable (request : UpdateRequest) :
    ∃ s', s'.remote = (s.remote.serve (.update project key request)).2 ∧
      s.Grows s' [(Write.update project key request).call] [] ∧
      (updateVariable project key request).outcome s =
        ((s.remote.serve (.update project key request)).1.bind Entry.read, s') := by
  refine outcome_send (fun s => ?_) s
  rw [Work.outcome_bind_ok (Work.outcome_entries s)]
  unfold Write.perform Store.update?
  simp only [Store.scopeOfBody_body, UpdateRequest.erase_filter_body]
  cases s.remote.entries.find? project key (ScopeFilter.scopeOf request.filter) with
  | none => rfl
  | some e =>
    simp only
    rw [Work.outcome_bind_ok (Work.outcome_setEntries ..), outcome_readAnswer]

/-- What a request to remove does to the service, and what it adds to the calls. -/
theorem outcome_removeVariable (request : Option RemoveRequest) :
    ∃ s', s'.remote = (s.remote.serve (.delete project key request)).2 ∧
      s.Grows s' [(Write.delete project key request).call] [] ∧
      (removeVariable project key request).outcome s =
        ((s.remote.serve (.delete project key request)).1.bind fun _ => .ok (), s') := by
  unfold removeVariable
  rw [RemoveRequest.query_eq]
  refine outcome_send (fun s => ?_) s
  rw [Work.outcome_bind_ok (Work.outcome_entries s)]
  unfold Write.perform Store.delete?
  simp only [Store.scopeOfQuery_scopeQuery]
  cases s.remote.entries.find? project key
      (ScopeFilter.scopeOf (request.bind RemoveRequest.filter)) with
  | none => rfl
  | some e => rfl

/-- What reading a variable gives, and what it adds to the calls. -/
theorem outcome_getVariable (request : Option GetRequest) :
    ∃ s', s'.remote = (s.remote.look project key request).2 ∧
      s.Grows s' [getCall project key request] [] ∧
      (getVariable project key request).outcome s =
        ((s.remote.look project key request).1, s') := by
  let scope := ScopeFilter.scopeOf (request.bind GetRequest.filter)
  obtain ⟨s₁, hremote, hgrows, hrun⟩ := outcome_call_bind (getCall project key request)
    (do
      match (← Work.entries).fetch? project key (scopeQuery scope) with
      | some e => readAnswer e.attributes
      | none => throw (notFound .get)) s
  unfold getVariable Remote.look
  rw [GetRequest.query_eq]
  rcases hstrike : Fault.strike s.remote.faults (getCall project key request) with
    ⟨failure?, faults⟩
  rw [hstrike] at hremote hrun
  cases failure? with
  | some failure => exact ⟨s₁, hremote, hgrows, hrun⟩
  | none =>
    refine ⟨s₁, hremote, hgrows, hrun.trans ?_⟩
    rw [Work.outcome_bind_ok (Work.outcome_entries s₁), hremote]
    unfold Store.fetch?
    simp only [Store.scopeOfQuery_scopeQuery, scope]
    cases s.remote.entries.find? project key
        (ScopeFilter.scopeOf (request.bind GetRequest.filter)) with
    | none => rfl
    | some e => exact outcome_readAnswer e s₁

end Requests

end Client

/-! ## The requests of a declaration -/

/-- If the service cannot be reached, it is for want of a connection. -/
theorem Provider.reach_error {p : Provider} {s : Session} {failure : Failure}
    (h : p.reach s = .error failure) : failure = .noConnection := by
  unfold reach at h
  split at h
  · cases h
  · unfold connection at h
    split at h
    · cases h
    · cases h
      rfl

namespace Declaration

/-- A request about the variable of a declaration, or why none can be sent. -/
def request? (d : Declaration) (reach : Except Failure Unit) (w : ProjectId → Write) :
    Except Failure Write :=
  match reach with
  | .error failure => .error failure
  | .ok () =>
    match d.parameters.projectId with
    | none => .error (.projectUnresolved d.address)
    | some n => .ok (w (.number n))

/-- The request that an action on the variable of a declaration sends, or why it sends none. -/
def write? (d : Declaration) (reach : Except Failure Unit) : Action → Except Failure Write
  | .create => d.request? reach fun project =>
      .create project (CreateRequest.ofParameters d.parameters)
  | .update => d.request? reach fun project =>
      .update project d.parameters.key (UpdateRequest.ofParameters d.parameters)
  | .delete => d.request? reach fun project =>
      .delete project d.parameters.key (RemoveRequest.ofParameters d.parameters)
  | .keep => .error (.notExecutable .keep)

theorem request?_eq_ok_iff {d : Declaration} {reach : Except Failure Unit} {w : ProjectId → Write}
    {sent : Write} : d.request? reach w = .ok sent ↔
      reach = .ok () ∧ ∃ n, d.parameters.projectId = some n ∧ w (.number n) = sent := by
  unfold request?
  cases reach with
  | error failure => simp
  | ok _ => cases d.parameters.projectId <;> simp

/-- The request that an action on the variable of a declaration sends to a project. -/
inductive Sends (d : Declaration) (project : ProjectId) : Action → Write → Prop where
  | create : Sends d project .create (.create project (CreateRequest.ofParameters d.parameters))
  | update : Sends d project .update
      (.update project d.parameters.key (UpdateRequest.ofParameters d.parameters))
  | delete : Sends d project .delete
      (.delete project d.parameters.key (RemoveRequest.ofParameters d.parameters))

/-- A request can be sent exactly if the service is reached and the project known, and it is the one
for the action. -/
theorem write?_eq_ok_iff {d : Declaration} {reach : Except Failure Unit} {a : Action} {w : Write} :
    d.write? reach a = .ok w ↔
      reach = .ok () ∧ ∃ n, d.parameters.projectId = some n ∧ d.Sends (.number n) a w := by
  constructor
  · intro h
    unfold write? at h
    split at h
    · obtain ⟨hreach, n, hn, rfl⟩ := request?_eq_ok_iff.1 h
      exact ⟨hreach, n, hn, .create⟩
    · obtain ⟨hreach, n, hn, rfl⟩ := request?_eq_ok_iff.1 h
      exact ⟨hreach, n, hn, .update⟩
    · obtain ⟨hreach, n, hn, rfl⟩ := request?_eq_ok_iff.1 h
      exact ⟨hreach, n, hn, .delete⟩
    · cases h
  · rintro ⟨rfl, n, hn, hsends⟩
    cases hsends <;> simp [write?, request?, hn]

/-- What keeps a request from being sent is not that there is no variable. -/
theorem not_gone_of_request?_error {d : Declaration} {provider : Provider} {s : Session}
    {w : ProjectId → Write} {failure : Failure}
    (h : d.request? (provider.reach s) w = .error failure) : failure.isServiceNotFound = false := by
  unfold request? at h
  cases hreach : provider.reach s with
  | error other =>
    rw [hreach] at h
    cases h
    rw [Provider.reach_error hreach]
    rfl
  | ok _ =>
    rw [hreach] at h
    cases hn : d.parameters.projectId with
    | some n => simp [hn] at h
    | none =>
      simp only [hn, Except.error.injEq] at h
      rw [← h]
      rfl

theorem not_gone_of_write?_error {d : Declaration} {provider : Provider} {s : Session} {a : Action}
    {failure : Failure} (h : d.write? (provider.reach s) a = .error failure) :
    failure.isServiceNotFound = false := by
  unfold write? at h
  split at h
  · exact not_gone_of_request?_error h
  · exact not_gone_of_request?_error h
  · exact not_gone_of_request?_error h
  · cases h
    rfl

end Declaration

/-- What comes back for a request, or why there is none, and the service after it. -/
def Remote.respond (r : Remote) : Except Failure Write → Except Failure Entry × Remote
  | .ok w => r.serve w
  | .error failure => (.error failure, r)

/-- The calls of a request that may not be sent. -/
def Write.callsOf : Except Failure Write → List Call
  | .ok w => [w.call]
  | .error _ => []

/-! ## Nothing there -/

/-- A failure that says that there is no variable counts as a value. -/
def orGone {α : Type} (fallback : α) : Except Failure α → Except Failure α
  | .ok a => .ok a
  | .error failure => if failure.isServiceNotFound then .ok fallback else .error failure

/-- Handling that failure writes a log line. -/
theorem Work.outcome_orGone {α : Type} {w : Work α} {s s₁ : Session} {result : Except Failure α}
    (h : w.outcome s = (result, s₁)) (fallback : α) (level : LogLevel) (source : LogSource)
    (text : String) :
    ∃ s₂, s₂.remote = s₁.remote ∧ s₁.Grows s₂ [] [] ∧
      (tryCatch w fun failure =>
        if failure.isServiceNotFound then do
          Work.log level source text
          pure fallback
        else throw failure).outcome s = (orGone fallback result, s₂) := by
  cases result with
  | ok a => exact ⟨s₁, rfl, .refl s₁, Work.outcome_tryCatch_ok h⟩
  | error failure =>
    rw [Work.outcome_tryCatch_error h]
    unfold orGone
    cases hgone : failure.isServiceNotFound with
    | false => exact ⟨s₁, rfl, .refl s₁, by simp [hgone]⟩
    | true =>
      refine ⟨s₁.noted (.logged ⟨level, source, text⟩), rfl, s₁.grows_logged _, ?_⟩
      simp only [hgone, if_true]
      rw [Work.outcome_bind_ok (Work.outcome_log level source text s₁), Work.outcome_pure]

/-! ## The operations of a declaration -/

namespace Declaration

variable {provider : Provider} {d : Declaration} {n : Int} {s : Session}

theorem outcome_project (hn : d.parameters.projectId = some n) (s : Session) :
    d.project.outcome s = (.ok (.number n), s) := by
  unfold project
  rw [hn]
  rfl

theorem outcome_project_none (hn : d.parameters.projectId = none) (s : Session) :
    d.project.outcome s = (.error (.projectUnresolved d.address), s) := by
  unfold project
  rw [hn]
  rfl

/-- What follows once there is a connection and a project. -/
theorem outcome_connected {α : Type} (hn : d.parameters.projectId = some n)
    (hreach : provider.reach s = .ok ()) (rest : ProjectId → Work α) :
    ∃ s', s'.remote = s.remote ∧ s.Grows s' [] [] ∧
      (do
        provider.connect
        let project ← d.project
        rest project : Work α).outcome s = (rest (.number n)).outcome s' := by
  obtain ⟨s', hconnect, hremote, hgrows⟩ := provider.outcome_connect_ok hreach
  refine ⟨s', hremote, hgrows, ?_⟩
  rw [Work.outcome_bind_ok hconnect, Work.outcome_bind_ok (outcome_project hn s')]

/-- Without a connection or a project there is no call. -/
theorem outcome_request?_error {α : Type} {w : ProjectId → Write} {failure : Failure}
    (h : d.request? (provider.reach s) w = .error failure) (rest : ProjectId → Work α) :
    ∃ s', s'.remote = s.remote ∧ s.Grows s' [] [] ∧
      (do
        provider.connect
        let project ← d.project
        rest project : Work α).outcome s = (.error failure, s') := by
  unfold request? at h
  cases hreach : provider.reach s with
  | error other =>
    rw [hreach] at h
    cases h
    exact ⟨s, rfl, .refl s, Work.outcome_bind_error (provider.outcome_connect_error hreach)⟩
  | ok _ =>
    obtain ⟨s', hconnect, hremote, hgrows⟩ := provider.outcome_connect_ok hreach
    rw [hreach] at h
    cases hn : d.parameters.projectId with
    | some n => simp [hn] at h
    | none =>
      simp only [hn, Except.error.injEq] at h
      refine ⟨s', hremote, hgrows, ?_⟩
      rw [Work.outcome_bind_ok hconnect, Work.outcome_bind_error (outcome_project_none hn s'), h]

/-- An operation that sends one request once there is a connection and a project. -/
theorem outcome_request? {α : Type} (provider : Provider) (d : Declaration) (s : Session)
    {w : ProjectId → Write} {finish : Entry → Except Failure α} {rest : ProjectId → Work α}
    (hrest : ∀ project (s : Session), ∃ s', s'.remote = (s.remote.serve (w project)).2 ∧
      s.Grows s' [(w project).call] [] ∧
      (rest project).outcome s = ((s.remote.serve (w project)).1.bind finish, s')) :
    let sent := d.request? (provider.reach s) w
    ∃ s', s'.remote = (s.remote.respond sent).2 ∧ s.Grows s' (Write.callsOf sent) [] ∧
      (do
        provider.connect
        let project ← d.project
        rest project : Work α).outcome s = ((s.remote.respond sent).1.bind finish, s') := by
  cases hsent : d.request? (provider.reach s) w with
  | error failure => exact outcome_request?_error hsent rest
  | ok sent =>
    obtain ⟨hreach, n, hn, rfl⟩ := request?_eq_ok_iff.1 hsent
    obtain ⟨s₁, hremote, hgrows, hrun⟩ := outcome_connected hn hreach rest
    obtain ⟨s₂, hremote₂, hgrows₂, hrun₂⟩ := hrest (.number n) s₁
    rw [hremote] at hremote₂ hrun₂
    exact ⟨s₂, hremote₂, hgrows.quiet_trans hgrows₂, hrun.trans hrun₂⟩

/-- What creating the variable of a declaration does, in terms of the request that is sent. -/
theorem outcome_create (provider : Provider) (d : Declaration) (s : Session) :
    let sent := d.write? (provider.reach s) .create
    ∃ s', s'.remote = (s.remote.respond sent).2 ∧ s.Grows s' (Write.callsOf sent) [] ∧
      (d.create provider).outcome s = ((s.remote.respond sent).1.bind Entry.read, s') :=
  outcome_request? provider d s fun project s =>
    Client.outcome_createVariable project s (CreateRequest.ofParameters d.parameters)

/-- What updating it does. -/
theorem outcome_update (provider : Provider) (d : Declaration) (s : Session) :
    let sent := d.write? (provider.reach s) .update
    ∃ s', s'.remote = (s.remote.respond sent).2 ∧ s.Grows s' (Write.callsOf sent) [] ∧
      (d.update provider).outcome s = ((s.remote.respond sent).1.bind Entry.read, s') :=
  outcome_request? provider d s fun project s =>
    Client.outcome_updateVariable project d.parameters.key s
      (UpdateRequest.ofParameters d.parameters)

/-- What removing it does; a variable that is gone already counts as nothing done. -/
theorem outcome_delete (provider : Provider) (d : Declaration) (s : Session) :
    let sent := d.write? (provider.reach s) .delete
    ∃ s', s'.remote = (s.remote.respond sent).2 ∧ s.Grows s' (Write.callsOf sent) [] ∧
      (d.delete provider).outcome s =
        (orGone false ((s.remote.respond sent).1.bind fun _ => .ok true), s') := by
  let rest (project : ProjectId) : Work Bool := do
    Client.removeVariable project d.parameters.key (RemoveRequest.ofParameters d.parameters)
    pure true
  let w (project : ProjectId) : Write :=
    .delete project d.parameters.key (RemoveRequest.ofParameters d.parameters)
  have hrest (project : ProjectId) (s : Session) :
      ∃ s', s'.remote = (s.remote.serve (w project)).2 ∧ s.Grows s' [(w project).call] [] ∧
        (rest project).outcome s =
          ((s.remote.serve (w project)).1.bind fun _ => .ok true, s') := by
    obtain ⟨s', hremote, hgrows, hrun⟩ := Client.outcome_removeVariable project d.parameters.key s
      (RemoveRequest.ofParameters d.parameters)
    refine ⟨s', hremote, hgrows, (Work.outcome_bind_pure hrun fun _ => true).trans ?_⟩
    cases (s.remote.serve (w project)).1 <;> rfl
  obtain ⟨s₁, hremote, hgrows, hrun⟩ := outcome_request? provider d s hrest
  obtain ⟨s₂, hremote₂, hgrows₂, hrun₂⟩ := Work.outcome_orGone hrun false .info .handler
    ("Variable " ++ d.parameters.key ++ " already removed from " ++ d.inProjectText)
  exact ⟨s₂, hremote₂.trans hremote, hgrows.trans_quiet hgrows₂, hrun₂⟩

/-! ## Looking for the variable of a declaration -/

/-- The call that looks for the variable of a declaration, of its scope if it sets one. -/
def getCall (d : Declaration) (n : Int) : Call :=
  ⟨.get, .number n, some d.parameters.key, scopeQuery d.parameters.scope⟩

/-- What the service answers about the variable of a declaration, and the service after it. -/
def fetch (d : Declaration) (n : Int) (r : Remote) : Except Failure Observed × Remote :=
  match Fault.strike r.faults (d.getCall n) with
  | (some failure, faults) => (.error failure, { r with faults })
  | (none, faults) =>
    (match d.found? r.entries with
      | some e => e.read
      | none => .error (Client.notFound .get), { r with faults })

theorem filter_ofParameters (p : Parameters) :
    (GetRequest.ofParameters p).bind GetRequest.filter = ScopeFilter.ofParameters p := by
  unfold GetRequest.ofParameters ScopeFilter.ofParameters
  cases p.scope <;> rfl

theorem filter_removeRequest (p : Parameters) :
    (RemoveRequest.ofParameters p).bind RemoveRequest.filter = ScopeFilter.ofParameters p := by
  unfold RemoveRequest.ofParameters ScopeFilter.ofParameters
  cases p.scope <;> rfl

/-- A request is narrowed to the scope of the parameters. -/
theorem scopeOf_ofParameters (p : Parameters) :
    ScopeFilter.scopeOf (ScopeFilter.ofParameters p) = p.scope := by
  unfold ScopeFilter.scopeOf ScopeFilter.ofParameters
  cases p.scope <;> rfl

/-- An update overwrites the first entry of the project, key and scope. -/
theorem perform_update_ofParameters (project : ProjectId) (p : Parameters) (store : Store) :
    (Write.update project p.key (UpdateRequest.ofParameters p)).perform store =
      match store.find? project p.key p.scope with
      | some e => .ok (Fields.update e (UpdateRequest.ofParameters p).changes,
          store.updateFirst (Entry.isAddressed project p.key p.scope)
            (Fields.update · (UpdateRequest.ofParameters p).changes))
      | none => .error (Client.notFound .update) := by
  have hscope : ScopeFilter.scopeOf (UpdateRequest.ofParameters p).filter = p.scope :=
    scopeOf_ofParameters p
  simp only [Write.perform, hscope]

/-- A removal removes the first entry of the project, key and scope. -/
theorem perform_delete_ofParameters (project : ProjectId) (p : Parameters) (store : Store) :
    (Write.delete project p.key (RemoveRequest.ofParameters p)).perform store =
      match store.find? project p.key p.scope with
      | some e => .ok (e, store.eraseP (Entry.isAddressed project p.key p.scope))
      | none => .error (Client.notFound .delete) := by
  simp only [Write.perform, filter_removeRequest, scopeOf_ofParameters]

theorem look_eq_fetch (hn : d.parameters.projectId = some n) (r : Remote) :
    r.look (.number n) d.parameters.key (GetRequest.ofParameters d.parameters) = d.fetch n r := by
  unfold Remote.look fetch Client.getCall getCall
  simp only [filter_ofParameters, scopeOf_ofParameters, find?_eq_found? hn]

theorem outcome_getVariable (hn : d.parameters.projectId = some n) (s : Session) :
    ∃ s', s'.remote = (d.fetch n s.remote).2 ∧ s.Grows s' [d.getCall n] [] ∧
      (Client.getVariable (.number n) d.parameters.key
        (GetRequest.ofParameters d.parameters)).outcome s = ((d.fetch n s.remote).1, s') := by
  have hcall : Client.getCall (.number n) d.parameters.key (GetRequest.ofParameters d.parameters) =
      d.getCall n := by
    unfold Client.getCall getCall
    rw [filter_ofParameters, scopeOf_ofParameters]
  rw [← hcall, ← look_eq_fetch hn]
  exact Client.outcome_getVariable _ _ s _

/-- What reading the variable of a declaration gives; a variable that is not found is none. -/
theorem outcome_read (hn : d.parameters.projectId = some n) (hreach : provider.reach s = .ok ()) :
    ∃ s', s'.remote = (d.fetch n s.remote).2 ∧ s.Grows s' [d.getCall n] [] ∧
      (d.read provider).outcome s = (orGone none ((d.fetch n s.remote).1.map some), s') := by
  obtain ⟨s₁, hremote, hgrows, hrun⟩ := outcome_connected hn hreach fun project => do
    let o ← Client.getVariable project d.parameters.key (GetRequest.ofParameters d.parameters)
    pure (some o)
  obtain ⟨s₂, hremote₂, hgrows₂, hrun₂⟩ := outcome_getVariable hn s₁
  rw [hremote] at hremote₂ hrun₂
  obtain ⟨s₃, hremote₃, hgrows₃, hrun₃⟩ := Work.outcome_orGone
    (hrun.trans (Work.outcome_bind_pure hrun₂ some)) none .debug .handler
    ("Variable " ++ d.parameters.key ++ " not found in " ++ d.inProjectText)
  exact ⟨s₃, hremote₃.trans hremote₂, (hgrows.quiet_trans hgrows₂).trans_quiet hgrows₃, hrun₃⟩

end Declaration

end CiVariables
