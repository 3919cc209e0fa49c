import CiVariables.Proofs.Ending
import CiVariables.Proofs.Settling

/-!
# Identities of entries over whole runs

An entry is identified by its project, key and environment scope. Whatever is planned and carried
out, in any order and whatever faults strike, a run is a row of executions of changes, and each
does one of four things to the entries (`Store.Moves`): nothing, adding an entry whose identity is
free, overwriting one in its place without its identity, or removing one. Entries that no executed
change is about stay as they are, and identities that differ at the start differ ever after
(`Operation.identities_preserved`).
-/

namespace CiVariables

/-! ## What a change may do to the entries -/

/-- What identifies an entry: its project, its key and its scope, which is `*` where there is
none. -/
def Entry.place (e : Entry) : Json × Json × Json := (e.project, e.key, e.scope)

/-- No two entries have the same identity. -/
def Store.Distinct (store : Store) : Prop :=
  store.Pairwise fun a b => Entry.sameIdentity a b = false

/-- What an action on the variable of a project and key does to the entries, of which those of that
project and key are marked. -/
inductive Store.Moves (about : Entry → Bool) : Action → Store → Store → Prop where
  | nothing {a : Action} {store : Store} : Moves about a store store
  | added {store : Store} {e : Entry} (habout : about e = true)
    (hfree : ∀ old ∈ store, Entry.sameIdentity old e = false) :
    Moves about .create store (store ++ [e])
  | overwritten {store : Store} {i : Nat} {e e' : Entry} (hget : store[i]? = some e)
    (habout : about e = true) (hplace : Entry.place e' = Entry.place e) :
    Moves about .update store (store.set i e')
  | removed {store : Store} {i : Nat} {e : Entry} (hget : store[i]? = some e)
    (habout : about e = true) : Moves about .delete store (store.eraseIdx i)

/-- Whether a change is about an entry: whether it is of the project and key of the recorded
declaration. -/
def Change.isAbout (c : Change) (e : Entry) : Bool :=
  match c.declared? with
  | none => false
  | some d =>
    match d.parameters.projectId with
    | none => false
    | some n => e.isAddressed (.number n) d.parameters.key none

theorem Change.isAbout_eq {c : Change} {d : Declaration} {n : Int} (hd : c.declared? = some d)
    (hn : d.parameters.projectId = some n) :
    c.isAbout = Entry.isAddressed (.number n) d.parameters.key none := by
  funext e
  unfold isAbout
  simp only [hd, hn]

/-- What is addressed with a scope is addressed without it. -/
theorem Entry.isAddressed_widen {project : ProjectId} {key : String} {scope : Option String}
    {e : Entry} (h : e.isAddressed project key scope = true) :
    e.isAddressed project key none = true := by
  obtain ⟨hproject, hkey, -⟩ := isAddressed_iff.1 h
  exact isAddressed_iff.2 ⟨hproject, hkey, nofun⟩

/-- Whether an entry is addressed depends on its project, key and scope only. -/
theorem Entry.isAddressed_congr {e e' : Entry} (h : e'.place = e.place) (project : ProjectId)
    (key : String) (scope : Option String) :
    e'.isAddressed project key scope = e.isAddressed project key scope := by
  obtain ⟨hproject, hrest⟩ := Prod.mk.inj h
  obtain ⟨hkey, hscope⟩ := Prod.mk.inj hrest
  unfold isAddressed inProject
  rw [hproject, hkey, hscope]

namespace Declaration

variable {d : Declaration} {n : Int} {store touched : Store} {e : Entry}

theorem moves_create (hn : d.parameters.projectId = some n)
    (h : (Write.create (.number n) (CreateRequest.ofParameters d.parameters)).perform store =
      .ok (e, touched)) :
    Store.Moves (Entry.isAddressed (.number n) d.parameters.key none) .create store touched := by
  rw [perform_create] at h
  split at h
  · cases h
  · next htaken =>
    cases h
    refine .added (Entry.isAddressed_widen (addresses_eq hn ▸ addresses_created hn)) ?_
    intro old hold
    refine (d.sameIdentity_createdEntry_comm n old).trans (Bool.eq_false_iff.2 fun hsame => ?_)
    exact htaken (List.any_eq_true.2 ⟨old, hold, hsame⟩)

theorem moves_update
    (h : (Write.update (.number n) d.parameters.key
      (UpdateRequest.ofParameters d.parameters)).perform store = .ok (e, touched)) :
    Store.Moves (Entry.isAddressed (.number n) d.parameters.key none) .update store touched := by
  rw [perform_update_ofParameters] at h
  cases hfind : store.find? (.number n) d.parameters.key d.parameters.scope with
  | none =>
    rw [hfind] at h
    cases h
  | some old =>
    simp only [hfind] at h
    cases h
    have haddressed : old.isAddressed (.number n) d.parameters.key d.parameters.scope = true :=
      List.find?_some hfind
    obtain ⟨i, hget, hset⟩ := Store.updateFirst_eq_set hfind
      fun x => Fields.update x (UpdateRequest.ofParameters d.parameters).changes
    rw [hset]
    refine .overwritten hget (Entry.isAddressed_widen haddressed) ?_
    unfold Entry.place
    rw [Entry.project_update, Entry.key_update,
      Entry.scope_update (Entry.isAddressed_iff.1 haddressed).2.2]

theorem moves_delete
    (h : (Write.delete (.number n) d.parameters.key
      (RemoveRequest.ofParameters d.parameters)).perform store = .ok (e, touched)) :
    Store.Moves (Entry.isAddressed (.number n) d.parameters.key none) .delete store touched := by
  rw [perform_delete_ofParameters] at h
  cases hfind : store.find? (.number n) d.parameters.key d.parameters.scope with
  | none =>
    rw [hfind] at h
    cases h
  | some old =>
    simp only [hfind] at h
    cases h
    have haddressed : e.isAddressed (.number n) d.parameters.key d.parameters.scope = true :=
      List.find?_some hfind
    obtain ⟨i, hget, herase⟩ := Store.eraseP_eq_eraseIdx hfind
    rw [herase]
    exact .removed hget (Entry.isAddressed_widen haddressed)

/-- The step lemma: what a request of a declaration does to the store is a move of entries that the
declaration is about. -/
theorem Sends.moves {a : Action} {w : Write} (hsends : d.Sends (.number n) a w)
    (hn : d.parameters.projectId = some n) (h : w.perform store = .ok (e, touched)) :
    Store.Moves (Entry.isAddressed (.number n) d.parameters.key none) a store touched := by
  cases hsends with
  | create => exact moves_create hn h
  | update => exact moves_update h
  | delete => exact moves_delete h

end Declaration

/-- Carrying out a change does to the entries what its action says, or nothing. -/
theorem Change.moves_handle (c : Change) (reach : Except Failure Unit) (r : Remote) :
    Store.Moves c.isAbout c.action r.entries (c.handle reach r).2.entries := by
  rcases hhandle : c.handle reach r with ⟨v, r'⟩
  obtain ⟨-, -, hsame⟩ | ⟨w, e, hw, hperform, -⟩ := Change.handle_cases hhandle
  · rw [hsame]
    exact .nothing
  · obtain ⟨-, d, n, hd, hn, hsends⟩ := write?_eq_ok hw
    rw [isAbout_eq hd hn]
    exact hsends.moves hn hperform

theorem Change.isAbout_congr (c : Change) {e e' : Entry} (h : e'.place = e.place) :
    c.isAbout e' = c.isAbout e := by
  unfold isAbout
  split
  · rfl
  · split
    · rfl
    · exact Entry.isAddressed_congr h _ _ _

namespace Store

variable {about : Entry → Bool} {a : Action} {store store' : Store}

theorem split_at {i : Nat} {e : Entry} (hget : store[i]? = some e) :
    ∃ before after, store = before ++ e :: after ∧ i = before.length := by
  obtain ⟨hi, rfl⟩ := List.getElem?_eq_some_iff.1 hget
  refine ⟨store.take i, store.drop (i + 1), ?_, ?_⟩
  · rw [List.getElem_cons_drop, List.take_append_drop]
  · rw [List.length_take, Nat.min_eq_left hi.le]

/-- Whether identities are distinct depends on the places of the entries only. -/
theorem distinct_iff_of_place {store store' : Store}
    (h : store'.map Entry.place = store.map Entry.place) : store'.Distinct ↔ store.Distinct := by
  let apart (p q : Json × Json × Json) : Prop :=
    (p.1.sameValue q.1 && p.2.1.sameValue q.2.1 && p.2.2.sameValue q.2.2) = false
  have hplace (store : Store) : store.Distinct ↔ (store.map Entry.place).Pairwise apart :=
    (List.pairwise_map (R := apart) (f := Entry.place)).symm
  rw [hplace, hplace, h]

/-- Identities that differ go on to differ. -/
theorem Moves.distinct (h : Moves about a store store') (hdistinct : store.Distinct) :
    store'.Distinct := by
  cases h with
  | nothing => exact hdistinct
  | added habout hfree =>
    refine List.pairwise_append.2 ⟨hdistinct, List.pairwise_singleton _ _, fun old hold x hx => ?_⟩
    rw [List.mem_singleton.1 hx]
    exact hfree old hold
  | overwritten hget habout hplace =>
    refine (distinct_iff_of_place ?_).2 hdistinct
    obtain ⟨before, after, rfl, rfl⟩ := split_at hget
    simp [hplace]
  | removed hget habout => exact List.Pairwise.sublist (List.eraseIdx_sublist _ _) hdistinct

/-- Entries that a change is not about stay as they are. -/
theorem Moves.others (h : Moves about a store store')
    (hcongr : ∀ e e', Entry.place e' = Entry.place e → about e' = about e) {other : Entry → Bool}
    (hother : ∀ e, about e = true → other e = false) :
    store'.filter other = store.filter other := by
  cases h with
  | nothing => rfl
  | added habout hfree =>
    rw [List.filter_append, List.filter_cons_of_neg (by simp [hother _ habout])]
    simp
  | overwritten hget habout hplace =>
    have hnew := hother _ ((hcongr _ _ hplace).trans habout)
    obtain ⟨before, after, rfl, rfl⟩ := split_at hget
    simp [hnew, hother _ habout]
  | removed hget habout =>
    obtain ⟨before, after, rfl, rfl⟩ := split_at hget
    simp [List.eraseIdx_append_of_length_le, hother _ habout]

end Store

/-! ## Executions in a row -/

/-- A change that was carried out, with the entries before and after it. -/
structure Execution where
  change : Change
  /-- Whether the service could be reached. -/
  reach : Except Failure Unit
  before : Store
  after : Store

namespace Execution

/-- The change makes the later entries of the earlier ones, whatever faults there were. -/
def Happens (x : Execution) : Prop :=
  ∃ faults, (x.change.handle x.reach ⟨x.before, faults⟩).2.entries = x.after

/-- The call that was made, if the request could be sent. -/
def calls (x : Execution) : List Call := Write.callsOf (x.change.write? x.reach)

/-- Executions that lead from some entries to others. -/
inductive Linked : Store → List Execution → Store → Prop where
  | nil {store : Store} : Linked store [] store
  | cons {x : Execution} {rest : List Execution} {store : Store} (h : x.Happens)
    (hrest : Linked x.after rest store) : Linked x.before (x :: rest) store

/-- None of the changes is about the entry. -/
def untargeted (xs : List Execution) (e : Entry) : Bool := xs.all fun x => !x.change.isAbout e

/-- A change that is executed moves entries that it is about. -/
theorem Happens.moves {x : Execution} (h : x.Happens) :
    Store.Moves x.change.isAbout x.change.action x.before x.after := by
  obtain ⟨faults, hafter⟩ := h
  rw [← hafter]
  exact x.change.moves_handle x.reach ⟨x.before, faults⟩

namespace Linked

variable {store store' store'' : Store} {xs ys : List Execution}

theorem trans (h : Linked store xs store') (h' : Linked store' ys store'') :
    Linked store (xs ++ ys) store'' := by
  induction h with
  | nil => exact h'
  | cons hx hrest ih => exact .cons hx (ih h')

theorem happens (h : Linked store xs store') : ∀ x ∈ xs, x.Happens := by
  induction h with
  | nil => exact nofun
  | cons hx hrest ih => exact List.forall_mem_cons.2 ⟨hx, ih⟩

/-- Distinct identities stay distinct through all executions. -/
theorem distinct (h : Linked store xs store') (hdistinct : store.Distinct) :
    store'.Distinct ∧ ∀ x ∈ xs, x.before.Distinct ∧ x.after.Distinct := by
  induction h with
  | nil => exact ⟨hdistinct, nofun⟩
  | cons hx hrest ih =>
    have hafter := hx.moves.distinct hdistinct
    obtain ⟨hlast, hall⟩ := ih hafter
    exact ⟨hlast, List.forall_mem_cons.2 ⟨⟨hdistinct, hafter⟩, hall⟩⟩

/-- Entries that none of the changes is about are left in their order. -/
theorem others (h : Linked store xs store') {other : Entry → Bool}
    (hother : ∀ x ∈ xs, ∀ e, x.change.isAbout e = true → other e = false) :
    store'.filter other = store.filter other := by
  induction h with
  | nil => rfl
  | cons hx hrest ih =>
    obtain ⟨hfirst, hothers⟩ := List.forall_mem_cons.1 hother
    rw [ih hothers]
    exact hx.moves.others (fun _ _ => Change.isAbout_congr _) hfirst

end Linked

end Execution

/-- The calls made so far that may change the store. -/
def Session.writes (s : Session) : List Call := s.calls.filter (·.method.isWrite)

/-- Between two sessions these changes were carried out, and nothing else touched the entries. -/
structure Session.Executed (s s' : Session) (xs : List Execution) : Prop where
  linked : Execution.Linked s.remote.entries xs s'.remote.entries
  writes : s'.writes = s.writes ++ xs.flatMap Execution.calls

namespace Session.Executed

variable {s s' s'' : Session} {xs ys : List Execution}

theorem still (hentries : s'.remote.entries = s.remote.entries) (hwrites : s'.writes = s.writes) :
    s.Executed s' [] where
  linked := hentries ▸ .nil
  writes := hwrites.trans (List.append_nil _).symm

theorem trans (h : s.Executed s' xs) (h' : s'.Executed s'' ys) : s.Executed s'' (xs ++ ys) where
  linked := h.linked.trans h'.linked
  writes := by rw [h'.writes, h.writes, List.append_assoc, List.flatMap_append]

end Session.Executed

/-- What grows without a call has no new writes. -/
theorem Session.Grows.writes {s s' : Session} {calls : List Call} {progress : List Event}
    (h : s.Grows s' calls progress) :
    s'.writes = s.writes ++ calls.filter (·.method.isWrite) := by
  unfold Session.writes
  rw [h.calls, List.filter_append]

/-- A computation that touches the entries by nothing but carrying out some of these changes, in
their order. -/
def Work.Executes {α : Type} (w : Work α) (cs : List Change) : Prop :=
  ∀ s : Session, ∃ xs, s.Executed (w.outcome s).2 xs ∧ (xs.map Execution.change).Sublist cs

namespace Work.Executes

variable {α β : Type} {w : Work α} {cs cs' : List Change}

theorem of_quiet {a : α} (h : w.Quiet a) : w.Executes [] := by
  intro s
  obtain ⟨s', hremote, hgrows, hrun⟩ := h s
  rw [hrun]
  have hwrites : s'.writes = s.writes := by simpa using hgrows.writes
  exact ⟨[], .still (congrArg Remote.entries hremote) hwrites, .slnil⟩

/-- A sequence executes what its parts execute, in order. -/
theorem bind {f : α → Work β} (h : w.Executes cs) (hf : ∀ a, (f a).Executes cs') :
    (w >>= f).Executes (cs ++ cs') := by
  intro s
  obtain ⟨xs, hexecuted, hchanges⟩ := h s
  rw [outcome_bind]
  rcases hrun : w.outcome s with ⟨result, s'⟩
  rw [hrun] at hexecuted
  cases result with
  | error failure => exact ⟨xs, hexecuted, hchanges.trans (List.sublist_append_left cs cs')⟩
  | ok a =>
    obtain ⟨ys, hexecuted', hchanges'⟩ := hf a s'
    refine ⟨xs ++ ys, hexecuted.trans hexecuted', ?_⟩
    rw [List.map_append]
    exact hchanges.append hchanges'

theorem rethrow {g : Failure → Failure} (h : w.Executes cs) :
    (tryCatch w fun failure => throw (g failure)).Executes cs := by
  intro s
  obtain ⟨xs, hexecuted, hchanges⟩ := h s
  refine ⟨xs, ?_, hchanges⟩
  rw [outcome_tryCatch]
  rcases hrun : w.outcome s with ⟨result, s'⟩
  rw [hrun] at hexecuted
  cases result <;> exact hexecuted

end Work.Executes

theorem Write.isWrite_callsOf (sent : Except Failure Write) :
    (callsOf sent).filter (·.method.isWrite) = callsOf sent := by
  cases sent with
  | error failure => rfl
  | ok w => cases w <;> rfl

namespace Applying

theorem executes_run (provider : Provider) (c : Change) : (run provider c).Executes [c] := by
  intro s
  obtain ⟨s', hremote, hgrows, hrun⟩ := outcome_run provider c s
  rw [hrun]
  let x : Execution := ⟨c, provider.reach s, s.remote.entries, s'.remote.entries⟩
  have hx : x.Happens := ⟨s.remote.faults, congrArg Remote.entries hremote.symm⟩
  have hwrites : s'.writes = s.writes ++ [x].flatMap Execution.calls := by
    rw [hgrows.writes, Write.isWrite_callsOf]
    simp [x, Execution.calls]
  exact ⟨[x], ⟨.cons hx .nil, hwrites⟩, .refl _⟩

theorem executes_report (follower : Option Follower) {e : Event} (he : e.call? = none) :
    (report follower e).Executes [] := by
  intro s
  have hnoted : (s.noted e).writes = s.writes := by
    have hgrows := s.grows_noted e
    rw [he] at hgrows
    simpa using hgrows.writes
  unfold report
  cases follower with
  | none => exact ⟨[], .still rfl rfl, .slnil⟩
  | some accept =>
    simp only
    cases accept e with
    | ok _ => exact ⟨[], .still rfl hnoted, .slnil⟩
    | error failure => exact ⟨[], .still rfl rfl, .slnil⟩

/-- The run lemma, by induction over the changes that are still to be carried out. -/
theorem executes_applyChanges (provider : Provider) (follower : Option Follower)
    (changes : List Change) : ∀ before,
      (applyChanges provider follower before changes).Executes changes := by
  induction changes with
  | nil => exact fun before => .of_quiet (.pure before)
  | cons c rest ih =>
    intro before
    have hlog : (Work.log .debug .engine
        ("Applying " ++ c.address ++ ": " ++ c.action.text)).Executes [] :=
      .of_quiet (.log _ _ _)
    have hrest (done : Bool) : Work.Executes (if done then do
          report follower (.finished c.address c.action)
          applyChanges provider follower (before ++ [c]) rest
        else applyChanges provider follower before rest) rest := by
      cases done with
      | true => exact (executes_report follower rfl).bind fun _ => ih (before ++ [c])
      | false => exact ih before
    have hrun := (executes_run provider c).rethrow
      (g := fun failure => .apply before c.address failure.message (some failure))
    have hreport : (report follower (.started c.address c.action)).Executes [] :=
      executes_report follower rfl
    exact hlog.bind fun _ => hreport.bind fun _ => hrun.bind hrest

theorem executes_apply (provider : Provider) (follower : Option Follower) (p : Plan) :
    (apply provider follower p).Executes p.actionable := by
  have hlog : (Work.log .info .engine
      ("Applying " ++ toString p.actionable.length ++ " operations")).Executes [] :=
    .of_quiet (.log _ _ _)
  exact hlog.bind fun _ => executes_applyChanges provider follower p.actionable []

end Applying

/-- Making a plan executes nothing. -/
theorem Planning.executes_plan (provider : Provider) (now : Timestamp) (destroy : Bool)
    (ds : List Declaration) : (plan provider now destroy ds).Executes [] := by
  intro s
  obtain ⟨calls, result, s', hends, hgrows, hrun⟩ := outcome_plan_ends provider now destroy ds s
  have hread : calls.filter (·.method.isWrite) = [] := by
    refine List.filter_eq_nil_iff.2 fun c hc => ?_
    rw [hends.only_get c hc]
    decide
  have hwrites : s'.writes = s.writes := by rw [hgrows.writes, hread, List.append_nil]
  rw [hrun]
  exact ⟨[], .still hends.entries hwrites, .slnil⟩

/-! ## Runs -/

/-- What a run is made of. -/
inductive Operation where
  | plan (provider : Provider) (now : Timestamp) (destroy : Bool) (ds : List Declaration)
  /-- Any plan, wherever it comes from. -/
  | apply (provider : Provider) (follower : Option Applying.Follower) (p : Plan)
  /-- The service gets into another mood, and connections are lost or made. -/
  | meanwhile (faults : List Fault) (isConnected : Bool)

namespace Operation

/-- The session after an operation, whether it succeeds or not. -/
def after (s : Session) : Operation → Session
  | .plan provider now destroy ds => ((Planning.plan provider now destroy ds).outcome s).2
  | .apply provider follower p => ((Applying.apply provider follower p).outcome s).2
  | .meanwhile faults isConnected =>
    { s with remote := { s.remote with faults }, isConnected }

/-- The changes that an operation may carry out. -/
def changes : Operation → List Change
  | .plan .. => []
  | .apply _ _ p => p.actionable
  | .meanwhile .. => []

theorem executes (op : Operation) (s : Session) :
    ∃ xs, s.Executed (op.after s) xs ∧ (xs.map Execution.change).Sublist op.changes := by
  cases op with
  | plan provider now destroy ds => exact Planning.executes_plan provider now destroy ds s
  | apply provider follower p => exact Applying.executes_apply provider follower p s
  | meanwhile faults isConnected => exact ⟨[], .still rfl rfl, .slnil⟩

/-- A list of operations executes changes of theirs, in their order. -/
theorem executes_all (ops : List Operation) (s : Session) :
    ∃ xs, s.Executed (ops.foldl after s) xs ∧
      (xs.map Execution.change).Sublist (ops.flatMap changes) := by
  induction ops generalizing s with
  | nil => exact ⟨[], .still rfl rfl, .slnil⟩
  | cons op rest ih =>
    obtain ⟨xs, hexecuted, hchanges⟩ := op.executes s
    obtain ⟨ys, hexecuted', hchanges'⟩ := ih (op.after s)
    refine ⟨xs ++ ys, hexecuted.trans hexecuted', ?_⟩
    rw [List.map_append, List.flatMap_cons]
    exact hchanges.append hchanges'

/-- **Identities are kept.** A run of any operations is a row of executions of changes of the plans
that were applied. Each of them adds, overwrites in its place or removes an entry as its action
says, or does nothing; entries that none of them is about are as they were; and if identities differ
at the start, they differ before and after every execution. -/
theorem identities_preserved (ops : List Operation) (s : Session) :
    ∃ xs, s.Executed (ops.foldl after s) xs ∧
      (xs.map Execution.change).Sublist (ops.flatMap changes) ∧
      (∀ x ∈ xs, x.Happens ∧ Store.Moves x.change.isAbout x.change.action x.before x.after) ∧
      (ops.foldl after s).remote.entries.filter (Execution.untargeted xs) =
        s.remote.entries.filter (Execution.untargeted xs) ∧
      (s.remote.entries.Distinct → (ops.foldl after s).remote.entries.Distinct ∧
        ∀ x ∈ xs, x.before.Distinct ∧ x.after.Distinct) := by
  obtain ⟨xs, hexecuted, hchanges⟩ := executes_all ops s
  refine ⟨xs, hexecuted, hchanges, fun x hx => ?_, ?_, hexecuted.linked.distinct⟩
  · have hhappens := hexecuted.linked.happens x hx
    exact ⟨hhappens, hhappens.moves⟩
  · refine hexecuted.linked.others fun x hx e habout => List.all_eq_false.2 ⟨x, hx, ?_⟩
    simp [habout]

end Operation

end CiVariables
