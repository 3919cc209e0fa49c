import CiVariables.Reconcile
import CiVariables.Proofs.Service

/-!
# One entry for all requests

Reading, updating and removing the variable of some parameters concern one and the same entry: the
first of their project and key, and of their scope if they set one
(`Parameters.requests_concern_one_entry`). The scope travels as a query parameter with reading and
removing and inside the body with an update, and not at all where it is unset
(`Parameters.AskForScope`); the service has nothing else to find the entry by. Filling the unset
scope with what was read leaves the entry: it is the first of the wider test, and it passes the
narrower one.
-/

namespace CiVariables

/-! ## The first entry of a test -/

/-- The first entry that passes a test, with the entries before and after it. -/
structure Store.First (test : Entry → Bool) (store before : Store) (e : Entry) (after : Store) :
    Prop where
  split : store = before ++ e :: after
  passes : test e = true
  fail : ∀ x ∈ before, test x = false

namespace Store

variable {test test' : Entry → Bool} {store before after : Store} {e : Entry}

theorem exists_first (h : List.find? test store = some e) :
    ∃ before after, First test store before e after := by
  obtain ⟨hpasses, before, after, hsplit, hfail⟩ := List.find?_eq_some_iff_append.1 h
  exact ⟨before, after, hsplit, hpasses, fun x hx => by simpa using hfail x hx⟩

namespace First

theorem find?_eq (h : First test store before e after) : List.find? test store = some e := by
  refine List.find?_eq_some_iff_append.2 ⟨h.passes, before, after, h.split, fun x hx => ?_⟩
  rw [h.fail x hx]
  rfl

/-- Changing the first entry that passes a test leaves all others where they are. -/
theorem updateFirst_eq (h : First test store before e after) (change : Entry → Entry) :
    store.updateFirst test change = before ++ change e :: after := by
  obtain ⟨rfl, hpasses, hfail⟩ := h
  induction before with
  | nil => exact if_pos hpasses
  | cons x rest ih =>
    obtain ⟨hx, hrest⟩ := List.forall_mem_cons.1 hfail
    have hnot : ¬test x = true := by simp [hx]
    rw [List.cons_append, updateFirst, if_neg hnot, ih hrest]
    rfl

theorem eraseP_eq (h : First test store before e after) : store.eraseP test = before ++ after := by
  obtain ⟨rfl, hpasses, hfail⟩ := h
  rw [List.eraseP_append_right _ fun x hx => by simp [hfail x hx], List.eraseP_cons_of_pos hpasses]

/-- The first entry of a wider test is the first of a narrower one that it passes. -/
theorem of_narrower (h : First test store before e after) (hpasses : test' e = true)
    (hsub : ∀ x, test' x = true → test x = true) : First test' store before e after := by
  refine ⟨h.split, hpasses, fun x hx => Bool.eq_false_iff.2 fun hx' => ?_⟩
  have hfail := h.fail x hx
  rw [hsub x hx'] at hfail
  cases hfail

end First

end Store

/-- Without faults a request gives what it gives on the store. -/
theorem Remote.serve_of_no_faults {r : Remote} (h : r.faults = []) (w : Write) :
    r.serve w = match w.perform r.entries with
      | .ok (e, entries) => (.ok e, { r with entries })
      | .error failure => (.error failure, r) := by
  obtain ⟨entries, faults⟩ := r
  cases h
  rfl

theorem Remote.look_of_no_faults {r : Remote} (h : r.faults = []) (project : ProjectId)
    (key : String) (request : Option GetRequest) :
    r.look project key request =
      (match r.entries.find? project key
          (ScopeFilter.scopeOf (request.bind GetRequest.filter)) with
        | some e => e.read
        | none => .error (Client.notFound .get), r) := by
  obtain ⟨entries, faults⟩ := r
  cases h
  rfl

/-! ## The requests of parameters -/

namespace Parameters

section Requests

variable (p : Parameters) (project : ProjectId)

/-- Reads the variable that parameters are about. -/
def getIn : Work Observed := Client.getVariable project p.key (GetRequest.ofParameters p)

/-- Brings the variable that parameters are about to what they set. -/
def updateIn : Work Observed := Client.updateVariable project p.key (UpdateRequest.ofParameters p)

/-- Removes the variable that parameters are about. -/
def removeIn : Work Unit := Client.removeVariable project p.key (RemoveRequest.ofParameters p)

/-- The entry is of the project and key, and of the scope if there is one. -/
def addressesIn : Entry → Bool := Entry.isAddressed project p.key p.scope

/-- An entry with the fields that parameters set. -/
def writtenOver (e : Entry) : Entry := Fields.update e (UpdateRequest.ofParameters p).changes

/-- Reading, updating and removing each make one call about the key. It asks for the scope, if there
is one: in its query, beside the set fields in its body, and in its query. -/
structure AskForScope (s : Session) : Prop where
  getIn : ((p.getIn project).outcome s).2.calls =
    s.calls ++ [⟨.get, project, some p.key, scopeQuery p.scope⟩]
  updateIn : ((p.updateIn project).outcome s).2.calls = s.calls ++
    [⟨.update, project, some p.key, p.requestMembers.dropNull ++ scopeMembers p.scope⟩]
  removeIn : ((p.removeIn project).outcome s).2.calls =
    s.calls ++ [⟨.delete, project, some p.key, scopeQuery p.scope⟩]

/-- Reading, updating and removing all concern this entry, and leave those before and after it. -/
structure Concerns (s : Session) (before : Store) (e : Entry) (after : Store) : Prop where
  getIn : ∃ s', (p.getIn project).outcome s = (e.read, s') ∧ s'.remote = s.remote
  updateIn : ∃ s', (p.updateIn project).outcome s = ((p.writtenOver e).read, s') ∧
    s'.remote = { s.remote with entries := before ++ p.writtenOver e :: after }
  removeIn : ∃ s', (p.removeIn project).outcome s = (.ok (), s') ∧
    s'.remote = { s.remote with entries := before ++ after }

/-- Reading, updating and removing all find nothing, and leave the service as it was. -/
structure Misses (s : Session) : Prop where
  getIn : ∃ s', (p.getIn project).outcome s = (.error (Client.notFound .get), s') ∧
    s'.remote = s.remote
  updateIn : ∃ s', (p.updateIn project).outcome s = (.error (Client.notFound .update), s') ∧
    s'.remote = s.remote
  removeIn : ∃ s', (p.removeIn project).outcome s = (.error (Client.notFound .delete), s') ∧
    s'.remote = s.remote

end Requests

section Outcomes

variable (p : Parameters) (project : ProjectId) {s : Session}

/-- Whatever the service answers, the requests ask for the scope. -/
theorem askForScope (s : Session) : p.AskForScope project s := by
  have hbody : (UpdateRequest.ofParameters p).body =
      p.requestMembers.dropNull ++ scopeMembers p.scope := by
    have hfilter : ScopeFilter.scopeOf (UpdateRequest.ofParameters p).filter = p.scope :=
      Declaration.scopeOf_ofParameters p
    rw [UpdateRequest.body_eq, hfilter, UpdateRequest.changes_ofParameters]
  refine ⟨?_, ?_, ?_⟩
  · obtain ⟨s', -, hgrows, hrun⟩ :=
      Client.outcome_getVariable project p.key s (GetRequest.ofParameters p)
    rw [Client.getCall, Declaration.filter_ofParameters, Declaration.scopeOf_ofParameters] at hgrows
    exact (congrArg (·.2.calls) hrun).trans hgrows.calls
  · obtain ⟨s', -, hgrows, hrun⟩ :=
      Client.outcome_updateVariable project p.key s (UpdateRequest.ofParameters p)
    rw [Write.call, hbody] at hgrows
    exact (congrArg (·.2.calls) hrun).trans hgrows.calls
  · obtain ⟨s', -, hgrows, hrun⟩ :=
      Client.outcome_removeVariable project p.key s (RemoveRequest.ofParameters p)
    rw [Write.call, Declaration.filter_removeRequest, Declaration.scopeOf_ofParameters] at hgrows
    exact (congrArg (·.2.calls) hrun).trans hgrows.calls

theorem find?_eq_addressesIn (store : Store) :
    store.find? project p.key p.scope = List.find? (p.addressesIn project) store := rfl

/-- What reading gives, in terms of the first entry that the parameters address. -/
theorem outcome_getIn (hs : s.remote.faults = []) :
    ∃ s', s'.remote = s.remote ∧ (p.getIn project).outcome s =
      (match List.find? (p.addressesIn project) s.remote.entries with
        | some e => e.read
        | none => .error (Client.notFound .get), s') := by
  obtain ⟨s', hremote, -, hrun⟩ :=
    Client.outcome_getVariable project p.key s (GetRequest.ofParameters p)
  rw [Remote.look_of_no_faults hs, Declaration.filter_ofParameters,
    Declaration.scopeOf_ofParameters] at hremote hrun
  exact ⟨s', hremote, hrun⟩

/-- What updating gives, and the entry that it overwrites. -/
theorem outcome_updateIn (hs : s.remote.faults = []) :
    ∃ s', (p.updateIn project).outcome s =
      (match List.find? (p.addressesIn project) s.remote.entries with
        | some e => (p.writtenOver e).read
        | none => .error (Client.notFound .update), s') ∧
      s'.remote = match List.find? (p.addressesIn project) s.remote.entries with
        | some _ => { s.remote with
            entries := s.remote.entries.updateFirst (p.addressesIn project) p.writtenOver }
        | none => s.remote := by
  obtain ⟨s', hremote, -, hrun⟩ :=
    Client.outcome_updateVariable project p.key s (UpdateRequest.ofParameters p)
  rw [Remote.serve_of_no_faults hs, Declaration.perform_update_ofParameters,
    find?_eq_addressesIn] at hremote hrun
  refine ⟨s', hrun.trans ?_, hremote.trans ?_⟩
  · cases List.find? (p.addressesIn project) s.remote.entries <;> rfl
  · cases List.find? (p.addressesIn project) s.remote.entries <;> rfl

/-- What removing gives, and the entry that it takes away. -/
theorem outcome_removeIn (hs : s.remote.faults = []) :
    ∃ s', (p.removeIn project).outcome s =
      (match List.find? (p.addressesIn project) s.remote.entries with
        | some _ => .ok ()
        | none => .error (Client.notFound .delete), s') ∧
      s'.remote = match List.find? (p.addressesIn project) s.remote.entries with
        | some _ => { s.remote with entries := s.remote.entries.eraseP (p.addressesIn project) }
        | none => s.remote := by
  obtain ⟨s', hremote, -, hrun⟩ :=
    Client.outcome_removeVariable project p.key s (RemoveRequest.ofParameters p)
  rw [Remote.serve_of_no_faults hs, Declaration.perform_delete_ofParameters,
    find?_eq_addressesIn] at hremote hrun
  refine ⟨s', hrun.trans ?_, hremote.trans ?_⟩
  · cases List.find? (p.addressesIn project) s.remote.entries <;> rfl
  · cases List.find? (p.addressesIn project) s.remote.entries <;> rfl

end Outcomes

variable {p : Parameters} {project : ProjectId} {s : Session}

/-- If an entry is addressed, the first one is what all three requests concern. -/
theorem concerns_of_first (hs : s.remote.faults = []) {before after : Store} {e : Entry}
    (h : Store.First (p.addressesIn project) s.remote.entries before e after) :
    p.Concerns project s before e after := by
  obtain ⟨s₁, hremote₁, hget⟩ := outcome_getIn p project hs
  obtain ⟨s₂, hupdate, hremote₂⟩ := outcome_updateIn p project hs
  obtain ⟨s₃, hremove, hremote₃⟩ := outcome_removeIn p project hs
  simp only [h.find?_eq, h.updateFirst_eq, h.eraseP_eq] at hget hupdate hremote₂ hremove hremote₃
  exact ⟨⟨s₁, hget, hremote₁⟩, ⟨s₂, hupdate, hremote₂⟩, ⟨s₃, hremove, hremote₃⟩⟩

/-- If none is addressed, all three requests find nothing. -/
theorem misses_of_find? (hs : s.remote.faults = [])
    (h : List.find? (p.addressesIn project) s.remote.entries = none) : p.Misses project s := by
  obtain ⟨s₁, hremote₁, hget⟩ := outcome_getIn p project hs
  obtain ⟨s₂, hupdate, hremote₂⟩ := outcome_updateIn p project hs
  obtain ⟨s₃, hremove, hremote₃⟩ := outcome_removeIn p project hs
  simp only [h] at hget hupdate hremote₂ hremove hremote₃
  exact ⟨⟨s₁, hget, hremote₁⟩, ⟨s₂, hupdate, hremote₂⟩, ⟨s₃, hremove, hremote₃⟩⟩

/-! ## Filling the scope -/

/-- An entry that parameters address has the scope with which they are filled from it. -/
theorem scope_lateInitialize {e : Entry} {o : Observed} (h : p.addressesIn project e = true)
    (hshows : e.Shows o) : (p.lateInitialize (some o)).scope = some o.scope := by
  show p.scope.or (some o.scope) = some o.scope
  cases hscope : p.scope with
  | none => rfl
  | some t =>
    obtain ⟨-, -, hdeclared⟩ := Entry.isAddressed_iff.1 h
    have hsame : t = o.scope := Json.str.inj ((hdeclared t hscope).symm.trans hshows.scope_eq)
    rw [Option.some_or, hsame]

/-- Filling the unset scope with what was read leaves the first entry that is addressed. -/
theorem first_lateInitialize {store before after : Store} {e : Entry} {o : Observed}
    (h : Store.First (p.addressesIn project) store before e after) (hshows : e.Shows o) :
    Store.First ((p.lateInitialize (some o)).addressesIn project) store before e after := by
  have hscope := scope_lateInitialize h.passes hshows
  obtain ⟨hproject, hkey, hdeclared⟩ := Entry.isAddressed_iff.1 h.passes
  refine h.of_narrower (Entry.isAddressed_iff.2 ⟨hproject, hkey, fun t ht => ?_⟩) fun x hx => ?_
  · rw [hshows.scope_eq, Option.some.inj (hscope.symm.trans ht)]
  · obtain ⟨hxproject, hxkey, hxscope⟩ := Entry.isAddressed_iff.1 hx
    refine Entry.isAddressed_iff.2 ⟨hxproject, hxkey, fun t ht => ?_⟩
    rw [hxscope o.scope hscope, ← hshows.scope_eq, hdeclared t ht]

/-! ## All requests -/

end Parameters

/-- The work fails because the service says that there is no variable. -/
def Work.FindsNothing {α : Type} (w : Work α) (s : Session) : Prop :=
  ∃ failure, (w.outcome s).1 = .error failure ∧ failure.isServiceNotFound = true

namespace Parameters

variable {p : Parameters} {project : ProjectId} {s : Session}

theorem Concerns.finds {before after : Store} {e : Entry}
    (h : p.Concerns project s before e after) :
    ¬(p.getIn project).FindsNothing s ∧ ¬(p.updateIn project).FindsNothing s ∧
      ¬(p.removeIn project).FindsNothing s := by
  obtain ⟨⟨_, hget, -⟩, ⟨_, hupdate, -⟩, ⟨_, hremove, -⟩⟩ := h
  refine ⟨?_, ?_, ?_⟩
  · rintro ⟨failure, hfailure, hgone⟩
    rw [hget] at hfailure
    cases hgone.symm.trans (Entry.not_gone_of_read_error hfailure)
  · rintro ⟨failure, hfailure, hgone⟩
    rw [hupdate] at hfailure
    cases hgone.symm.trans (Entry.not_gone_of_read_error hfailure)
  · rintro ⟨failure, hfailure, -⟩
    rw [hremove] at hfailure
    cases hfailure

theorem Misses.findsNothing (h : p.Misses project s) :
    (p.getIn project).FindsNothing s ∧ (p.updateIn project).FindsNothing s ∧
      (p.removeIn project).FindsNothing s := by
  obtain ⟨⟨_, hget, -⟩, ⟨_, hupdate, -⟩, ⟨_, hremove, -⟩⟩ := h
  exact ⟨⟨_, congrArg Prod.fst hget, by decide⟩, ⟨_, congrArg Prod.fst hupdate, by decide⟩,
    ⟨_, congrArg Prod.fst hremove, by decide⟩⟩

/-- **All requests concern one entry.** Reading, updating and removing send the scope, if one is
set, each in its own way. Without faults, what reading finds, updating overwrites in its place and
removing removes is the first entry of the project and key, and of the scope if one is set; or else
all three find nothing. If the entry reads as a variable, the parameters that are filled from it set
its scope and send it, and their requests concern the entry too. -/
theorem requests_concern_one_entry (p : Parameters) (project : ProjectId)
    (hs : s.remote.faults = []) :
    p.AskForScope project s ∧
    ((∃ before e after,
        Store.First (p.addressesIn project) s.remote.entries before e after ∧
        p.Concerns project s before e after ∧
        ∀ o, ((p.getIn project).outcome s).1 = .ok o →
          let filled := p.lateInitialize (some o)
          filled.scope = some o.scope ∧ filled.AskForScope project s ∧
            Store.First (filled.addressesIn project) s.remote.entries before e after ∧
            filled.Concerns project s before e after) ∨
      p.Misses project s) ∧
    ((p.getIn project).FindsNothing s ↔ (p.updateIn project).FindsNothing s) ∧
    ((p.updateIn project).FindsNothing s ↔ (p.removeIn project).FindsNothing s) := by
  refine ⟨askForScope p project s, ?_⟩
  cases hfind : List.find? (p.addressesIn project) s.remote.entries with
  | none =>
    have hmisses := misses_of_find? hs hfind
    obtain ⟨hget, hupdate, hremove⟩ := hmisses.findsNothing
    exact ⟨.inr hmisses, iff_of_true hget hupdate, iff_of_true hupdate hremove⟩
  | some e =>
    obtain ⟨before, after, hfirst⟩ := Store.exists_first hfind
    have hconcerns := concerns_of_first hs hfirst
    obtain ⟨hget, hupdate, hremove⟩ := hconcerns.finds
    refine ⟨.inl ⟨before, e, after, hfirst, hconcerns, fun o ho => ?_⟩,
      iff_of_false hget hupdate, iff_of_false hupdate hremove⟩
    obtain ⟨_, hrun, -⟩ := hconcerns.getIn
    rw [hrun] at ho
    have hshows := Entry.read_eq_ok_iff.1 ho
    have hfilled := first_lateInitialize hfirst hshows
    exact ⟨scope_lateInitialize hfirst.passes hshows, askForScope _ project s, hfilled,
      concerns_of_first hs hfilled⟩

/-- Parameters without a scope, about the first of two entries of their key, of which the other is
stored without a scope. Once they are filled their requests ask for its scope. -/
theorem requests_concern_one_entry_of_production :
    let p : Parameters := { key := "K", value := some "two" }
    let other : Entry := [("project", .int 1), ("key", .str "L")]
    let production : Entry :=
      [("project", .int 1), ("key", .str "K"), ("environment_scope", .str "production")]
    let wide : Entry := [("project", .int 1), ("key", .str "K")]
    let s : Session := { remote := ⟨[other, production, wide], []⟩ }
    s.remote.faults = [] ∧ ((p.removeIn (.number 1)).outcome s).2.calls =
      [⟨.delete, .number 1, some "K", []⟩] ∧
    ∃ before e after o, s.remote.entries = before ++ e :: after ∧
      ((p.getIn (.number 1)).outcome s).1 = .ok o ∧ o.scope = "production" ∧
      (p.lateInitialize (some o)).Concerns (.number 1) s before e after ∧
      (((p.lateInitialize (some o)).removeIn (.number 1)).outcome s).2.calls =
        [⟨.delete, .number 1, some "K", [("filter[environment_scope]", .str "production")]⟩] := by
  intro p other production wide s
  have hget : ((p.getIn (.number 1)).outcome s).1 = .ok { key := "K", scope := "production" } := rfl
  obtain ⟨hask, ⟨before, e, after, hfirst, -, hfilled⟩ | hmisses, -, -⟩ :=
    requests_concern_one_entry (s := s) p (.number 1) rfl
  · obtain ⟨-, hfilledAsk, -, hconcerns⟩ := hfilled _ hget
    exact ⟨rfl, hask.removeIn, before, e, after, _, hfirst.split, hget, rfl, hconcerns,
      hfilledAsk.removeIn⟩
  · obtain ⟨_, hrun, -⟩ := hmisses.getIn
    rw [hrun] at hget
    cases hget

end Parameters

end CiVariables
