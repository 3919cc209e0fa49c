import CiVariables.Applying
import CiVariables.Proofs.Service

/-!
# What a run does to the service

`Change.handle` is what becomes of one change: it is applied, it finds nothing to remove, or it
fails, before the call, in it or on its answer. `Handled` puts changes in a row, each on the service
that the one before left. A run handles the actionable changes of a plan in order up to the first
that fails, and on a store whose entries all read as variables, only an applied change has an
effect.
-/

namespace CiVariables

/-- What becomes of a change. -/
inductive Verdict where
  | applied
  /-- A removal was answered with a failure that says that there is nothing to remove. -/
  | gone (failure : Failure)
  | failed (failure : Failure)

namespace Verdict

def isApplied : Verdict → Bool
  | applied => true
  | gone _ | failed _ => false

def isFailed : Verdict → Bool
  | failed _ => true
  | applied | gone _ => false

/-- The verdict on an action whose request has an answer. -/
def ofAnswer (a : Action) : Except Failure Unit → Verdict
  | .ok () => applied
  | .error failure =>
    if a = .delete ∧ failure.isServiceNotFound = true then gone failure else failed failure

/-- What carrying out a change gives. -/
def toResult : Verdict → Except Failure Bool
  | applied => .ok true
  | gone _ => .ok false
  | failed failure => .error failure

end Verdict

/-- Reads what is answered about the touched entry; nothing is read after a removal. -/
def Action.readAnswer : Action → Entry → Except Failure Unit
  | .delete, _ => .ok ()
  | _, e => e.read.map fun _ => ()

namespace Change

/-- The request that a change sends where the service can be reached, or why it sends none. -/
def write? (c : Change) (reach : Except Failure Unit) : Except Failure Write :=
  match c.desired with
  | none => .error (.missingDesired c.action c.address)
  | some desired =>
    match Declaration.check .data (.ofJson (.obj desired)) with
    | .invalid issues => .error (.schema "VariableResource" issues)
    | .valid d => d.write? reach c.action

/-- The declaration that a change records, if it is one. -/
def declared? (c : Change) : Option Declaration :=
  c.desired.bind fun desired =>
    match Declaration.check .data (.ofJson (.obj desired)) with
    | .invalid _ => none
    | .valid d => some d

/-- What becomes of a change, and the service after it. -/
def handle (reach : Except Failure Unit) (c : Change) (r : Remote) : Verdict × Remote :=
  match c.write? reach with
  | .error failure => (.failed failure, r)
  | .ok w => (.ofAnswer c.action ((r.serve w).1.bind c.action.readAnswer), (r.serve w).2)

/-- The effect of a change on the store, where no fault strikes. -/
def effect (c : Change) (store : Store) : Store :=
  match c.write? (.ok ()) with
  | .error _ => store
  | .ok w =>
    match w.perform store with
    | .ok (_, touched) => touched
    | .error _ => store

/-- The effects of changes on the store, in their order. -/
def effects (cs : List Change) (store : Store) : Store :=
  cs.foldl (fun store c => c.effect store) store

/-- The progress that is told of a change. -/
def progress (c : Change) (v : Verdict) : List Event :=
  .started c.address c.action :: if v.isApplied then [.finished c.address c.action] else []

end Change

/-! ## One change -/

/-- A change whose record is accepted is sent as the declaration of the record. -/
theorem Change.write?_of_check {c : Change} {desired : Fields} {d : Declaration}
    (hdesired : c.desired = some desired)
    (hcheck : Declaration.check .data (.ofJson (.obj desired)) = .valid d)
    (reach : Except Failure Unit) : c.write? reach = d.write? reach c.action := by
  unfold write?
  simp only [hdesired, hcheck]

theorem Verdict.toResult_ofAnswer {a : Action} (h : a ≠ .delete) (answer : Except Failure Unit) :
    (ofAnswer a answer).toResult = answer.map fun _ => true := by
  cases answer with
  | ok _ => rfl
  | error failure => simp [ofAnswer, h, toResult, Except.map]

theorem Verdict.toResult_ofAnswer_delete (answer : Except Failure Unit) :
    (ofAnswer .delete answer).toResult = orGone false (answer.map fun _ => true) := by
  cases answer with
  | ok _ => rfl
  | error failure =>
    cases hgone : failure.isServiceNotFound <;>
      simp [ofAnswer, toResult, Except.map, orGone, hgone]

theorem Action.map_bind_readAnswer {a : Action} (h : a ≠ .delete) (answer : Except Failure Entry) :
    ((answer.bind Entry.read).map fun _ => true) =
      (answer.bind a.readAnswer).map fun _ => true := by
  cases answer with
  | error failure => rfl
  | ok e =>
    have hread : a.readAnswer e = e.read.map fun _ => () := by
      cases a with
      | delete => exact absurd rfl h
      | _ => rfl
    simp only [Except.bind, hread]
    cases e.read <;> rfl

/-- A request that is not sent fails as one whose answer is why. -/
theorem Change.handle_eq {c : Change} {reach : Except Failure Unit} {sent : Except Failure Write}
    (hsent : c.write? reach = sent)
    (hgone : ∀ failure, sent = .error failure → failure.isServiceNotFound = false) (r : Remote) :
    c.handle reach r =
      (.ofAnswer c.action ((r.respond sent).1.bind c.action.readAnswer), (r.respond sent).2) := by
  unfold handle
  rw [hsent]
  cases sent with
  | ok w => rfl
  | error failure =>
    have hfailed : Verdict.ofAnswer c.action (.error failure) = .failed failure := by
      simp [Verdict.ofAnswer, hgone failure rfl]
    show _ = (Verdict.ofAnswer c.action (.error failure), r)
    rw [hfailed]

/-- What a change may do: leave the entries alone, or what its request does to them. -/
theorem Change.handle_cases {c : Change} {reach : Except Failure Unit} {r r' : Remote} {v : Verdict}
    (h : c.handle reach r = (v, r')) :
    v.isApplied = false ∧ (c.action ≠ .delete → v.isFailed = true) ∧ r'.entries = r.entries ∨
      ∃ w e, c.write? reach = .ok w ∧ w.perform r.entries = .ok (e, r'.entries) ∧
        v = .ofAnswer c.action (c.action.readAnswer e) := by
  unfold handle at h
  split at h
  · cases h
    exact .inl ⟨rfl, fun _ => rfl, rfl⟩
  · next w hw =>
    rcases r.serve_cases w with ⟨failure, faults, hserve⟩ | ⟨e, entries, faults, hperform, hserve⟩
    · rw [hserve] at h
      cases h
      refine .inl ⟨?_, fun haction => ?_, rfl⟩
      · simp only [Except.bind, Verdict.ofAnswer]
        split <;> rfl
      · simp [Except.bind, Verdict.ofAnswer, haction, Verdict.isFailed]
    · rw [hserve] at h
      cases h
      exact .inr ⟨w, e, hw, hperform, rfl⟩

namespace Applying

/-- What carrying out a change does to the service and what it calls, in terms of how the change is
handled. -/
theorem outcome_run (provider : Provider) (c : Change) (s : Session) :
    ∃ s', s'.remote = (c.handle (provider.reach s) s.remote).2 ∧
      s.Grows s' (Write.callsOf (c.write? (provider.reach s))) [] ∧
      (run provider c).outcome s = ((c.handle (provider.reach s) s.remote).1.toResult, s') := by
  unfold run
  cases hdesired : c.desired with
  | none =>
    have hsent (reach : Except Failure Unit) :
        c.write? reach = .error (.missingDesired c.action c.address) := by
      unfold Change.write?
      rw [hdesired]
    unfold Change.handle
    rw [hsent]
    exact ⟨s, rfl, .refl s, rfl⟩
  | some desired =>
    simp only
    cases hcheck : Declaration.check .data (.ofJson (.obj desired)) with
    | invalid issues =>
      have hsent (reach : Except Failure Unit) :
          c.write? reach = .error (.schema "VariableResource" issues) := by
        unfold Change.write?
        simp only [hdesired, hcheck]
      unfold Change.handle
      rw [hsent]
      exact ⟨s, rfl, .refl s, rfl⟩
    | valid d =>
      -- A declaration that is read again sends the request of its action.
      have hsent := c.write?_of_check hdesired hcheck (provider.reach s)
      rw [Work.outcome_bind_ok (Work.outcome_ofChecked_valid "VariableResource" d s), hsent,
        c.handle_eq hsent fun _ => Declaration.not_gone_of_write?_error]
      cases c.action with
      | create =>
        obtain ⟨s', hremote, hgrows, hrun⟩ := d.outcome_create provider s
        refine ⟨s', hremote, hgrows, (Work.outcome_bind_pure hrun fun _ => true).trans ?_⟩
        rw [Verdict.toResult_ofAnswer (by decide),
          Action.map_bind_readAnswer (a := .create) (by decide)]
      | update =>
        obtain ⟨s', hremote, hgrows, hrun⟩ := d.outcome_update provider s
        refine ⟨s', hremote, hgrows, (Work.outcome_bind_pure hrun fun _ => true).trans ?_⟩
        rw [Verdict.toResult_ofAnswer (by decide),
          Action.map_bind_readAnswer (a := .update) (by decide)]
      | delete =>
        obtain ⟨s', hremote, hgrows, hrun⟩ := d.outcome_delete provider s
        refine ⟨s', hremote, hgrows, hrun.trans ?_⟩
        rw [Verdict.toResult_ofAnswer_delete]
        cases (s.remote.respond (d.write? (provider.reach s) .delete)).1 <;> rfl
      | keep => exact ⟨s, rfl, .refl s, rfl⟩

end Applying

/-! ## Stores whose entries read -/

/-- Every entry reads as a variable. -/
def Store.Readable (store : Store) : Prop := ∀ e ∈ store, ∃ o, e.observe = .valid o

theorem Store.mem_updateFirst {test : Entry → Bool} {change : Entry → Entry} {store : Store}
    {e : Entry} (h : e ∈ updateFirst test change store) :
    e ∈ store ∨ ∃ old ∈ store, test old = true ∧ e = change old := by
  induction store with
  | nil => cases h
  | cons x rest ih =>
    unfold updateFirst at h
    by_cases hx : test x = true
    · rw [if_pos hx] at h
      cases h with
      | head => exact .inr ⟨x, List.mem_cons_self, hx, rfl⟩
      | tail _ h => exact .inl (List.mem_cons_of_mem x h)
    · rw [if_neg hx] at h
      cases h with
      | head => exact .inl List.mem_cons_self
      | tail _ h =>
        rcases ih h with hmem | ⟨old, hmem, htest, heq⟩
        · exact .inl (List.mem_cons_of_mem x hmem)
        · exact .inr ⟨old, List.mem_cons_of_mem x hmem, htest, heq⟩

/-- A request that the service carries out leaves entries that read, and its answer reads. -/
theorem Declaration.Sends.readable {d : Declaration} {project : ProjectId} {a : Action} {w : Write}
    (hsends : d.Sends project a w) {store touched : Store} {e : Entry} (hstore : store.Readable)
    (h : w.perform store = .ok (e, touched)) : touched.Readable ∧ a.readAnswer e = .ok () := by
  cases hsends with
  | create =>
    have hshows := Entry.shows_created project d.parameters
    simp only [Write.perform, Store.create?] at h
    split at h
    · next hcreated =>
      split at hcreated
      · cases hcreated
      · cases hcreated
        cases h
        refine ⟨?_, by simp [Action.readAnswer, Entry.read_of_shows hshows, Except.map]⟩
        intro x hx
        rcases List.mem_append.1 hx with hx | hx
        · exact hstore x hx
        · rw [List.mem_singleton.1 hx]
          exact ⟨_, Entry.observe_eq_valid_iff.2 hshows⟩
    · cases h
  | update =>
    have hshows (old : Entry) (hold : old ∈ store) :
        ∃ o, Entry.Shows (old.update (UpdateRequest.ofParameters d.parameters).changes) o := by
      obtain ⟨o, ho⟩ := hstore old hold
      exact ⟨_, (Entry.observe_eq_valid_iff.1 ho).update d.parameters⟩
    simp only [Write.perform] at h
    split at h
    · next old hfound =>
      cases h
      refine ⟨?_, ?_⟩
      · intro x hx
        rcases Store.mem_updateFirst hx with hx | ⟨other, hmem, -, rfl⟩
        · exact hstore x hx
        · obtain ⟨o, ho⟩ := hshows other hmem
          exact ⟨o, Entry.observe_eq_valid_iff.2 ho⟩
      · obtain ⟨o, ho⟩ := hshows old (List.mem_of_find?_eq_some hfound)
        simp [Action.readAnswer, Entry.read_of_shows ho, Except.map]
    · cases h
  | delete =>
    simp only [Write.perform] at h
    split at h
    · cases h
      exact ⟨fun x hx => hstore x (List.mem_of_mem_eraseP hx), rfl⟩
    · cases h

namespace Change

/-- A request is that of the recorded declaration. -/
theorem write?_eq_ok {c : Change} {reach : Except Failure Unit} {w : Write}
    (h : c.write? reach = .ok w) : reach = .ok () ∧ ∃ d n, c.declared? = some d ∧
      d.parameters.projectId = some n ∧ d.Sends (.number n) c.action w := by
  unfold write? at h
  split at h
  · cases h
  · next desired hdesired =>
    split at h
    · cases h
    · next d hcheck =>
      obtain ⟨hreach, n, hn, hsends⟩ := Declaration.write?_eq_ok_iff.1 h
      refine ⟨hreach, d, n, ?_, hn, hsends⟩
      unfold declared?
      simp only [hdesired, Option.bind_some, hcheck]

/-- Only an applied change has an effect, and it leaves entries that read. -/
theorem handle_readable (c : Change) (reach : Except Failure Unit) {r : Remote}
    (hr : r.entries.Readable) :
    (c.handle reach r).2.entries.Readable ∧ (c.handle reach r).2.entries =
      if (c.handle reach r).1.isApplied then c.effect r.entries else r.entries := by
  unfold handle
  cases hw : c.write? reach with
  | error failure => exact ⟨hr, rfl⟩
  | ok w =>
    obtain ⟨rfl, d, n, -, -, hsends⟩ := write?_eq_ok hw
    rcases r.serve_cases w with ⟨failure, faults, hserve⟩ | ⟨e, entries, faults, hperform, hserve⟩
    · have hverdict : (Verdict.ofAnswer c.action (.error failure)).isApplied = false := by
        simp only [Verdict.ofAnswer]
        split <;> rfl
      simpa [hserve, Except.bind, hverdict] using hr
    · obtain ⟨hentries, hanswer⟩ := hsends.readable hr hperform
      simp [hserve, Except.bind, hanswer, Verdict.ofAnswer, Verdict.isApplied, effect, hw,
        hperform, hentries]

/-- Only a removal can find that its variable is gone. -/
theorem gone_of_handle {c : Change} {reach : Except Failure Unit} {r : Remote} {failure : Failure}
    (h : (c.handle reach r).1 = .gone failure) :
    c.action = .delete ∧ failure.isServiceNotFound = true := by
  unfold handle at h
  split at h
  · cases h
  · unfold Verdict.ofAnswer at h
    split at h
    · cases h
    · split at h
      · next hgone =>
        cases h
        exact hgone
      · cases h

/-- A change that does not fail was sent. -/
theorem reach_of_handle {c : Change} {reach : Except Failure Unit} {r : Remote}
    (h : (c.handle reach r).1.isFailed = false) : reach = .ok () := by
  unfold handle at h
  split at h
  · cases h
  · next hw => exact (write?_eq_ok hw).1

end Change

/-! ## Changes in a row -/

/-- The changes have these verdicts, each on the service that the one before left. -/
inductive Handled (reach : Except Failure Unit) :
    Remote → List (Change × Verdict) → Remote → Prop where
  | nil (r : Remote) : Handled reach r [] r
  | cons {c : Change} {v : Verdict} {r r₁ r' : Remote} {rest : List (Change × Verdict)}
    (h : c.handle reach r = (v, r₁)) (hrest : Handled reach r₁ rest r') :
    Handled reach r ((c, v) :: rest) r'

/-- The changes that were applied, in their order. -/
def Handled.applied (handled : List (Change × Verdict)) : List Change :=
  (handled.filter (·.2.isApplied)).map Prod.fst

/-- The calls that the changes made. -/
def Handled.calls (reach : Except Failure Unit) (handled : List (Change × Verdict)) : List Call :=
  handled.flatMap fun (c, _) => Write.callsOf (c.write? reach)

/-- The progress that is told of the changes. -/
def Handled.progress (handled : List (Change × Verdict)) : List Event :=
  handled.flatMap fun (c, v) => c.progress v

namespace Handled

variable {reach : Except Failure Unit} {r r' : Remote} {handled : List (Change × Verdict)}

theorem eq_of_nil (h : Handled reach r [] r') : r' = r := by
  cases h
  rfl

/-- Among handled changes too, only removals find nothing. -/
theorem gone (h : Handled reach r handled r') {c : Change} {failure : Failure}
    (hmem : (c, .gone failure) ∈ handled) :
    c.action = .delete ∧ failure.isServiceNotFound = true := by
  induction h with
  | nil => cases hmem
  | cons h _ ih =>
    rcases List.mem_cons.1 hmem with heq | hmem
    · cases heq
      exact Change.gone_of_handle (congrArg Prod.fst h)
    · exact ih hmem

/-- Changes that are handled one after the other can be split between any two. -/
theorem of_append {before after : List (Change × Verdict)}
    (h : Handled reach r (before ++ after) r') :
    ∃ r₁, Handled reach r before r₁ ∧ Handled reach r₁ after r' := by
  induction before generalizing r with
  | nil => exact ⟨r, .nil r, h⟩
  | cons x rest ih =>
    cases h with
    | cons h hrest =>
      obtain ⟨r₁, hbefore, hafter⟩ := ih hrest
      exact ⟨r₁, .cons h hbefore, hafter⟩

/-- A change in a row, with the service before and after it. -/
theorem step {before after : List (Change × Verdict)} {c : Change} {v : Verdict}
    (h : Handled reach r (before ++ (c, v) :: after) r') :
    ∃ r₁ r₂, Handled reach r before r₁ ∧ c.handle reach r₁ = (v, r₂) ∧
      Handled reach r₂ after r' := by
  obtain ⟨r₁, hbefore, hafter⟩ := h.of_append
  cases hafter with
  | cons hstep hafter => exact ⟨r₁, _, hbefore, hstep, hafter⟩

/-- What becomes of changes is determined. -/
theorem unique {known : List (Change × Verdict)} {r'' : Remote} (h : Handled reach r handled r')
    (hknown : Handled reach r known r'') (hchanges : handled.map Prod.fst = known.map Prod.fst) :
    handled = known ∧ r' = r'' := by
  induction h generalizing known with
  | nil =>
    cases hknown with
    | nil => exact ⟨rfl, rfl⟩
    | cons => cases hchanges
  | cons hhandle _ ih =>
    cases hknown with
    | nil => cases hchanges
    | cons hhandle' hrest' =>
      obtain ⟨rfl, hrest⟩ := List.cons.inj hchanges
      cases hhandle.symm.trans hhandle'
      obtain ⟨rfl, hremote⟩ := ih hrest' hrest
      exact ⟨rfl, hremote⟩

theorem handle_of_mem (h : Handled reach r handled r') {c : Change} {v : Verdict}
    (hmem : (c, v) ∈ handled) : ∃ r₁ r₂, c.handle reach r₁ = (v, r₂) := by
  obtain ⟨before, after, rfl⟩ := List.append_of_mem hmem
  obtain ⟨r₁, r₂, -, hhandle, -⟩ := h.step
  exact ⟨r₁, r₂, hhandle⟩

/-- The effects are those of the applied changes, in their order. -/
theorem entries_eq (h : Handled reach r handled r') (hr : r.entries.Readable) :
    r'.entries = Change.effects (applied handled) r.entries := by
  induction h with
  | nil => rfl
  | @cons c v r r₁ r' rest h _ ih =>
    obtain ⟨hreadable, heffect⟩ := c.handle_readable reach hr
    rw [h] at hreadable heffect
    rw [ih hreadable]
    cases hv : v.isApplied with
    | true =>
      simp only [hv, if_true] at heffect
      simp [applied, Change.effects, hv, heffect]
    | false =>
      simp only [hv, Bool.false_eq_true, if_false] at heffect
      simp [applied, Change.effects, hv, heffect]

end Handled

/-- The result of a run that has handled some changes, after others had been applied, and leaves the
rest alone. -/
inductive Ended (before : List Change) :
    List (Change × Verdict) → List Change → Except Failure (List Change) → Prop where
  /-- Nothing fails and nothing is left. -/
  | completed {handled : List (Change × Verdict)} (h : ∀ x ∈ handled, x.2.isFailed = false) :
    Ended before handled [] (.ok (before ++ Handled.applied handled))
  /-- The last change that is handled is the first that fails. -/
  | interrupted {handled : List (Change × Verdict)} {c : Change} {failure : Failure}
    {rest : List Change} (h : ∀ x ∈ handled, x.2.isFailed = false) :
    Ended before (handled ++ [(c, .failed failure)]) rest
      (.error (.apply (before ++ Handled.applied handled) c.address failure.message
        (some failure)))

namespace Ended

variable {before : List Change} {handled : List (Change × Verdict)} {rest : List Change}
  {result : Except Failure (List Change)} {c : Change}

/-- A change that does not fail stands before the others. -/
theorem cons {v : Verdict} (hv : v.isFailed = false)
    (h : Ended (before ++ Handled.applied [(c, v)]) handled rest result) :
    Ended before ((c, v) :: handled) rest result := by
  have happlied (done : List (Change × Verdict)) :
      before ++ Handled.applied [(c, v)] ++ Handled.applied done =
        before ++ Handled.applied ((c, v) :: done) := by
    cases happlied : v.isApplied <;> simp [Handled.applied, happlied]
  cases h with
  | completed h =>
    rw [happlied]
    exact .completed (List.forall_mem_cons.2 ⟨hv, h⟩)
  | interrupted h =>
    rw [happlied]
    exact .interrupted (List.forall_mem_cons.2 ⟨hv, h⟩)

theorem failed (before : List Change) (c : Change) (failure : Failure) (rest : List Change) :
    Ended before [(c, .failed failure)] rest
      (.error (.apply before c.address failure.message (some failure))) := by
  have h : Ended before ([] ++ [(c, .failed failure)]) rest
      (.error (.apply (before ++ Handled.applied []) c.address failure.message (some failure))) :=
    .interrupted (by simp)
  simpa [Handled.applied] using h

end Ended

namespace Applying

/-- Somebody who follows a run and accepts everything, or nobody. -/
def followerOf (watched : Bool) : Option Follower := if watched then some .accepting else none

/-- How a run over changes goes, after others had been applied. -/
structure Account (reach : Except Failure Unit) (watched : Bool) (before changes : List Change)
    (s : Session) (result : Except Failure (List Change)) (s' : Session)
    (handled : List (Change × Verdict)) (rest : List Change) : Prop where
  order : changes = handled.map Prod.fst ++ rest
  chain : Handled reach s.remote handled s'.remote
  ended : Ended before handled rest result
  grows : s.Grows s' (Handled.calls reach handled)
    (if watched then Handled.progress handled else [])

/-- Reporting to somebody who accepts everything, or to nobody. -/
theorem outcome_report (watched : Bool) {e : Event} (he : e.isProgress = true) (s : Session) :
    ∃ s', s'.remote = s.remote ∧ s'.isConnected = s.isConnected ∧
      s.Grows s' [] (if watched then [e] else []) ∧
      (report (followerOf watched) e).outcome s = (.ok (), s') := by
  cases watched with
  | false => exact ⟨s, rfl, rfl, .refl s, rfl⟩
  | true =>
    have hcall : e.call? = none := by
      cases e with
      | started _ _ | finished _ _ => rfl
      | _ => cases he
    have hgrows := s.grows_noted e
    rw [hcall, he] at hgrows
    exact ⟨s.noted e, rfl, rfl, hgrows, rfl⟩

/-- Carrying out the first of some changes, from its log line to its verdict. -/
theorem outcome_first (provider : Provider) (watched : Bool) (before : List Change) (c : Change)
    (s : Session) :
    ∃ s', s'.remote = (c.handle (provider.reach s) s.remote).2 ∧
      s.Grows s' (Write.callsOf (c.write? (provider.reach s)))
        (if watched then [.started c.address c.action] else []) ∧
      (do
        Work.log .debug .engine ("Applying " ++ c.address ++ ": " ++ c.action.text)
        report (followerOf watched) (.started c.address c.action)
        tryCatch (run provider c) fun failure =>
          throw (.apply before c.address failure.message (some failure)) : Work Bool).outcome s =
        (match (c.handle (provider.reach s) s.remote).1.toResult with
          | .ok done => .ok done
          | .error failure =>
            .error (.apply before c.address failure.message (some failure)), s') := by
  obtain ⟨s₁, hremote₁, hconnected, hgrows₁, hreport⟩ := outcome_report watched (e :=
    .started c.address c.action) rfl (s.noted
      (.logged ⟨.debug, .engine, "Applying " ++ c.address ++ ": " ++ c.action.text⟩))
  have hreach : provider.reach s₁ = provider.reach s := by
    unfold Provider.reach
    rw [hconnected]
    rfl
  obtain ⟨s₂, hremote₂, hgrows₂, hrun⟩ := outcome_run provider c s₁
  rw [hreach, hremote₁, Session.noted_remote] at hremote₂ hrun
  rw [hreach] at hgrows₂
  refine ⟨s₂, hremote₂, ?_, ?_⟩
  · simpa using ((s.grows_logged _).quiet_trans hgrows₁).trans hgrows₂
  · rw [Work.outcome_bind_ok (Work.outcome_log ..), Work.outcome_bind_ok hreport,
      Work.outcome_tryCatch, hrun]
    cases (c.handle (provider.reach s) s.remote).1 <;> rfl

namespace Account

variable {reach : Except Failure Unit} {watched : Bool} {before changes : List Change}
  {s s₁ s' : Session} {c : Change}

theorem nil (reach : Except Failure Unit) (watched : Bool) (before : List Change) (s : Session) :
    Account reach watched before [] s (.ok before) s [] [] := by
  refine ⟨rfl, .nil _, ?_, ?_⟩
  · have h : Ended before [] [] (.ok (before ++ [])) := .completed (by simp)
    simpa using h
  · cases watched <;> exact .refl s

/-- A change that fails ends the run. -/
theorem failed {failure : Failure}
    (hhandle : c.handle reach s.remote = (.failed failure, s'.remote))
    (hgrows : s.Grows s' (Write.callsOf (c.write? reach))
      (if watched then c.progress (.failed failure) else [])) :
    Account reach watched before (c :: changes) s
      (.error (.apply before c.address failure.message (some failure))) s'
      [(c, .failed failure)] changes := by
  refine ⟨rfl, .cons hhandle (.nil _), .failed before c failure changes, ?_⟩
  simpa [Handled.calls, Handled.progress] using hgrows

/-- A change that does not fail stands before what becomes of the others. -/
theorem cons {v : Verdict} (hv : v.isFailed = false)
    (hhandle : c.handle reach s.remote = (v, s₁.remote))
    (hgrows : s.Grows s₁ (Write.callsOf (c.write? reach)) (if watched then c.progress v else []))
    {result : Except Failure (List Change)} {handled : List (Change × Verdict)} {rest : List Change}
    (h : Account reach watched (before ++ Handled.applied [(c, v)]) changes s₁ result s' handled
      rest) :
    Account reach watched before (c :: changes) s result s' ((c, v) :: handled) rest := by
  refine ⟨by rw [h.order]; rfl, .cons hhandle h.chain, h.ended.cons hv, ?_⟩
  have hall := hgrows.trans h.grows
  cases watched <;> simpa [Handled.calls, Handled.progress] using hall

end Account

/-- Carrying out changes is carrying out the first and going on by what became of it. -/
theorem applyChanges_cons (provider : Provider) (follower : Option Follower)
    (before : List Change) (c : Change) (rest : List Change) :
    applyChanges provider follower before (c :: rest) = (do
      Work.log .debug .engine ("Applying " ++ c.address ++ ": " ++ c.action.text)
      report follower (.started c.address c.action)
      tryCatch (run provider c) fun failure =>
        throw (.apply before c.address failure.message (some failure)) : Work Bool) >>=
      fun done => if done then do
          report follower (.finished c.address c.action)
          applyChanges provider follower (before ++ [c]) rest
        else applyChanges provider follower before rest := by
  simp only [applyChanges, bind_assoc]

/-- The run lemma, by induction over the changes: whatever was applied before, the rest gives an
account of itself. -/
theorem account_applyChanges (provider : Provider) (watched : Bool) {reach : Except Failure Unit}
    (changes : List Change) : ∀ (before : List Change) (s : Session), provider.reach s = reach →
      ∃ result s' handled rest,
        (applyChanges provider (followerOf watched) before changes).outcome s = (result, s') ∧
        Account reach watched before changes s result s' handled rest := by
  induction changes with
  | nil => exact fun before s _ => ⟨_, s, [], [], rfl, .nil reach watched before s⟩
  | cons c rest ih =>
    intro before s hreach
    obtain ⟨s₁, hremote, hgrows, hfirst⟩ := outcome_first provider watched before c s
    rw [hreach] at hremote hgrows hfirst
    rw [applyChanges_cons]
    rcases hhandle : c.handle reach s.remote with ⟨v, r₁⟩
    rw [hhandle] at hremote hfirst
    have hremote : s₁.remote = r₁ := hremote
    subst hremote
    -- Where the change did not fail there is a connection, and it stays.
    have hreach₁ (hv : v.isFailed = false) {s₂ : Session} {progress : List Event}
        (hgrows₂ : s₁.Grows s₂ [] progress) : provider.reach s₂ = reach := by
      have hok : reach = .ok () := Change.reach_of_handle (c := c) (r := s.remote) (by
        rw [hhandle]
        exact hv)
      rw [hok] at hreach ⊢
      exact Provider.reach_of_grows (hgrows.trans hgrows₂) hreach
    cases v with
    | failed failure =>
      exact ⟨_, s₁, _, rest, Work.outcome_bind_error hfirst, .failed hhandle hgrows⟩
    | gone failure =>
      obtain ⟨result, s', handled, left, hrun, hrest⟩ := ih before s₁ (hreach₁ rfl (.refl s₁))
      have hrest : Account reach watched (before ++ Handled.applied [(c, .gone failure)]) rest s₁
        result s' handled left := (List.append_nil before).symm ▸ hrest
      exact ⟨result, s', (c, .gone failure) :: handled, left,
        (Work.outcome_bind_ok hfirst).trans hrun, .cons rfl hhandle hgrows hrest⟩
    | applied =>
      obtain ⟨s₂, hremote₂, -, hgrows₂, hreport⟩ :=
        outcome_report watched (e := .finished c.address c.action) rfl s₁
      have hboth : s.Grows s₂ (Write.callsOf (c.write? reach))
          (if watched then c.progress .applied else []) := by
        have h := hgrows.trans hgrows₂
        cases watched <;> simpa [Change.progress, Verdict.isApplied] using h
      obtain ⟨result, s', handled, left, hrun, hrest⟩ :=
        ih (before ++ [c]) s₂ (hreach₁ rfl hgrows₂)
      exact ⟨result, s', (c, .applied) :: handled, left,
        (Work.outcome_bind_ok hfirst).trans ((Work.outcome_bind_ok hreport).trans hrun),
        .cons rfl (hremote₂ ▸ hhandle) hboth hrest⟩

/-- A whole run gives an account of the actionable changes of its plan. -/
theorem account_apply (provider : Provider) (watched : Bool) (plan : Plan) (s : Session) :
    ∃ result s' handled rest,
      (apply provider (followerOf watched) plan).outcome s = (result, s') ∧
      Account (provider.reach s) watched [] plan.actionable s result s' handled rest := by
  let line : LogLine :=
    ⟨.info, .engine, "Applying " ++ toString plan.actionable.length ++ " operations"⟩
  obtain ⟨result, s', handled, rest, hrun, haccount⟩ :=
    account_applyChanges provider watched plan.actionable [] (s.noted (.logged line)) rfl
  exact ⟨result, s', handled, rest, hrun, haccount.order, haccount.chain, haccount.ended,
    (s.grows_logged line).quiet_trans haccount.grows⟩

/-- **A run applies a prefix of the actionable changes and says which.** The changes of a plan are
handled in order up to the first that fails. The result lists the applied ones, also where it is a
failure; the store has exactly their effects, and calls and progress are those of the handled
changes. -/
theorem apply_handles_prefix (provider : Provider) (watched : Bool) (plan : Plan) (s : Session)
    (hs : s.remote.entries.Readable) :
    ∃ result s' handled rest,
      (apply provider (followerOf watched) plan).outcome s = (result, s') ∧
      plan.actionable = handled.map Prod.fst ++ rest ∧
      Handled (provider.reach s) s.remote handled s'.remote ∧
      Ended [] handled rest result ∧
      (∀ c failure, (c, .gone failure) ∈ handled →
        c.action = .delete ∧ failure.isServiceNotFound = true) ∧
      s'.remote.entries = Change.effects (Handled.applied handled) s.remote.entries ∧
      s'.calls = s.calls ++ Handled.calls (provider.reach s) handled ∧
      s'.progress = s.progress ++ if watched then Handled.progress handled else [] := by
  obtain ⟨result, s', handled, rest, hrun, haccount⟩ := account_apply provider watched plan s
  exact ⟨result, s', handled, rest, hrun, haccount.order, haccount.chain, haccount.ended,
    fun c failure => haccount.chain.gone, haccount.chain.entries_eq hs, haccount.grows.calls,
    haccount.grows.progress⟩

/-- Removing a variable that is there, with a service that refuses the update after it. -/
theorem apply_handles_prefix_of_refused :
    let entry := Entry.created (.number 7) (CreateRequest.ofParameters { key := "TOKEN" }).body
    let d : Declaration := ⟨"token", "", { key := "TOKEN", projectId := some 7 }⟩
    let change (a : Action) : Change :=
      { address := d.address, resourceType := variableType, action := a
        desired := some d.dumpFields }
    let plan : Plan := ⟨default, [change .delete, change .update]⟩
    let s : Session := { remote := ⟨[entry], [{ method := .update, failure := .noConnection }]⟩ }
    s.remote.entries.Readable ∧ ∃ result s' handled rest,
      (apply { isReady := true } (followerOf true) plan).outcome s = (result, s') ∧
      plan.changes = handled.map Prod.fst ++ rest ∧ Ended [] handled rest result ∧
      s'.remote.entries = Change.effects (Handled.applied handled) [entry] := by
  intro entry d change plan s
  have hs : s.remote.entries.Readable := by
    intro e he
    rw [List.mem_singleton.1 he]
    exact ⟨_, Entry.observe_eq_valid_iff.2 (Entry.shows_created (.number 7) { key := "TOKEN" })⟩
  obtain ⟨result, s', handled, rest, hrun, horder, -, hended, -, hentries, -, -⟩ :=
    apply_handles_prefix { isReady := true } true plan s hs
  exact ⟨hs, result, s', handled, rest, hrun, horder, hended, hentries⟩

end Applying

end CiVariables
