import CiVariables.Proofs.Service
import CiVariables.Proofs.Comparison
import Mathlib.Data.List.Forall2

/-!
# What planning asks, and what it makes of the answers

Planning looks for the variable of one declaration after the other. How a look ends is
`Declaration.Finds`, what is planned for what it finds `Planning.Classified`, and `Planning.Survey`
puts them in a row up to the first look that fails, whatever faults strike. Both the changes that
are planned where no fault strikes and the place where each change comes from are read off it.
-/

namespace CiVariables

/-! ## Looking for one variable -/

/-- Some declared field is not as the variable has it. -/
def Parameters.DiffersFrom (p : Parameters) (o : Observed) : Prop :=
  p.key ≠ o.key ∨ (∃ v, p.value = some v ∧ v ≠ o.value) ∨
    (∃ k, p.kind = some k ∧ k ≠ o.kind) ∨ (∃ b, p.isProtected = some b ∧ b ≠ o.isProtected) ∨
    (∃ b, p.masked = some b ∧ b ≠ o.masked) ∨ (∃ v, p.scope = some v ∧ v ≠ o.scope) ∨
    ∃ b, p.raw = some b ∧ b ≠ o.raw

theorem Difference.ofField_ne_none_iff {α : Type} [DecidableEq α] {name : String} {shown : α → Json}
    {want? : Option α} {seen : α} :
    ofField name shown want? seen ≠ none ↔ ∃ want, want? = some want ∧ want ≠ seen := by
  rw [Ne, ofField_eq_none_iff]
  cases want? <;> simp

/-- Parameters differ from a variable exactly if one of their fields does. -/
theorem Parameters.differsFrom_iff {p : Parameters} {o : Observed} :
    p.DiffersFrom o ↔ p.differing o ≠ [] := by
  unfold DiffersFrom differing
  simp only [ne_eq, List.filterMap_eq_nil_iff, List.forall_mem_cons, id_eq,
    Classical.not_and_iff_not_or_not]
  simp only [← ne_eq, Difference.ofField_ne_none_iff]
  simp

namespace Fault

theorem failures_strike (faults : List Fault) (c : Call) :
    (strike faults c).2.map failure = faults.map failure := by
  induction faults with
  | nil => rfl
  | cons f rest ih =>
    unfold strike
    simp only
    split
    · split
      · rfl
      · split
        · exact congrArg (f.failure :: ·) ih
        · rfl
    · exact congrArg (f.failure :: ·) ih

theorem mem_failures_of_strike {faults faults' : List Fault} {c : Call} {failure : Failure}
    (h : strike faults c = (some failure, faults')) : failure ∈ faults.map Fault.failure := by
  induction faults generalizing faults' with
  | nil => cases h
  | cons f rest ih =>
    have hskip (h : (strike rest c).1 = some failure) : failure ∈ rest.map Fault.failure :=
      ih (Prod.ext h rfl)
    replace h := congrArg Prod.fst h
    unfold strike at h
    simp only at h
    split at h
    · split at h
      · cases h
        exact List.mem_cons_self
      · split at h
        · exact List.mem_cons_of_mem _ (hskip h)
        · cases h
          exact List.mem_cons_self
    · exact List.mem_cons_of_mem _ (hskip h)

end Fault

namespace Declaration

/-- An observed variable has to have the form of a declaration too. -/
def formed : Option Observed → Except Failure (Option Observed)
  | none => .ok none
  | some o =>
    match o.toParameters with
    | .valid _ => .ok (some o)
    | .invalid issues => .error (.schema "VariableParameters" issues)

/-- What looking for the variable of a declaration gives, and the service afterwards. -/
def look (d : Declaration) (n : Int) (r : Remote) : Except Failure (Option Observed) × Remote :=
  ((orGone none ((d.fetch n r).1.map some)).bind formed, (d.fetch n r).2)

/-- The call looks for the variable of the declaration, of its scope if it sets one. -/
def Asks (d : Declaration) (c : Call) : Prop :=
  ∃ n, d.parameters.projectId = some n ∧ c = d.getCall n

/-- How a look for the variable of a declaration ends, and the service afterwards: a fault strikes
that says that there is no variable, or another one, or there is no entry, or one that does not
read, or a variable. -/
inductive Finds (d : Declaration) (n : Int) (r : Remote) :
    Except Failure (Option Observed) → Remote → Prop where
  | refused {failure : Failure} {faults : List Fault}
    (hstrike : Fault.strike r.faults (d.getCall n) = (some failure, faults))
    (hgone : failure.isServiceNotFound = true) : Finds d n r (.ok none) { r with faults }
  | failed {failure : Failure} {faults : List Fault}
    (hstrike : Fault.strike r.faults (d.getCall n) = (some failure, faults))
    (hgone : failure.isServiceNotFound = false) : Finds d n r (.error failure) { r with faults }
  | absent {faults : List Fault} (hstrike : Fault.strike r.faults (d.getCall n) = (none, faults))
    (hentry : d.found? r.entries = none) : Finds d n r (.ok none) { r with faults }
  | unreadable {faults : List Fault} {e : Entry} {failure : Failure}
    (hstrike : Fault.strike r.faults (d.getCall n) = (none, faults))
    (hentry : d.found? r.entries = some e) (hread : e.read = .error failure) :
    Finds d n r (.error failure) { r with faults }
  | formless {faults : List Fault} {e : Entry} {o : Observed} {issues : List Schema.Issue}
    (hstrike : Fault.strike r.faults (d.getCall n) = (none, faults))
    (hentry : d.found? r.entries = some e) (hshows : e.Shows o)
    (hform : o.toParameters = .invalid issues) :
    Finds d n r (.error (.schema "VariableParameters" issues)) { r with faults }
  | present {faults : List Fault} {e : Entry} {o : Observed}
    (hstrike : Fault.strike r.faults (d.getCall n) = (none, faults))
    (hentry : d.found? r.entries = some e) (hshows : e.Shows o)
    (hform : o.toParameters = .valid o.asParameters) : Finds d n r (.ok (some o)) { r with faults }

variable {d : Declaration} {n : Int} {r r' : Remote} {found : Except Failure (Option Observed)}

/-- What a declaration finds is what the service answers to its look-up. -/
theorem finds_look (d : Declaration) (n : Int) (r : Remote) :
    d.Finds n r (d.look n r).1 (d.look n r).2 := by
  unfold look fetch
  rcases hstrike : Fault.strike r.faults (d.getCall n) with ⟨failure?, faults⟩
  cases failure? with
  | some failure =>
    simp only [Except.map, orGone]
    split
    · next hgone => exact .refused hstrike hgone
    · next hgone => exact .failed hstrike (by simpa using hgone)
  | none =>
    cases hentry : d.found? r.entries with
    | none => exact .absent hstrike hentry
    | some e =>
      simp only
      cases hread : e.read with
      | error failure =>
        simp only [Except.map, orGone, Entry.not_gone_of_read_error hread]
        exact .unreadable hstrike hentry hread
      | ok o =>
        have hshows := Entry.read_eq_ok_iff.1 hread
        simp only [Except.map, orGone, Except.bind, formed]
        cases hform : o.toParameters with
        | invalid issues => exact .formless hstrike hentry hshows hform
        | valid q =>
          rw [Observed.toParameters_eq_valid hform] at hform
          exact .present hstrike hentry hshows hform

/-- Looking leaves the entries as they are. -/
theorem Finds.entries (h : d.Finds n r found r') : r'.entries = r.entries := by
  cases h <;> rfl

/-- Using faults up does not change what they raise. -/
theorem Finds.failures (h : d.Finds n r found r') :
    r'.faults.map Fault.failure = r.faults.map Fault.failure := by
  have hfaults : r'.faults = (Fault.strike r.faults (d.getCall n)).2 := by
    cases h with
    | refused hstrike | failed hstrike | absent hstrike | unreadable hstrike | formless hstrike
    | present hstrike => rw [hstrike]
  rw [hfaults, Fault.failures_strike]

/-- A look fails with what a fault raises, or over an entry that does not read. -/
theorem Finds.failure {failure : Failure} (h : d.Finds n r (.error failure) r') :
    (∃ model issues, failure = .schema model issues) ∨
      failure ∈ r.faults.map Fault.failure := by
  cases h with
  | failed hstrike hgone => exact .inr (Fault.mem_failures_of_strike hstrike)
  | unreadable hstrike hentry hread =>
    obtain ⟨issues, rfl⟩ := Entry.read_eq_error hread
    exact .inl ⟨_, issues, rfl⟩
  | formless => exact .inl ⟨_, _, rfl⟩

end Declaration

namespace Planning

variable {provider : Provider} {d : Declaration} {n : Int} {s : Session}

/-- Looking for the variable of a declaration, and going on without a call. -/
theorem outcome_look {α : Type} (hn : d.parameters.projectId = some n)
    (hreach : provider.reach s = .ok ()) {absent : Work α}
    {present : Observed → Parameters → Work α} {f : Option Observed → α}
    (habsent : absent.Quiet (f none))
    (hpresent : ∀ o, (present o o.asParameters).Quiet (f (some o))) :
    ∃ s', s'.remote = (d.look n s.remote).2 ∧ s.Grows s' [d.getCall n] [] ∧
      (do
        match ← d.read provider with
        | none => absent
        | some o => present o (← parametersOf o) : Work α).outcome s =
        ((d.look n s.remote).1.map f, s') := by
  obtain ⟨s₁, hremote, hgrows, hread⟩ := Declaration.outcome_read hn hreach
  unfold Declaration.look
  cases hfetch : orGone none ((d.fetch n s.remote).1.map some) with
  | error failure =>
    rw [hfetch] at hread
    exact ⟨s₁, hremote, hgrows, Work.outcome_bind_error hread⟩
  | ok x =>
    rw [hfetch] at hread
    rw [Work.outcome_bind_ok hread]
    simp only [Except.bind]
    cases x with
    | none =>
      obtain ⟨s₂, hremote₂, hgrows₂, hrun⟩ := habsent s₁
      exact ⟨s₂, hremote₂.trans hremote, hgrows.trans_quiet hgrows₂, hrun⟩
    | some o =>
      cases hform : o.toParameters with
      | invalid issues =>
        simp only [parametersOf, Declaration.formed, hform]
        rw [Work.outcome_bind_error (Work.outcome_ofChecked_invalid ..)]
        exact ⟨s₁, hremote, hgrows, rfl⟩
      | valid q =>
        obtain rfl := Observed.toParameters_eq_valid hform
        obtain ⟨s₂, hremote₂, hgrows₂, hrun⟩ := hpresent o s₁
        simp only [parametersOf, Declaration.formed, hform]
        rw [Work.outcome_bind_ok (Work.outcome_ofChecked_valid ..)]
        exact ⟨s₂, hremote₂.trans hremote, hgrows.trans_quiet hgrows₂, hrun⟩

/-! ## What is planned for one declaration -/

/-- The change for a variable that is found, or not. -/
def changeOf (d : Declaration) : Option Observed → Change
  | none => creation d
  | some o => comparison d o o.asParameters

/-- What is planned for what is found, to destroy or not. -/
def changeOf? (d : Declaration) (destroy : Bool) (x : Option Observed) : Option Change :=
  if destroy then x.map fun o => deletion d o.asParameters else some (changeOf d x)

/-- What is planned for what is found: a variable that is not there is created, one that differs in
a declared field is updated and any other is kept; to destroy, what is there is deleted. -/
inductive Classified (d : Declaration) : Bool → Option Observed → Option Change → Prop where
  | create (haction : (creation d).action = .create) : Classified d false none (some (creation d))
  | update {o : Observed} (hdiffers : d.parameters.DiffersFrom o)
    (haction : (comparison d o o.asParameters).action = .update) :
    Classified d false (some o) (some (comparison d o o.asParameters))
  | keep {o : Observed} (hsame : ¬d.parameters.DiffersFrom o)
    (haction : (comparison d o o.asParameters).action = .keep) :
    Classified d false (some o) (some (comparison d o o.asParameters))
  | skip : Classified d true none none
  | delete {o : Observed} (haction : (deletion d o.asParameters).action = .delete) :
    Classified d true (some o) (some (deletion d o.asParameters))

theorem classified_changeOf? (d : Declaration) (destroy : Bool) (x : Option Observed) :
    Classified d destroy x (changeOf? d destroy x) := by
  cases destroy with
  | true => cases x with
    | none => exact .skip
    | some o => exact .delete rfl
  | false => cases x with
    | none => exact .create rfl
    | some o =>
      have haction := action_comparison d o
      by_cases h : d.parameters.differing o = []
      · rw [if_pos h] at haction
        exact .keep (fun hdiffers => Parameters.differsFrom_iff.1 hdiffers h) haction
      · rw [if_neg h] at haction
        exact .update (Parameters.differsFrom_iff.2 h) haction

theorem Classified.eq_changeOf? {destroy : Bool} {x : Option Observed} {change? : Option Change}
    (h : Classified d destroy x change?) : change? = changeOf? d destroy x := by
  cases h <;> rfl

theorem quiet_logDifferences (key : String) (ds : List Difference) :
    (logDifferences key ds).Quiet () := by
  unfold logDifferences
  split
  · exact .pure ()
  · exact .log _ _ _

theorem quiet_creation (d : Declaration) :
    (do
      Work.log .debug .engine ("Classified " ++ d.address ++ " as create")
      pure (creation d) : Work Change).Quiet (creation d) :=
  (Work.Quiet.log _ _ _).bind (.pure _)

theorem quiet_comparison (d : Declaration) (o : Observed) (observed : Parameters) :
    (do
      let change := comparison d o observed
      logDifferences d.parameters.key
        (recordDifferences (d.parameters.lateInitialize (some o)).record observed.record)
      Work.log .debug .engine ("Classified " ++ d.address ++ " as " ++ change.action.text)
      pure change : Work Change).Quiet (comparison d o observed) :=
  (quiet_logDifferences _ _).bind ((Work.Quiet.log _ _ _).bind (.pure _))

theorem quiet_absence (d : Declaration) :
    (do
      Work.log .debug .engine ("Skipping " ++ d.address ++ ": not present in GitLab")
      pure none : Work (Option Change)).Quiet none :=
  (Work.Quiet.log _ _ _).bind (.pure _)

/-- Classifying a declaration is one look-up and the change that follows from what it finds. -/
theorem outcome_classify (hn : d.parameters.projectId = some n)
    (hreach : provider.reach s = .ok ()) :
    ∃ s', s'.remote = (d.look n s.remote).2 ∧ s.Grows s' [d.getCall n] [] ∧
      (classify provider d).outcome s = ((d.look n s.remote).1.map (changeOf d), s') :=
  outcome_look hn hreach (quiet_creation d) fun o => quiet_comparison d o o.asParameters

theorem outcome_classifyDestroy (hn : d.parameters.projectId = some n)
    (hreach : provider.reach s = .ok ()) :
    ∃ s', s'.remote = (d.look n s.remote).2 ∧ s.Grows s' [d.getCall n] [] ∧
      (classifyDestroy provider d).outcome s =
        ((d.look n s.remote).1.map (changeOf? d true), s') :=
  outcome_look hn hreach (quiet_absence d) fun _ => .pure _

theorem outcome_first (destroy : Bool) (hn : d.parameters.projectId = some n)
    (hreach : provider.reach s = .ok ()) :
    ∃ s', s'.remote = (d.look n s.remote).2 ∧ s.Grows s' [d.getCall n] [] ∧
      (if destroy then classifyDestroy provider d else some <$> classify provider d).outcome s =
        ((d.look n s.remote).1.map (changeOf? d destroy), s') := by
  cases destroy with
  | true => exact outcome_classifyDestroy hn hreach
  | false =>
    obtain ⟨s', hremote, hgrows, hrun⟩ := outcome_classify hn hreach
    refine ⟨s', hremote, hgrows, ?_⟩
    rw [if_neg Bool.false_ne_true, ← bind_pure_comp]
    refine (Work.outcome_bind_pure hrun some).trans ?_
    cases (d.look n s.remote).1 <;> rfl

/-! ## The survey -/

/-- Looking for the variables of declarations in turn, up to the first look that fails: the calls,
the changes or the failure, and the service afterwards. -/
inductive Survey (destroy : Bool) : Remote → List Declaration → List Call →
    Except Failure (List Change) → Remote → Prop where
  | done {r : Remote} : Survey destroy r [] [] (.ok []) r
  | stop {r r' : Remote} {d : Declaration} {n : Int} {rest : List Declaration} {failure : Failure}
    (hn : d.parameters.projectId = some n) (hfinds : d.Finds n r (.error failure) r') :
    Survey destroy r (d :: rest) [d.getCall n] (.error failure) r'
  | next {r r₁ r' : Remote} {d : Declaration} {n : Int} {rest : List Declaration}
    {x : Option Observed} {change? : Option Change} {calls : List Call}
    {result : Except Failure (List Change)}
    (hn : d.parameters.projectId = some n) (hfinds : d.Finds n r (.ok x) r₁)
    (hchange : Classified d destroy x change?) (hrest : Survey destroy r₁ rest calls result r') :
    Survey destroy r (d :: rest) (d.getCall n :: calls)
      (result.map (change?.toList ++ ·)) r'

theorem changes_cons (provider : Provider) (destroy : Bool) (d : Declaration)
    (rest : List Declaration) : changes provider destroy (d :: rest) =
      ((if destroy then classifyDestroy provider d else some <$> classify provider d) >>=
        fun change? => changes provider destroy rest >>= fun more =>
          pure (change?.toList ++ more)) := by
  cases destroy <;> simp [changes]

/-- The run lemma: the changes of the declarations are a survey of the service. -/
theorem outcome_changes (provider : Provider) (destroy : Bool) (ds : List Declaration) (s : Session)
    (hprojects : ∀ d ∈ ds, d.parameters.projectId ≠ none)
    (hreach : ds ≠ [] → provider.reach s = .ok ()) :
    ∃ calls result s', Survey destroy s.remote ds calls result s'.remote ∧ s.Grows s' calls [] ∧
      (changes provider destroy ds).outcome s = (result, s') := by
  induction ds generalizing s with
  | nil => exact ⟨[], _, s, .done, .refl s, rfl⟩
  | cons d rest ih =>
    obtain ⟨hd, hrest⟩ := List.forall_mem_cons.1 hprojects
    obtain ⟨n, hn⟩ := Option.ne_none_iff_exists'.1 hd
    have hreach := hreach (List.cons_ne_nil d rest)
    obtain ⟨s₁, hremote₁, hgrows₁, hrun₁⟩ := outcome_first destroy hn hreach
    have hfinds := d.finds_look n s.remote
    rw [changes_cons]
    rw [← hremote₁] at hfinds
    cases hlook : (d.look n s.remote).1 with
    | error failure =>
      rw [hlook] at hfinds hrun₁
      exact ⟨_, _, s₁, .stop hn hfinds, hgrows₁, Work.outcome_bind_error hrun₁⟩
    | ok x =>
      rw [hlook] at hfinds hrun₁
      obtain ⟨calls, result, s₂, hsurvey, hgrows₂, hrun₂⟩ := ih s₁ hrest
        fun _ => Provider.reach_of_grows hgrows₁ hreach
      exact ⟨_, _, s₂, .next hn hfinds (classified_changeOf? d destroy x) hsurvey,
        hgrows₁.trans hgrows₂,
        (Work.outcome_bind_ok hrun₁).trans (Work.outcome_bind_pure hrun₂ _)⟩

namespace Survey

variable {destroy : Bool} {r r' : Remote} {ds : List Declaration} {calls : List Call}
  {result : Except Failure (List Change)}

theorem entries (h : Survey destroy r ds calls result r') : r'.entries = r.entries := by
  induction h with
  | done => rfl
  | stop hn hfinds => exact hfinds.entries
  | next hn hfinds hchange hrest ih => exact ih.trans hfinds.entries

/-- A survey fails because of a fault or an answer that cannot be read. -/
theorem failure (h : Survey destroy r ds calls result r') {failure : Failure}
    (hresult : result = .error failure) :
    (∃ model issues, failure = .schema model issues) ∨ failure ∈ r.faults.map Fault.failure := by
  induction h with
  | done => cases hresult
  | stop hn hfinds =>
    cases hresult
    exact hfinds.failure
  | @next _ _ _ _ _ _ _ _ _ result hn hfinds hchange hrest ih =>
    cases result with
    | ok more => cases hresult
    | error other =>
      cases hresult
      rw [← hfinds.failures]
      exact ih rfl

/-- A survey calls nothing but reads. -/
theorem only_get (h : Survey destroy r ds calls result r') : ∀ c ∈ calls, c.method = .get := by
  induction h with
  | done => exact nofun
  | stop hn hfinds => exact List.forall_mem_singleton.2 rfl
  | next hn hfinds hchange hrest ih => exact List.forall_mem_cons.2 ⟨rfl, ih⟩

/-- There is one call for each declaration up to the one where the survey ends. -/
theorem asks (h : Survey destroy r ds calls result r') :
    List.Forall₂ Declaration.Asks (ds.take calls.length) calls ∧
      ∀ cs, result = .ok cs → calls.length = ds.length := by
  induction h with
  | done => exact ⟨.nil, fun _ _ => rfl⟩
  | stop hn hfinds => exact ⟨.cons ⟨_, hn, rfl⟩ .nil, nofun⟩
  | @next _ _ _ _ _ _ _ _ _ result hn hfinds hchange hrest ih =>
    refine ⟨.cons ⟨_, hn, rfl⟩ ih.1, fun cs hcs => ?_⟩
    cases result with
    | error failure => cases hcs
    | ok more => exact congrArg (· + 1) (ih.2 more rfl)

/-- The changes come in the order of the declarations; unless they are to be destroyed, each has
one. -/
theorem addresses (h : Survey destroy r ds calls result r') {cs : List Change}
    (hresult : result = .ok cs) :
    (cs.map Change.address).Sublist (ds.map Declaration.address) ∧
      (destroy = false → cs.map Change.address = ds.map Declaration.address) := by
  induction h generalizing cs with
  | done =>
    cases hresult
    exact ⟨.slnil, fun _ => rfl⟩
  | stop hn hfinds => cases hresult
  | @next _ _ _ _ _ _ _ _ _ result hn hfinds hchange hrest ih =>
    cases result with
    | error failure => cases hresult
    | ok more =>
      cases hresult
      obtain ⟨hsublist, heq⟩ := ih rfl
      cases hchange with
      | skip => exact ⟨hsublist.cons _, nofun⟩
      | delete => exact ⟨hsublist.cons_cons _, nofun⟩
      | create | update | keep =>
        exact ⟨hsublist.cons_cons _, fun hdestroy => congrArg (_ :: ·) (heq hdestroy)⟩

end Survey

end Planning

end CiVariables
