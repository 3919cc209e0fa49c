import CiVariables.Proofs.Ending

/-!
# What a plan is made of

Where no fault strikes a get, the change for a declaration depends only on the entry that it is
about (`Declaration.changeIn`), and making a plan leaves the service alone. A plan succeeds exactly
where the addresses differ, every declaration has its project, the service can be reached if it has
to be, and each declaration can be planned (`Planning.plans_of_outcome`,
`Planning.outcome_of_plans`).
-/

namespace CiVariables

/-! ## Faults that leave reading alone -/

/-- No fault is about a get. -/
def Remote.ReadsFreely (r : Remote) : Prop := ∀ f ∈ r.faults, f.method ≠ .get

/-- Faults of other methods do not strike. -/
theorem Fault.strike_of_method_ne {faults : List Fault} {c : Call}
    (h : ∀ f ∈ faults, f.method ≠ c.method) : strike faults c = (none, faults) := by
  induction faults with
  | nil => rfl
  | cons f rest ih =>
    obtain ⟨hf, hrest⟩ := List.forall_mem_cons.1 h
    have hconcerns : f.concerns c = false := by
      unfold concerns
      simp [hf]
    unfold strike
    simp [hconcerns, ih hrest]

/-! ## The change for one declaration -/

namespace Declaration

/-- The change that is planned where an entry, or none, is found. -/
def changeFor (d : Declaration) : Option Entry → Except Failure Change
  | none => .ok (Planning.creation d)
  | some e =>
    match e.read with
    | .error failure => .error failure
    | .ok o =>
      match o.toParameters with
      | .invalid issues => .error (.schema "VariableParameters" issues)
      | .valid observed => .ok (Planning.comparison d o observed)

/-- The change that is planned on a store. -/
def planned (store : Store) (d : Declaration) : Except Failure Change :=
  d.changeFor (d.found? store)

/-- What is made of the entry that is found, or of its absence. -/
def inspect {α : Type} (absent : α) (present : Observed → Parameters → α) :
    Option Entry → Except Failure α
  | none => .ok absent
  | some e =>
    match e.read with
    | .error failure => .error failure
    | .ok o =>
      match o.toParameters with
      | .invalid issues => .error (.schema "VariableParameters" issues)
      | .valid observed => .ok (present o observed)

/-- The change that removes the variable on a store, if it is there. -/
def removal (store : Store) (d : Declaration) : Except Failure (Option Change) :=
  inspect none (fun _ observed => some (Planning.deletion d observed)) (d.found? store)

/-- The change that is planned on a store, to destroy or not. -/
def changeIn (store : Store) (destroy : Bool) (d : Declaration) : Except Failure (Option Change) :=
  if destroy then d.removal store else (d.planned store).map some

/-- What is planned depends on nothing but the entry that is found. -/
theorem planned_congr {d : Declaration} {store store' : Store}
    (h : d.found? store' = d.found? store) : d.planned store' = d.planned store := by
  unfold planned
  rw [h]

/-- Where no fault strikes a get, a look leaves the service as it is and finds what the change on
its store is made of. -/
theorem Finds.of_readsFreely {d : Declaration} {n : Int} {r r' : Remote}
    {found : Except Failure (Option Observed)} (h : d.Finds n r found r') (hfree : r.ReadsFreely)
    (destroy : Bool) :
    r' = r ∧ found.map (Planning.changeOf? d destroy) = d.changeIn r.entries destroy := by
  have hstrike : Fault.strike r.faults (d.getCall n) = (none, r.faults) :=
    Fault.strike_of_method_ne hfree
  cases h with
  | refused h | failed h => cases h.symm.trans hstrike
  | absent h hentry =>
    cases h.symm.trans hstrike
    refine ⟨rfl, ?_⟩
    cases destroy <;> simp only [changeIn, removal, planned, changeFor, inspect, hentry] <;> rfl
  | unreadable h hentry hread =>
    cases h.symm.trans hstrike
    refine ⟨rfl, ?_⟩
    cases destroy <;>
      simp only [changeIn, removal, planned, changeFor, inspect, hentry, hread] <;> rfl
  | formless h hentry hshows hform =>
    cases h.symm.trans hstrike
    refine ⟨rfl, ?_⟩
    have hread := Entry.read_of_shows hshows
    cases destroy <;>
      simp only [changeIn, removal, planned, changeFor, inspect, hentry, hread, hform] <;> rfl
  | present h hentry hshows hform =>
    cases h.symm.trans hstrike
    refine ⟨rfl, ?_⟩
    have hread := Entry.read_of_shows hshows
    cases destroy <;>
      simp only [changeIn, removal, planned, changeFor, inspect, hentry, hread, hform] <;> rfl

end Declaration

namespace Planning

variable {provider : Provider} {d : Declaration} {s : Session}

/-- The changes that are planned for declarations on a store, or the first failure. -/
def changesIn (store : Store) (destroy : Bool) : List Declaration → Except Failure (List Change)
  | [] => .ok []
  | d :: rest =>
    match d.changeIn store destroy with
    | .error failure => .error failure
    | .ok change? => (changesIn store destroy rest).map (change?.toList ++ ·)

/-- Where no fault strikes a get, the service is as before and what is planned is planned on its
store. -/
theorem Survey.of_readsFreely {destroy : Bool} {r r' : Remote} {ds : List Declaration}
    {calls : List Call} {result : Except Failure (List Change)}
    (h : Survey destroy r ds calls result r') (hfree : r.ReadsFreely) :
    r' = r ∧ result = changesIn r.entries destroy ds := by
  induction h with
  | done => exact ⟨rfl, rfl⟩
  | stop hn hfinds =>
    obtain ⟨rfl, hfound⟩ := hfinds.of_readsFreely hfree destroy
    rw [changesIn, ← hfound]
    exact ⟨rfl, rfl⟩
  | next hn hfinds hchange hrest ih =>
    obtain ⟨rfl, hfound⟩ := hfinds.of_readsFreely hfree destroy
    obtain ⟨rfl, rfl⟩ := ih hfree
    rw [changesIn, ← hfound, hchange.eq_changeOf?]
    exact ⟨rfl, rfl⟩

/-- The changes that are planned for declarations on a store, one for each. -/
inductive Plans (store : Store) : List Declaration → List Change → Prop where
  | nil : Plans store [] []
  | cons {d : Declaration} {c : Change} {ds : List Declaration} {cs : List Change}
    (h : d.planned store = .ok c) (hrest : Plans store ds cs) : Plans store (d :: ds) (c :: cs)

theorem changesIn_eq_ok_iff {store : Store} {ds : List Declaration} {cs : List Change} :
    changesIn store false ds = .ok cs ↔ Plans store ds cs := by
  have hchange (d : Declaration) : d.changeIn store false = (d.planned store).map some := rfl
  induction ds generalizing cs with
  | nil =>
    constructor
    · intro h
      cases h
      exact .nil
    · intro h
      cases h
      rfl
  | cons d rest ih =>
    unfold changesIn
    rw [hchange]
    constructor
    · intro h
      cases hd : d.planned store with
      | error failure =>
        rw [hd] at h
        cases h
      | ok c =>
        rw [hd] at h
        cases hrest : changesIn store false rest with
        | error failure =>
          simp only [hrest] at h
          cases h
        | ok more =>
          simp only [hrest] at h
          cases h
          exact .cons hd (ih.1 hrest)
    · intro h
      cases h with
      | cons hd hrest =>
        rw [hd, ih.2 hrest]
        rfl

/-! ## Plans -/

/-- What planning needs beside the entries: addresses of their own, projects, and a connection if
there is anything to read. -/
structure Ready (provider : Provider) (s : Session) (ds : List Declaration) : Prop where
  addresses : duplicateAddress? [] ds = none
  projects : ∀ d ∈ ds, d.parameters.projectId ≠ none
  reach : ds ≠ [] → provider.reach s = .ok ()

/-- The plan with some changes. -/
def planOf (provider : Provider) (now : Timestamp) (cs : List Change) : Plan :=
  ⟨⟨provider.host, now, false, engineVersion⟩, cs⟩

variable {now : Timestamp} {ds : List Declaration}

/-- Planning what is ready is a survey. -/
theorem Ends.of_ready {destroy : Bool} {calls : List Call} {result : Except Failure Plan}
    {r' : Remote} (h : Ends provider now destroy ds s calls result r')
    (hready : Ready provider s ds) :
    ∃ changes, Survey destroy s.remote (sortByAddress ds) calls changes r' ∧
      result = changes.map (Plan.mk ⟨provider.host, now, destroy, engineVersion⟩) := by
  have hnodup := (duplicateAddress?_eq_none_iff.1 hready.addresses).1
  cases h with
  | duplicate h => exact absurd hnodup h.not_nodup
  | invalid haddresses hmissing =>
    obtain ⟨d, hd, hnone⟩ := hmissing
    exact absurd hnone (hready.projects d hd)
  | unreached haddresses hprojects hne hreach => cases hreach.symm.trans (hready.reach hne)
  | surveyed haddresses hprojects hreach hsurvey => exact ⟨_, hsurvey, rfl⟩

/-- A plan that is made shows that what it needs was there. -/
theorem Ends.ready {destroy : Bool} {calls : List Call} {p : Plan} {r' : Remote}
    (h : Ends provider now destroy ds s calls (.ok p) r') : Ready provider s ds := by
  generalize hresult : Except.ok p = result at h
  cases h with
  | duplicate | invalid | unreached => cases hresult
  | surveyed haddresses hprojects hreach hsurvey =>
    exact ⟨duplicateAddress?_eq_none_iff.2 ⟨haddresses, fun _ _ => List.not_mem_nil⟩, hprojects,
      hreach⟩

/-- Without faults on reads, planning gives the changes that the store has for the declarations, or
their first error. -/
theorem outcome_plan (now : Timestamp) (destroy : Bool) (hready : Ready provider s ds)
    (hfree : s.remote.ReadsFreely) :
    ∃ s' calls, s'.remote = s.remote ∧ s.Grows s' calls [] ∧
      (plan provider now destroy ds).outcome s =
        ((changesIn s.remote.entries destroy (sortByAddress ds)).map
          (Plan.mk ⟨provider.host, now, destroy, engineVersion⟩), s') := by
  obtain ⟨calls, result, s', hends, hgrows, hrun⟩ := outcome_plan_ends provider now destroy ds s
  obtain ⟨changes, hsurvey, rfl⟩ := hends.of_ready hready
  obtain ⟨hremote, rfl⟩ := hsurvey.of_readsFreely hfree
  exact ⟨s', calls, hremote, hgrows, hrun⟩

/-- A plan that was made lists what was surveyed. -/
theorem made_of_outcome {destroy : Bool} {p : Plan} {s' : Session}
    (h : (plan provider now destroy ds).outcome s = (.ok p, s')) :
    Ready provider s ds ∧ ∃ calls cs, s.Grows s' calls [] ∧
      Survey destroy s.remote (sortByAddress ds) calls (.ok cs) s'.remote ∧
      p = ⟨⟨provider.host, now, destroy, engineVersion⟩, cs⟩ := by
  obtain ⟨calls, result, s₁, hends, hgrows, hrun⟩ := outcome_plan_ends provider now destroy ds s
  obtain ⟨rfl, rfl⟩ := Prod.mk.inj (h.symm.trans hrun)
  have hready := hends.ready
  obtain ⟨changes, hsurvey, hresult⟩ := hends.of_ready hready
  cases changes with
  | error failure => cases hresult
  | ok cs =>
    cases hresult
    exact ⟨hready, calls, cs, hgrows, hsurvey, rfl⟩

/-- A plan that was made is a survey of the service. -/
theorem survey_of_outcome {destroy : Bool} {p : Plan} {s' : Session}
    (h : (plan provider now destroy ds).outcome s = (.ok p, s')) :
    Ready provider s ds ∧ ∃ calls, s.Grows s' calls [] ∧
      Survey destroy s.remote (sortByAddress ds) calls (.ok p.changes) s'.remote := by
  obtain ⟨hready, calls, cs, hgrows, hsurvey, rfl⟩ := made_of_outcome h
  exact ⟨hready, calls, hgrows, hsurvey⟩

theorem metadata_of_outcome {destroy : Bool} {p : Plan} {s' : Session}
    (h : (plan provider now destroy ds).outcome s = (.ok p, s')) :
    p.metadata = ⟨provider.host, now, destroy, engineVersion⟩ := by
  obtain ⟨-, -, cs, -, -, rfl⟩ := made_of_outcome h
  rfl

theorem ready_of_outcome {destroy : Bool} {p : Plan} {s' : Session}
    (h : (plan provider now destroy ds).outcome s = (.ok p, s')) : Ready provider s ds :=
  (survey_of_outcome h).1

/-- What a plan that was made is, and that the service was left alone. -/
theorem plans_of_outcome {p : Plan} {s' : Session} (hfree : s.remote.ReadsFreely)
    (h : (plan provider now false ds).outcome s = (.ok p, s')) :
    Ready provider s ds ∧ Plans s.remote.entries (sortByAddress ds) p.changes ∧
      s'.remote = s.remote ∧ ∃ calls, s.Grows s' calls [] := by
  obtain ⟨hready, calls, hgrows, hsurvey⟩ := survey_of_outcome h
  obtain ⟨hremote, hchanges⟩ := hsurvey.of_readsFreely hfree
  exact ⟨hready, changesIn_eq_ok_iff.1 hchanges.symm, hremote, calls, hgrows⟩

/-- What is planned on the store is the plan. -/
theorem outcome_of_changesIn {cs : List Change} (now : Timestamp) {destroy : Bool}
    (hready : Ready provider s ds) (hfree : s.remote.ReadsFreely)
    (h : changesIn s.remote.entries destroy (sortByAddress ds) = .ok cs) :
    ∃ s' calls, s'.remote = s.remote ∧ s.Grows s' calls [] ∧
      (plan provider now destroy ds).outcome s =
        (.ok ⟨⟨provider.host, now, destroy, engineVersion⟩, cs⟩, s') := by
  obtain ⟨s', calls, hremote, hgrows, hrun⟩ := outcome_plan now destroy hready hfree
  rw [h] at hrun
  exact ⟨s', calls, hremote, hgrows, hrun⟩

/-- Declarations that can be planned on the store are planned so. -/
theorem outcome_of_plans {cs : List Change} (now : Timestamp) (hready : Ready provider s ds)
    (hfree : s.remote.ReadsFreely) (hplans : Plans s.remote.entries (sortByAddress ds) cs) :
    ∃ s' calls, s'.remote = s.remote ∧ s.Grows s' calls [] ∧
      (plan provider now false ds).outcome s = (.ok (planOf provider now cs), s') :=
  outcome_of_changesIn now hready hfree (changesIn_eq_ok_iff.2 hplans)

end Planning

end CiVariables
