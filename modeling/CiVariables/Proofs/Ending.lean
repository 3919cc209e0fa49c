import CiVariables.Proofs.Survey
import Mathlib.Data.List.Duplicate
import Mathlib.Data.String.Basic

/-!
# How planning ends

Planning is refused without a call if addresses repeat or projects are missing. Otherwise it is a
survey of the declarations in the order of their addresses, unless there is no connection to be had
(`Planning.Ends`). It only reads (`Planning.plan_only_looks`), and since sorting forgets the order
of declarations whose addresses differ, so does the plan (`Planning.plan_forgets_order`).
-/

namespace CiVariables.Planning

variable {provider : Provider} {d : Declaration} {s : Session}

/-! ## Addresses -/

/-- No address is reported exactly if all of them are distinct and new. -/
theorem duplicateAddress?_eq_none_iff {seen : List String} {ds : List Declaration} :
    duplicateAddress? seen ds = none ↔
      (ds.map Declaration.address).Nodup ∧ ∀ d ∈ ds, d.address ∉ seen := by
  induction ds generalizing seen with
  | nil => simp [duplicateAddress?]
  | cons d rest ih =>
    unfold duplicateAddress?
    by_cases hseen : d.address ∈ seen
    · simp [hseen]
    · rw [if_neg (by simpa using hseen), ih, List.map_cons, List.nodup_cons,
        List.forall_mem_cons]
      simp only [List.mem_cons, not_or, List.mem_map, not_exists, not_and]
      constructor
      · rintro ⟨hnodup, hrest⟩
        exact ⟨⟨fun d' hd' => (hrest d' hd').1, hnodup⟩, hseen, fun d' hd' => (hrest d' hd').2⟩
      · rintro ⟨⟨hne, hnodup⟩, -, hrest⟩
        exact ⟨hnodup, fun d' hd' => ⟨hne d' hd', hrest d' hd'⟩⟩

/-- An address that is reported occurs twice. -/
theorem duplicateAddress?_eq_some {seen : List String} {ds : List Declaration} {address : String}
    (h : duplicateAddress? seen ds = some address) :
    (ds.map Declaration.address).Duplicate address ∨
      address ∈ seen ∧ address ∈ ds.map Declaration.address := by
  induction ds generalizing seen with
  | nil => cases h
  | cons d rest ih =>
    unfold duplicateAddress? at h
    rw [List.map_cons]
    by_cases hseen : seen.contains d.address = true
    · rw [if_pos hseen] at h
      cases h
      exact .inr ⟨List.contains_iff_mem.1 hseen, List.mem_cons_self⟩
    · rw [if_neg hseen] at h
      rcases ih h with hrest | ⟨hmem, hrest⟩
      · exact .inl (hrest.duplicate_cons _)
      · rcases List.mem_cons.1 hmem with rfl | hmem
        · exact .inl (List.Mem.duplicate_cons_self hrest)
        · exact .inr ⟨hmem, List.mem_cons_of_mem _ hrest⟩

theorem mem_sortByAddress {ds : List Declaration} {d : Declaration} :
    d ∈ sortByAddress ds ↔ d ∈ ds := by
  unfold sortByAddress
  exact List.mem_mergeSort

theorem perm_sortByAddress (ds : List Declaration) : (sortByAddress ds).Perm ds :=
  List.mergeSort_perm ds _

theorem sortByAddress_eq_nil_iff {ds : List Declaration} : sortByAddress ds = [] ↔ ds = [] := by
  rw [← List.isEmpty_iff, ← List.isEmpty_iff, (perm_sortByAddress ds).isEmpty_eq]

/-- Declarations with addresses of their own are sorted strictly. -/
theorem sorted_sortByAddress {ds : List Declaration} (h : (ds.map Declaration.address).Nodup) :
    (sortByAddress ds).Pairwise fun a b => a.address < b.address := by
  have hle : (sortByAddress ds).Pairwise fun a b => a.address ≤ b.address := by
    refine (List.pairwise_mergeSort ?_ ?_ ds).imp fun {a b} hab => of_decide_eq_true hab
    · intro a b c hab hbc
      exact decide_eq_true ((of_decide_eq_true hab).trans (of_decide_eq_true hbc))
    · intro a b
      simpa using le_total a.address b.address
  have hne : (sortByAddress ds).Pairwise fun a b => a.address ≠ b.address :=
    List.pairwise_map.1 (((perm_sortByAddress ds).map _).nodup_iff.2 h)
  exact hle.imp₂ (fun _ _ => lt_of_le_of_ne) hne

/-- Sorting forgets the order of declarations with addresses of their own. -/
theorem sortByAddress_eq_of_perm {ds ds' : List Declaration}
    (h : (ds.map Declaration.address).Nodup) (hperm : ds.Perm ds') :
    sortByAddress ds' = sortByAddress ds := by
  have h' : (ds'.map Declaration.address).Nodup := (hperm.map _).nodup_iff.1 h
  refine List.Perm.eq_of_pairwise (fun a b _ _ hab hba => absurd hba hab.not_gt)
    (sorted_sortByAddress h') (sorted_sortByAddress h) ?_
  exact (perm_sortByAddress ds').trans (hperm.symm.trans (perm_sortByAddress ds).symm)

/-- Nothing is wrong exactly if every declaration has its project. -/
theorem problems_eq_nil_iff {ds : List Declaration} :
    (ds.flatMap Declaration.problems).isEmpty = true ↔
      ∀ d ∈ ds, d.parameters.projectId ≠ none := by
  rw [List.isEmpty_iff, List.flatMap_eq_nil_iff]
  refine forall_congr' fun d => forall_congr' fun _ => ?_
  unfold Declaration.problems
  cases d.parameters.projectId <;> simp

/-! ## Plans -/

/-- The log line that planning begins with. -/
def announcement (destroy : Bool) (ds : List Declaration) : LogLine :=
  ⟨.info, .engine, "Planning " ++ toString ds.length ++ " resources (destroy=" ++
    (if destroy then "True" else "False") ++ ")"⟩

variable {now : Timestamp} {ds : List Declaration}

theorem outcome_plan_eq (provider : Provider) (now : Timestamp) (destroy : Bool)
    (ds : List Declaration) (s : Session) :
    (plan provider now destroy ds).outcome s =
      let announced := s.noted (.logged (announcement destroy ds))
      match duplicateAddress? [] ds with
      | some address => (.error (.duplicateAddress address), announced)
      | none =>
        if (ds.flatMap Declaration.problems).isEmpty then
          (changes provider destroy (sortByAddress ds) >>= fun cs =>
            pure ⟨⟨provider.host, now, destroy, engineVersion⟩, cs⟩).outcome announced
        else (.error (.invalidDeclarations (ds.flatMap Declaration.problems)), announced) := by
  refine (Work.outcome_bind_ok (Work.outcome_log ..)).trans ?_
  cases duplicateAddress? [] ds with
  | some address => rfl
  | none =>
    simp only
    split <;> rfl

/-- Without a connection nothing is read. -/
theorem outcome_read_unreached {failure : Failure} (h : provider.reach s = .error failure) :
    (d.read provider).outcome s = (.error failure, s) := by
  unfold Declaration.read
  rw [Work.outcome_tryCatch_error (Work.outcome_bind_error (provider.outcome_connect_error h)),
    Provider.reach_error h]
  rfl

/-- Without a connection nothing is called. -/
theorem outcome_changes_unreached (destroy : Bool) {failure : Failure}
    (h : provider.reach s = .error failure) (hne : ds ≠ []) :
    (changes provider destroy ds).outcome s = (.error failure, s) := by
  cases ds with
  | nil => exact absurd rfl hne
  | cons d rest =>
    have hread := outcome_read_unreached (d := d) h
    unfold changes
    cases destroy with
    | true => exact Work.outcome_bind_error (Work.outcome_bind_error hread)
    | false => exact Work.outcome_bind_error (Work.outcome_bind_error hread)

/-- How planning ends: the calls, the plan or the failure, and the service afterwards. It is refused
if addresses repeat or projects are missing; otherwise it is a survey in the order of the
addresses, unless the service cannot be reached. -/
inductive Ends (provider : Provider) (now : Timestamp) (destroy : Bool) (ds : List Declaration)
    (s : Session) : List Call → Except Failure Plan → Remote → Prop where
  | duplicate {address : String} (h : (ds.map Declaration.address).Duplicate address) :
    Ends provider now destroy ds s [] (.error (.duplicateAddress address)) s.remote
  | invalid (haddresses : (ds.map Declaration.address).Nodup)
    (h : ∃ d ∈ ds, d.parameters.projectId = none) :
    Ends provider now destroy ds s []
      (.error (.invalidDeclarations (ds.flatMap Declaration.problems))) s.remote
  | unreached {failure : Failure} (haddresses : (ds.map Declaration.address).Nodup)
    (hprojects : ∀ d ∈ ds, d.parameters.projectId ≠ none) (hne : ds ≠ [])
    (hreach : provider.reach s = .error failure) :
    Ends provider now destroy ds s [] (.error failure) s.remote
  | surveyed {calls : List Call} {result : Except Failure (List Change)} {r' : Remote}
    (haddresses : (ds.map Declaration.address).Nodup)
    (hprojects : ∀ d ∈ ds, d.parameters.projectId ≠ none)
    (hreach : ds ≠ [] → provider.reach s = .ok ())
    (hsurvey : Survey destroy s.remote (sortByAddress ds) calls result r') :
    Ends provider now destroy ds s calls
      (result.map (Plan.mk ⟨provider.host, now, destroy, engineVersion⟩)) r'

theorem outcome_changes_ends (now : Timestamp) (destroy : Bool) {s₁ : Session}
    (hgrows : s.Grows s₁ [] []) (hremote : s₁.remote = s.remote)
    (hreach₁ : provider.reach s₁ = provider.reach s)
    (haddresses : (ds.map Declaration.address).Nodup)
    (hprojects : ∀ d ∈ ds, d.parameters.projectId ≠ none) :
    ∃ calls result s', Ends provider now destroy ds s calls
        (result.map (Plan.mk ⟨provider.host, now, destroy, engineVersion⟩)) s'.remote ∧
      s.Grows s' calls [] ∧
      (changes provider destroy (sortByAddress ds)).outcome s₁ = (result, s') := by
  by_cases hreach : ds ≠ [] → provider.reach s = .ok ()
  · obtain ⟨calls, result, s', hsurvey, hgrows', hrun⟩ := outcome_changes provider destroy
      (sortByAddress ds) s₁ (fun d hd => hprojects d (mem_sortByAddress.1 hd))
      fun hne => hreach₁.trans (hreach fun hnil => hne (sortByAddress_eq_nil_iff.2 hnil))
    rw [hremote] at hsurvey
    exact ⟨calls, result, s', .surveyed haddresses hprojects hreach hsurvey,
      hgrows.quiet_trans hgrows', hrun⟩
  · obtain ⟨hne, hreach⟩ := Classical.not_imp.1 hreach
    cases hunreached : provider.reach s with
    | ok _ => exact absurd hunreached hreach
    | error failure =>
      have hsorted : sortByAddress ds ≠ [] := fun hnil => hne (sortByAddress_eq_nil_iff.1 hnil)
      have hrun := outcome_changes_unreached destroy (hreach₁.trans hunreached) hsorted
      exact ⟨[], _, s₁, hremote ▸ .unreached haddresses hprojects hne hunreached, hgrows, hrun⟩

/-- However planning ends, it is in one of these ways. -/
theorem outcome_plan_ends (provider : Provider) (now : Timestamp) (destroy : Bool)
    (ds : List Declaration) (s : Session) :
    ∃ calls result s', Ends provider now destroy ds s calls result s'.remote ∧
      s.Grows s' calls [] ∧ (plan provider now destroy ds).outcome s = (result, s') := by
  let announced := s.noted (.logged (announcement destroy ds))
  have hannounced : s.Grows announced [] [] := s.grows_logged _
  rw [outcome_plan_eq]
  simp only
  cases haddresses : duplicateAddress? [] ds with
  | some address =>
    have hduplicate := (duplicateAddress?_eq_some haddresses).resolve_right fun h => nomatch h.1
    exact ⟨[], _, announced, .duplicate hduplicate, hannounced, rfl⟩
  | none =>
    obtain ⟨hnodup, -⟩ := duplicateAddress?_eq_none_iff.1 haddresses
    simp only
    by_cases hprojects : ∀ d ∈ ds, d.parameters.projectId ≠ none
    · rw [if_pos (problems_eq_nil_iff.2 hprojects)]
      obtain ⟨calls, result, s', hends, hgrows, hrun⟩ :=
        outcome_changes_ends now destroy hannounced rfl rfl hnodup hprojects
      exact ⟨calls, _, s', hends, hgrows, Work.outcome_bind_pure hrun _⟩
    · rw [if_neg fun h => hprojects (problems_eq_nil_iff.1 h)]
      have hmissing : ∃ d ∈ ds, d.parameters.projectId = none := by simpa using hprojects
      exact ⟨[], _, announced, .invalid hnodup hmissing, hannounced, rfl⟩

/-- Planning leaves the entries as they are. -/
theorem Ends.entries {destroy : Bool} {calls : List Call} {result : Except Failure Plan}
    {r' : Remote} (h : Ends provider now destroy ds s calls result r') :
    r'.entries = s.remote.entries := by
  cases h with
  | duplicate | invalid | unreached => rfl
  | surveyed haddresses hprojects hreach hsurvey => exact hsurvey.entries

/-- If addresses and projects are in order, planning fails only for want of a connection, because of
a fault, or because of an answer that cannot be read. -/
theorem Ends.failure {destroy : Bool} {calls : List Call} {result : Except Failure Plan}
    {r' : Remote} (h : Ends provider now destroy ds s calls result r')
    (haddresses : (ds.map Declaration.address).Nodup)
    (hprojects : ∀ d ∈ ds, d.parameters.projectId ≠ none) {failure : Failure}
    (hresult : result = .error failure) :
    failure = .noConnection ∨ (∃ model issues, failure = .schema model issues) ∨
      failure ∈ s.remote.faults.map Fault.failure := by
  cases h with
  | duplicate h => exact absurd haddresses h.not_nodup
  | invalid _ hmissing =>
    obtain ⟨d, hd, hnone⟩ := hmissing
    exact absurd hnone (hprojects d hd)
  | unreached _ _ _ hreach =>
    cases hresult
    exact .inl (Provider.reach_error hreach)
  | @surveyed _ changes _ _ _ _ hsurvey =>
    cases changes with
    | ok cs => cases hresult
    | error other =>
      cases hresult
      exact .inr (hsurvey.failure rfl)

/-- Where addresses differ and projects are there, planning fails for want of a connection, with
what a fault raises, or over an entry that does not read. -/
theorem failure_of_plan {destroy : Bool} (haddresses : (ds.map Declaration.address).Nodup)
    (hprojects : ∀ d ∈ ds, d.parameters.projectId ≠ none) {failure : Failure}
    (h : ((plan provider now destroy ds).outcome s).1 = .error failure) :
    failure = .noConnection ∨ (∃ model issues, failure = .schema model issues) ∨
      failure ∈ s.remote.faults.map Fault.failure := by
  obtain ⟨calls, result, s', hends, -, hrun⟩ := outcome_plan_ends provider now destroy ds s
  rw [hrun] at h
  exact hends.failure haddresses hprojects h

/-- Planning calls nothing but reads. -/
theorem Ends.only_get {destroy : Bool} {calls : List Call} {result : Except Failure Plan}
    {r' : Remote} (h : Ends provider now destroy ds s calls result r') :
    ∀ c ∈ calls, c.method = .get := by
  cases h with
  | duplicate | invalid | unreached => exact nofun
  | surveyed haddresses hprojects hreach hsurvey => exact hsurvey.only_get

/-- Planning makes no call unless the addresses differ and the projects are there. It then looks for
one declaration after the other, in the order of the addresses, up to the first look that fails, and
leaves the entries alone. -/
theorem plan_only_looks (provider : Provider) (now : Timestamp) (destroy : Bool)
    (ds : List Declaration) (s : Session) :
    ∃ calls result s', (plan provider now destroy ds).outcome s = (result, s') ∧
      s'.calls = s.calls ++ calls ∧ (∀ c ∈ calls, c.method = .get) ∧
      s'.remote.entries = s.remote.entries ∧
      (¬(ds.map Declaration.address).Nodup → calls = [] ∧ s'.remote = s.remote ∧
        ∃ address, (ds.map Declaration.address).Duplicate address ∧
          result = .error (.duplicateAddress address)) ∧
      ((ds.map Declaration.address).Nodup → (∃ d ∈ ds, d.parameters.projectId = none) →
        calls = [] ∧ s'.remote = s.remote ∧
          result = .error (.invalidDeclarations (ds.flatMap Declaration.problems))) ∧
      ((ds.map Declaration.address).Nodup → (∀ d ∈ ds, d.parameters.projectId ≠ none) →
        (∀ failure, ds ≠ [] → provider.reach s = .error failure →
          calls = [] ∧ s'.remote = s.remote ∧ result = .error failure) ∧
        ((ds ≠ [] → provider.reach s = .ok ()) →
          ∃ asked changes, asked.Perm ds ∧ (asked.Pairwise fun a b => a.address < b.address) ∧
            Survey destroy s.remote asked calls changes s'.remote ∧
            List.Forall₂ Declaration.Asks (asked.take calls.length) calls ∧
            result = changes.map (Plan.mk ⟨provider.host, now, destroy, engineVersion⟩) ∧
            ∀ cs, changes = .ok cs → calls.length = ds.length ∧
              (cs.Pairwise fun a b => a.address < b.address) ∧
              (destroy = false → cs.map Change.address = asked.map Declaration.address))) := by
  obtain ⟨calls, result, s', hends, hgrows, hrun⟩ := outcome_plan_ends provider now destroy ds s
  refine ⟨calls, result, s', hrun, hgrows.calls, hends.only_get, hends.entries, ?_⟩
  clear hrun hgrows
  -- From here on only the way in which planning ended matters.
  generalize s'.remote = r' at hends ⊢
  cases hends with
  | duplicate h =>
    exact ⟨fun _ => ⟨rfl, rfl, _, h, rfl⟩, fun hnodup => absurd hnodup h.not_nodup,
      fun hnodup => absurd hnodup h.not_nodup⟩
  | invalid haddresses hmissing =>
    refine ⟨fun h => absurd haddresses h, fun _ _ => ⟨rfl, rfl, rfl⟩, fun _ hprojects => ?_⟩
    obtain ⟨d, hd, hnone⟩ := hmissing
    exact absurd hnone (hprojects d hd)
  | @unreached failure haddresses hprojects hne hreach =>
    refine ⟨fun h => absurd haddresses h, fun _ hmissing => ?_, fun _ _ => ⟨?_, fun hok => ?_⟩⟩
    · obtain ⟨d, hd, hnone⟩ := hmissing
      exact absurd hnone (hprojects d hd)
    · intro other _ hother
      rw [hreach] at hother
      cases hother
      exact ⟨rfl, rfl, rfl⟩
    · cases hreach.symm.trans (hok hne)
  | surveyed haddresses hprojects hreach hsurvey =>
    refine ⟨fun h => absurd haddresses h, fun _ hmissing => ?_,
      fun _ _ => ⟨fun failure hne hfailure => ?_, fun _ => ?_⟩⟩
    · obtain ⟨d, hd, hnone⟩ := hmissing
      exact absurd hnone (hprojects d hd)
    · cases hfailure.symm.trans (hreach hne)
    · have hsorted := sorted_sortByAddress haddresses
      obtain ⟨hasks, hlength⟩ := hsurvey.asks
      refine ⟨_, _, perm_sortByAddress ds, hsorted, hsurvey, hasks, rfl, fun cs hcs => ?_⟩
      obtain ⟨hsublist, heq⟩ := hsurvey.addresses hcs
      have hall : calls.length = ds.length :=
        (hlength cs hcs).trans (perm_sortByAddress ds).length_eq
      exact ⟨hall, List.pairwise_map.1 ((List.pairwise_map.2 hsorted).sublist hsublist), heq⟩

/-! ## The order of the declarations -/

/-- Declarations in another order are planned with the same calls and the same answers, to the same
changes or the same failure; missing projects are told in that order. -/
theorem plan_forgets_order (provider : Provider) (now later : Timestamp) (destroy : Bool)
    {ds ds' : List Declaration} (haddresses : (ds.map Declaration.address).Nodup)
    (hperm : ds.Perm ds') (s : Session) :
    let first := (plan provider now destroy ds).outcome s
    let second := (plan provider later destroy ds').outcome s
    second.2 = first.2 ∧
      ((∀ d ∈ ds, d.parameters.projectId ≠ none) →
        second.1 = first.1.map fun p => { p with metadata.createdAt := later }) ∧
      ((∃ d ∈ ds, d.parameters.projectId = none) →
        ∃ errors errors', errors.Perm errors' ∧ first.1 = .error (.invalidDeclarations errors) ∧
          second.1 = .error (.invalidDeclarations errors')) := by
  have haddresses' : (ds'.map Declaration.address).Nodup := (hperm.map _).nodup_iff.1 haddresses
  have hunique {ds : List Declaration} (h : (ds.map Declaration.address).Nodup) :
      duplicateAddress? [] ds = none :=
    duplicateAddress?_eq_none_iff.2 ⟨h, fun _ _ => List.not_mem_nil⟩
  have hannounced : announcement destroy ds' = announcement destroy ds := by
    unfold announcement
    rw [hperm.length_eq]
  have herrors : (ds.flatMap Declaration.problems).Perm (ds'.flatMap Declaration.problems) :=
    hperm.flatMap_right _
  have hfirst := outcome_plan_eq provider now destroy ds s
  have hsecond := outcome_plan_eq provider later destroy ds' s
  simp only [hunique haddresses] at hfirst
  simp only [hunique haddresses', hannounced, sortByAddress_eq_of_perm haddresses hperm,
    ← herrors.isEmpty_eq] at hsecond
  simp only
  rw [hfirst, hsecond]
  by_cases hprojects : ∀ d ∈ ds, d.parameters.projectId ≠ none
  · rw [if_pos (problems_eq_nil_iff.2 hprojects), if_pos (problems_eq_nil_iff.2 hprojects)]
    rcases hrun : (changes provider destroy (sortByAddress ds)).outcome
      (s.noted (.logged (announcement destroy ds))) with ⟨result, s'⟩
    rw [Work.outcome_bind_pure hrun, Work.outcome_bind_pure hrun]
    refine ⟨rfl, fun _ => ?_, fun ⟨d, hd, hnone⟩ => absurd hnone (hprojects d hd)⟩
    cases result <;> rfl
  · have hempty : ¬(ds.flatMap Declaration.problems).isEmpty = true :=
      fun h => hprojects (problems_eq_nil_iff.1 h)
    rw [if_neg hempty, if_neg hempty]
    exact ⟨rfl, fun h => absurd h hprojects, fun _ => ⟨_, _, herrors, rfl, rfl⟩⟩

/-- A fault that strikes once strikes the look for the first address, in whichever order the
declarations come. -/
theorem plan_forgets_order_of_one_fault :
    let one : Declaration := ⟨"a", "", { key := "K", projectId := some 1 }⟩
    let other : Declaration := ⟨"b", "", { key := "L", projectId := some 1 }⟩
    let fault : Fault :=
      { method := .get, remaining := some 1, failure := .service ⟨.get, "unavailable", some 500⟩ }
    let s : Session := { remote := ⟨[], [fault]⟩ }
    let first := (plan { isReady := true } default false [one, other]).outcome s
    let second := (plan { isReady := true } default false [other, one]).outcome s
    ([one, other].map Declaration.address).Nodup ∧ [one, other].Perm [other, one] ∧
      second.2 = first.2 ∧ first.2.calls = [one.getCall 1] ∧
      first.1 = .error fault.failure ∧ second.1 = .error fault.failure := by
  intro one other fault s first second
  have haddresses : ([one, other].map Declaration.address).Nodup := by decide
  have hperm : [one, other].Perm [other, one] := .swap other one []
  have hprojects : ∀ d ∈ [one, other], d.parameters.projectId ≠ none := by decide
  have hsorted : sortByAddress [one, other] = [one, other] := List.mergeSort_of_pairwise (by decide)
  have hfirst : first = _ := outcome_plan_eq { isReady := true } default false [one, other] s
  rw [hsorted] at hfirst
  have hresult : first.1 = .error fault.failure := by
    rw [hfirst]
    rfl
  have hcalls : first.2.calls = [one.getCall 1] := by
    rw [hfirst]
    rfl
  obtain ⟨hsession, hplan, -⟩ :=
    plan_forgets_order { isReady := true } default default false haddresses hperm s
  refine ⟨haddresses, hperm, hsession, hcalls, hresult, (hplan hprojects).trans ?_⟩
  show first.1.map _ = _
  rw [hresult]
  rfl

end CiVariables.Planning
