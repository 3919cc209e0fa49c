import CiVariables.Proofs.Settling

/-!
# Applying a plan converges

The changes of a plan settle their variables one after the other, and as the declarations are apart,
no later change disturbs what an earlier one settled (`Planning.Plans.settled`). Without faults each
of them is applied. Planned again, every declaration is kept.
-/

namespace CiVariables

/-! ## Changes carried out one after the other -/

/-- Every change is carried out on the store that the ones before it leave. -/
def Change.CarriedAll : Store → List Change → Prop
  | _, [] => True
  | store, c :: rest => c.Carried store ∧ CarriedAll (c.effect store) rest

theorem Change.effects_append (cs cs' : List Change) (store : Store) :
    effects (cs ++ cs') store = effects cs' (effects cs store) := List.foldl_append

/-- All changes can be carried if the first of them can, and the others after these. -/
theorem Change.carriedAll_append {cs cs' : List Change} {store : Store} :
    CarriedAll store (cs ++ cs') ↔ CarriedAll store cs ∧ CarriedAll (effects cs store) cs' := by
  induction cs generalizing store with
  | nil => simp [CarriedAll, effects]
  | cons c rest ih => exact (and_congr_right fun _ => ih).trans and_assoc.symm

namespace Change.Carried

variable {c : Change} {r : Remote}

/-- A change that can be carried is applied unless a fault strikes its call. -/
theorem handle_eq (h : c.Carried r.entries) :
    ∃ call, c.handle (.ok ()) r = match Fault.strike r.faults call with
      | (none, faults) => (.applied, ⟨c.effect r.entries, faults⟩)
      | (some failure, faults) => (.failed failure, { r with faults }) := by
  obtain ⟨w, e, hw, hperform, hanswer⟩ := h.perform
  refine ⟨w.call, ?_⟩
  unfold handle Remote.serve
  simp only [hw]
  rcases Fault.strike r.faults w.call with ⟨failure?, faults⟩
  cases failure? with
  | none => simp [hperform, Except.bind, hanswer, Verdict.ofAnswer]
  | some failure => simp [Except.bind, Verdict.ofAnswer, h.not_delete]

/-- A change that is carried out is applied, unless a fault strikes it. -/
theorem handle_cases (h : c.Carried r.entries) :
    (∃ faults, c.handle (.ok ()) r = (.applied, ⟨c.effect r.entries, faults⟩)) ∨
      ∃ failure faults, c.handle (.ok ()) r = (.failed failure, { r with faults }) := by
  obtain ⟨call, hhandle⟩ := h.handle_eq
  rw [hhandle]
  rcases Fault.strike r.faults call with ⟨_ | failure, faults⟩
  · exact .inl ⟨faults, rfl⟩
  · exact .inr ⟨failure, faults, rfl⟩

/-- Without faults, a change that can be carried is applied. -/
theorem handle_of_no_faults (h : c.Carried r.entries) (hr : r.faults = []) :
    c.handle (.ok ()) r = (.applied, ⟨c.effect r.entries, []⟩) := by
  obtain ⟨call, hhandle⟩ := h.handle_eq
  rw [hhandle, hr]
  rfl

end Change.Carried

namespace Handled

variable {r r' : Remote} {handled : List (Change × Verdict)}

/-- Where changes are carried out and none fails, all are applied. -/
theorem applied_of_carried (h : Handled (.ok ()) r handled r')
    (hcarried : Change.CarriedAll r.entries (handled.map Prod.fst))
    (hfailed : ∀ x ∈ handled, x.2.isFailed = false) :
    applied handled = handled.map Prod.fst ∧
      r'.entries = Change.effects (handled.map Prod.fst) r.entries := by
  induction h with
  | nil => exact ⟨rfl, rfl⟩
  | @cons c v r r₁ r' rest h _ ih =>
    obtain ⟨hv, hrest⟩ := List.forall_mem_cons.1 hfailed
    obtain ⟨hc, hcs⟩ := hcarried
    obtain ⟨faults, hhandle⟩ | ⟨failure, faults, hhandle⟩ := hc.handle_cases
    · rw [hhandle] at h
      cases h
      obtain ⟨happlied, hentries⟩ := ih hcs hrest
      refine ⟨?_, hentries⟩
      rw [List.map_cons, ← happlied]
      rfl
    · rw [hhandle] at h
      cases h
      cases hv

/-- Without faults no change that is carried out fails. -/
theorem not_failed_of_carried (h : Handled (.ok ()) r handled r') (hr : r.faults = [])
    (hcarried : Change.CarriedAll r.entries (handled.map Prod.fst)) :
    (∀ x ∈ handled, x.2.isFailed = false) ∧ r'.faults = [] := by
  induction h with
  | nil => exact ⟨nofun, hr⟩
  | @cons c v r r₁ r' rest h _ ih =>
    obtain ⟨hc, hcs⟩ := hcarried
    rw [hc.handle_of_no_faults hr] at h
    cases h
    obtain ⟨hrest, hfaults⟩ := ih rfl hcs
    exact ⟨List.forall_mem_cons.2 ⟨rfl, hrest⟩, hfaults⟩

end Handled

namespace Applying

/-- The row of changes that a run handled, given a connection if there is a change at all. -/
theorem Account.chain_connected {reach : Except Failure Unit} {watched : Bool}
    {before changes : List Change} {s s' : Session} {result : Except Failure (List Change)}
    {handled : List (Change × Verdict)} {rest : List Change}
    (h : Account reach watched before changes s result s' handled rest)
    (hreach : changes ≠ [] → reach = .ok ()) : Handled (.ok ()) s.remote handled s'.remote := by
  have hchain := h.chain
  cases handled with
  | nil =>
    rw [hchain.eq_of_nil]
    exact .nil _
  | cons x more =>
    have hne : changes ≠ [] := by
      rw [h.order]
      exact List.cons_ne_nil _ _
    rw [hreach hne] at hchain
    exact hchain

/-- A run in which nothing fails handles all changes. -/
theorem Account.completed {reach : Except Failure Unit} {watched : Bool}
    {before changes : List Change} {s s' : Session} {result : Except Failure (List Change)}
    {handled : List (Change × Verdict)} {rest : List Change}
    (h : Account reach watched before changes s result s' handled rest)
    (hfailed : ∀ x ∈ handled, x.2.isFailed = false) :
    result = .ok (before ++ Handled.applied handled) ∧ changes = handled.map Prod.fst := by
  have horder := h.order
  cases h.ended with
  | completed _ => exact ⟨rfl, horder.trans (List.append_nil _)⟩
  | @interrupted _ c failure _ _ =>
    cases hfailed (c, .failed failure) (List.mem_append_right _ List.mem_cons_self)

/-- Without faults, a plan whose changes are carried out is applied as a whole. -/
theorem outcome_of_carried {provider : Provider} {s : Session} (watched : Bool) (plan : Plan)
    (hreach : plan.actionable ≠ [] → provider.reach s = .ok ()) (hfaults : s.remote.faults = [])
    (hcarried : Change.CarriedAll s.remote.entries plan.actionable) :
    ∃ s' calls progress, s.Grows s' calls progress ∧
      s'.remote = ⟨Change.effects plan.actionable s.remote.entries, []⟩ ∧
      (apply provider (followerOf watched) plan).outcome s = (.ok plan.actionable, s') := by
  obtain ⟨result, s', handled, rest, hrun, haccount⟩ := account_apply provider watched plan s
  have hchain := haccount.chain_connected hreach
  rw [haccount.order] at hcarried
  have hcarried := (Change.carriedAll_append.1 hcarried).1
  obtain ⟨hfailed, hfaults'⟩ := hchain.not_failed_of_carried hfaults hcarried
  obtain ⟨happlied, hentries⟩ := hchain.applied_of_carried hcarried hfailed
  obtain ⟨rfl, horder⟩ := haccount.completed hfailed
  rw [List.nil_append, happlied] at hrun
  refine ⟨s', _, _, haccount.grows, ?_, horder ▸ hrun⟩
  rw [horder, ← hentries, ← hfaults']

/-- A plan without actionable changes is applied without a call. -/
theorem outcome_of_not_actionable (provider : Provider) (watched : Bool) (plan : Plan)
    (h : plan.actionable = []) (s : Session) :
    ∃ s', s'.remote = s.remote ∧ s.Grows s' [] [] ∧
      (apply provider (followerOf watched) plan).outcome s = (.ok [], s') := by
  have hquiet : (apply provider (followerOf watched) plan).Quiet [] := by
    unfold apply
    rw [h]
    exact (Work.Quiet.log _ _ _).bind (.pure _)
  exact hquiet s

end Applying

/-! ## The changes of a plan -/

namespace Planning

variable {store : Store} {ds : List Declaration} {cs : List Change}

/-- What the changes of a plan do, carried out one after the other. -/
structure Settled (store : Store) (ds : List Declaration) (cs : List Change) : Prop where
  carried : Change.CarriedAll store (cs.filter (·.isActionable))
  kept : ∀ d ∈ ds, ∃ c, d.planned (Change.effects cs store) = .ok c ∧ c.action = .keep
  others : ∀ d' : Declaration, (∀ d ∈ ds, d.Apart d') →
    d'.found? (Change.effects cs store) = d'.found? store

/-- The changes of a plan depend on the entries of its declarations only. -/
theorem Plans.congr {store' : Store} (h : Plans store ds cs)
    (hentry : ∀ d ∈ ds, d.found? store' = d.found? store) : Plans store' ds cs := by
  induction h with
  | nil => exact .nil
  | cons hd _ ih =>
    obtain ⟨hd', hrest⟩ := List.forall_mem_cons.1 hentry
    exact .cons (Declaration.planned_congr hd' ▸ hd) (ih hrest)

/-- Declarations that are apart are settled by their changes: what one change does, those of the
others leave. The induction is on the declarations, with the store general. -/
theorem Plans.settled (h : Plans store ds cs) (hwf : ∀ d ∈ ds, d.WellFormed)
    (hprojects : ∀ d ∈ ds, d.parameters.projectId ≠ none) (hapart : ds.Pairwise Declaration.Apart) :
    Settled store ds cs := by
  induction ds generalizing store cs with
  | nil =>
    cases h
    exact ⟨trivial, fun d hd => (List.not_mem_nil hd).elim, fun _ _ => rfl⟩
  | cons d rest ih =>
    cases h with
    | @cons _ c _ cs hd hrest =>
      obtain ⟨hwfd, hwfs⟩ := List.forall_mem_cons.1 hwf
      obtain ⟨hproject, hprojects⟩ := List.forall_mem_cons.1 hprojects
      obtain ⟨hfirst, hapart⟩ := List.pairwise_cons.1 hapart
      have hsettles := Declaration.settles_planned hwfd hproject hd
      have hlater := ih (hrest.congr fun d' hd' => hsettles.others d' (hfirst d' hd')) hwfs
        hprojects hapart
      refine ⟨?_, List.forall_mem_cons.2 ⟨?_, hlater.kept⟩, fun d' hd' => ?_⟩
      · cases hact : c.isActionable with
        | true =>
          rw [List.filter_cons_of_pos hact]
          exact ⟨hsettles.carried hact, hlater.carried⟩
        | false =>
          rw [List.filter_cons_of_neg (by simp [hact])]
          have hcarried := hlater.carried
          rw [hsettles.idle hact] at hcarried
          exact hcarried
      -- No later change touches the entry of the first declaration.
      · obtain ⟨c', hplanned, hkeep⟩ := hsettles.kept
        have hentry := hlater.others d fun d' hd' => (hfirst d' hd').symm
        exact ⟨c', (Declaration.planned_congr hentry).trans hplanned, hkeep⟩
      · obtain ⟨hd'first, hd'rest⟩ := List.forall_mem_cons.1 hd'
        exact (hlater.others d' hd'rest).trans (hsettles.others d' hd'first)

/-- The changes of a plan are at the addresses of the declarations, in order. -/
theorem Plans.addresses (h : Plans store ds cs) :
    cs.map (·.address) = ds.map Declaration.address := by
  induction h with
  | nil => rfl
  | cons hd _ ih =>
    have haddress : _ = _ := ih
    obtain ⟨-, rfl⟩ | ⟨e, o, -, -, -, rfl⟩ := Declaration.planned_cases hd <;>
      simp only [List.map_cons, haddress] <;> rfl

/-- Declarations that are all kept have a plan of changes that keep. -/
theorem plans_of_kept (h : ∀ d ∈ ds, ∃ c, d.planned store = .ok c ∧ c.action = .keep) :
    ∃ cs, Plans store ds cs ∧ ∀ c ∈ cs, c.action = .keep := by
  induction ds with
  | nil => exact ⟨[], .nil, fun c hc => (List.not_mem_nil hc).elim⟩
  | cons d rest ih =>
    obtain ⟨⟨c, hplanned, hkeep⟩, hrest⟩ := List.forall_mem_cons.1 h
    obtain ⟨cs, hplans, hcs⟩ := ih hrest
    exact ⟨c :: cs, .cons hplanned hplans, List.forall_mem_cons.2 ⟨hkeep, hcs⟩⟩

theorem filter_isActionable_of_keep (h : ∀ c ∈ cs, c.action = .keep) :
    cs.filter (·.isActionable) = [] := by
  rw [List.filter_eq_nil_iff]
  intro c hc
  simp [Change.isActionable, Action.isActionable, h c hc]

/-- Changes that keep have no effect. -/
theorem effects_filter_isActionable (cs : List Change) (store : Store) :
    Change.effects (cs.filter (·.isActionable)) store = Change.effects cs store := by
  induction cs generalizing store with
  | nil => rfl
  | cons c rest ih =>
    cases hact : c.isActionable with
    | true =>
      rw [List.filter_cons_of_pos hact]
      exact ih (c.effect store)
    | false =>
      have hkeep : c.action = .keep := by
        simpa [Change.isActionable, Action.isActionable] using hact
      rw [List.filter_cons_of_neg (by simp [hact]), ih]
      show _ = Change.effects rest (c.effect store)
      rw [Change.effect_of_keep hkeep]

/-- Changes that keep have no effect. -/
theorem effects_of_keep (h : ∀ c ∈ cs, c.action = .keep) (store : Store) :
    Change.effects cs store = store := by
  rw [← effects_filter_isActionable, filter_isActionable_of_keep h]
  rfl

end Planning

/-! ## Planning and applying -/

namespace Planning

variable {provider : Provider} {now : Timestamp} {ds : List Declaration} {s : Session}

theorem pairwise_sortByAddress (h : ds.Pairwise Declaration.Apart) :
    (sortByAddress ds).Pairwise Declaration.Apart :=
  (perm_sortByAddress ds).symm.pairwise h Declaration.Apart.symm

/-- The changes for the declarations of a plan settle them. -/
theorem settled_of_plans {store : Store} {cs : List Change}
    (hplans : Plans store (sortByAddress ds) cs) (hready : Ready provider s ds)
    (hwf : ∀ d ∈ ds, d.WellFormed) (hapart : ds.Pairwise Declaration.Apart) :
    Settled store (sortByAddress ds) cs :=
  hplans.settled (fun d hd => hwf d (mem_sortByAddress.1 hd))
    (fun d hd => hready.projects d (mem_sortByAddress.1 hd)) (pairwise_sortByAddress hapart)

theorem Plans.ne_nil {store : Store} {cs : List Change} (h : Plans store (sortByAddress ds) cs)
    (hne : cs.filter (·.isActionable) ≠ []) : ds ≠ [] := by
  rintro rfl
  have hsorted : sortByAddress [] = [] := sortByAddress_eq_nil_iff.2 rfl
  rw [hsorted] at h
  cases h
  exact hne rfl

/-- A plan that was made is applied as a whole where there are no faults. -/
theorem outcome_apply_of_plans {s₁ : Session} {calls : List Call} {p : Plan} (watched : Bool)
    (hready : Ready provider s ds)
    (hplans : Plans s.remote.entries (sortByAddress ds) p.changes) (hgrows : s.Grows s₁ calls [])
    (hremote : s₁.remote = s.remote) (hfaults : s.remote.faults = [])
    (hwf : ∀ d ∈ ds, d.WellFormed) (hapart : ds.Pairwise Declaration.Apart) :
    ∃ s₂ calls progress, s₁.Grows s₂ calls progress ∧
      s₂.remote = ⟨Change.effects p.changes s.remote.entries, []⟩ ∧
      (Applying.apply provider (Applying.followerOf watched) p).outcome s₁ =
        (.ok p.actionable, s₂) := by
  have hsettled := settled_of_plans hplans hready hwf hapart
  obtain ⟨s₂, calls, progress, hgrows₂, hremote₂, hrun⟩ :=
    Applying.outcome_of_carried (s := s₁) watched p
      (fun hne => Provider.reach_of_grows hgrows (hready.reach (hplans.ne_nil hne)))
      (by rw [hremote, hfaults]) (by rw [hremote]; exact hsettled.carried)
  refine ⟨s₂, calls, progress, hgrows₂, ?_, hrun⟩
  rw [hremote₂, hremote]
  exact congrArg (Remote.mk · []) (effects_filter_isActionable _ _)

/-- What is ready to be planned stays so while nothing but the trace grows. -/
theorem Ready.of_grows {s' : Session} {calls : List Call} {progress : List Event}
    (h : Ready provider s ds) (hgrows : s.Grows s' calls progress) : Ready provider s' ds :=
  ⟨h.addresses, h.projects, fun hne => Provider.reach_of_grows hgrows (h.reach hne)⟩

theorem readsFreely_of_no_faults {r : Remote} (h : r.faults = []) : r.ReadsFreely := by
  unfold Remote.ReadsFreely
  rw [h]
  exact fun f hf => (List.not_mem_nil hf).elim

/-- **Applying a plan converges.** Declarations that are apart, planned again after their plan has
been applied, are all kept, and applying that second plan does nothing. -/
theorem replan_keeps (provider : Provider) (watched : Bool) (now later : Timestamp)
    {ds : List Declaration} {s s₁ : Session} {p : Plan} (hwf : ∀ d ∈ ds, d.WellFormed)
    (hapart : ds.Pairwise Declaration.Apart) (hfaults : s.remote.faults = [])
    (hplan : (plan provider now false ds).outcome s = (.ok p, s₁)) :
    ∃ s₂ p' s₃ s₄,
      (Applying.apply provider (Applying.followerOf watched) p).outcome s₁ =
        (.ok p.actionable, s₂) ∧
      (plan provider later false ds).outcome s₂ = (.ok p', s₃) ∧
      p'.changes.map (·.address) = (sortByAddress ds).map Declaration.address ∧
      (∀ c ∈ p'.changes, c.action = .keep) ∧
      (Applying.apply provider (Applying.followerOf watched) p').outcome s₃ = (.ok [], s₄) ∧
      s₄.calls = s₃.calls ∧ s₃.remote = s₂.remote ∧ s₄.remote = s₃.remote := by
  obtain ⟨hready, hplans, hremote₁, calls₁, hgrows₁⟩ :=
    plans_of_outcome (readsFreely_of_no_faults hfaults) hplan
  obtain ⟨s₂, calls₂, progress₂, hgrows₂, hremote₂, hrun₂⟩ :=
    outcome_apply_of_plans watched hready hplans hgrows₁ hremote₁ hfaults hwf hapart
  obtain ⟨cs, hplans', hkeep⟩ := plans_of_kept (settled_of_plans hplans hready hwf hapart).kept
  have hentries₂ : s₂.remote.entries = Change.effects p.changes s.remote.entries := by rw [hremote₂]
  obtain ⟨s₃, calls₃, hremote₃, hgrows₃, hrun₃⟩ := outcome_of_plans later
    ((hready.of_grows hgrows₁).of_grows hgrows₂) (readsFreely_of_no_faults (by rw [hremote₂]))
    (hentries₂ ▸ hplans')
  obtain ⟨s₄, hremote₄, hgrows₄, hrun₄⟩ := Applying.outcome_of_not_actionable provider watched
    (planOf provider later cs) (filter_isActionable_of_keep hkeep) s₃
  refine ⟨s₂, planOf provider later cs, s₃, s₄, hrun₂, hrun₃, hplans'.addresses, hkeep, hrun₄, ?_,
    hremote₃, hremote₄⟩
  rw [hgrows₄.calls, List.append_nil]

/-- One key in two environments: one of the variables is there with another value. -/
theorem replan_keeps_of_two_environments :
    let production : Declaration := ⟨"production", "",
      { key := "K", value := some "one", scope := some "production", projectId := some 1 }⟩
    let staging : Declaration := ⟨"staging", "",
      { key := "K", value := some "two", scope := some "staging", projectId := some 1 }⟩
    let entry : Entry :=
      [("project", .int 1), ("key", .str "K"), ("environment_scope", .str "production")]
    let ds := [production, staging]
    let s : Session := { remote := ⟨[entry], []⟩ }
    (∀ d ∈ ds, d.WellFormed) ∧ ds.Pairwise Declaration.Apart ∧ s.remote.faults = [] ∧
      ∃ p s₁ s₂ p' s₃, (plan { isReady := true } default false ds).outcome s = (.ok p, s₁) ∧
        p.actionable.length = 2 ∧
        (Applying.apply { isReady := true } none p).outcome s₁ = (.ok p.actionable, s₂) ∧
        (plan { isReady := true } default false ds).outcome s₂ = (.ok p', s₃) ∧
        ∀ c ∈ p'.changes, c.action = .keep := by
  intro production staging entry ds s
  have hwf : ∀ d ∈ ds, d.WellFormed := by
    refine List.forall_mem_cons.2 ⟨?_, List.forall_mem_singleton.2 ?_⟩
    · exact ⟨by decide, by decide, by decide, nofun, nofun⟩
    · exact ⟨by decide, by decide, by decide, nofun, nofun⟩
  have hapart : ds.Pairwise Declaration.Apart :=
    List.pairwise_pair.2 fun _ _ => ⟨"production", "staging", rfl, rfl, by decide⟩
  have hsorted : sortByAddress ds = ds := List.mergeSort_of_pairwise (by decide)
  have hready : Ready { isReady := true } s ds := ⟨by decide, by decide, fun _ => rfl⟩
  let seen : Observed := { key := "K", scope := "production" }
  have hplans : Plans s.remote.entries ds
      [comparison production seen seen.asParameters, creation staging] :=
    .cons rfl (.cons rfl .nil)
  obtain ⟨s₁, -, -, -, hplan⟩ :=
    outcome_of_plans default hready (readsFreely_of_no_faults rfl) (hsorted.symm ▸ hplans)
  obtain ⟨s₂, p', s₃, -, happly, hplan', -, hkeep, -⟩ :=
    replan_keeps { isReady := true } false default default hwf hapart rfl hplan
  exact ⟨hwf, hapart, rfl, _, s₁, s₂, p', s₃, hplan, rfl, happly, hplan', hkeep⟩

end Planning

end CiVariables
