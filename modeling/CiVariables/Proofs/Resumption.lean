import CiVariables.Proofs.Convergence

/-!
# Resuming an interrupted run

Where a run fails on a create or an update, the store has the effects of the changes before the
failing one. Planned again, the declarations of those changes are kept, and the others get the
changes that they had (`Planning.Plans.resume`). Applying what is left therefore ends where one run
without faults would have ended.
-/

namespace CiVariables

/-! ## Where a run stops -/

namespace Handled

variable {r r' : Remote}

/-- A failing change that would have been carried out leaves the entries alone. -/
theorem entries_of_failed {c : Change} {failure : Failure}
    (h : Handled (.ok ()) r [(c, .failed failure)] r') (hc : c.Carried r.entries) :
    r'.entries = r.entries := by
  cases h with
  | cons h hrest =>
    rw [hrest.eq_of_nil]
    obtain ⟨faults, hhandle⟩ | ⟨_, faults, hhandle⟩ := hc.handle_cases
    · rw [hhandle] at h
      cases h
    · rw [hhandle] at h
      cases h
      rfl

end Handled

namespace Applying

/-- A run that fails over changes that are carried out stops after the effects of the changes before
the failing one. -/
theorem Account.stopped {watched : Bool} {changes : List Change} {s s' : Session}
    {failure : Failure} {handled : List (Change × Verdict)} {rest : List Change}
    (h : Account (.ok ()) watched [] changes s (.error failure) s' handled rest)
    (hcarried : Change.CarriedAll s.remote.entries changes) :
    ∃ done left, changes = done ++ left ∧
      s'.remote.entries = Change.effects done s.remote.entries := by
  obtain ⟨horder, hchain, hended, -⟩ := h
  cases hended with
  | @interrupted done c cause _ hdone =>
    obtain ⟨r₁, hbefore, hlast⟩ := hchain.of_append
    have hsplit : changes = done.map Prod.fst ++ (c :: rest) := by
      rw [horder, List.map_append, List.append_assoc]
      rfl
    obtain ⟨hcarried, hc, -⟩ := Change.carriedAll_append.1 (hsplit ▸ hcarried)
    obtain ⟨-, hentries⟩ := hbefore.applied_of_carried hcarried hdone
    exact ⟨_, _, hsplit, (hlast.entries_of_failed (hentries ▸ hc)).trans hentries⟩

end Applying

/-! ## Planning again -/

namespace Planning

variable {store : Store} {ds : List Declaration} {cs : List Change}

theorem Plans.append {ds' : List Declaration} {cs' : List Change} (h : Plans store ds cs)
    (h' : Plans store ds' cs') : Plans store (ds ++ ds') (cs ++ cs') := by
  induction h with
  | nil => exact h'
  | cons hd _ ih => exact .cons hd ih

/-- A plan can be split between any two of its changes, and its declarations with them. -/
theorem Plans.of_append {cs' : List Change} (h : Plans store ds (cs ++ cs')) :
    ∃ before after, ds = before ++ after ∧ Plans store before cs ∧ Plans store after cs' := by
  induction cs generalizing ds with
  | nil => exact ⟨[], ds, rfl, .nil, h⟩
  | cons c rest ih =>
    cases h with
    | cons hd hrest =>
      obtain ⟨before, after, rfl, hbefore, hafter⟩ := ih hrest
      exact ⟨_ :: before, after, rfl, .cons hd hbefore, hafter⟩

/-- After the first changes of a plan, the others are planned as before, and nothing else is to be
done. -/
theorem Plans.resume {cs' : List Change} (h : Plans store ds (cs ++ cs'))
    (hwf : ∀ d ∈ ds, d.WellFormed) (hprojects : ∀ d ∈ ds, d.parameters.projectId ≠ none)
    (hapart : ds.Pairwise Declaration.Apart) :
    ∃ kept, (∀ c ∈ kept, c.action = .keep) ∧
      Plans (Change.effects cs store) ds (kept ++ cs') := by
  obtain ⟨before, after, rfl, hbefore, hafter⟩ := h.of_append
  obtain ⟨hapart, -, hacross⟩ := List.pairwise_append.1 hapart
  have hsettled := hbefore.settled (fun d hd => hwf d (List.mem_append_left _ hd))
    (fun d hd => hprojects d (List.mem_append_left _ hd)) hapart
  obtain ⟨kept, hkept, hkeep⟩ := plans_of_kept hsettled.kept
  have hafter := hafter.congr fun d hd => hsettled.others d fun d' hd' => hacross d' hd' d hd
  exact ⟨kept, hkeep, hkept.append hafter⟩

/-! ## Planning and applying again -/

/-- The session with a service that no longer has faults. -/
def calmed (s : Session) : Session := s.withRemote ⟨s.remote.entries, []⟩

variable {provider : Provider} {s : Session}

/-- Planning and applying where there are no faults. -/
theorem outcome_plan_apply (watched : Bool) (now : Timestamp) (hready : Ready provider s ds)
    (hplans : Plans s.remote.entries (sortByAddress ds) cs) (hwf : ∀ d ∈ ds, d.WellFormed)
    (hapart : ds.Pairwise Declaration.Apart) :
    ∃ p s₁ s₂, (plan provider now false ds).outcome (calmed s) = (.ok p, s₁) ∧
      (Applying.apply provider (Applying.followerOf watched) p).outcome s₁ =
        (.ok p.actionable, s₂) ∧
      s₂.remote = ⟨Change.effects cs s.remote.entries, []⟩ := by
  have hready := hready.of_grows (s.grows_withRemote ⟨s.remote.entries, []⟩)
  obtain ⟨s₁, calls, hremote₁, hgrows, hrun₁⟩ :=
    outcome_of_plans now hready (readsFreely_of_no_faults rfl) hplans
  obtain ⟨s₂, -, -, -, hremote₂, hrun₂⟩ := outcome_apply_of_plans (p := planOf provider now cs)
    watched hready hplans hgrows hremote₁ rfl hwf hapart
  exact ⟨planOf provider now cs, s₁, s₂, hrun₁, hrun₂, hremote₂⟩

/-- **An interrupted run can be resumed.** Where faults strike no more than creates and updates and
a run fails, planning and applying again without them ends where planning and applying once would
have ended. -/
theorem resumed_eq_uninterrupted (provider : Provider) (watched : Bool) (now later : Timestamp)
    {ds : List Declaration} {s s₁ s₂ : Session} {p : Plan} {failure : Failure}
    (hwf : ∀ d ∈ ds, d.WellFormed) (hapart : ds.Pairwise Declaration.Apart)
    (hfaults : ∀ f ∈ s.remote.faults, f.method = .create ∨ f.method = .update)
    (hplan : (plan provider now false ds).outcome s = (.ok p, s₁))
    (hinterrupted : (Applying.apply provider (Applying.followerOf watched) p).outcome s₁ =
      (.error failure, s₂)) :
    ∃ resumed t₁ t₂ whole u₁ u₂,
      (plan provider later false ds).outcome (calmed s₂) = (.ok resumed, t₁) ∧
      (Applying.apply provider (Applying.followerOf watched) resumed).outcome t₁ =
        (.ok resumed.actionable, t₂) ∧
      (plan provider now false ds).outcome (calmed s) = (.ok whole, u₁) ∧
      (Applying.apply provider (Applying.followerOf watched) whole).outcome u₁ =
        (.ok whole.actionable, u₂) ∧
      t₂.remote = u₂.remote := by
  have hfree : s.remote.ReadsFreely := by
    intro f hf hget
    cases hfaults f hf with
    | inl h => cases hget.symm.trans h
    | inr h => cases hget.symm.trans h
  obtain ⟨hready, hplans, hremote₁, calls₁, hgrows₁⟩ := plans_of_outcome hfree hplan
  have hcarried := (settled_of_plans hplans hready hwf hapart).carried
  obtain ⟨result, s', handled, rest, hrun, haccount⟩ :=
    Applying.account_apply provider watched p s₁
  rw [hinterrupted] at hrun
  cases hrun
  have hreach : provider.reach s₁ = .ok () := by
    refine Provider.reach_of_grows hgrows₁ (hready.reach (hplans.ne_nil fun hnil => ?_))
    obtain ⟨_, -, -, hok⟩ := Applying.outcome_of_not_actionable provider watched p hnil s₁
    cases hinterrupted.symm.trans hok
  rw [hreach] at haccount
  -- The run stopped between two parts of the changes, with the effects of the first.
  obtain ⟨done, left, hsplit, hentries⟩ := haccount.stopped (hremote₁ ▸ hcarried)
  obtain ⟨cs, cs', hchanges, hdone, -⟩ := List.filter_eq_append_iff.1 hsplit
  have hmiddle : s₂.remote.entries = Change.effects cs s.remote.entries := by
    rw [hentries, hremote₁, ← hdone, effects_filter_isActionable]
  -- Planned again, the first part is kept and the second is as it was.
  obtain ⟨kept, hkeep, hresumed⟩ := (hchanges ▸ hplans).resume
    (fun d hd => hwf d (mem_sortByAddress.1 hd))
    (fun d hd => hready.projects d (mem_sortByAddress.1 hd)) (pairwise_sortByAddress hapart)
  obtain ⟨resumed, t₁, t₂, hplan', happly', hremote'⟩ := outcome_plan_apply watched later
    ((hready.of_grows hgrows₁).of_grows haccount.grows) (hmiddle ▸ hresumed) hwf hapart
  obtain ⟨whole, u₁, u₂, hplan'', happly'', hremote''⟩ :=
    outcome_plan_apply watched now hready hplans hwf hapart
  refine ⟨resumed, t₁, t₂, whole, u₁, u₂, hplan', happly', hplan'', happly'', ?_⟩
  rw [hremote', hremote'', hmiddle, hchanges, Change.effects_append, Change.effects_append,
    effects_of_keep hkeep]

/-! ## A service that refuses the second of two variables -/

def accepted : Declaration := ⟨"a", "", { key := "HOST", projectId := some 1 }⟩

def refused : Declaration := ⟨"b", "", { key := "PORT", projectId := some 1 }⟩

/-- The service before both variables. -/
def refusing : Remote :=
  ⟨[], [{ method := .create, key := some (.str "PORT"), failure := .noConnection }]⟩

/-- The service after the first variable. -/
def refusingNext : Remote := ⟨(creation accepted).effect [], refusing.faults⟩

/-- An interrupted run that is resumed. -/
theorem resumed_of_refused_create :
    let ds := [accepted, refused]
    let s : Session := { remote := refusing }
    (∀ d ∈ ds, d.WellFormed) ∧ ds.Pairwise Declaration.Apart ∧
      (∀ f ∈ s.remote.faults, f.method = .create ∨ f.method = .update) ∧
      ∃ p s₁ failure s₂, (plan { isReady := true } default false ds).outcome s = (.ok p, s₁) ∧
        (Applying.apply { isReady := true } none p).outcome s₁ = (.error failure, s₂) ∧
        ∃ resumed t₁ t₂ whole u₁ u₂,
          (plan { isReady := true } default false ds).outcome (calmed s₂) = (.ok resumed, t₁) ∧
          (Applying.apply { isReady := true } none resumed).outcome t₁ =
            (.ok resumed.actionable, t₂) ∧
          (plan { isReady := true } default false ds).outcome (calmed s) = (.ok whole, u₁) ∧
          (Applying.apply { isReady := true } none whole).outcome u₁ =
            (.ok whole.actionable, u₂) ∧
          t₂.remote = u₂.remote := by
  intro ds s
  have hwf : ∀ d ∈ ds, d.WellFormed := by
    refine List.forall_mem_cons.2 ⟨?_, List.forall_mem_singleton.2 ?_⟩
    · exact ⟨by decide, by decide, by decide, nofun, nofun⟩
    · exact ⟨by decide, by decide, by decide, nofun, nofun⟩
  have hapart : ds.Pairwise Declaration.Apart :=
    List.pairwise_pair.2 fun _ hkey => absurd hkey (by decide)
  have hfaults : ∀ f ∈ s.remote.faults, f.method = .create ∨ f.method = .update :=
    List.forall_mem_singleton.2 (.inl rfl)
  have hfree : s.remote.ReadsFreely := List.forall_mem_singleton.2 nofun
  have hsorted : sortByAddress ds = ds := List.mergeSort_of_pairwise (by decide)
  have hready : Ready { isReady := true } s ds := ⟨by decide, by decide, fun _ => rfl⟩
  have hplans : Plans s.remote.entries ds [creation accepted, creation refused] :=
    .cons rfl (.cons rfl .nil)
  obtain ⟨s₁, -, hremote, -, hplan⟩ := outcome_of_plans default hready hfree (hsorted.symm ▸ hplans)
  let p := planOf { isReady := true } default [creation accepted, creation refused]
  obtain ⟨result, s₂, handled, rest, hrun, haccount⟩ :=
    Applying.account_apply { isReady := true } false p s₁
  -- The second change cannot have been handled without failing.
  have hfails : ∃ failure, result = .error failure := by
    have hchain := haccount.chain
    have horder : [creation accepted, creation refused] = handled.map Prod.fst ++ rest :=
      haccount.order
    rw [hremote] at hchain
    cases haccount.ended with
    | interrupted _ => exact ⟨_, rfl⟩
    | completed hdone =>
      rcases handled with _ | ⟨⟨c, v⟩, _ | ⟨⟨c', w⟩, more⟩⟩
      · simp at horder
      · simp at horder
      · simp only [List.map_cons, List.cons_append, List.cons.injEq] at horder
        obtain ⟨rfl, rfl, -⟩ := horder
        have hfirst : (creation accepted).handle (.ok ()) refusing = (.applied, refusingNext) := rfl
        have hsecond : (creation refused).handle (.ok ()) refusingNext =
            (.failed .noConnection, refusingNext) := rfl
        cases hchain with
        | cons h hrest =>
          cases hfirst.symm.trans h
          cases hrest with
          | cons h' _ =>
            cases hsecond.symm.trans h'
            cases hdone _ (List.mem_cons_of_mem _ List.mem_cons_self)
  obtain ⟨failure, rfl⟩ := hfails
  exact ⟨hwf, hapart, hfaults, p, s₁, failure, s₂, hplan, hrun,
    resumed_eq_uninterrupted { isReady := true } false default default hwf hapart hfaults hplan
      hrun⟩

end Planning

end CiVariables
