import CiVariables.Proofs.Accepted
import CiVariables.Proofs.Origins
import CiVariables.Proofs.Sharing
import Mathlib.Data.List.Forall2

/-!
# A fresh plan applies

A plan of an accepted file never fails where it is applied to the service that it was made on. A
change awaits something of the store (`Declaration.Awaits`): a creation, that no entry has the
identity of the new one, and an update, that its scope has an entry that reads. No change takes from
another what it awaits, since updates move no entry and the declarations of an accepted file differ
in identity. This holds also where two declarations are about one entry. A removal that finds
nothing does not fail.
-/

namespace CiVariables

/-! ## What changes await -/

namespace Declaration

variable {d d' : Declaration} {store : Store} {c c' : Change} {n m : Int}

theorem effectiveScope_eq (p : Parameters) : p.effectiveScope =
    if p.scope.getD "*" = "" then "*" else p.scope.getD "*" := by
  unfold Parameters.effectiveScope
  cases p.scope <;> rfl

/-- Entries created for declarations of different identities have different identities. -/
theorem sameIdentity_createdEntry (hn : d.parameters.projectId = some n)
    (hm : d'.parameters.projectId = some m) (hne : d.identity ≠ d'.identity) :
    Entry.sameIdentity (d'.createdEntry m) (d.createdEntry n) = false := by
  rw [Bool.eq_false_iff]
  intro hsame
  obtain ⟨hproject, hkey, hscope⟩ := sameIdentity_createdEntry_iff.1 hsame
  have hshows := d.shows_createdEntry n
  refine hne ?_
  have hproject : n = m := by
    have hcreated : (d.createdEntry n).project = .int n := Entry.project_created _ _
    unfold Entry.inProject at hproject
    rw [hcreated] at hproject
    exact Json.sameValue_int_unique (Json.sameValue_int_self n) hproject
  have hkey : d.parameters.key = d'.parameters.key :=
    Json.str.inj (hshows.key_eq.symm.trans hkey)
  have hscope : d.parameters.scope.getD "*" = d'.parameters.scope.getD "*" :=
    Json.str.inj (hshows.scope_eq.symm.trans hscope)
  unfold identity
  rw [hn, hm, hproject, hkey, effectiveScope_eq, effectiveScope_eq, hscope]

/-- What a change that is planned for a declaration needs of the store that it is carried out on. -/
inductive Awaits (d : Declaration) (store : Store) : Change → Prop where
  | creation {n : Int} (hn : d.parameters.projectId = some n)
    (hfree : ∀ x ∈ store, Entry.sameIdentity (d.createdEntry n) x = false) :
    Awaits d store (Planning.creation d)
  | update {n : Int} {o o' : Observed} {e : Entry} (hn : d.parameters.projectId = some n)
    (haction : (Planning.comparison d o o.asParameters).action = .update)
    (hscope : (d.initialized o).parameters.scope = some o.scope)
    (hfind : store.find? (.number n) d.parameters.key (some o.scope) = some e)
    (hshows : e.Shows o') : Awaits d store (Planning.comparison d o o.asParameters)
  | keep {c : Change} (h : c.action = .keep) : Awaits d store c

/-- A planned change is one that the store awaits. -/
theorem awaits_of_planned (hproject : d.parameters.projectId ≠ none) (h : d.planned store = .ok c) :
    d.Awaits store c := by
  obtain ⟨n, hn⟩ := Option.ne_none_iff_exists'.1 hproject
  obtain ⟨hnone, rfl⟩ | ⟨e, o, hentry, hshows, hkey, rfl⟩ := planned_cases h
  · exact .creation hn (free_of_found?_none hn hnone)
  · have haction := Planning.action_comparison d o
    by_cases hdiffers : d.parameters.differing o = []
    · rw [if_pos hdiffers] at haction
      exact .keep haction
    · rw [if_neg hdiffers] at haction
      exact .update hn haction (scope_initialized hentry hshows)
        (Store.find?_of_narrower hentry (isAddressed_of_found? hn hentry hshows)
          (addresses_of_isAddressed hn hentry hshows)) hshows

/-- A change that the store awaits can be carried out. -/
theorem Awaits.carried (hwf : d.WellFormed) (h : d.Awaits store c) (hact : c.isActionable = true) :
    c.Carried store := by
  cases h with
  | creation hn hfree => exact (carried_creation hwf hn hfree).1
  | update hn haction hscope hfind hshows =>
    exact (carried_update hwf hn haction hscope hfind hshows).1
  | keep h => simp [Change.isActionable, h, Action.isActionable] at hact

/-- A created entry takes nothing from a declaration of another identity. -/
theorem Awaits.append (h' : d'.Awaits store c') (hn : d.parameters.projectId = some n)
    (hne : d.identity ≠ d'.identity) : d'.Awaits (store ++ [d.createdEntry n]) c' := by
  cases h' with
  | creation hm hfree =>
    refine .creation hm fun x hx => ?_
    rcases List.mem_append.1 hx with hx | hx
    · exact hfree x hx
    · rw [List.mem_singleton.1 hx]
      exact sameIdentity_createdEntry hn hm hne
  | update hm haction hscope hfind hshows =>
    refine .update hm haction hscope ?_ hshows
    unfold Store.find? at hfind ⊢
    rw [List.find?_append, hfind]
    rfl
  | keep h => exact .keep h

/-- An overwritten entry takes nothing from any declaration. -/
theorem Awaits.overwrite (h' : d'.Awaits store c') {o : Observed}
    (hscope : (d.initialized o).parameters.scope = some o.scope) :
    d'.Awaits (store.updateFirst
      (Entry.isAddressed (.number n) d.parameters.key (some o.scope)) (d.overwritten o)) c' := by
  cases h' with
  | creation hm hfree =>
    refine .creation hm fun x hx => ?_
    rcases Store.mem_updateFirst hx with hx | ⟨old, hold, htest, rfl⟩
    · exact hfree x hx
    · obtain ⟨hproject, hkey, hscope⟩ := identity_overwritten hscope htest
      have hold := hfree old hold
      unfold Entry.sameIdentity at hold ⊢
      rw [hproject, hkey, hscope]
      exact hold
  | update hm haction hscope' hfind hshows =>
    obtain ⟨e, hfind', he⟩ := Store.find?_updateFirst hfind fun x htest => by
      obtain ⟨hproject, hkey, hscope⟩ := identity_overwritten hscope htest
      unfold Entry.isAddressed Entry.inProject
      rw [hproject, hkey, hscope]
    obtain rfl | ⟨-, rfl⟩ := he
    · exact .update hm haction hscope' hfind' hshows
    · exact .update hm haction hscope' hfind' (shows_overwritten hshows)
  | keep h => exact .keep h

/-- Carrying out a change takes nothing from a declaration of another identity. -/
theorem Awaits.after (hwf : d.WellFormed) (h : d.Awaits store c) (h' : d'.Awaits store c')
    (hne : d.identity ≠ d'.identity) : d'.Awaits (c.effect store) c' := by
  cases h with
  | creation hn hfree =>
    rw [(carried_creation hwf hn hfree).2]
    exact h'.append hn hne
  | update hn haction hscope hfind hshows =>
    rw [(carried_update hwf hn haction hscope hfind hshows).2]
    exact h'.overwrite hscope
  | keep h =>
    rw [Change.effect_of_keep h]
    exact h'

end Declaration

/-! ## All changes of a plan -/

namespace Planning

variable {store : Store} {ds : List Declaration} {cs : List Change}

/-- Every change is carried out where each awaits no more than there is. -/
theorem carriedAll_of_awaits (hwf : ∀ d ∈ ds, d.WellFormed)
    (hidentity : ds.Pairwise fun a b => a.identity ≠ b.identity)
    (h : List.Forall₂ (fun d c => Declaration.Awaits d store c) ds cs) :
    Change.CarriedAll store (cs.filter (·.isActionable)) := by
  induction cs generalizing store ds with
  | nil => exact trivial
  | cons c rest ih =>
    obtain ⟨d, ds, hd, hds, rfl⟩ := List.forall₂_cons_right_iff.1 h
    obtain ⟨hwfd, hwf⟩ := List.forall_mem_cons.1 hwf
    obtain ⟨hfirst, hidentity⟩ := List.pairwise_cons.1 hidentity
    have hafter : List.Forall₂ (fun d c' => Declaration.Awaits d (c.effect store) c') ds rest :=
      ((List.forall₂_and_left ds rest).2 ⟨hfirst, hds⟩).imp fun d' c' h =>
        hd.after hwfd h.2 h.1
    have hrest := ih hwf hidentity hafter
    cases hact : c.isActionable with
    | true =>
      rw [List.filter_cons_of_pos hact]
      exact ⟨hd.carried hwfd hact, hrest⟩
    | false =>
      have hkeep : c.action = .keep := by
        simpa [Change.isActionable, Action.isActionable] using hact
      rw [Change.effect_of_keep hkeep] at hrest
      rw [List.filter_cons_of_neg (by simp [hact])]
      exact hrest

theorem Plans.awaits (h : Plans store ds cs) (hprojects : ∀ d ∈ ds, d.parameters.projectId ≠ none) :
    List.Forall₂ (fun d c => Declaration.Awaits d store c) ds cs := by
  induction h with
  | nil => exact .nil
  | cons hd _ ih =>
    obtain ⟨hproject, hprojects⟩ := List.forall_mem_cons.1 hprojects
    exact .cons (Declaration.awaits_of_planned hproject hd) (ih hprojects)

end Planning

/-! ## Removals -/

/-- The change removes the variable of a declaration. -/
def Change.IsRemoval (c : Change) : Prop :=
  c.action = .delete ∧ ∃ project key request,
    c.write? (.ok ()) = .ok (.delete project key request)

/-- A deletion that was planned removes the variable of its declaration. -/
theorem Declaration.isRemoval_deletion {d : Declaration} (hwf : d.WellFormed)
    (hproject : d.parameters.projectId ≠ none) (q : Parameters) :
    (Planning.deletion d q).IsRemoval := by
  obtain ⟨n, hn⟩ := Option.ne_none_iff_exists'.1 hproject
  refine ⟨rfl, .number n, d.parameters.key, RemoveRequest.ofParameters d.parameters, ?_⟩
  rw [Change.write?_of_desired rfl hwf]
  exact write?_eq_ok_iff.2 ⟨rfl, n, hn, .delete⟩

/-- Without a fault a removal is applied or finds nothing. -/
theorem Change.IsRemoval.handle_of_no_faults {c : Change} (h : c.IsRemoval) {r : Remote}
    (hr : r.faults = []) :
    c.handle (.ok ()) r = (.applied, ⟨c.effect r.entries, []⟩) ∨
      c.handle (.ok ()) r = (.gone (Client.notFound .delete), ⟨r.entries, []⟩) := by
  obtain ⟨haction, project, key, request, hw⟩ := h
  unfold handle Remote.serve effect
  simp only [hw, hr, Fault.strike, haction, Write.perform]
  cases r.entries.find? project key (ScopeFilter.scopeOf (request.bind RemoveRequest.filter)) with
  | none =>
    right
    rfl
  | some e =>
    left
    rfl

namespace Handled

variable {r r' : Remote} {handled : List (Change × Verdict)}

/-- Without faults no removal fails. -/
theorem not_failed_of_removals (h : Handled (.ok ()) r handled r') (hr : r.faults = [])
    (hremovals : ∀ c ∈ handled.map Prod.fst, c.IsRemoval) :
    (∀ x ∈ handled, x.2.isFailed = false) ∧
      r' = ⟨Change.effects (applied handled) r.entries, []⟩ := by
  induction h with
  | nil r =>
    rw [← hr]
    exact ⟨nofun, rfl⟩
  | @cons c v r r₁ r' rest h _ ih =>
    obtain ⟨hc, hcs⟩ := List.forall_mem_cons.1 hremovals
    obtain hhandle | hhandle := hc.handle_of_no_faults hr
    · rw [hhandle] at h
      cases h
      obtain ⟨hrest, hremote⟩ := ih rfl hcs
      exact ⟨List.forall_mem_cons.2 ⟨rfl, hrest⟩, hremote⟩
    · rw [hhandle] at h
      cases h
      obtain ⟨hrest, hremote⟩ := ih rfl hcs
      exact ⟨List.forall_mem_cons.2 ⟨rfl, hrest⟩, hremote⟩

theorem applied_sublist (handled : List (Change × Verdict)) :
    (applied handled).Sublist (handled.map Prod.fst) :=
  List.filter_sublist.map _

end Handled

namespace Applying

/-- Without faults, a plan of removals is applied except for what is not there. -/
theorem outcome_of_removals {provider : Provider} {s : Session} (watched : Bool) (plan : Plan)
    (hreach : plan.actionable ≠ [] → provider.reach s = .ok ()) (hfaults : s.remote.faults = [])
    (hremovals : ∀ c ∈ plan.actionable, c.IsRemoval) :
    ∃ applied s', applied.Sublist plan.actionable ∧
      s'.remote = ⟨Change.effects applied s.remote.entries, []⟩ ∧
      (apply provider (followerOf watched) plan).outcome s = (.ok applied, s') := by
  obtain ⟨result, s', handled, rest, hrun, haccount⟩ := account_apply provider watched plan s
  have hchain := haccount.chain_connected hreach
  obtain ⟨hfailed, hremote⟩ := hchain.not_failed_of_removals hfaults fun c hc => by
    refine hremovals c ?_
    rw [haccount.order]
    exact List.mem_append_left _ hc
  obtain ⟨rfl, horder⟩ := haccount.completed hfailed
  exact ⟨_, s', horder ▸ Handled.applied_sublist handled, hremote, hrun⟩

end Applying

/-! ## Plans of accepted files -/

namespace Config

theorem Accepted.pairwise_sorted {c : Config} (hc : c.Accepted) :
    (Planning.sortByAddress c.declarations).Pairwise fun a b => a.identity ≠ b.identity :=
  (Planning.perm_sortByAddress c.declarations).symm.pairwise hc.pairwise_identity Ne.symm

/-- **A fresh plan applies.** Where there are no faults, a plan of an accepted file that is applied
to the service that it was made on does not fail, and has the effects of what was applied: all
actionable changes, or where it is to destroy, all but removals of what is not there. -/
theorem fresh_plan_applies {c : Config} (hc : c.Accepted) (provider : Provider) (watched : Bool)
    (now : Timestamp) (destroy : Bool) {s s₁ : Session} {p : Plan} (hfaults : s.remote.faults = [])
    (hplan : (Planning.plan provider now destroy c.declarations).outcome s = (.ok p, s₁)) :
    s₁.remote = s.remote ∧ ∃ applied s₂,
      (Applying.apply provider (Applying.followerOf watched) p).outcome s₁ = (.ok applied, s₂) ∧
      s₂.remote = ⟨Change.effects applied s.remote.entries, []⟩ ∧
      applied.Sublist p.actionable ∧ (destroy = false → applied = p.actionable) := by
  have hfree := Planning.readsFreely_of_no_faults hfaults
  have hready := Planning.ready_of_outcome hplan
  obtain ⟨hlooked, ⟨calls, hgrows⟩, horigin⟩ := Planning.origin_of_plan hplan
  have hremote := hlooked.readsFreely hfree
  have hfaults₁ : s₁.remote.faults = [] := hremote ▸ hfaults
  have hreach (hne : p.actionable ≠ []) : provider.reach s₁ = .ok () := by
    obtain ⟨change, hmem⟩ := List.exists_mem_of_ne_nil _ hne
    obtain ⟨d, hd, -⟩ := horigin change (List.mem_of_mem_filter hmem)
    exact Provider.reach_of_grows hgrows (hready.reach (List.ne_nil_of_mem hd))
  refine ⟨hremote, ?_⟩
  cases destroy with
  | false =>
    obtain ⟨-, hplans, -⟩ := Planning.plans_of_outcome hfree hplan
    have hawaits := hplans.awaits fun d hd => hready.projects d (Planning.mem_sortByAddress.1 hd)
    have hcarried := Planning.carriedAll_of_awaits
      (fun d hd => hc.wellFormed d (Planning.mem_sortByAddress.1 hd)) hc.pairwise_sorted hawaits
    obtain ⟨s₂, -, -, -, hremote₂, hrun⟩ := Applying.outcome_of_carried watched p hreach hfaults₁
      (hremote ▸ hcarried)
    exact ⟨p.actionable, s₂, hrun, hremote ▸ hremote₂, List.Sublist.refl _, fun _ => rfl⟩
  | true =>
    obtain ⟨applied, s₂, hsublist, hremote₂, hrun⟩ := Applying.outcome_of_removals watched p hreach
      hfaults₁ fun change hmem => by
        obtain ⟨d, hd, horigin⟩ := horigin change (List.mem_of_mem_filter hmem)
        cases horigin
        exact Declaration.isRemoval_deletion (hc.wellFormed d hd) (hready.projects d hd) _
    exact ⟨applied, s₂, hrun, hremote ▸ hremote₂, hsublist, nofun⟩

/-- Two declarations that are about one entry: both update it, and both want it removed. -/
theorem fresh_plan_applies_of_sharedFile :
    let provider : Provider := { isReady := true }
    let s : Session := { remote := ⟨sharedStore, []⟩ }
    sharedFile.Accepted ∧ s.remote.faults = [] ∧
      (∃ p s₁ s₂, (Planning.plan provider default false sharedFile.declarations).outcome s =
          (.ok p, s₁) ∧ p.changes.map (·.action) = [.update, .update] ∧
        (Applying.apply provider none p).outcome s₁ = (.ok p.actionable, s₂)) ∧
      ∃ p s₁ applied s₂, (Planning.plan provider default true sharedFile.declarations).outcome s =
          (.ok p, s₁) ∧ p.changes.map (·.action) = [.delete, .delete] ∧
        (Applying.apply provider none p).outcome s₁ = (.ok applied, s₂) ∧
        applied.Sublist p.actionable := by
  intro provider s
  let seen : Observed := { key := "K", scope := "production" }
  have hsorted : Planning.sortByAddress sharedFile.declarations = [sharing, shared] :=
    List.mergeSort_of_pairwise (by decide)
  have hready : Planning.Ready provider s sharedFile.declarations :=
    ⟨by decide, by decide, fun _ => rfl⟩
  have hfree := Planning.readsFreely_of_no_faults (r := s.remote) rfl
  have hupdates : Planning.changesIn s.remote.entries false
      (Planning.sortByAddress sharedFile.declarations) =
        .ok ([sharing, shared].map (Planning.comparison · seen seen.asParameters)) := by
    rw [hsorted]
    rfl
  have hremovals : Planning.changesIn s.remote.entries true
      (Planning.sortByAddress sharedFile.declarations) =
        .ok ([sharing, shared].map (Planning.deletion · seen.asParameters)) := by
    rw [hsorted]
    rfl
  refine ⟨accepted_sharedFile, rfl, ?_, ?_⟩
  · obtain ⟨s₁, -, -, -, hplan⟩ :=
      Planning.outcome_of_changesIn default hready hfree hupdates
    obtain ⟨-, applied, s₂, happly, -, -, happlied⟩ :=
      fresh_plan_applies accepted_sharedFile provider false default false rfl hplan
    rw [happlied rfl] at happly
    exact ⟨_, s₁, s₂, hplan, rfl, happly⟩
  · obtain ⟨s₁, -, -, -, hplan⟩ :=
      Planning.outcome_of_changesIn default hready hfree hremovals
    obtain ⟨-, applied, s₂, happly, -, hsublist, -⟩ :=
      fresh_plan_applies accepted_sharedFile provider false default true rfl hplan
    exact ⟨_, s₁, applied, s₂, hplan, rfl, happly, hsublist⟩

end Config

end CiVariables
