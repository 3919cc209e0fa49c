import CiVariables.Proofs.FreshPlan

/-!
# What a removal removes

A plan to destroy shows the entry that each declaration is about, but a removal is sent with the
scope of the declaration alone. It removes the first entry of the project and key, of the scope if
one is declared. That is the shown one where a scope is declared; where none is, it is so exactly if
the first entry has the shown scope when the removal is carried out, and another entry is removed
otherwise (`Config.removal_shown_iff`, `Config.removal_of_other_scope`).
-/

namespace CiVariables

/-! ## What is shown -/

/-- The entry is of the project of the declaration, and of the key and scope that the change shows.
-/
def Change.Shows (c : Change) (d : Declaration) (e : Entry) : Prop :=
  ∃ n prior key scope, d.parameters.projectId = some n ∧ c.prior = some prior ∧
    prior.get? "key" = some (.str key) ∧ prior.get? "environment_scope" = some (.str scope) ∧
    e.inProject (.number n) = true ∧ e.key = .str key ∧ e.scope = .str scope

theorem Observed.key_prior (o : Observed) :
    (Planning.priorOf o.asParameters).get? "key" = some (.str o.key) := rfl

theorem Observed.scope_prior (o : Observed) :
    (Planning.priorOf o.asParameters).get? "environment_scope" = some (.str o.scope) := rfl

namespace Declaration

variable {d : Declaration} {store store' : Store} {e e' : Entry} {o : Observed}

/-- An entry that the declaration addresses later is the shown one exactly if its scope is. -/
theorem shows_deletion_iff (hentry : d.found? store = some e) (hshows : e.Shows o)
    (haddr : d.addresses e' = true) :
    (Planning.deletion d o.asParameters).Shows d e' ↔ e'.scope = .str o.scope := by
  obtain ⟨n, hn, hproject, hkey', -⟩ := addresses_iff.1 haddr
  constructor
  · rintro ⟨_, _, _, scope, _, hprior, _, hscope, _, _, he'⟩
    cases hprior
    rw [o.scope_prior] at hscope
    cases hscope
    exact he'
  · intro hscope
    refine ⟨n, _, o.key, o.scope, hn, rfl, o.key_prior, o.scope_prior, hproject, ?_, hscope⟩
    rw [hkey', key_of_found? hentry hshows]

/-- A declared scope is the shown one, whatever entry is addressed. -/
theorem scope_of_addresses (hentry : d.found? store = some e) (hshows : e.Shows o)
    (haddr : d.addresses e' = true) (hscope : d.parameters.scope ≠ none) :
    e'.scope = .str o.scope := by
  obtain ⟨s, hs⟩ := Option.ne_none_iff_exists'.1 hscope
  obtain ⟨-, -, -, -, hdeclared⟩ := addresses_iff.1 haddr
  rw [hdeclared s hs, scope_of_found? hentry hshows hs]

/-! ## What is removed -/

/-- What a request to remove does, in terms of the entry that the declaration finds. -/
theorem perform_delete {n : Int} (hn : d.parameters.projectId = some n) (store : Store) :
    (Write.delete (.number n) d.parameters.key
      (RemoveRequest.ofParameters d.parameters)).perform store =
      match d.found? store with
      | some e => .ok (e, store.eraseP d.addresses)
      | none => .error (Client.notFound .delete) := by
  have hperform := perform_delete_ofParameters (.number n) d.parameters store
  rw [find?_eq_found? hn, ← addresses_eq hn] at hperform
  exact hperform

/-- A removal removes nothing, or the entry that the declaration is about. -/
theorem handle_deletion (hwf : d.WellFormed) (q : Parameters) {reach : Except Failure Unit}
    {r r' : Remote} {v : Verdict} (h : (Planning.deletion d q).handle reach r = (v, r')) :
    r'.entries = r.entries ∨ v = .applied ∧ ∃ i e, d.position? r.entries = some i ∧
      r.entries[i]? = some e ∧ r'.entries = r.entries.eraseIdx i := by
  obtain ⟨-, -, hsame⟩ | ⟨w, e, hw, hperform, rfl⟩ := Change.handle_cases h
  · exact .inl hsame
  · rw [Change.write?_of_desired rfl hwf] at hw
    obtain ⟨-, n, hn, hsends⟩ := write?_eq_ok_iff.1 hw
    cases hsends
    rw [perform_delete hn] at hperform
    cases hentry : d.found? r.entries with
    | none =>
      rw [hentry] at hperform
      cases hperform
    | some e' =>
      rw [hentry] at hperform
      obtain ⟨-, hentries⟩ := Prod.mk.inj (Except.ok.inj hperform)
      obtain ⟨i, hi, hget⟩ := position?_of_found? hentry
      refine .inr ⟨rfl, i, e', hi, hget, ?_⟩
      unfold position? at hi
      rw [← hentries, List.eraseP_eq_eraseIdx, hi]

end Declaration

/-! ## Runs of a plan to destroy -/

namespace Config

/-- **What a removal removes.** Whatever the service has when a plan to destroy is applied, each of
its removals removes nothing or the entry that its declaration is about at that time. The removed
entry is of the project, key and scope that were shown exactly if the declaration sets a scope or
the entry has the shown one. -/
theorem removal_shown_iff {c : Config} (hc : c.Accepted) (provider provider' : Provider)
    (watched : Bool) (now : Timestamp) {s s₁ : Session} (t : Session) {p : Plan}
    (hplan : (Planning.plan provider now true c.declarations).outcome s = (.ok p, s₁)) :
    ∃ result t' handled rest,
      (Applying.apply provider' (Applying.followerOf watched) p).outcome t = (result, t') ∧
      p.actionable = handled.map Prod.fst ++ rest ∧
      Handled (provider'.reach t) t.remote handled t'.remote ∧
      ∀ before change v after, handled = before ++ (change, v) :: after →
        ∃ d ∈ c.declarations, ∃ r r', change.address = d.address ∧
          Handled (provider'.reach t) t.remote before r ∧
          change.handle (provider'.reach t) r = (v, r') ∧
          (r'.entries = r.entries ∨ v = .applied ∧ ∃ i e, d.position? r.entries = some i ∧
            r.entries[i]? = some e ∧ r'.entries = r.entries.eraseIdx i ∧
            (change.Shows d e ↔ d.parameters.scope ≠ none ∨
              ∃ prior, change.prior = some prior ∧
                prior.get? "environment_scope" = some e.scope)) := by
  obtain ⟨result, t', handled, rest, hrun, haccount⟩ :=
    Applying.account_apply provider' watched p t
  refine ⟨result, t', handled, rest, hrun, haccount.order, haccount.chain, ?_⟩
  rintro before change v after rfl
  obtain ⟨r, r', hbefore, hstep, -⟩ := haccount.chain.step
  obtain ⟨-, d, hd, horigin⟩ := Planning.origin_of_handled hplan haccount.order
    (List.mem_append_right before List.mem_cons_self)
  cases horigin with
  | @deletion e₀ o hentry hshows =>
    refine ⟨d, hd, r, r', rfl, hbefore, hstep, ?_⟩
    obtain hsame | ⟨happlied, i, e, hi, hget, hentries⟩ :=
      Declaration.handle_deletion (hc.wellFormed d hd) _ hstep
    · exact .inl hsame
    · refine .inr ⟨happlied, i, e, hi, hget, hentries, ?_⟩
      obtain ⟨e', hfound, hget'⟩ := Declaration.found?_of_position? hi
      cases hget.symm.trans hget'
      have haddr := Declaration.addresses_of_found? hfound
      -- The shown key and project are those of every entry that the declaration addresses: only the
      -- scope is left to compare.
      rw [Declaration.shows_deletion_iff hentry hshows haddr]
      constructor
      · intro hscope
        exact .inr ⟨_, rfl, by rw [hscope]; exact o.scope_prior⟩
      · rintro (hscope | ⟨prior, hprior, hscope⟩)
        · exact Declaration.scope_of_addresses hentry hshows haddr hscope
        · cases hprior
          exact (Option.some.inj (o.scope_prior.symm.trans hscope)).symm

/-! ## A file with and without a scope -/

def narrow : Declaration :=
  ⟨"a", "", { key := "K", scope := some "production", projectId := some 1 }⟩

def wide : Declaration := ⟨"b", "", { key := "K", projectId := some 1 }⟩

def scopesFile : Config :=
  ⟨⟨some "https://gitlab.example.com", some "t", true⟩, [], [narrow, wide]⟩

def productionEntry : Entry :=
  [("project", .int 1), ("key", .str "K"), ("environment_scope", .str "production")]

def stagingEntry : Entry :=
  [("project", .int 1), ("key", .str "K"), ("environment_scope", .str "staging")]

theorem accepted_scopesFile : scopesFile.Accepted := by
  let variableOf (name : String) (scope : Schema.Entries) : Schema.Value :=
    .map [(.text "name", .text name), (.text "for_provider", .map
      ([(.text "key", .text "K"), (.text "project_id", .int 1)] ++ scope))]
  let entries : Schema.Entries :=
    [(.text "provider", .map
      [(.text "host", .text "https://gitlab.example.com"), (.text "token", .text "t")]),
      (.text "variables", .list
        [variableOf "a" [(.text "environment_scope", .text "production")], variableOf "b" []])]
  exact ⟨[], [], entries, rfl⟩

/-- The plan to destroy what the file declares: both declarations are about the first entry. -/
theorem outcome_plan_scopesFile :
    let seen : Observed := { key := "K", scope := "production" }
    let s : Session := { remote := ⟨[productionEntry, stagingEntry], []⟩ }
    ∃ s₁ calls, s₁.remote = s.remote ∧ s.Grows s₁ calls [] ∧
      (Planning.plan { isReady := true } default true scopesFile.declarations).outcome s =
        (.ok ⟨⟨none, default, true, engineVersion⟩,
          [Planning.deletion narrow seen.asParameters,
            Planning.deletion wide seen.asParameters]⟩, s₁) := by
  intro seen s
  have hsorted : Planning.sortByAddress scopesFile.declarations = [narrow, wide] :=
    List.mergeSort_of_pairwise (by decide)
  refine Planning.outcome_of_changesIn default ⟨by decide, by decide, fun _ => rfl⟩
    (Planning.readsFreely_of_no_faults rfl) ?_
  rw [hsorted]
  rfl

/-- Removals, at the file above. -/
theorem removal_shown_iff_of_scopesFile :
    let provider : Provider := { isReady := true }
    let s : Session := { remote := ⟨[productionEntry, stagingEntry], []⟩ }
    scopesFile.Accepted ∧ ∃ p s₁,
      (Planning.plan provider default true scopesFile.declarations).outcome s = (.ok p, s₁) ∧
      ∃ result t' handled rest, (Applying.apply provider none p).outcome s₁ = (result, t') ∧
        p.actionable = handled.map Prod.fst ++ rest ∧
        ∀ before change v after, handled = before ++ (change, v) :: after →
          ∃ d ∈ scopesFile.declarations, ∃ r r', change.handle (.ok ()) r = (v, r') ∧
            (r'.entries = r.entries ∨ ∃ i, d.position? r.entries = some i ∧
              r'.entries = r.entries.eraseIdx i) := by
  intro provider s
  obtain ⟨s₁, -, -, -, hplan⟩ := outcome_plan_scopesFile
  obtain ⟨result, t', handled, rest, hrun, horder, -, hsteps⟩ := removal_shown_iff
    accepted_scopesFile provider provider false default s₁ hplan
  refine ⟨accepted_scopesFile, _, s₁, hplan, result, t', handled, rest, hrun, horder, ?_⟩
  intro before change v after hsplit
  obtain ⟨d, hd, r, r', -, -, hhandle, hremoved⟩ := hsteps before change v after hsplit
  refine ⟨d, hd, r, r', hhandle, hremoved.imp_right ?_⟩
  rintro ⟨-, i, -, hi, -, hentries, -⟩
  exact ⟨i, hi, hentries⟩

/-- A plan to destroy may remove an entry that none of its changes shows: after the first entry is
gone, the declaration without a scope is about the second. -/
theorem removal_of_other_scope :
    let provider : Provider := { isReady := true }
    let s : Session := { remote := ⟨[productionEntry, stagingEntry], []⟩ }
    scopesFile.Accepted ∧ ∃ p s₁ result t',
      (Planning.plan provider default true scopesFile.declarations).outcome s = (.ok p, s₁) ∧
      (∀ change ∈ p.changes, ∀ d, ¬change.Shows d stagingEntry) ∧
      (Applying.apply provider none p).outcome s₁ = (result, t') ∧
      stagingEntry ∈ s₁.remote.entries ∧ t'.remote.entries = [] := by
  intro provider s
  let seen : Observed := { key := "K", scope := "production" }
  let first := Planning.deletion narrow seen.asParameters
  let second := Planning.deletion wide seen.asParameters
  let p : Plan := ⟨⟨none, default, true, engineVersion⟩, [first, second]⟩
  obtain ⟨s₁, calls, hremote, hgrows, hplan⟩ := outcome_plan_scopesFile
  obtain ⟨result, t', handled, rest, hrun, haccount⟩ :=
    Applying.account_apply provider false p s₁
  refine ⟨accepted_scopesFile, p, s₁, result, t', hplan, ?_, hrun, ?_, ?_⟩
  · have hhidden {change : Change}
        (hprior : change.prior = some (Planning.priorOf seen.asParameters)) (d : Declaration) :
        ¬change.Shows d stagingEntry := by
      rintro ⟨_, _, _, scope, -, hshown, -, hscope, -, -, hstaging⟩
      cases hprior.symm.trans hshown
      have hproduction : scope = "production" :=
        Json.str.inj (Option.some.inj (hscope.symm.trans seen.scope_prior))
      have hother : scope = "staging" := (Json.str.inj hstaging).symm
      exact absurd (hproduction.symm.trans hother) (by decide)
    exact List.forall_mem_cons.2 ⟨hhidden rfl, List.forall_mem_singleton.2 (hhidden rfl)⟩
  · rw [hremote]
    exact List.mem_cons_of_mem _ List.mem_cons_self
  · have hwf := accepted_scopesFile.wellFormed
    have hremoval {d : Declaration} (hd : d ∈ scopesFile.declarations)
        (hproject : d.parameters.projectId = some 1) :
        (Planning.deletion d seen.asParameters).IsRemoval :=
      Declaration.isRemoval_deletion (hwf d hd) (by rw [hproject]; nofun) _
    have horder : [first, second] = handled.map Prod.fst ++ rest := haccount.order
    have hchain : Handled (.ok ()) ⟨[productionEntry, stagingEntry], []⟩ handled t'.remote := by
      have hchain := haccount.chain
      rw [hremote] at hchain
      exact hchain
    obtain ⟨hfailed, -⟩ := hchain.not_failed_of_removals rfl fun c hc => by
      have hmem : c ∈ [first, second] := horder ▸ List.mem_append_left _ hc
      rcases List.mem_pair.1 hmem with rfl | rfl
      · exact hremoval List.mem_cons_self rfl
      · exact hremoval (List.mem_cons_of_mem _ List.mem_cons_self) rfl
    obtain ⟨-, hall⟩ := haccount.completed hfailed
    have hstep : first.handle (.ok ()) ⟨[productionEntry, stagingEntry], []⟩ =
        (.applied, ⟨[stagingEntry], []⟩) := rfl
    have hknown : Handled (.ok ()) ⟨[productionEntry, stagingEntry], []⟩
        [(first, .applied), (second, .applied)] ⟨[], []⟩ := .cons hstep (.cons rfl (.nil _))
    obtain ⟨-, hempty⟩ := hchain.unique hknown hall.symm
    rw [hempty]

end Config

end CiVariables
