import CiVariables.Proofs.Origins
import CiVariables.Proofs.Convergence

/-!
# Fields that a declaration leaves unset

An update is sent with the fields that were filled in when it was planned. Of the fields that the
declaration leaves unset, only the value is as the entry has it when the update is carried out; the
others become what was recorded, whoever changed them since (`Planning.update_restores_unset`,
`Planning.update_loses_change`).
-/

namespace CiVariables

/-! ## The fields of the entry that is changed -/

/-- The declaration leaves the field of a name unset. -/
def Parameters.LeavesUnset (p : Parameters) (name : String) : Prop :=
  p.requestMembers.get? name = some .null

namespace Declaration

variable {d : Declaration} {n : Int} {o : Observed} {e : Entry}

/-- What an update leaves under a name: the planned value, else what is stored. -/
theorem get?_overwritten (d : Declaration) (o : Observed) (e : Entry) (name : String) :
    (d.overwritten o e).get? name =
      (Fields.present? ((d.initialized o).parameters.requestMembers.get? name)).or
        (e.get? name) := by
  have hn := (d.initialized o).parameters.nodup_requestMembers
  unfold overwritten
  rw [UpdateRequest.changes_ofParameters, Fields.get?_update (Fields.nodup_dropNull hn),
    Fields.get?_dropNull hn]

theorem eq_none_of_ofOption {α : Type} {f : α → Json} (hf : ∀ a, f a ≠ .null) {a? : Option α}
    (h : some (Json.ofOption f a?) = some .null) : a? = none := by
  cases a? with
  | none => rfl
  | some a => exact absurd (Option.some.inj h) (hf a)

/-- An unset field is filled in with what was read, except for the value. -/
theorem requestMembers_initialized {name : String} (h : d.parameters.LeavesUnset name)
    (o : Observed) :
    name = "value" ∧ (d.initialized o).parameters.requestMembers.get? name = some .null ∨
      name ≠ "value" ∧ ∃ j, j ≠ .null ∧
        (d.initialized o).parameters.requestMembers.get? name = some j ∧
        (Planning.priorOf o.asParameters).get? name = some j := by
  have hmem : name ∈ d.parameters.requestMembers.map Prod.fst := by
    refine Decidable.byContradiction fun hnot => ?_
    cases (Fields.get?_eq_none hnot).symm.trans h
  rw [Parameters.names_requestMembers] at hmem
  simp only [List.mem_cons, List.not_mem_nil, or_false] at hmem
  rcases hmem with rfl | rfl | rfl | rfl | rfl | rfl
  · exact .inl ⟨rfl, h⟩
  · refine .inr ⟨by decide, .str o.kind.text, nofun, ?_, rfl⟩
    show some (Json.ofOption _ (d.parameters.kind.or (some o.kind))) = _
    rw [eq_none_of_ofOption (by simp) h]
    rfl
  · refine .inr ⟨by decide, .bool o.isProtected, nofun, ?_, rfl⟩
    show some (Json.ofOption _ (d.parameters.isProtected.or (some o.isProtected))) = _
    rw [eq_none_of_ofOption (by simp) h]
    rfl
  · refine .inr ⟨by decide, .bool o.masked, nofun, ?_, rfl⟩
    show some (Json.ofOption _ (d.parameters.masked.or (some o.masked))) = _
    rw [eq_none_of_ofOption (by simp) h]
    rfl
  · refine .inr ⟨by decide, .str o.scope, nofun, ?_, rfl⟩
    show some (Json.ofOption _ (d.parameters.scope.or (some o.scope))) = _
    rw [eq_none_of_ofOption (by simp) h]
    rfl
  · refine .inr ⟨by decide, .bool o.raw, nofun, ?_, rfl⟩
    show some (Json.ofOption _ (d.parameters.raw.or (some o.raw))) = _
    rw [eq_none_of_ofOption (by simp) h]
    rfl

/-- What an update makes of the fields that its declaration leaves unset. -/
theorem get?_overwritten_of_unset {name : String} (h : d.parameters.LeavesUnset name) (o : Observed)
    (e : Entry) : (d.overwritten o e).get? name =
      if name = "value" then e.get? name else (Planning.priorOf o.asParameters).get? name := by
  rw [get?_overwritten]
  obtain ⟨hvalue, hmember⟩ | ⟨hvalue, j, hj, hmember, hprior⟩ := requestMembers_initialized h o
  · rw [hmember, if_pos hvalue]
    rfl
  · rw [hmember, if_neg hvalue, hprior]
    cases j with
    | null => exact absurd rfl hj
    | _ => rfl

/-! ## What is changed -/

/-- An update fails and changes nothing, or overwrites an entry of the scope that was read. -/
theorem handle_update (hwf : d.WellFormed) (hn : d.parameters.projectId = some n)
    (haction : (Planning.comparison d o o.asParameters).action = .update)
    (hscope : (d.initialized o).parameters.scope = some o.scope) {reach : Except Failure Unit}
    {r r' : Remote} {v : Verdict}
    (h : (Planning.comparison d o o.asParameters).handle reach r = (v, r')) :
    v.isFailed = true ∧ r'.entries = r.entries ∨ ∃ i e, r.entries[i]? = some e ∧
      e.isAddressed (.number n) d.parameters.key (some o.scope) = true ∧
      r'.entries = r.entries.set i (d.overwritten o e) := by
  obtain ⟨-, hfailed, hsame⟩ | ⟨w, e, hw, hperform, rfl⟩ := Change.handle_cases h
  · exact .inl ⟨hfailed (by rw [haction]; decide), hsame⟩
  · have hwf' : (d.initialized o).WellFormed := hwf.withParameters rfl rfl rfl
    rw [Change.write?_of_desired (d := d.initialized o) rfl hwf', haction] at hw
    obtain ⟨-, m, hm, hsends⟩ := write?_eq_ok_iff.1 hw
    cases hn.symm.trans hm
    cases hsends
    replace hperform := (perform_update hscope n r.entries).symm.trans hperform
    cases hfind : r.entries.find? (.number n) d.parameters.key (some o.scope) with
    | none =>
      rw [hfind] at hperform
      cases hperform
    | some old =>
      rw [hfind] at hperform
      obtain ⟨-, hentries⟩ := Prod.mk.inj (Except.ok.inj hperform)
      obtain ⟨i, hget, hset⟩ := Store.updateFirst_eq_set hfind (d.overwritten o)
      exact .inr ⟨i, old, hget, List.find?_some hfind, hentries.symm.trans hset⟩

end Declaration

/-! ## Runs -/

namespace Planning

/-- **What an update does to unset fields.** Whatever the service has when a plan is applied, an
update that changes an entry leaves an unset value as it is there, and sets every other unset field
to what was recorded when the plan was made. -/
theorem update_restores_unset (provider provider' : Provider) (watched : Bool) (now : Timestamp)
    (destroy : Bool) {ds : List Declaration} {s s₁ : Session} (t : Session) {p : Plan}
    (hwf : ∀ d ∈ ds, d.WellFormed)
    (hplan : (plan provider now destroy ds).outcome s = (.ok p, s₁)) :
    ∃ result t' handled rest,
      (Applying.apply provider' (Applying.followerOf watched) p).outcome t = (result, t') ∧
      p.actionable = handled.map Prod.fst ++ rest ∧
      Handled (provider'.reach t) t.remote handled t'.remote ∧
      ∀ before change v after, handled = before ++ (change, v) :: after →
        change.action = .update → ∃ d ∈ ds, ∃ prior r r', change.address = d.address ∧
          change.prior = some prior ∧ Handled (provider'.reach t) t.remote before r ∧
          change.handle (provider'.reach t) r = (v, r') ∧
          (v.isFailed = true ∧ r'.entries = r.entries ∨
            ∃ i e e', r.entries[i]? = some e ∧ r'.entries = r.entries.set i e' ∧
              d.addresses e = true ∧ ∀ name, d.parameters.LeavesUnset name →
                e'.get? name = if name = "value" then e.get? name else prior.get? name) := by
  obtain ⟨result, t', handled, rest, hrun, haccount⟩ :=
    Applying.account_apply provider' watched p t
  refine ⟨result, t', handled, rest, hrun, haccount.order, haccount.chain, ?_⟩
  rintro before change v after rfl haction
  obtain ⟨r, r', hbefore, hstep, -⟩ := haccount.chain.step
  obtain ⟨-, d, hd, horigin⟩ := origin_of_handled hplan haccount.order
    (List.mem_append_right before List.mem_cons_self)
  cases horigin with
  | creation => cases haction
  | deletion => cases haction
  | @comparison e₀ o hentry hshows =>
    obtain ⟨n, hn, -⟩ := Declaration.addresses_iff.1 (Declaration.addresses_of_found? hentry)
    have hscope := Declaration.scope_initialized hentry hshows
    refine ⟨d, hd, _, r, r', rfl, rfl, hbefore, hstep, ?_⟩
    obtain hfailed | ⟨i, e, hget, haddr, hentries⟩ :=
      Declaration.handle_update (hwf d hd) hn haction hscope hstep
    · exact .inl hfailed
    · refine .inr ⟨i, e, d.overwritten o e, hget, hentries, ?_, fun name hname => ?_⟩
      · exact Declaration.addresses_of_isAddressed hn hentry hshows e haddr
      · exact Declaration.get?_overwritten_of_unset hname o e

/-! ## A field that is changed between plan and apply -/

/-- A variable whose value is declared and nothing else. -/
def valueOnly : Declaration := ⟨"a", "", { key := "K", value := some "new", projectId := some 1 }⟩

def plannedEntry : Entry :=
  [("project", .int 1), ("key", .str "K"), ("value", .str "old"), ("masked", .bool false)]

/-- The entry after somebody has masked it. -/
def maskedEntry : Entry :=
  [("project", .int 1), ("key", .str "K"), ("value", .str "old"), ("masked", .bool true)]

def valueOnlyChange : Change :=
  let seen : Observed := { key := "K", value := "old" }
  comparison valueOnly seen seen.asParameters

theorem wellFormed_valueOnly : valueOnly.WellFormed :=
  ⟨by decide, by decide, by decide, nofun, nofun⟩

theorem outcome_plan_valueOnly :
    let s : Session := { remote := ⟨[plannedEntry], []⟩ }
    ∃ s₁ calls, s₁.remote = s.remote ∧ s.Grows s₁ calls [] ∧
      (plan { isReady := true } default false [valueOnly]).outcome s =
        (.ok ⟨⟨none, default, false, engineVersion⟩, [valueOnlyChange]⟩, s₁) := by
  intro s
  have hsorted : sortByAddress [valueOnly] = [valueOnly] :=
    List.mergeSort_of_pairwise (by decide)
  refine outcome_of_changesIn default ⟨by decide, by decide, fun _ => rfl⟩
    (readsFreely_of_no_faults rfl) ?_
  rw [hsorted]
  rfl

/-- The change is carried out on the masked entry too. -/
theorem update_restores_unset_of_masked :
    (∀ d ∈ [valueOnly], d.WellFormed) ∧ valueOnly.parameters.LeavesUnset "masked" ∧
      ∃ p s₁, (plan { isReady := true } default false [valueOnly]).outcome
          { remote := ⟨[plannedEntry], []⟩ } = (.ok p, s₁) ∧
        ∃ result t' handled rest, (Applying.apply { isReady := true } none p).outcome
            { remote := ⟨[maskedEntry], []⟩ } = (result, t') ∧
          p.actionable = handled.map Prod.fst ++ rest ∧
          ∀ before change v after, handled = before ++ (change, v) :: after →
            change.action = .update → ∃ prior r r', change.prior = some prior ∧
              change.handle (.ok ()) r = (v, r') ∧ (v.isFailed = true ∧ r'.entries = r.entries ∨
                ∃ i e', r'.entries = r.entries.set i e' ∧
                  e'.get? "masked" = prior.get? "masked") := by
  have hwf : ∀ d ∈ [valueOnly], d.WellFormed := List.forall_mem_singleton.2 wellFormed_valueOnly
  obtain ⟨s₁, -, -, -, hplan⟩ := outcome_plan_valueOnly
  obtain ⟨result, t', handled, rest, hrun, horder, -, hsteps⟩ :=
    update_restores_unset { isReady := true } { isReady := true } false default false
      { remote := ⟨[maskedEntry], []⟩ } hwf hplan
  refine ⟨hwf, rfl, _, s₁, hplan, result, t', handled, rest, hrun, horder, ?_⟩
  intro before change v after hsplit haction
  obtain ⟨d, hd, prior, r, r', -, hprior, -, hhandle, hchanged⟩ :=
    hsteps before change v after hsplit haction
  refine ⟨prior, r, r', hprior, hhandle, hchanged.imp_right ?_⟩
  rintro ⟨i, e, e', -, hentries, -, hunset⟩
  rw [List.mem_singleton.1 hd] at hunset
  exact ⟨i, e', hentries, hunset "masked" rfl⟩

/-- An update loses what somebody did to a field that its declaration leaves unset. -/
theorem update_loses_change :
    valueOnly.parameters.masked = none ∧ maskedEntry.get? "masked" = some (.bool true) ∧
      ∃ p s₁ t', (plan { isReady := true } default false [valueOnly]).outcome
          { remote := ⟨[plannedEntry], []⟩ } = (.ok p, s₁) ∧
        p.changes.map (·.action) = [.update] ∧
        (Applying.apply { isReady := true } none p).outcome
          { remote := ⟨[maskedEntry], []⟩ } = (.ok p.actionable, t') ∧
        t'.remote.entries.map (·.get? "masked") = [some (.bool false)] := by
  obtain ⟨s₁, -, -, -, hplan⟩ := outcome_plan_valueOnly
  let p : Plan := ⟨⟨none, default, false, engineVersion⟩, [valueOnlyChange]⟩
  let t : Session := { remote := ⟨[maskedEntry], []⟩ }
  have hreach : Provider.reach { isReady := true } t = .ok () := rfl
  let masked : Observed := { key := "K", value := "old", masked := true }
  have hshows : Entry.Shows maskedEntry masked := Entry.observe_eq_valid_iff.1 rfl
  have hcarried : valueOnlyChange.Carried [maskedEntry] :=
    (Declaration.carried_update (n := 1) wellFormed_valueOnly rfl rfl rfl rfl hshows).1
  obtain ⟨t', -, -, -, hremote, hrun⟩ :=
    Applying.outcome_of_carried (s := t) false p (fun _ => hreach) rfl ⟨hcarried, trivial⟩
  refine ⟨rfl, rfl, p, s₁, t', hplan, rfl, hrun, ?_⟩
  rw [hremote]
  rfl

end Planning

end CiVariables
