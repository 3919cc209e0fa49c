import Mathlib.Data.List.Forall2
import CiVariables.Proofs.Convergence
import CiVariables.Proofs.PlanFile

/-!
# What was shown is what is sent

A change shows what it does before it is done: the body of a creation, and the fields of an update
with their values before and after. The request is made from another record, the declaration as it
was filled in. `Planning.sent_as_planned` says that both agree, for plans that are applied as they
were made and for plans that have been saved and loaded.
-/

namespace CiVariables

/-- The call that a change announces for the variable of a declaration. -/
inductive Announced (d : Declaration) (n : Int) (c : Change) : Call → Prop where
  /-- The body is what is planned. -/
  | create {body : Fields} (haction : c.action = .create) (hplanned : c.planned = some body) :
    Announced d n c ⟨.create, .number n, some d.parameters.key, body⟩
  /-- The filter is the scope that was read. The differing fields have their new values, and every
  other field the one that was read. -/
  | update {prior diff body : Fields} {scope : Json} (haction : c.action = .update)
    (hprior : c.prior = some prior) (hdiff : c.diff = some diff)
    (hscope : prior.get? "environment_scope" = some scope)
    (hfilter : "filter" ∉ body.map Prod.fst)
    (hchanged : ∀ field ∈ diff, body.get? field.1 = some (field.2.member "to"))
    (hkept : ∀ field ∈ body, diff.get? field.1 = none → prior.get? field.1 = some field.2) :
    Announced d n c ⟨.update, .number n, some d.parameters.key,
      body ++ [("filter", .obj [("environment_scope", scope)])]⟩
  | delete (haction : c.action = .delete) :
    Announced d n c ⟨.delete, .number n, some d.parameters.key, scopeQuery d.parameters.scope⟩

/-! ## The body of an update -/

section Body

variable {p : Parameters} {o : Observed}

theorem not_mem_changes {name : String} (h : name ∉ p.requestMembers.map Prod.fst) :
    name ∉ (UpdateRequest.ofParameters p).changes.map Prod.fst := by
  rw [UpdateRequest.changes_ofParameters]
  exact fun hmem => h ((Fields.names_dropNull_sublist _).subset hmem)

/-- A differing field is sent with its new value. -/
theorem get?_changes_of_differing {difference : Difference} (hkey : p.key = o.key)
    (h : difference ∈ p.differing o) :
    (UpdateRequest.ofParameters p).changes.get? difference.field = some difference.after := by
  have hsent {α : Type} [DecidableEq α] {name : String} {shown : α → Json} {want? : Option α}
      {seen : α} (hmember : p.requestMembers.get? name = some (.ofOption shown want?))
      (hshown : ∀ a, shown a ≠ .null)
      (h : Difference.ofField name shown want? seen = some difference) :
      p.requestMembers.dropNull.get? difference.field = some difference.after := by
    obtain ⟨want, rfl, rfl⟩ := Difference.ofField_eq_some h
    rw [Fields.get?_dropNull p.nodup_requestMembers, hmember, Fields.present?_ofOption hshown]
    rfl
  rw [UpdateRequest.changes_ofParameters]
  obtain h | h | h | h | h | h | h := Parameters.mem_differing_iff.1 h
  · simp [Difference.ofField, hkey] at h
  · exact hsent rfl (by simp) h
  · exact hsent rfl (by simp) h
  · exact hsent rfl (by simp) h
  · exact hsent rfl (by simp) h
  · exact hsent rfl (by simp) h
  · exact hsent rfl (by simp) h

/-- A field that is sent and does not differ has the value that was read. -/
theorem get?_priorOf_of_not_differing {field : String × Json}
    (h : field ∈ (UpdateRequest.ofParameters p).changes)
    (hsame : (Difference.dumpAll (p.differing o)).get? field.1 = none) :
    (Planning.priorOf o.asParameters).get? field.1 = some field.2 := by
  have hread {α : Type} [DecidableEq α] {name : String} {shown : α → Json} {want? : Option α}
      {seen : α} (hfield : field = (name, .ofOption shown want?)) (hset : field.2 ≠ .null)
      (hprior : (Planning.priorOf o.asParameters).get? name = some (shown seen))
      (hmem : ∀ difference, Difference.ofField name shown want? seen = some difference →
        difference ∈ p.differing o) :
      (Planning.priorOf o.asParameters).get? field.1 = some field.2 := by
    subst hfield
    cases want? with
    | none => exact absurd rfl hset
    | some want =>
      by_cases heq : want = seen
      · rw [hprior, heq]
        rfl
      · have hdiffers := hmem ⟨name, shown seen, shown want⟩ (by simp [Difference.ofField, heq])
        have hfound : (Difference.dumpAll (p.differing o)).get? name ≠ none :=
          Fields.get?_ne_none (List.mem_map_of_mem (f := Prod.fst) (List.mem_map_of_mem hdiffers))
        exact absurd hsame hfound
  rw [UpdateRequest.changes_ofParameters] at h
  obtain ⟨hmember, hset⟩ := Fields.mem_dropNull_iff.1 h
  simp only [Parameters.requestMembers, List.mem_cons, List.not_mem_nil, or_false] at hmember
  obtain hfield | hfield | hfield | hfield | hfield | hfield := hmember
  · exact hread hfield hset rfl fun difference h =>
      Parameters.mem_differing_iff.2 (.inr (.inl h))
  · exact hread hfield hset rfl fun difference h =>
      Parameters.mem_differing_iff.2 (.inr (.inr (.inl h)))
  · exact hread hfield hset rfl fun difference h =>
      Parameters.mem_differing_iff.2 (.inr (.inr (.inr (.inl h))))
  · exact hread hfield hset rfl fun difference h =>
      Parameters.mem_differing_iff.2 (.inr (.inr (.inr (.inr (.inl h)))))
  · exact hread hfield hset rfl fun difference h =>
      Parameters.mem_differing_iff.2 (.inr (.inr (.inr (.inr (.inr (.inl h))))))
  · exact hread hfield hset rfl fun difference h =>
      Parameters.mem_differing_iff.2 (.inr (.inr (.inr (.inr (.inr (.inr h))))))

end Body

/-! ## The request of a change -/

namespace Planning

variable {store : Store} {d : Declaration} {destroy : Bool} {c : Change} {n : Int}

/-- Where the service can be reached, a planned change sends what it announces. -/
theorem announced_of_origin (h : Origin store d destroy c) (hwf : d.WellFormed)
    (hn : d.parameters.projectId = some n) (hactionable : c.isActionable = true) :
    ∃ w, c.write? (.ok ()) = .ok w ∧ Announced d n c w.call := by
  cases h with
  | creation =>
    refine ⟨.create (.number n) (CreateRequest.ofParameters d.parameters), ?_, .create rfl rfl⟩
    rw [Change.write?_of_desired rfl hwf]
    exact Declaration.write?_eq_ok_iff.2 ⟨rfl, n, hn, .create⟩
  | @comparison e o hentry hshows =>
    -- A comparison is actionable only if something differs, and then it is an update.
    have hdiffer : d.parameters.differing o ≠ [] := by
      intro hnil
      simp [Change.isActionable, action_comparison, hnil, Action.isActionable] at hactionable
    have haction : (comparison d o o.asParameters).action = .update := by
      rw [action_comparison, if_neg hdiffer]
    have hdiff : (comparison d o o.asParameters).diff =
        some (Difference.dumpAll ((d.initialized o).parameters.differing o)) := by
      rw [diff_comparison, if_neg hdiffer]
      exact congrArg (fun ds => some (Difference.dumpAll ds))
        (differing_lateInitialize d.parameters o).symm
    have hkey : (d.initialized o).parameters.key = o.key :=
      (Declaration.key_of_found? hentry hshows).symm
    have hfilter : (UpdateRequest.ofParameters (d.initialized o).parameters).filter =
        some ⟨o.scope⟩ := by
      show ((d.initialized o).parameters.scope).map ScopeFilter.mk = _
      rw [Declaration.scope_initialized hentry hshows]
      rfl
    refine ⟨_, Declaration.write?_update hwf hn haction, ?_⟩
    have hbody : (UpdateRequest.ofParameters (d.initialized o).parameters).body =
        (UpdateRequest.ofParameters (d.initialized o).parameters).changes ++
          [("filter", .obj [("environment_scope", .str o.scope)])] := by
      rw [UpdateRequest.body_eq, hfilter]
      rfl
    rw [Write.call, hbody]
    refine .update haction rfl hdiff rfl ?_ ?_ fun field => get?_priorOf_of_not_differing
    · exact not_mem_changes (by rw [Parameters.names_requestMembers]; decide)
    · intro field hfield
      obtain ⟨difference, hmem, rfl⟩ := List.mem_map.1 hfield
      exact get?_changes_of_differing hkey hmem
  | deletion =>
    refine ⟨.delete (.number n) d.parameters.key (RemoveRequest.ofParameters d.parameters), ?_, ?_⟩
    · rw [Change.write?_of_desired rfl hwf]
      exact Declaration.write?_eq_ok_iff.2 ⟨rfl, n, hn, .delete⟩
    · rw [Write.call, Declaration.filter_removeRequest, Declaration.scopeOf_ofParameters]
      exact .delete rfl

/-! ## Runs -/

/-- What a handled change sends: the one call that it announces, or nothing where there is no
connection, and then it fails. -/
def Sent (ds : List Declaration) (reach : Except Failure Unit) (x : Change × Verdict)
    (calls : List Call) : Prop :=
  (reach ≠ .ok () ∧ x.2.isFailed = true ∧ calls = []) ∨
    ∃ d ∈ ds, ∃ n call, d.address = x.1.address ∧ d.parameters.projectId = some n ∧
      calls = [call] ∧ Announced d n x.1 call

/-- What is sent for a planned change, in any session, is the call that the plan announces. -/
theorem sent_of_handle {ds : List Declaration} (hd : d ∈ ds) (h : Origin store d destroy c)
    (hwf : d.WellFormed) (hproject : d.parameters.projectId ≠ none)
    (hactionable : c.isActionable = true) {reach : Except Failure Unit} {r r' : Remote}
    {v : Verdict} (hhandle : c.handle reach r = (v, r')) :
    Sent ds reach (c, v) (Write.callsOf (c.write? reach)) := by
  cases hreach : reach with
  | error failure =>
    subst hreach
    unfold Change.handle at hhandle
    cases hw : c.write? (.error failure) with
    | ok w => cases (Change.write?_eq_ok hw).1
    | error failure' =>
      rw [hw] at hhandle
      cases hhandle
      exact .inl ⟨nofun, rfl, rfl⟩
  | ok _ =>
    obtain ⟨n, hn⟩ := Option.ne_none_iff_exists'.1 hproject
    obtain ⟨w, hw, hannounced⟩ := announced_of_origin h hwf hn hactionable
    have haddress : d.address = c.address := by cases h <;> rfl
    rw [hw]
    exact .inr ⟨d, hd, n, w.call, haddress, hn, rfl, hannounced⟩

/-- **What was shown is what is sent.** Whatever the service has when a plan is applied, as it was
made or after it has been saved and loaded, every change that is carried out sends the call that it
announces. -/
theorem sent_as_planned (provider provider' : Provider) (watched : Bool) (now : Timestamp)
    (destroy : Bool) {ds : List Declaration} {s s₁ : Session} (t : Session) {p q : Plan}
    (hwf : ∀ d ∈ ds, d.WellFormed)
    (hplan : (plan provider now destroy ds).outcome s = (.ok p, s₁))
    (hq : q = p ∨ ∃ text later, p.toText = .ok text ∧ Plan.ofText later text = .ok q) :
    q.changes = p.changes ∧ ∃ result t' handled rest calls,
      (Applying.apply provider' (Applying.followerOf watched) q).outcome t = (result, t') ∧
      p.actionable = handled.map Prod.fst ++ rest ∧
      Handled (provider'.reach t) t.remote handled t'.remote ∧
      Ended [] handled rest result ∧
      t'.calls = t.calls ++ calls.flatten ∧
      List.Forall₂ (Sent ds (provider'.reach t)) handled calls := by
  have hchanges : q.changes = p.changes := by
    rcases hq with rfl | ⟨text, later, htext, hload⟩
    · rfl
    · exact Plan.changes_ofText (recorded_of_plan hplan) htext hload
  have hactionable : q.actionable = p.actionable := by
    unfold Plan.actionable
    rw [hchanges]
  obtain ⟨result, t', handled, rest, hrun, haccount⟩ :=
    Applying.account_apply provider' watched q t
  refine ⟨hchanges, result, t', handled, rest,
    handled.map fun x => Write.callsOf (x.1.write? (provider'.reach t)), hrun,
    hactionable ▸ haccount.order, haccount.chain, haccount.ended, haccount.grows.calls, ?_⟩
  rw [List.forall₂_map_right_iff, List.forall₂_same]
  rintro ⟨c, v⟩ hmem
  obtain ⟨r, r', hhandle⟩ := haccount.chain.handle_of_mem hmem
  obtain ⟨hact, d, hd, horigin⟩ := origin_of_handled hplan (hactionable ▸ haccount.order) hmem
  exact sent_of_handle hd horigin (hwf d hd) ((ready_of_outcome hplan).projects d hd) hact hhandle

def added : Declaration :=
  ⟨"added", "", { key := "A", value := some "first", projectId := some 1 }⟩

def changed : Declaration :=
  ⟨"changed", "", { key := "C", value := some "second", projectId := some 1 }⟩

def changedEntry : Entry :=
  [("project", .int 1), ("key", .str "C"), ("value", .str "old"), ("masked", .bool true)]

def seenChanged : Observed := { key := "C", value := "old", masked := true }

/-- The plan for both, made at noon. -/
def addAndChange : Plan :=
  ⟨⟨none, ⟨2024, 1, 2, 12, 0, 0, 0, some 0⟩, false, engineVersion⟩,
    [creation added, comparison changed seenChanged seenChanged.asParameters]⟩

theorem whole_addAndChange : addAndChange.dump.Whole := by
  unfold Json.Whole
  decide

theorem fits_addAndChange : addAndChange.dump.fits Plan.readLimits 0 = true := by decide

theorem outcome_plan_addAndChange :
    let s : Session := { remote := ⟨[changedEntry], []⟩ }
    ∃ s₁ calls, s₁.remote = s.remote ∧ s.Grows s₁ calls [] ∧
      (plan { isReady := true } addAndChange.metadata.createdAt false [added, changed]).outcome s =
        (.ok addAndChange, s₁) := by
  intro s
  have hsorted : sortByAddress [added, changed] = [added, changed] :=
    List.mergeSort_of_pairwise (by decide)
  refine outcome_of_changesIn _ ⟨by decide, by decide, fun _ => rfl⟩
    (readsFreely_of_no_faults rfl) ?_
  rw [hsorted]
  rfl

/-- One variable is created and one updated, by a plan that has been saved and loaded. -/
theorem sent_as_planned_of_loaded :
    (∀ d ∈ [added, changed], d.WellFormed) ∧ ∃ p s₁ text,
      (plan { isReady := true } addAndChange.metadata.createdAt false [added, changed]).outcome
        { remote := ⟨[changedEntry], []⟩ } = (.ok p, s₁) ∧
      p.changes.map (·.action) = [.create, .update] ∧
      p.toText = .ok text ∧ Plan.ofText default text = .ok p ∧
      ∃ result t' handled rest calls,
        (Applying.apply { isReady := true } none p).outcome { remote := ⟨[], []⟩ } = (result, t') ∧
        p.actionable = handled.map Prod.fst ++ rest ∧ t'.calls = calls.flatten ∧
        List.Forall₂ (Sent [added, changed] (.ok ())) handled calls := by
  have hadded : added.WellFormed := ⟨by decide, by decide, by decide, nofun, nofun⟩
  have hchanged : changed.WellFormed := ⟨by decide, by decide, by decide, nofun, nofun⟩
  have hwf : ∀ d ∈ [added, changed], d.WellFormed :=
    List.forall_mem_cons.2 ⟨hadded, List.forall_mem_singleton.2 hchanged⟩
  obtain ⟨s₁, -, -, -, hplan⟩ := outcome_plan_addAndChange
  have htext := Plan.toText_of_whole whole_addAndChange
  have hload : Plan.ofText default (addAndChange.dump.pretty ++ "\n") = .ok addAndChange := by
    have htime : Schema.timestamp .text (.text addAndChange.metadata.createdAt.toText) =
        .valid addAndChange.metadata.createdAt :=
      Schema.timestamp_text (by decide) (by decide) (by decide) .text
    rw [Plan.ofText_toText (recorded_of_plan hplan) htext, if_pos fits_addAndChange,
      PlanMetadata.check_dump htime]
    rfl
  obtain ⟨-, result, t', handled, rest, calls, hrun, horder, -, -, hcalls, hsent⟩ :=
    sent_as_planned { isReady := true } { isReady := true } false
      addAndChange.metadata.createdAt false { remote := ⟨[], []⟩ } hwf hplan
      (.inr ⟨_, default, htext, hload⟩)
  exact ⟨hwf, addAndChange, s₁, _, hplan, rfl, htext, hload, result, t', handled, rest, calls, hrun,
    horder, hcalls, hsent⟩

end Planning

end CiVariables
