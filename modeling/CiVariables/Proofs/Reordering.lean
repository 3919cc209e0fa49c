import CiVariables.Proofs.Removal
import CiVariables.Proofs.Sending

/-!
# Independent changes commute

A request sees no more of the entries than those that its declaration addresses, and touches no
other (`Declaration.Sends.perform_filter`, `Declaration.Sends.filter_others`). Changes whose
declarations are apart therefore do the same to their parts of the entries in whatever order they
are carried out, and leave the same entries up to the order (`Change.effects_perm`).
-/

namespace CiVariables

/-! ## Parts of the entries -/

namespace Store

variable {test part : Entry → Bool} {change : Entry → Entry}

theorem find?_filter_self (test : Entry → Bool) (store : Store) :
    List.find? test (store.filter test) = List.find? test store := by
  simp [List.find?_filter]

/-- A change to the first entry of a part can be made in that part alone. -/
theorem filter_updateFirst_self (hchange : ∀ e, test e = true → test (change e) = true)
    (store : Store) : (store.updateFirst test change).filter test =
      updateFirst test change (store.filter test) := by
  induction store with
  | nil => rfl
  | cons e rest ih =>
    by_cases he : test e = true
    · simp only [updateFirst, if_pos he, List.filter_cons_of_pos (hchange e he),
        List.filter_cons_of_pos he]
    · simp only [updateFirst, if_neg he, List.filter_cons_of_neg he, ih]

/-- A part that a change does not touch stays as it is. -/
theorem filter_updateFirst_other (hpart : ∀ e, test e = true → part e = false)
    (hchange : ∀ e, test e = true → test (change e) = true) (store : Store) :
    (store.updateFirst test change).filter part = store.filter part := by
  induction store with
  | nil => rfl
  | cons e rest ih =>
    unfold updateFirst
    by_cases he : test e = true
    · rw [if_pos he, List.filter_cons_of_neg (by simp [hpart _ (hchange e he)]),
        List.filter_cons_of_neg (by simp [hpart e he])]
    · rw [if_neg he, List.filter_cons, List.filter_cons, ih]

theorem filter_eraseP_self (test : Entry → Bool) (store : Store) :
    (store.eraseP test).filter test = (store.filter test).eraseP test := by
  simp [List.eraseP_filter]

theorem filter_eraseP_other (hpart : ∀ e, test e = true → part e = false) (store : Store) :
    (store.eraseP test).filter part = store.filter part := by
  induction store with
  | nil => rfl
  | cons e rest ih =>
    by_cases he : test e = true
    · rw [List.eraseP_cons_of_pos he, List.filter_cons_of_neg (by simp [hpart e he])]
    · rw [List.eraseP_cons_of_neg he, List.filter_cons, List.filter_cons, ih]

/-- Stores that agree in some parts and in the rest have the same entries. -/
theorem perm_of_parts {store store' : Store} (parts : List (Entry → Bool))
    (hparts : ∀ part ∈ parts, store'.filter part = store.filter part)
    (hrest : store'.filter (fun e => parts.all fun part => !part e) =
      store.filter fun e => parts.all fun part => !part e) : store'.Perm store := by
  induction parts generalizing store store' with
  | nil =>
    simp only [List.all_nil, List.filter_true] at hrest
    rw [hrest]
  | cons part parts ih =>
    obtain ⟨hpart, hparts⟩ := List.forall_mem_cons.1 hparts
    have hothers : (store'.filter fun e => !part e).Perm (store.filter fun e => !part e) := by
      refine ih (fun other hother => ?_) ?_
      · rw [List.filter_comm, hparts other hother, List.filter_comm]
      · simpa only [List.filter_filter, List.all_cons, Bool.and_comm] using hrest
    have hmiddle : (store'.filter part ++ store'.filter fun e => !part e).Perm
        (store.filter part ++ store.filter fun e => !part e) := by
      rw [hpart]
      exact hothers.append_left _
    exact (List.filter_append_perm part store').symm.trans
      (hmiddle.trans (List.filter_append_perm part store))

end Store

/-! ## What a request sees and touches -/

namespace Declaration

variable {d : Declaration} {n : Int} {a : Action} {w : Write} {store touched : Store} {e : Entry}

/-- An update leaves an entry addressed. -/
theorem addresses_update (he : d.addresses e = true) :
    d.addresses (Fields.update e (UpdateRequest.ofParameters d.parameters).changes) = true := by
  obtain ⟨-, -, -, -, hscope⟩ := addresses_iff.1 he
  exact (addresses_congr (Entry.project_update e _) (Entry.key_update e _)
    (Entry.scope_update hscope) d).trans he

/-- The update that a declaration asks for as it is. -/
theorem perform_update_own (hn : d.parameters.projectId = some n) (store : Store) :
    (Write.update (.number n) d.parameters.key
      (UpdateRequest.ofParameters d.parameters)).perform store =
      match d.found? store with
      | some e => .ok (Fields.update e (UpdateRequest.ofParameters d.parameters).changes,
          store.updateFirst d.addresses
            (Fields.update · (UpdateRequest.ofParameters d.parameters).changes))
      | none => .error (Client.notFound .update) := by
  have hperform := perform_update_ofParameters (.number n) d.parameters store
  rw [find?_eq_found? hn, ← addresses_eq hn] at hperform
  exact hperform

/-- An entry is created unless one that the declaration addresses has its identity. -/
theorem any_sameIdentity_filter (hn : d.parameters.projectId = some n) (store : Store) :
    (store.filter d.addresses).any (Entry.sameIdentity (d.createdEntry n)) =
      store.any (Entry.sameIdentity (d.createdEntry n)) := by
  rw [List.any_filter]
  refine List.any_congr rfl fun e => ?_
  cases hsame : Entry.sameIdentity (d.createdEntry n) e with
  | false => exact Bool.and_false _
  | true => rw [addresses_of_sameIdentity hn hsame, Bool.and_self]

/-- A request does to the entries that its declaration addresses what it would do if there were no
others. -/
theorem Sends.perform_filter (hsends : d.Sends (.number n) a w)
    (hn : d.parameters.projectId = some n) (store : Store) :
    w.perform (store.filter d.addresses) =
      (w.perform store).map fun done => (done.1, done.2.filter d.addresses) := by
  have hfound : d.found? (store.filter d.addresses) = d.found? store :=
    Store.find?_filter_self d.addresses store
  cases hsends with
  | create =>
    rw [perform_create, perform_create, any_sameIdentity_filter hn]
    split
    · rfl
    · have hnew : [d.createdEntry n].filter d.addresses = [d.createdEntry n] :=
        List.filter_cons_of_pos (addresses_created hn)
      simp only [Except.map, List.filter_append, hnew]
  | update =>
    rw [perform_update_own hn, perform_update_own hn, hfound]
    cases d.found? store with
    | none => rfl
    | some e =>
      simp only [Except.map,
        Store.filter_updateFirst_self (fun e he => addresses_update he)]
  | delete =>
    rw [perform_delete hn, perform_delete hn, hfound]
    cases d.found? store with
    | none => rfl
    | some e => simp only [Except.map, Store.filter_eraseP_self]

/-- A request leaves the entries alone that its declaration does not address. -/
theorem Sends.filter_others (hsends : d.Sends (.number n) a w)
    (hn : d.parameters.projectId = some n) (h : w.perform store = .ok (e, touched))
    {part : Entry → Bool} (hpart : ∀ e, d.addresses e = true → part e = false) :
    touched.filter part = store.filter part := by
  cases hsends with
  | create =>
    rw [perform_create] at h
    split at h
    · cases h
    · cases h
      have hnew : part (d.createdEntry n) = false := hpart _ (addresses_created hn)
      rw [List.filter_append, List.filter_cons_of_neg (by simp [hnew]), List.filter_nil,
        List.append_nil]
  | update =>
    rw [perform_update_own hn] at h
    cases hfound : d.found? store with
    | none =>
      rw [hfound] at h
      cases h
    | some old =>
      rw [hfound] at h
      cases h
      exact Store.filter_updateFirst_other hpart (fun e he => addresses_update he) store
  | delete =>
    rw [perform_delete hn] at h
    cases hfound : d.found? store with
    | none =>
      rw [hfound] at h
      cases h
    | some old =>
      rw [hfound] at h
      cases h
      exact Store.filter_eraseP_other hpart store

end Declaration

/-! ## What a change sees and touches -/

namespace Change

variable {c : Change} {cs : List Change} {d : Declaration} {store store' : Store}
  {part : Entry → Bool}

/-- The change addresses no entry of a part. -/
def Spares (c : Change) (part : Entry → Bool) : Prop :=
  ∀ d, c.declared? = some d → ∀ e, d.addresses e = true → part e = false

/-- The declarations that the changes record are apart. -/
def Apart (a b : Change) : Prop :=
  ∀ d d', a.declared? = some d → b.declared? = some d' → d.Apart d'

theorem Apart.symm {a b : Change} (h : a.Apart b) : b.Apart a :=
  fun d d' hd hd' => (h d' d hd' hd).symm

theorem Apart.spares {a b : Change} (h : a.Apart b) (hd : b.declared? = some d) :
    a.Spares d.addresses :=
  fun d' hd' _ he => (h d' d hd' hd).not_both he

/-- What a change does to the part of the store that its declaration addresses depends on that part
only. -/
theorem filter_effect (hd : c.declared? = some d) (store : Store) :
    (c.effect store).filter d.addresses = c.effect (store.filter d.addresses) := by
  unfold effect
  cases hw : c.write? (.ok ()) with
  | error failure => rfl
  | ok w =>
    obtain ⟨-, d', n, hd', hn, hsends⟩ := write?_eq_ok hw
    cases hd.symm.trans hd'
    simp only [hsends.perform_filter hn]
    cases w.perform store <;> rfl

/-- A change leaves a part that it spares. -/
theorem filter_effect_other (h : c.Spares part) (store : Store) :
    (c.effect store).filter part = store.filter part := by
  unfold effect
  cases hw : c.write? (.ok ()) with
  | error failure => rfl
  | ok w =>
    obtain ⟨-, d, n, hd, hn, hsends⟩ := write?_eq_ok hw
    cases hperform : w.perform store with
    | error failure => simp only [hperform]
    | ok done => simpa only [hperform] using hsends.filter_others hn hperform (h d hd)

/-- The service carries the change out where no fault strikes, and its answer reads. -/
def Answered (c : Change) (store : Store) : Prop :=
  ∃ w e, c.write? (.ok ()) = .ok w ∧ w.perform store = .ok (e, c.effect store) ∧
    c.action.readAnswer e = .ok ()

/-- Whether a change is carried out depends on nothing but the entries that its declaration
addresses. -/
theorem Answered.congr (h : c.Answered store)
    (hpart : ∀ d, c.declared? = some d → store'.filter d.addresses = store.filter d.addresses) :
    c.Answered store' := by
  obtain ⟨w, e, hw, hperform, hanswer⟩ := h
  obtain ⟨-, d, n, hd, hn, hsends⟩ := write?_eq_ok hw
  have hwhole := hsends.perform_filter hn store
  rw [← hpart d hd, hsends.perform_filter hn, hperform] at hwhole
  cases hperform' : w.perform store' with
  | error failure =>
    rw [hperform'] at hwhole
    cases hwhole
  | ok done =>
    rw [hperform'] at hwhole
    obtain ⟨he, -⟩ := Prod.mk.inj (Except.ok.inj hwhole)
    refine ⟨w, done.1, hw, ?_, ?_⟩
    · rw [effect_eq hw hperform', hperform']
    · rw [he]
      exact hanswer

theorem Answered.handle_of_no_faults {r : Remote} (h : c.Answered r.entries) (hr : r.faults = []) :
    c.handle (.ok ()) r = (.applied, ⟨c.effect r.entries, []⟩) := by
  obtain ⟨w, e, hw, hperform, hanswer⟩ := h
  unfold handle Remote.serve
  simp only [hw, hr, Fault.strike, hperform, Except.bind, hanswer, Verdict.ofAnswer]

/-! ## Changes in any order -/

/-- Changes that all spare a part leave it, one after the other. -/
theorem filter_effects_other (h : ∀ c ∈ cs, c.Spares part) (store : Store) :
    (effects cs store).filter part = store.filter part := by
  induction cs generalizing store with
  | nil => rfl
  | cons c rest ih =>
    obtain ⟨hc, hrest⟩ := List.forall_mem_cons.1 h
    exact (ih hrest (c.effect store)).trans (filter_effect_other hc store)

/-- Among changes that are apart, each does to its part of the entries what it would do alone. -/
theorem filter_effects (hapart : cs.Pairwise Apart) (hc : c ∈ cs) (hd : c.declared? = some d)
    (store : Store) :
    (effects cs store).filter d.addresses = c.effect (store.filter d.addresses) := by
  induction cs generalizing store with
  | nil => cases hc
  | cons first rest ih =>
    obtain ⟨hfirst, hrest⟩ := List.pairwise_cons.1 hapart
    show (effects rest (first.effect store)).filter d.addresses = _
    rcases List.mem_cons.1 hc with rfl | hc
    · rw [filter_effects_other fun other hother => (hfirst other hother).symm.spares hd,
        filter_effect hd]
    · rw [ih hrest hc, filter_effect_other ((hfirst c hc).spares hd)]

/-- Changes that are apart leave the same entries in whatever order they are carried out. -/
theorem effects_perm {cs' : List Change} (hapart : cs.Pairwise Apart) (hperm : cs'.Perm cs)
    (store : Store) : (effects cs' store).Perm (effects cs store) := by
  have hapart' := hperm.symm.pairwise hapart Apart.symm
  refine Store.perm_of_parts ((cs.filterMap declared?).map Declaration.addresses) ?_ ?_
  · intro part hpart
    obtain ⟨d, hd, rfl⟩ := List.mem_map.1 hpart
    obtain ⟨c, hc, hd⟩ := List.mem_filterMap.1 hd
    rw [filter_effects hapart' (hperm.mem_iff.2 hc) hd, filter_effects hapart hc hd]
  · have hspares (c : Change) (hc : c ∈ cs) : c.Spares fun e =>
        ((cs.filterMap declared?).map Declaration.addresses).all fun part => !part e := by
      intro d hd e he
      refine List.all_eq_false.2 ⟨d.addresses, ?_, by simp [he]⟩
      exact List.mem_map_of_mem (List.mem_filterMap.2 ⟨c, hc, hd⟩)
    rw [filter_effects_other fun c hc => hspares c (hperm.mem_iff.1 hc),
      filter_effects_other hspares]

end Change

namespace Handled

variable {r r' : Remote} {handled : List (Change × Verdict)}

/-- Without faults, changes that are apart and that could each be carried out first are all
applied. -/
theorem of_answered (h : Handled (.ok ()) r handled r') (hr : r.faults = [])
    (hapart : (handled.map Prod.fst).Pairwise Change.Apart)
    (hanswered : ∀ c ∈ handled.map Prod.fst, c.Answered r.entries) :
    (∀ x ∈ handled, x.2 = .applied) ∧
      r' = ⟨Change.effects (handled.map Prod.fst) r.entries, []⟩ := by
  induction h with
  | nil r =>
    rw [← hr]
    exact ⟨nofun, rfl⟩
  | @cons c v r r₁ r' rest hhandle _ ih =>
    obtain ⟨hfirst, hothers⟩ := List.pairwise_cons.1 hapart
    obtain ⟨hc, hcs⟩ := List.forall_mem_cons.1 hanswered
    rw [hc.handle_of_no_faults hr] at hhandle
    cases hhandle
    -- What the first change touches is none of the others' business.
    obtain ⟨happlied, hremote⟩ := ih rfl hothers fun other hother =>
      (hcs other hother).congr fun d hd =>
        Change.filter_effect_other ((hfirst other hother).spares hd) r.entries
    exact ⟨List.forall_mem_cons.2 ⟨rfl, happlied⟩, hremote⟩

theorem applied_eq (h : ∀ x ∈ handled, x.2 = .applied) :
    applied handled = handled.map Prod.fst := by
  unfold applied
  rw [List.filter_eq_self.2 fun x hx => by rw [h x hx]; rfl]

end Handled

/-- Without faults, a plan whose changes are apart and could each be carried out first is applied as
a whole. -/
theorem Applying.outcome_of_apart {provider : Provider} {s : Session} (watched : Bool) (plan : Plan)
    (hreach : plan.actionable ≠ [] → provider.reach s = .ok ()) (hfaults : s.remote.faults = [])
    (hapart : plan.actionable.Pairwise Change.Apart)
    (hanswered : ∀ c ∈ plan.actionable, c.Answered s.remote.entries) :
    ∃ s', s'.remote = ⟨Change.effects plan.actionable s.remote.entries, []⟩ ∧
      (apply provider (followerOf watched) plan).outcome s = (.ok plan.actionable, s') := by
  obtain ⟨result, s', handled, rest, hrun, haccount⟩ := account_apply provider watched plan s
  have hchain := haccount.chain_connected hreach
  rw [haccount.order] at hapart hanswered
  obtain ⟨happlied, hremote⟩ := hchain.of_answered hfaults (List.pairwise_append.1 hapart).1
    fun c hc => hanswered c (List.mem_append_left rest hc)
  obtain ⟨rfl, horder⟩ := haccount.completed fun x hx => by rw [happlied x hx]; rfl
  rw [List.nil_append, Handled.applied_eq happlied] at hrun
  exact ⟨s', horder ▸ hremote, horder ▸ hrun⟩

/-! ## The changes of a plan -/

namespace Declaration

variable {d d' : Declaration} {store : Store} {c : Change}

/-- The declaration is of the same project and key as another, and of its scope if that sets one. -/
structure Refines (d' d : Declaration) : Prop where
  projectId : d'.parameters.projectId = d.parameters.projectId
  key : d'.parameters.key = d.parameters.key
  scope : ∀ s, d.parameters.scope = some s → d'.parameters.scope = some s

theorem Apart.refine {a b a' b' : Declaration} (h : a.Apart b) (ha : a'.Refines a)
    (hb : b'.Refines b) : a'.Apart b' := by
  intro hproject hkey
  rw [ha.projectId, hb.projectId] at hproject
  rw [ha.key, hb.key] at hkey
  obtain ⟨s, t, hs, ht, hne⟩ := h hproject hkey
  exact ⟨s, t, ha.scope s hs, hb.scope t ht, hne⟩

/-- The change records the declaration, with fields that were filled in if at all. -/
def RecordedBy (d : Declaration) (c : Change) : Prop :=
  ∃ d', c.declared? = some d' ∧ d'.Refines d

theorem recordedBy_of_desired (hdesired : c.desired = some d'.dumpFields) (hwf : d'.WellFormed)
    (h : d'.Refines d) : d.RecordedBy c := by
  refine ⟨d'.replayed, ?_, h.projectId, h.key, h.scope⟩
  unfold Change.declared?
  rw [hdesired, Option.bind_some, check_dumpFields hwf .data]

theorem refines_initialized (d : Declaration) (o : Observed) : (d.initialized o).Refines d where
  projectId := rfl
  key := rfl
  scope := fun s hs => by
    show d.parameters.scope.or (some o.scope) = some s
    rw [hs, Option.some_or]

theorem Refines.refl (d : Declaration) : d.Refines d := ⟨rfl, rfl, fun _ => id⟩

/-- Declarations that are apart have changes that are apart. -/
theorem apart_of_recordedBy {c' : Change} (h : d.Apart d') (hc : d.RecordedBy c)
    (hc' : d'.RecordedBy c') : c.Apart c' := by
  obtain ⟨a, ha, hrefines⟩ := hc
  obtain ⟨b, hb, hrefines'⟩ := hc'
  intro x y hx hy
  cases ha.symm.trans hx
  cases hb.symm.trans hy
  exact h.refine hrefines hrefines'

/-- The change that is planned for a declaration records it, and could be carried out at once. -/
theorem answered_of_planned (hwf : d.WellFormed) (hproject : d.parameters.projectId ≠ none)
    (h : d.planned store = .ok c) :
    d.RecordedBy c ∧ (c.isActionable = true → c.Answered store) := by
  refine ⟨?_, fun hact => ((settles_planned hwf hproject h).carried hact).perform⟩
  obtain ⟨-, rfl⟩ | ⟨e, o, -, -, -, rfl⟩ := planned_cases h
  · exact recordedBy_of_desired rfl hwf (.refl d)
  · have hinitialized : (d.initialized o).WellFormed := hwf.withParameters rfl rfl rfl
    exact recordedBy_of_desired rfl hinitialized (d.refines_initialized o)

/-- What is removed is there. -/
theorem found_of_removal (h : d.removal store = .ok (some c)) :
    ∃ e q, d.found? store = some e ∧ c = Planning.deletion d q := by
  unfold removal inspect at h
  split at h
  · cases h
  · next e hentry =>
    split at h
    · cases h
    · split at h
      · cases h
      · cases h
        exact ⟨e, _, hentry, rfl⟩

/-- The change that removes a variable records its declaration, and could be carried out at once. -/
theorem answered_of_removal (hwf : d.WellFormed) (hproject : d.parameters.projectId ≠ none)
    (h : d.removal store = .ok (some c)) : d.RecordedBy c ∧ c.Answered store := by
  obtain ⟨n, hn⟩ := Option.ne_none_iff_exists'.1 hproject
  obtain ⟨e, q, hentry, rfl⟩ := found_of_removal h
  have hw : (Planning.deletion d q).write? (.ok ()) = .ok (.delete (.number n) d.parameters.key
      (RemoveRequest.ofParameters d.parameters)) := by
    rw [Change.write?_of_desired rfl hwf]
    exact write?_eq_ok_iff.2 ⟨rfl, n, hn, .delete⟩
  have hperform := perform_delete hn store
  rw [hentry] at hperform
  exact ⟨recordedBy_of_desired rfl hwf (.refl d), _, e, hw, Change.effect_eq hw hperform ▸ hperform,
    rfl⟩

/-- A planned change records its declaration, and the service answers it. -/
theorem answered_of_changeIn {destroy : Bool} (hwf : d.WellFormed)
    (hproject : d.parameters.projectId ≠ none) (h : d.changeIn store destroy = .ok (some c)) :
    d.RecordedBy c ∧ (c.isActionable = true → c.Answered store) := by
  cases destroy with
  | true =>
    obtain ⟨hrecorded, hanswered⟩ := answered_of_removal hwf hproject h
    exact ⟨hrecorded, fun _ => hanswered⟩
  | false =>
    cases hplanned : d.planned store with
    | error failure =>
      rw [changeIn, if_neg Bool.false_ne_true, hplanned] at h
      cases h
    | ok c' =>
      rw [changeIn, if_neg Bool.false_ne_true, hplanned] at h
      cases h
      exact answered_of_planned hwf hproject hplanned

end Declaration

namespace Planning

variable {store : Store} {destroy : Bool} {ds : List Declaration} {cs : List Change}

theorem changesIn_cons {d : Declaration} {rest : List Declaration}
    (h : changesIn store destroy (d :: rest) = .ok cs) :
    ∃ change? more, d.changeIn store destroy = .ok change? ∧
      changesIn store destroy rest = .ok more ∧ cs = change?.toList ++ more := by
  unfold changesIn at h
  split at h
  · cases h
  · next change? hchange =>
    cases hmore : changesIn store destroy rest with
    | error failure =>
      rw [hmore] at h
      cases h
    | ok more =>
      rw [hmore] at h
      cases h
      exact ⟨change?, more, hchange, rfl, rfl⟩

/-- The changes that are planned for declarations record them, and each could be carried out at
once. -/
theorem answered_of_changesIn (hwf : ∀ d ∈ ds, d.WellFormed)
    (hprojects : ∀ d ∈ ds, d.parameters.projectId ≠ none)
    (h : changesIn store destroy ds = .ok cs) :
    ∀ c ∈ cs, (∃ d ∈ ds, d.RecordedBy c) ∧ (c.isActionable = true → c.Answered store) := by
  induction ds generalizing cs with
  | nil =>
    cases h
    exact nofun
  | cons d rest ih =>
    obtain ⟨hwfd, hwf⟩ := List.forall_mem_cons.1 hwf
    obtain ⟨hproject, hprojects⟩ := List.forall_mem_cons.1 hprojects
    obtain ⟨change?, more, hchange, hmore, rfl⟩ := changesIn_cons h
    intro c hc
    rcases List.mem_append.1 hc with hc | hc
    · rw [Option.mem_toList.1 hc] at hchange
      obtain ⟨hrecorded, hanswered⟩ := Declaration.answered_of_changeIn hwfd hproject hchange
      exact ⟨⟨d, List.mem_cons_self, hrecorded⟩, hanswered⟩
    · obtain ⟨⟨d', hd', hrecorded⟩, hanswered⟩ := ih hwf hprojects hmore c hc
      exact ⟨⟨d', List.mem_cons_of_mem d hd', hrecorded⟩, hanswered⟩

/-- The changes that are planned for declarations apart are apart. -/
theorem apart_of_changesIn (hwf : ∀ d ∈ ds, d.WellFormed)
    (hprojects : ∀ d ∈ ds, d.parameters.projectId ≠ none) (hapart : ds.Pairwise Declaration.Apart)
    (h : changesIn store destroy ds = .ok cs) : cs.Pairwise Change.Apart := by
  induction ds generalizing cs with
  | nil =>
    cases h
    exact .nil
  | cons d rest ih =>
    obtain ⟨hwfd, hwfs⟩ := List.forall_mem_cons.1 hwf
    obtain ⟨hproject, hprojects⟩ := List.forall_mem_cons.1 hprojects
    obtain ⟨hfirst, hapart⟩ := List.pairwise_cons.1 hapart
    obtain ⟨change?, more, hchange, hmore, rfl⟩ := changesIn_cons h
    have hrest := ih hwfs hprojects hapart hmore
    cases change? with
    | none => exact hrest
    | some c =>
      obtain ⟨hrecorded, -⟩ := Declaration.answered_of_changeIn hwfd hproject hchange
      refine List.pairwise_cons.2 ⟨fun c' hc' => ?_, hrest⟩
      obtain ⟨⟨d', hd', hrecorded'⟩, -⟩ := answered_of_changesIn hwfs hprojects hmore c' hc'
      exact Declaration.apart_of_recordedBy (hfirst d' hd') hrecorded hrecorded'

/-- **Independent changes commute.** Where declarations are apart and there are no faults, the
changes of their plan, to destroy or not, can be applied in any order to the service that it was
made on: all actionable ones are applied, and they leave the same entries up to the order. -/
theorem changes_commute (provider : Provider) (watched : Bool) (now : Timestamp) (destroy : Bool)
    {ds : List Declaration} {s s₁ : Session} {p q : Plan} (hwf : ∀ d ∈ ds, d.WellFormed)
    (hapart : ds.Pairwise Declaration.Apart) (hfaults : s.remote.faults = [])
    (hplan : (plan provider now destroy ds).outcome s = (.ok p, s₁))
    (hperm : q.changes.Perm p.changes) :
    s₁.remote = s.remote ∧ q.actionable.Perm p.actionable ∧ ∃ s₂ s₃,
      (Applying.apply provider (Applying.followerOf watched) p).outcome s₁ =
        (.ok p.actionable, s₂) ∧
      (Applying.apply provider (Applying.followerOf watched) q).outcome s₁ =
        (.ok q.actionable, s₃) ∧
      s₃.remote.entries.Perm s₂.remote.entries ∧ s₂.remote.faults = [] ∧ s₃.remote.faults = [] := by
  obtain ⟨hready, calls, hgrows, hsurvey⟩ := survey_of_outcome hplan
  obtain ⟨hremote, hchanges⟩ := hsurvey.of_readsFreely (readsFreely_of_no_faults hfaults)
  have hwf' (d : Declaration) (hd : d ∈ sortByAddress ds) := hwf d (mem_sortByAddress.1 hd)
  have hprojects (d : Declaration) (hd : d ∈ sortByAddress ds) :=
    hready.projects d (mem_sortByAddress.1 hd)
  -- Each change records its declaration, so the changes are as far apart as the declarations are.
  have hrecorded := answered_of_changesIn hwf' hprojects hchanges.symm
  have hall := apart_of_changesIn hwf' hprojects (pairwise_sortByAddress hapart) hchanges.symm
  have hactionable : q.actionable.Perm p.actionable := hperm.filter _
  have hapart₂ : p.actionable.Pairwise Change.Apart := hall.filter _
  have hapart₃ := hactionable.symm.pairwise hapart₂ Change.Apart.symm
  have hanswered (c : Change) (hc : c ∈ p.actionable) : c.Answered s₁.remote.entries := by
    obtain ⟨hc, hact⟩ := List.mem_filter.1 hc
    rw [hremote]
    exact (hrecorded c hc).2 hact
  have hreach (hne : p.actionable ≠ []) : provider.reach s₁ = .ok () := by
    obtain ⟨c, hc⟩ := List.exists_mem_of_ne_nil _ hne
    obtain ⟨⟨d, hd, -⟩, -⟩ := hrecorded c (List.mem_of_mem_filter hc)
    exact Provider.reach_of_grows hgrows
      (hready.reach (List.ne_nil_of_mem (mem_sortByAddress.1 hd)))
  have hfaults₁ : s₁.remote.faults = [] := hremote ▸ hfaults
  obtain ⟨s₂, hremote₂, hrun₂⟩ :=
    Applying.outcome_of_apart watched p hreach hfaults₁ hapart₂ hanswered
  obtain ⟨s₃, hremote₃, hrun₃⟩ := Applying.outcome_of_apart watched q
    (fun hne => hreach fun hnil => hne (hnil ▸ hactionable).eq_nil) hfaults₁ hapart₃
    fun c hc => hanswered c (hactionable.mem_iff.1 hc)
  refine ⟨hremote, hactionable, s₂, s₃, hrun₂, hrun₃, ?_, by rw [hremote₂], by rw [hremote₃]⟩
  rw [hremote₂, hremote₃]
  exact Change.effects_perm hapart₂ hactionable s₁.remote.entries

/-- Two variables are created, in one order and in the other. -/
theorem changes_commute_of_two_creations :
    let provider : Provider := { isReady := true }
    let s : Session := { remote := ⟨[], []⟩ }
    let metadata : PlanMetadata := ⟨none, default, false, engineVersion⟩
    let p : Plan := ⟨metadata, [creation added, creation changed]⟩
    let q : Plan := ⟨metadata, [creation changed, creation added]⟩
    (∀ d ∈ [added, changed], d.WellFormed) ∧ [added, changed].Pairwise Declaration.Apart ∧
      q.changes.Perm p.changes ∧ ∃ s₁ s₂ s₃,
        (plan provider default false [added, changed]).outcome s = (.ok p, s₁) ∧
        (Applying.apply provider none p).outcome s₁ = (.ok p.actionable, s₂) ∧
        (Applying.apply provider none q).outcome s₁ = (.ok q.actionable, s₃) ∧
        s₃.remote.entries.Perm s₂.remote.entries := by
  intro provider s metadata p q
  have hadded : added.WellFormed := ⟨by decide, by decide, by decide, nofun, nofun⟩
  have hchanged : changed.WellFormed := ⟨by decide, by decide, by decide, nofun, nofun⟩
  have hwf : ∀ d ∈ [added, changed], d.WellFormed :=
    List.forall_mem_cons.2 ⟨hadded, List.forall_mem_singleton.2 hchanged⟩
  have hapart : [added, changed].Pairwise Declaration.Apart :=
    List.pairwise_pair.2 fun _ hkey => absurd hkey (by decide)
  have hsorted : sortByAddress [added, changed] = [added, changed] :=
    List.mergeSort_of_pairwise (by decide)
  have hchanges : changesIn s.remote.entries false (sortByAddress [added, changed]) =
      .ok p.changes := by
    rw [hsorted]
    rfl
  have hready : Ready provider s [added, changed] := ⟨by decide, by decide, fun _ => rfl⟩
  obtain ⟨s₁, -, -, -, hplan⟩ :=
    outcome_of_changesIn default hready (readsFreely_of_no_faults rfl) hchanges
  have hperm : q.changes.Perm p.changes := .swap _ _ _
  obtain ⟨-, -, s₂, s₃, hrun, hrun', hentries, -⟩ :=
    changes_commute provider false default false hwf hapart rfl hplan hperm
  exact ⟨hwf, hapart, hperm, s₁, s₂, s₃, hplan, hrun, hrun', hentries⟩

end Planning

end CiVariables
