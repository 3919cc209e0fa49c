import CiVariables.Proofs.Applying
import CiVariables.Proofs.Planning
import CiVariables.Proofs.Replay

/-!
# A planned change settles its variable

The change that is planned for a declaration, carried out where no fault strikes, leaves a store on
which the declaration is planned as kept, and on which every declaration apart from it is about the
entry that it was about before (`Declaration.Settles`). An update is sent with the scope that was
read, so that it reaches the entry that was read and does not move it.
-/

namespace CiVariables

/-! ## What is planned -/

/-- A recorded declaration is carried out as it was written. -/
theorem Change.write?_of_desired {c : Change} {d : Declaration}
    (hdesired : c.desired = some d.dumpFields) (hwf : d.WellFormed) (reach : Except Failure Unit) :
    c.write? reach = d.write? reach c.action := by
  rw [c.write?_of_check hdesired (Declaration.check_dumpFields hwf .data)]
  cases c.action <;> rfl

namespace Declaration

variable {d : Declaration} {store : Store} {c : Change}

theorem key_of_found? {e : Entry} {o : Observed} (hentry : d.found? store = some e)
    (hshows : e.Shows o) : o.key = d.parameters.key := by
  obtain ⟨-, -, -, hkey, -⟩ := addresses_iff.1 (addresses_of_found? hentry)
  exact Json.str.inj (hshows.key_eq.symm.trans hkey)

/-- What is planned: creating a variable that is not there, or comparing one that reads. -/
theorem planned_cases (h : d.planned store = .ok c) :
    (d.found? store = none ∧ c = Planning.creation d) ∨
      ∃ e o, d.found? store = some e ∧ e.Shows o ∧ o.key = d.parameters.key ∧
        c = Planning.comparison d o o.asParameters := by
  unfold planned changeFor at h
  cases hentry : d.found? store with
  | none =>
    rw [hentry] at h
    cases h
    exact .inl ⟨rfl, rfl⟩
  | some e =>
    simp only [hentry] at h
    cases hread : e.read with
    | error failure =>
      simp only [hread] at h
      cases h
    | ok o =>
      simp only [hread] at h
      have hshows := Entry.read_eq_ok_iff.1 hread
      cases hq : o.toParameters with
      | invalid issues =>
        simp only [hq] at h
        cases h
      | valid q =>
        simp only [hq] at h
        cases h
        refine .inr ⟨e, o, rfl, hshows, key_of_found? hentry hshows, ?_⟩
        rw [Observed.toParameters_eq_valid hq]

theorem planned_of_shows {e : Entry} {o : Observed} (hentry : d.found? store = some e)
    (hshows : e.Shows o) (hkey : Schema.IsName o.key) :
    d.planned store = .ok (Planning.comparison d o o.asParameters) := by
  unfold planned changeFor
  simp only [hentry, Entry.read_of_shows hshows, Observed.toParameters_of_key hkey]

end Declaration

/-! ## Carrying it out -/

/-- The change is carried out where no fault strikes, and its answer reads. -/
structure Change.Carried (c : Change) (store : Store) : Prop where
  not_delete : c.action ≠ .delete
  perform : ∃ w e, c.write? (.ok ()) = .ok w ∧ w.perform store = .ok (e, c.effect store) ∧
    c.action.readAnswer e = .ok ()

/-- The change leaves its declaration kept, and the entries of others found as before. -/
structure Declaration.Settles (d : Declaration) (c : Change) (store : Store) : Prop where
  carried : c.isActionable = true → c.Carried store
  idle : c.isActionable = false → c.effect store = store
  kept : ∃ c', d.planned (c.effect store) = .ok c' ∧ c'.action = .keep
  others : ∀ d' : Declaration, d.Apart d' → d'.found? (c.effect store) = d'.found? store

/-- The effect of a change is what its request does to the store. -/
theorem Change.effect_eq {c : Change} {w : Write} {e : Entry} {store touched : Store}
    (hw : c.write? (.ok ()) = .ok w) (h : w.perform store = .ok (e, touched)) :
    c.effect store = touched := by
  unfold effect
  simp only [hw, h]

theorem Change.effect_of_keep {c : Change} (h : c.action = .keep) (store : Store) :
    c.effect store = store := by
  unfold effect
  cases hw : c.write? (.ok ()) with
  | error failure => rfl
  | ok w =>
    obtain ⟨-, d, n, -, -, hsends⟩ := write?_eq_ok hw
    rw [h] at hsends
    cases hsends

namespace Declaration

variable {d : Declaration} {store : Store} {n : Int}

/-- A created entry is addressed by the declaration that it is created for. -/
theorem addresses_created (hn : d.parameters.projectId = some n) :
    d.addresses (Entry.created (.number n) (CreateRequest.ofParameters d.parameters).body) =
      true := by
  have hshows := Entry.shows_created (.number n) d.parameters
  refine addresses_iff.2 ⟨n, hn, ?_, hshows.key_eq, fun s hs => ?_⟩
  · rw [Entry.project_created]
    exact Json.sameValue_int_self n
  · rw [hshows.scope_eq]
    simp [Observed.overwrite, hs]

/-- A declaration whose entry shows its fields, written over a variable of its key, is kept. -/
theorem kept_of_shows (hwf : d.WellFormed) {e : Entry} {o : Observed}
    (hentry : d.found? store = some e) (hshows : e.Shows (o.overwrite d.parameters))
    (hkey : d.parameters.key = o.key) :
    ∃ c, d.planned store = .ok c ∧ c.action = .keep := by
  have hname : Schema.IsName (o.overwrite d.parameters).key := by
    show Schema.IsName o.key
    rw [← hkey]
    exact hwf.parameters.key
  refine ⟨_, planned_of_shows hentry hshows hname, ?_⟩
  rw [Planning.action_comparison, differing_overwrite hkey, if_pos rfl]

/-- The entry that is created for a declaration. -/
def createdEntry (d : Declaration) (n : Int) : Entry :=
  Entry.created (.number n) (CreateRequest.ofParameters d.parameters).body

theorem shows_createdEntry (d : Declaration) (n : Int) :
    (d.createdEntry n).Shows (Observed.overwrite { key := d.parameters.key } d.parameters) :=
  Entry.shows_created (.number n) d.parameters

/-- An entry has the identity of the one to be created exactly if it has its project, key and scope.
-/
theorem sameIdentity_createdEntry_iff {e : Entry} :
    Entry.sameIdentity (d.createdEntry n) e = true ↔
      e.inProject (.number n) = true ∧ e.key = .str d.parameters.key ∧
        e.scope = .str (d.parameters.scope.getD "*") := by
  unfold createdEntry
  rw [Entry.sameIdentity_created_iff, Entry.isAddressed_iff]
  simp only [Option.some.injEq, forall_eq']

theorem sameIdentity_createdEntry_comm (d : Declaration) (n : Int) (e : Entry) :
    Entry.sameIdentity e (d.createdEntry n) = Entry.sameIdentity (d.createdEntry n) e := by
  have hshows := d.shows_createdEntry n
  have hproject : (d.createdEntry n).project = .int n := Entry.project_created _ _
  unfold Entry.sameIdentity
  rw [hshows.key_eq, hshows.scope_eq, hproject]
  simp only [Json.sameValue_int_comm, Json.sameValue_str_comm]

/-- An entry with the identity of the one created for a declaration is addressed by it too. -/
theorem addresses_of_sameIdentity (hn : d.parameters.projectId = some n) {e : Entry}
    (h : Entry.sameIdentity (d.createdEntry n) e = true) : d.addresses e = true := by
  obtain ⟨hproject, hkey, hscope⟩ := sameIdentity_createdEntry_iff.1 h
  refine addresses_iff.2 ⟨n, hn, hproject, hkey, fun s hs => ?_⟩
  rw [hscope, hs]
  rfl

/-- If a declaration finds nothing, the place of its entry is free. -/
theorem free_of_found?_none (hn : d.parameters.projectId = some n) (hnone : d.found? store = none) :
    ∀ x ∈ store, Entry.sameIdentity (d.createdEntry n) x = false := by
  intro x hx
  have hother := List.find?_eq_none.1 hnone x hx
  exact Bool.eq_false_iff.2 fun hsame => hother (addresses_of_sameIdentity hn hsame)

theorem perform_create (d : Declaration) (n : Int) (store : Store) :
    (Write.create (.number n) (CreateRequest.ofParameters d.parameters)).perform store =
      if store.any (Entry.sameIdentity (d.createdEntry n)) then
        .error (Write.taken (CreateRequest.ofParameters d.parameters).key)
      else .ok (d.createdEntry n, store ++ [d.createdEntry n]) :=
  Write.perform_create (.number n) d.parameters store

/-- A variable whose identity is free is created. -/
theorem carried_creation (hwf : d.WellFormed) (hn : d.parameters.projectId = some n)
    (hfree : ∀ x ∈ store, Entry.sameIdentity (d.createdEntry n) x = false) :
    (Planning.creation d).Carried store ∧
      (Planning.creation d).effect store = store ++ [d.createdEntry n] := by
  let request := CreateRequest.ofParameters d.parameters
  have hw : (Planning.creation d).write? (.ok ()) = .ok (.create (.number n) request) := by
    rw [Change.write?_of_desired rfl hwf]
    exact write?_eq_ok_iff.2 ⟨rfl, n, hn, .create⟩
  have hnot : ¬store.any (Entry.sameIdentity (d.createdEntry n)) = true := by
    intro hany
    obtain ⟨x, hx, hsame⟩ := List.any_eq_true.1 hany
    exact Bool.eq_false_iff.1 (hfree x hx) hsame
  have hperform : (Write.create (.number n) request).perform store =
      .ok (d.createdEntry n, store ++ [d.createdEntry n]) := by
    rw [perform_create, if_neg hnot]
  have heffect := Change.effect_eq hw hperform
  refine ⟨⟨nofun, _, d.createdEntry n, hw, heffect ▸ hperform, ?_⟩, heffect⟩
  show (d.createdEntry n).read.map _ = _
  rw [Entry.read_of_shows (d.shows_createdEntry n)]
  rfl

/-- Creating a variable that is not there settles it. -/
theorem settles_creation (hwf : d.WellFormed) (hn : d.parameters.projectId = some n)
    (hnone : d.found? store = none) : d.Settles (Planning.creation d) store := by
  obtain ⟨hcarried, heffect⟩ := carried_creation hwf hn (free_of_found?_none hn hnone)
  refine ⟨fun _ => hcarried, fun h => ?_, ?_, fun d' h => ?_⟩
  · cases h
  · have hentry : d.found? (store ++ [d.createdEntry n]) = some (d.createdEntry n) :=
      Store.find?_append_new hnone (addresses_created hn)
    rw [heffect]
    exact kept_of_shows hwf hentry (d.shows_createdEntry n) rfl
  · rw [heffect]
    exact Store.find?_append_other (h.not_both (addresses_created hn)) store

/-- The declaration with its unset fields filled from what was read. -/
def initialized (d : Declaration) (o : Observed) : Declaration :=
  { d with parameters := d.parameters.lateInitialize (some o) }

section Update

variable {e : Entry} {o : Observed}

/-- A declared scope is the one that was read. -/
theorem scope_of_found? (hentry : d.found? store = some e) (hshows : e.Shows o) {s : String}
    (hs : d.parameters.scope = some s) : s = o.scope := by
  obtain ⟨-, -, -, -, hscope⟩ := addresses_iff.1 (addresses_of_found? hentry)
  exact Json.str.inj ((hscope s hs).symm.trans hshows.scope_eq)

/-- The scope that is filled in is that of the variable that was read. -/
theorem scope_initialized (hentry : d.found? store = some e) (hshows : e.Shows o) :
    (d.initialized o).parameters.scope = some o.scope := by
  show d.parameters.scope.or (some o.scope) = some o.scope
  cases hs : d.parameters.scope with
  | none => rfl
  | some s => rw [scope_of_found? hentry hshows hs, Option.some_or]

/-- What the request for an update addresses, the declaration addresses. -/
theorem addresses_of_isAddressed (hn : d.parameters.projectId = some n)
    (hentry : d.found? store = some e) (hshows : e.Shows o) (x : Entry)
    (hx : x.isAddressed (.number n) d.parameters.key (some o.scope) = true) :
    d.addresses x = true := by
  obtain ⟨hproject, hkey, hscope⟩ := Entry.isAddressed_iff.1 hx
  rw [addresses_eq hn]
  refine Entry.isAddressed_iff.2 ⟨hproject, hkey, fun s hs => ?_⟩
  rw [scope_of_found? hentry hshows hs]
  exact hscope _ rfl

theorem isAddressed_of_found? (hn : d.parameters.projectId = some n)
    (hentry : d.found? store = some e) (hshows : e.Shows o) :
    e.isAddressed (.number n) d.parameters.key (some o.scope) = true := by
  obtain ⟨hproject, hkey, -⟩ :=
    Entry.isAddressed_iff.1 (addresses_eq hn ▸ addresses_of_found? hentry)
  refine Entry.isAddressed_iff.2 ⟨hproject, hkey, fun s hs => ?_⟩
  rw [hshows.scope_eq, Option.some.inj hs]

/-- The request of a planned update. -/
theorem write?_update (hwf : d.WellFormed) (hn : d.parameters.projectId = some n)
    (haction : (Planning.comparison d o o.asParameters).action = .update) :
    (Planning.comparison d o o.asParameters).write? (.ok ()) = .ok (.update (.number n)
      d.parameters.key (UpdateRequest.ofParameters (d.initialized o).parameters)) := by
  have hwf' : (d.initialized o).WellFormed := hwf.withParameters rfl rfl rfl
  rw [Change.write?_of_desired (d := d.initialized o) rfl hwf', haction]
  exact write?_eq_ok_iff.2 ⟨rfl, n, hn, .update⟩

theorem filter_initialized (hentry : d.found? store = some e) (hshows : e.Shows o) :
    ScopeFilter.scopeOf (UpdateRequest.ofParameters (d.initialized o).parameters).filter =
      some o.scope :=
  (scopeOf_ofParameters _).trans (scope_initialized hentry hshows)

/-- The overwriting of an entry by a planned update. -/
def overwritten (d : Declaration) (o : Observed) (e : Entry) : Entry :=
  Fields.update e (UpdateRequest.ofParameters (d.initialized o).parameters).changes

theorem shows_overwritten {o' : Observed} (hshows : e.Shows o') :
    (d.overwritten o e).Shows (o'.overwrite (d.initialized o).parameters) :=
  hshows.update (d.initialized o).parameters

/-- The update of a declaration whose scope was filled in overwrites the entry that was read. -/
theorem perform_update (hscope : (d.initialized o).parameters.scope = some o.scope) (n : Int)
    (store : Store) :
    (Write.update (.number n) d.parameters.key
      (UpdateRequest.ofParameters (d.initialized o).parameters)).perform store =
      match store.find? (.number n) d.parameters.key (some o.scope) with
      | some e => .ok (d.overwritten o e, store.updateFirst
          (Entry.isAddressed (.number n) d.parameters.key (some o.scope)) (d.overwritten o))
      | none => .error (Client.notFound .update) := by
  have hperform := perform_update_ofParameters (.number n) (d.initialized o).parameters store
  rw [hscope] at hperform
  exact hperform

/-- An update is carried out where there is an entry that reads, of the scope that was read. -/
theorem carried_update (hwf : d.WellFormed) (hn : d.parameters.projectId = some n)
    (haction : (Planning.comparison d o o.asParameters).action = .update)
    (hscope : (d.initialized o).parameters.scope = some o.scope)
    (hfind : store.find? (.number n) d.parameters.key (some o.scope) = some e) {o' : Observed}
    (hshows : e.Shows o') :
    (Planning.comparison d o o.asParameters).Carried store ∧
      (Planning.comparison d o o.asParameters).effect store =
        store.updateFirst (Entry.isAddressed (.number n) d.parameters.key (some o.scope))
          (d.overwritten o) := by
  have hw := write?_update hwf hn haction
  have hperform := perform_update hscope n store
  rw [hfind] at hperform
  have heffect := Change.effect_eq hw hperform
  refine ⟨⟨?_, _, d.overwritten o e, hw, heffect ▸ hperform, ?_⟩, heffect⟩
  · rw [haction]
    decide
  · rw [haction]
    show (d.overwritten o e).read.map _ = _
    rw [Entry.read_of_shows (shows_overwritten hshows)]
    rfl

/-- What an update overwrites stays where it is. -/
theorem identity_overwritten (hscope : (d.initialized o).parameters.scope = some o.scope)
    {x : Entry} (hx : x.isAddressed (.number n) d.parameters.key (some o.scope) = true) :
    (d.overwritten o x).project = x.project ∧ (d.overwritten o x).key = x.key ∧
      (d.overwritten o x).scope = x.scope :=
  ⟨Entry.project_update x _, Entry.key_update x _, Entry.scope_update fun s hs =>
    (Entry.isAddressed_iff.1 hx).2.2 s (hscope ▸ hs)⟩

/-- Overwriting an entry does not change which declarations address it. -/
theorem addresses_overwritten (hscope : (d.initialized o).parameters.scope = some o.scope)
    {x : Entry} (hx : x.isAddressed (.number n) d.parameters.key (some o.scope) = true)
    (d' : Declaration) : d'.addresses (d.overwritten o x) = d'.addresses x := by
  obtain ⟨hproject, hkey, hscope⟩ := identity_overwritten hscope hx
  exact addresses_congr hproject hkey hscope d'

/-- Updating a variable that was read settles it. -/
theorem settles_update (hwf : d.WellFormed) (hn : d.parameters.projectId = some n)
    (hentry : d.found? store = some e) (hshows : e.Shows o) (hkey : o.key = d.parameters.key)
    (hdiffers : d.parameters.differing o ≠ []) :
    d.Settles (Planning.comparison d o o.asParameters) store := by
  let test := Entry.isAddressed (.number n) d.parameters.key (some o.scope)
  have hscope := scope_initialized hentry hshows
  have hsub := addresses_of_isAddressed hn hentry hshows
  have he : test e = true := isAddressed_of_found? hn hentry hshows
  have haction : (Planning.comparison d o o.asParameters).action = .update := by
    rw [Planning.action_comparison, if_neg hdiffers]
  obtain ⟨hcarried, heffect⟩ := carried_update hwf hn haction hscope
    (Store.find?_of_narrower hentry he hsub) hshows
  have hshown : (d.overwritten o e).Shows (o.overwrite d.parameters) := by
    rw [← Observed.overwrite_lateInitialize]
    exact shows_overwritten hshows
  refine ⟨fun _ => hcarried, fun h => ?_, ?_, fun d' h => ?_⟩
  · simp [Change.isActionable, haction, Action.isActionable] at h
  · have hfound : d.found? (store.updateFirst test (d.overwritten o)) =
        some (d.overwritten o e) :=
      Store.find?_updateFirst_found hentry he hsub
        ((addresses_overwritten hscope he d).trans (addresses_of_found? hentry))
    rw [heffect]
    exact kept_of_shows hwf hfound hshown hkey.symm
  · rw [heffect]
    refine Store.find?_updateFirst_other (fun x hx => ?_) store
    have hother : d'.addresses x = false := h.not_both (hsub x hx)
    exact ⟨hother, (addresses_overwritten hscope hx d').trans hother⟩

end Update

/-- What is planned for a declaration settles it. -/
theorem settles_planned {c : Change} (hwf : d.WellFormed) (hproject : d.parameters.projectId ≠ none)
    (h : d.planned store = .ok c) : d.Settles c store := by
  obtain ⟨n, hn⟩ := Option.ne_none_iff_exists'.1 hproject
  obtain ⟨hnone, rfl⟩ | ⟨e, o, hentry, hshows, hkey, rfl⟩ := planned_cases h
  · exact settles_creation hwf hn hnone
  · by_cases hdiffers : d.parameters.differing o = []
    · have hkeep : (Planning.comparison d o o.asParameters).action = .keep := by
        rw [Planning.action_comparison, if_pos hdiffers]
      have heffect := Change.effect_of_keep hkeep store
      refine ⟨fun hact => ?_, fun _ => heffect, ⟨_, heffect.symm ▸ h, hkeep⟩, fun d' _ => ?_⟩
      · simp [Change.isActionable, hkeep, Action.isActionable] at hact
      · rw [heffect]
    · exact settles_update hwf hn hentry hshows hkey hdiffers

end Declaration

end CiVariables
