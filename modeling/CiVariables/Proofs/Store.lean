import CiVariables.Config.Unique
import CiVariables.Proofs.Entry

/-!
# The entry that a declaration is about

A declaration is about the first entry of its project and key, and of its scope if it sets one
(`Declaration.found?`). Two declarations are apart if they differ in project or key, or set
different scopes; no entry is then addressed by both. `Store.find?_updateFirst_other` and
`Store.find?_updateFirst_found` say what an overwritten entry does to looking up: nothing for tests
that it fails before and after, and the new entry is found where the old one was.
-/

namespace CiVariables

namespace Store

/-! ## Looking up after a change -/

/-- A change to entries that do not pass a test, before and after, does not matter to that test. -/
theorem find?_updateFirst_other {test test' : Entry → Bool} {change : Entry → Entry}
    (h : ∀ e, test e = true → test' e = false ∧ test' (change e) = false) (store : Store) :
    List.find? test' (updateFirst test change store) = List.find? test' store := by
  induction store with
  | nil => rfl
  | cons e rest ih =>
    unfold updateFirst
    by_cases he : test e = true
    · obtain ⟨hold, hnew⟩ := h e he
      rw [if_pos he, List.find?_cons_of_neg (by simp [hnew]),
        List.find?_cons_of_neg (by simp [hold])]
    · rw [if_neg he, List.find?_cons, List.find?_cons, ih]

/-- If the first entry that passes a wider test is the one that is changed, it is found there after
the change. -/
theorem find?_updateFirst_found {test test' : Entry → Bool} {change : Entry → Entry} {store : Store}
    {e : Entry} (hfound : List.find? test' store = some e) (he : test e = true)
    (hsub : ∀ x, test x = true → test' x = true) (hchange : test' (change e) = true) :
    List.find? test' (updateFirst test change store) = some (change e) := by
  induction store with
  | nil => cases hfound
  | cons x rest ih =>
    unfold updateFirst
    by_cases hx : test' x = true
    · rw [List.find?_cons_of_pos hx] at hfound
      cases hfound
      rw [if_pos he, List.find?_cons_of_pos hchange]
    · have hnot : ¬test x = true := fun h => hx (hsub x h)
      rw [List.find?_cons_of_neg hx] at hfound
      rw [if_neg hnot, List.find?_cons_of_neg hx]
      exact ih hfound

/-- Entries that are changed within a test leave something to be found by it. -/
theorem find?_updateFirst {test test' : Entry → Bool} {change : Entry → Entry} {store : Store}
    {e : Entry} (hfound : List.find? test' store = some e)
    (hchange : ∀ x, test x = true → test' (change x) = test' x) :
    ∃ e', List.find? test' (updateFirst test change store) = some e' ∧
      (e' = e ∨ test e = true ∧ e' = change e) := by
  induction store with
  | nil => cases hfound
  | cons x rest ih =>
    unfold updateFirst
    by_cases hx : test' x = true
    · rw [List.find?_cons_of_pos hx] at hfound
      cases hfound
      by_cases he : test e = true
      · rw [if_pos he]
        exact ⟨_, List.find?_cons_of_pos ((hchange e he).trans hx), .inr ⟨he, rfl⟩⟩
      · rw [if_neg he]
        exact ⟨_, List.find?_cons_of_pos hx, .inl rfl⟩
    · rw [List.find?_cons_of_neg hx] at hfound
      by_cases he : test x = true
      · rw [if_pos he, List.find?_cons_of_neg (by rw [hchange x he]; exact hx)]
        exact ⟨e, hfound, .inl rfl⟩
      · rw [if_neg he, List.find?_cons_of_neg hx]
        exact ih hfound

/-- Changing the first entry of a test is replacing it at its position. -/
theorem updateFirst_eq_set {test : Entry → Bool} {store : Store} {e : Entry}
    (hfound : List.find? test store = some e) (change : Entry → Entry) :
    ∃ i, store[i]? = some e ∧ store.updateFirst test change = store.set i (change e) := by
  induction store with
  | nil => cases hfound
  | cons x rest ih =>
    unfold updateFirst
    by_cases hx : test x = true
    · rw [List.find?_cons_of_pos hx] at hfound
      cases hfound
      exact ⟨0, rfl, if_pos hx⟩
    · rw [List.find?_cons_of_neg hx] at hfound
      obtain ⟨i, hget, heq⟩ := ih hfound
      refine ⟨i + 1, hget, ?_⟩
      rw [if_neg hx, heq]
      rfl

/-- Removing the first entry of a test is removing it at its position. -/
theorem eraseP_eq_eraseIdx {test : Entry → Bool} {store : Store} {e : Entry}
    (hfound : List.find? test store = some e) :
    ∃ i, store[i]? = some e ∧ store.eraseP test = store.eraseIdx i := by
  induction store with
  | nil => cases hfound
  | cons x rest ih =>
    by_cases hx : test x = true
    · rw [List.find?_cons_of_pos hx] at hfound
      cases hfound
      exact ⟨0, rfl, List.eraseP_cons_of_pos hx⟩
    · rw [List.find?_cons_of_neg hx] at hfound
      obtain ⟨i, hget, heq⟩ := ih hfound
      refine ⟨i + 1, hget, ?_⟩
      rw [List.eraseP_cons_of_neg hx, heq]
      rfl

/-- The first entry of a wider test is the first of a narrower one that it satisfies. -/
theorem find?_of_narrower {test test' : Entry → Bool} {store : Store} {e : Entry}
    (hfound : List.find? test' store = some e) (he : test e = true)
    (hsub : ∀ x, test x = true → test' x = true) : List.find? test store = some e := by
  induction store with
  | nil => cases hfound
  | cons x rest ih =>
    by_cases hx : test' x = true
    · rw [List.find?_cons_of_pos hx] at hfound
      cases hfound
      exact List.find?_cons_of_pos he
    · rw [List.find?_cons_of_neg hx] at hfound
      rw [List.find?_cons_of_neg fun h => hx (hsub x h)]
      exact ih hfound

theorem find?_append_other {test : Entry → Bool} {e : Entry} (h : test e = false) (store : Store) :
    List.find? test (store ++ [e]) = List.find? test store := by
  rw [List.find?_append, List.find?_cons_of_neg (by simp [h])]
  simp

theorem find?_append_new {test : Entry → Bool} {e : Entry} {store : Store}
    (hnone : List.find? test store = none) (h : test e = true) :
    List.find? test (store ++ [e]) = some e := by
  rw [List.find?_append, hnone, List.find?_cons_of_pos h]
  rfl

end Store

/-! ## Projects -/

namespace ProjectId

open Json (sameValue)

theorem sameValue_self (p : ProjectId) : sameValue p.toJson p.toJson = true := by
  cases p with
  | number n => exact Json.sameValue_int_self n
  | path s => exact Json.sameValue_str_iff.2 rfl

/-- A value is the same as at most one project. -/
theorem sameValue_unique {j : Json} {p q : ProjectId} (hp : sameValue j p.toJson = true)
    (hq : sameValue j q.toJson = true) : p = q := by
  cases p with
  | number n =>
    cases q with
    | number m => rw [Json.sameValue_int_unique hp hq]
    | path t =>
      rw [Json.sameValue_str_iff.1 hq] at hp
      cases hp
  | path s =>
    rw [Json.sameValue_str_iff.1 hp] at hq
    cases q with
    | number m => cases hq
    | path t => rw [Json.str.inj (Json.sameValue_str_iff.1 hq)]

/-- Whether a value is the same as a project does not depend on which is asked first. -/
theorem sameValue_comm (p : ProjectId) (j : Json) :
    sameValue p.toJson j = sameValue j p.toJson := by
  cases p with
  | number n => exact Json.sameValue_int_comm j n
  | path s => exact Json.sameValue_str_comm j s

end ProjectId

/-! ## Addresses -/

namespace Entry

/-- An entry is addressed exactly if it has the project, the key, and the scope if one is given. -/
theorem isAddressed_iff {project : ProjectId} {key : String} {scope : Option String}
    {e : Entry} : e.isAddressed project key scope = true ↔
      e.inProject project = true ∧ e.key = .str key ∧ ∀ s, scope = some s → e.scope = .str s := by
  unfold Entry.isAddressed
  cases scope with
  | none => simp [Json.sameValue_str_iff]
  | some s => simp [Json.sameValue_str_iff, and_assoc]

/-- An entry that is addressed in two ways makes them agree in project and key, and in scope where
both have one. -/
theorem agree_of_isAddressed {project project' : ProjectId} {key key' : String}
    {scope scope' : Option String} {e : Entry} (h : e.isAddressed project key scope = true)
    (h' : e.isAddressed project' key' scope' = true) :
    project = project' ∧ key = key' ∧ ∀ s t, scope = some s → scope' = some t → s = t := by
  obtain ⟨hproject, hkey, hscope⟩ := isAddressed_iff.1 h
  obtain ⟨hproject', hkey', hscope'⟩ := isAddressed_iff.1 h'
  exact ⟨ProjectId.sameValue_unique hproject hproject', Json.str.inj (hkey.symm.trans hkey'),
    fun s t hs ht => Json.str.inj ((hscope s hs).symm.trans (hscope' t ht))⟩

/-- What has the identity of a created entry is addressed by its project, key and scope. -/
theorem sameIdentity_created_iff {project : ProjectId} {p : Parameters} {e : Entry} :
    sameIdentity (created project (CreateRequest.ofParameters p).body) e = true ↔
      e.isAddressed project p.key (some (p.scope.getD "*")) = true := by
  have hshows := shows_created project p
  rw [isAddressed_iff]
  unfold sameIdentity inProject
  rw [hshows.key_eq, hshows.scope_eq, project_created]
  simp only [Bool.and_eq_true, ProjectId.sameValue_comm, Json.sameValue_str_comm,
    Json.sameValue_str_iff, and_assoc, Option.some.injEq, forall_eq']
  rfl

end Entry

namespace Declaration

/-- The entry is of the declaration's project and key, and of its scope if it sets one. -/
def addresses (d : Declaration) (e : Entry) : Bool :=
  match d.parameters.projectId with
  | some n => e.isAddressed (.number n) d.parameters.key d.parameters.scope
  | none => false

/-- The entry that a declaration is about. -/
def found? (d : Declaration) (store : Store) : Option Entry := List.find? d.addresses store

theorem addresses_eq {d : Declaration} {n : Int} (hn : d.parameters.projectId = some n) :
    d.addresses = Entry.isAddressed (.number n) d.parameters.key d.parameters.scope := by
  funext e
  unfold addresses
  rw [hn]

theorem find?_eq_found? {d : Declaration} {n : Int} (hn : d.parameters.projectId = some n)
    (store : Store) :
    store.find? (.number n) d.parameters.key d.parameters.scope = d.found? store := by
  unfold Store.find? found?
  rw [addresses_eq hn]

/-- An entry is addressed by a declaration exactly if it has its project, its key, and its scope if
that is set. -/
theorem addresses_iff {d : Declaration} {e : Entry} : d.addresses e = true ↔
    ∃ n, d.parameters.projectId = some n ∧ e.project.sameValue (.int n) = true ∧
      e.key = .str d.parameters.key ∧ ∀ s, d.parameters.scope = some s → e.scope = .str s := by
  unfold addresses
  cases d.parameters.projectId with
  | none => simp
  | some n => simp [Entry.isAddressed_iff, Entry.inProject, ProjectId.toJson]

/-- Whether an entry is addressed depends only on its project, key and scope. -/
theorem addresses_congr {e e' : Entry} (hproject : e'.project = e.project) (hkey : e'.key = e.key)
    (hscope : e'.scope = e.scope) (d : Declaration) : d.addresses e' = d.addresses e := by
  unfold addresses Entry.isAddressed Entry.inProject
  rw [hproject, hkey, hscope]

theorem addresses_of_found? {d : Declaration} {store : Store} {e : Entry}
    (h : d.found? store = some e) : d.addresses e = true := List.find?_some h

/-! ## Declarations apart -/

/-- The declarations are of different projects or keys, or both set a scope and not the same. -/
def Apart (a b : Declaration) : Prop :=
  a.parameters.projectId = b.parameters.projectId → a.parameters.key = b.parameters.key →
    ∃ s t, a.parameters.scope = some s ∧ b.parameters.scope = some t ∧ s ≠ t

theorem Apart.symm {a b : Declaration} (h : Apart a b) : Apart b a := by
  intro hproject hkey
  obtain ⟨s, t, hs, ht, hne⟩ := h hproject.symm hkey.symm
  exact ⟨t, s, ht, hs, hne.symm⟩

/-- An entry addressed by both of two declarations makes them agree in project and key, and in
scope where both set one. -/
theorem agree_of_addresses {a b : Declaration} {e : Entry} (ha : a.addresses e = true)
    (hb : b.addresses e = true) :
    a.parameters.projectId = b.parameters.projectId ∧ a.parameters.key = b.parameters.key ∧
      ∀ s t, a.parameters.scope = some s → b.parameters.scope = some t → s = t := by
  obtain ⟨n, hn, -⟩ := addresses_iff.1 ha
  obtain ⟨m, hm, -⟩ := addresses_iff.1 hb
  rw [addresses_eq hn] at ha
  rw [addresses_eq hm] at hb
  obtain ⟨hproject, hkey, hscope⟩ := Entry.agree_of_isAddressed ha hb
  exact ⟨by rw [hn, hm, ProjectId.number.inj hproject], hkey, hscope⟩

/-- No entry is addressed by two declarations that are apart. -/
theorem Apart.not_both {a b : Declaration} (h : Apart a b) {e : Entry} (ha : a.addresses e = true) :
    b.addresses e = false := by
  cases hb : b.addresses e with
  | false => rfl
  | true =>
    obtain ⟨hproject, hkey, hscope⟩ := agree_of_addresses ha hb
    obtain ⟨s, t, hs, ht, hne⟩ := h hproject hkey
    exact absurd (hscope s t hs ht) hne

end Declaration

end CiVariables
