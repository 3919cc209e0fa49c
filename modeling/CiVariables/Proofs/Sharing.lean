import CiVariables.Proofs.Accepted
import CiVariables.Proofs.Convergence

/-!
# Declarations that share an entry

No two declarations of an accepted file are about the same project, key and scope, where an unset
scope counts as all environments. Reading takes an unset scope differently: it finds the first entry
of the project and key, whatever its scope. Two accepted declarations are therefore about one entry
exactly where one of them sets no scope and the first entry has the scope that the other sets
(`Declaration.Covers`), and then their updates overwrite the same entry.
-/

namespace CiVariables

/-! ## Positions -/

namespace Declaration

/-- The position of the entry that a declaration is about. -/
def position? (d : Declaration) (store : Store) : Option Nat := store.findIdx? d.addresses

/-- Reading finds the entry at the position. -/
theorem found?_eq_position? (d : Declaration) (store : Store) :
    d.found? store = (d.position? store).bind (store[·]?) := by
  unfold found? position?
  induction store with
  | nil => rfl
  | cons e rest ih =>
    rw [List.find?_cons, List.findIdx?_cons]
    cases d.addresses e with
    | true => rfl
    | false =>
      rw [ih]
      cases rest.findIdx? d.addresses <;> rfl

theorem position?_of_found? {d : Declaration} {store : Store} {e : Entry}
    (h : d.found? store = some e) : ∃ i, d.position? store = some i ∧ store[i]? = some e := by
  rw [found?_eq_position?] at h
  exact Option.bind_eq_some_iff.1 h

theorem found?_of_position? {d : Declaration} {store : Store} {i : Nat}
    (h : d.position? store = some i) : ∃ e, d.found? store = some e ∧ store[i]? = some e := by
  obtain ⟨hi, -⟩ := List.findIdx?_eq_some_iff_getElem.1 h
  rw [found?_eq_position?, h]
  exact ⟨store[i], List.getElem?_eq_getElem hi, List.getElem?_eq_getElem hi⟩

end Declaration

/-- The position of the first entry of a wider test is that of a narrower one which it satisfies. -/
theorem Store.findIdx?_of_narrower {test test' : Entry → Bool} {store : Store} {i : Nat} {e : Entry}
    (hfound : List.findIdx? test' store = some i) (he : store[i]? = some e) (htest : test e = true)
    (hsub : ∀ x, test x = true → test' x = true) : List.findIdx? test store = some i := by
  obtain ⟨hi, -, hbefore⟩ := List.findIdx?_eq_some_iff_getElem.1 hfound
  have heq : store[i] = e := Option.some.inj ((List.getElem?_eq_getElem hi).symm.trans he)
  exact List.findIdx?_eq_some_iff_getElem.2
    ⟨hi, heq ▸ htest, fun j hj h => hbefore j hj (hsub _ h)⟩

/-! ## Sharing an entry -/

namespace Declaration

/-- The first entry of the project and key of a declaration without scope has the scope that another
declaration of them sets. -/
def Covers (store : Store) (a b : Declaration) : Prop :=
  ∃ n e s, a.parameters.projectId = some n ∧ b.parameters.projectId = some n ∧
    a.parameters.key = b.parameters.key ∧ a.parameters.scope = none ∧ b.parameters.scope = some s ∧
    store.find? (.number n) a.parameters.key none = some e ∧ e.scope = .str s

variable {store : Store} {a b : Declaration}

/-- A declaration without scope is about the entry that it covers. -/
theorem Covers.position?_eq (h : Covers store a b) :
    ∃ i, a.position? store = some i ∧ b.position? store = some i := by
  obtain ⟨n, e, s, ha, hb, hkey, hnone, hscope, hfirst, he⟩ := h
  have hentry : a.found? store = some e := by
    rw [← find?_eq_found? ha, hnone]
    exact hfirst
  obtain ⟨i, hi, hget⟩ := position?_of_found? hentry
  obtain ⟨_, hn, hproject, hekey, -⟩ := addresses_iff.1 (addresses_of_found? hentry)
  rw [ha] at hn
  cases hn
  refine ⟨i, hi, Store.findIdx?_of_narrower hi hget ?_ fun x hx => ?_⟩
  · refine addresses_iff.2 ⟨n, hb, hproject, hkey ▸ hekey, fun t ht => ?_⟩
    rw [he, Option.some.inj (hscope.symm.trans ht)]
  · obtain ⟨m, hm, hxproject, hxkey, -⟩ := addresses_iff.1 hx
    rw [hb] at hm
    cases hm
    refine addresses_iff.2 ⟨n, ha, hxproject, hkey ▸ hxkey, fun t ht => ?_⟩
    rw [hnone] at ht
    cases ht

/-- Of two declarations about one entry, one covers the other, unless they have one identity. -/
theorem covers_of_position? (hne : a.identity ≠ b.identity) {i : Nat}
    (ha : a.position? store = some i) (hb : b.position? store = some i) :
    Covers store a b ∨ Covers store b a := by
  obtain ⟨e, hea, hget⟩ := found?_of_position? ha
  obtain ⟨e', heb, hget'⟩ := found?_of_position? hb
  cases hget.symm.trans hget'
  have haddr := addresses_of_found? hea
  have hbddr := addresses_of_found? heb
  obtain ⟨hproject, hkey, hagree⟩ := agree_of_addresses haddr hbddr
  obtain ⟨n, hn, -, -, hascope⟩ := addresses_iff.1 haddr
  obtain ⟨-, -, -, -, hbscope⟩ := addresses_iff.1 hbddr
  have hfirsta := (find?_eq_found? hn store).trans hea
  have hfirstb := (find?_eq_found? (hproject ▸ hn) store).trans heb
  have hsame (hscope : a.parameters.scope = b.parameters.scope) : a.identity = b.identity := by
    unfold identity Parameters.effectiveScope
    rw [hproject, hkey, hscope]
  cases hsa : a.parameters.scope with
  | none =>
    cases hsb : b.parameters.scope with
    | none => exact absurd (hsame (hsa.trans hsb.symm)) hne
    | some s =>
      exact .inl ⟨n, e, s, hn, hproject ▸ hn, hkey, hsa, hsb, hsa ▸ hfirsta, hbscope s hsb⟩
  | some s =>
    cases hsb : b.parameters.scope with
    | none =>
      exact .inr ⟨n, e, s, hproject ▸ hn, hn, hkey.symm, hsb, hsa, hsb ▸ hfirstb, hascope s hsa⟩
    | some t => exact absurd (hsame (by rw [hsa, hsb, hagree s t hsa hsb])) hne

end Declaration

/-! ## Updates -/

/-- The position of the entry that an update overwrites. -/
def Change.target? (c : Change) (store : Store) : Option Nat :=
  match c.write? (.ok ()) with
  | .ok (.update project key request) =>
    store.findIdx? (Entry.isAddressed project key (ScopeFilter.scopeOf request.filter))
  | _ => none

/-- A planned update overwrites the entry that its declaration is about. -/
theorem Declaration.target?_of_planned {d : Declaration} {store : Store} {c : Change}
    (hwf : d.WellFormed) (h : d.planned store = .ok c) (haction : c.action = .update) :
    ∃ i, c.target? store = some i ∧ d.position? store = some i := by
  obtain ⟨-, rfl⟩ | ⟨e, o, hentry, hshows, -, rfl⟩ := planned_cases h
  · cases haction
  · obtain ⟨n, hn, -⟩ := addresses_iff.1 (addresses_of_found? hentry)
    obtain ⟨i, hi, hget⟩ := position?_of_found? hentry
    refine ⟨i, ?_, hi⟩
    unfold Change.target?
    rw [write?_update hwf hn haction]
    simp only [filter_initialized hentry hshows]
    exact Store.findIdx?_of_narrower hi hget (isAddressed_of_found? hn hentry hshows)
      (addresses_of_isAddressed hn hentry hshows)

namespace Config

/-- **When accepted declarations share an entry.** Two of them are about one entry exactly where one
sets no scope and the first entry of its project and key has the scope that the other sets; and
exactly there their updates, if both are planned, overwrite one entry. -/
theorem shared_entry_iff_covers {c : Config} (hc : c.Accepted) {a b : Declaration}
    (ha : a ∈ c.declarations) (hb : b ∈ c.declarations) (hne : a ≠ b) (store : Store) :
    ((∃ i, a.position? store = some i ∧ b.position? store = some i) ↔
      Declaration.Covers store a b ∨ Declaration.Covers store b a) ∧
    ∀ change change', a.planned store = .ok change → b.planned store = .ok change' →
      change.action = .update → change'.action = .update →
      (change.target? store = change'.target? store ↔
        Declaration.Covers store a b ∨ Declaration.Covers store b a) := by
  have hidentity := hc.identity_ne ha hb hne
  have hshared : (∃ i, a.position? store = some i ∧ b.position? store = some i) ↔
      Declaration.Covers store a b ∨ Declaration.Covers store b a := by
    constructor
    · rintro ⟨i, hi, hi'⟩
      exact Declaration.covers_of_position? hidentity hi hi'
    · rintro (h | h)
      · exact h.position?_eq
      · obtain ⟨i, hi, hi'⟩ := h.position?_eq
        exact ⟨i, hi', hi⟩
  refine ⟨hshared, fun change change' hplanned hplanned' haction haction' => ?_⟩
  obtain ⟨i, htarget, hi⟩ := Declaration.target?_of_planned (hc.wellFormed a ha) hplanned haction
  obtain ⟨j, htarget', hj⟩ := Declaration.target?_of_planned (hc.wellFormed b hb) hplanned' haction'
  rw [← hshared, htarget, htarget', hi, hj]
  constructor
  · rintro heq
    exact ⟨i, rfl, heq.symm⟩
  · rintro ⟨k, hik, hjk⟩
    rw [hik, hjk]

/-! ## A file whose declarations share an entry -/

/-- A variable for all environments. -/
def sharing : Declaration := ⟨"a", "", { key := "K", value := some "one", projectId := some 1 }⟩

/-- The variable of the same key for one environment. -/
def shared : Declaration :=
  ⟨"b", "", { key := "K", value := some "two", scope := some "production", projectId := some 1 }⟩

def sharedFile : Config :=
  ⟨⟨some "https://gitlab.example.com", some "t", true⟩, [], [sharing, shared]⟩

/-- The one entry is for the one environment. -/
def sharedStore : Store :=
  [[("project", .int 1), ("key", .str "K"), ("environment_scope", .str "production")]]

theorem accepted_sharedFile : sharedFile.Accepted := by
  let variableOf (name value : String) (scope : Schema.Entries) : Schema.Value :=
    .map [(.text "name", .text name), (.text "for_provider", .map
      ([(.text "key", .text "K"), (.text "value", .text value), (.text "project_id", .int 1)] ++
        scope))]
  let entries : Schema.Entries :=
    [(.text "provider", .map
      [(.text "host", .text "https://gitlab.example.com"), (.text "token", .text "t")]),
      (.text "variables", .list [variableOf "a" "one" [],
        variableOf "b" "two" [(.text "environment_scope", .text "production")]])]
  exact ⟨[], [], entries, rfl⟩

/-- Sharing an entry, at the file above. -/
theorem covers_of_sharedFile :
    sharedFile.Accepted ∧ sharing ∈ sharedFile.declarations ∧ shared ∈ sharedFile.declarations ∧
      sharing ≠ shared ∧ (Declaration.Covers sharedStore sharing shared ∨
        Declaration.Covers sharedStore shared sharing) := by
  have hmem : sharing ∈ sharedFile.declarations := List.mem_cons_self
  have hmem' : shared ∈ sharedFile.declarations := List.mem_cons_of_mem _ List.mem_cons_self
  have hne : sharing ≠ shared := by decide
  exact ⟨accepted_sharedFile, hmem, hmem', hne,
    (shared_entry_iff_covers accepted_sharedFile hmem hmem' hne sharedStore).1.1 ⟨0, rfl, rfl⟩⟩

/-- Accepted declarations may be about one entry, although no two entries have one identity: both of
this file find the entry at position 0, and one plan updates it twice. -/
theorem accepted_declarations_share_entry :
    sharedFile.Accepted ∧ (sharedStore.Pairwise fun e e' => e.sameIdentity e' = false) ∧
      sharing ∈ sharedFile.declarations ∧ shared ∈ sharedFile.declarations ∧ sharing ≠ shared ∧
      sharing.position? sharedStore = some 0 ∧ shared.position? sharedStore = some 0 ∧
      ∃ p s', (Planning.plan { isReady := true } default false sharedFile.declarations).outcome
          { remote := ⟨sharedStore, []⟩ } = (.ok p, s') ∧
        p.changes.map (fun c => (c.address, c.action, c.target? sharedStore)) =
          [(sharing.address, .update, some 0), (shared.address, .update, some 0)] := by
  refine ⟨accepted_sharedFile, List.pairwise_singleton _ _, List.mem_cons_self,
    List.mem_cons_of_mem _ List.mem_cons_self, by decide, rfl, rfl, ?_⟩
  have hsorted : Planning.sortByAddress sharedFile.declarations = [sharing, shared] :=
    List.mergeSort_of_pairwise (by decide)
  have hready : Planning.Ready { isReady := true } { remote := ⟨sharedStore, []⟩ }
      sharedFile.declarations := ⟨by decide, by decide, fun _ => rfl⟩
  let seen : Observed := { key := "K", scope := "production" }
  let change (d : Declaration) : Change := Planning.comparison d seen seen.asParameters
  have hplanned : sharing.planned sharedStore = .ok (change sharing) := rfl
  have hplanned' : shared.planned sharedStore = .ok (change shared) := rfl
  have htarget {d : Declaration} (hd : d ∈ sharedFile.declarations)
      (hplanned : d.planned sharedStore = .ok (change d)) (haction : (change d).action = .update)
      (hposition : d.position? sharedStore = some 0) : (change d).target? sharedStore = some 0 := by
    obtain ⟨i, hi, hi'⟩ := Declaration.target?_of_planned (accepted_sharedFile.wellFormed d hd)
      hplanned haction
    rw [hi, ← hi', hposition]
  have hplans : Planning.Plans sharedStore [sharing, shared] [change sharing, change shared] :=
    .cons hplanned (.cons hplanned' .nil)
  obtain ⟨s', -, -, -, hplan⟩ := Planning.outcome_of_plans default hready
    (Planning.readsFreely_of_no_faults rfl) (hsorted ▸ hplans)
  refine ⟨_, s', hplan, ?_⟩
  simp only [Planning.planOf, List.map_cons, List.map_nil,
    htarget List.mem_cons_self hplanned rfl rfl,
    htarget (List.mem_cons_of_mem _ List.mem_cons_self) hplanned' rfl rfl]
  rfl

end Config

end CiVariables
