import CiVariables.Proofs.Loading
import Mathlib.Data.Finset.Card

/-!
# Every duplicate is reported with its first owner

The look-up for duplicates keeps the first item of each key that it has seen. `Unique.repeats` says
what it reports without speaking of owners: each item that has the key of an earlier one, in order,
with the first of those. So as many are reported as there are items beyond the first of each key
(`Unique.length_duplicates`). Names are reported by places and variables by addresses; where names
differ addresses do, so that no variable passes for its own owner. Both reports come together in
`duplicates_reported_with_first`.
-/

namespace CiVariables

namespace Unique

variable {α β γ : Type} {key : β → α}

/-! ## What is reported -/

section Owners

variable [BEq α]

/-- The first item of a key among those before a place, with its own place. -/
def firstBefore (key : β → α) (l : List β) (place : Nat) (k : α) : Option (β × Nat) :=
  (l.take place).zipIdx.find? fun first => key first.1 == k

/-- The items that have the key of an earlier one, in order, each with the first item of its key
and both with their places. -/
def repeats (key : β → α) (l : List β) : List ((β × Nat) × (β × Nat)) :=
  l.zipIdx.filterMap fun item =>
    (firstBefore key l item.2 (key item.1)).map fun first => (first, item)

/-- A repeat is a later item under the key of an earlier one. -/
theorem mem_repeats {l : List β} {a b : β} {i j : Nat} (h : ((a, i), (b, j)) ∈ repeats key l) :
    i < j ∧ l[i]? = some a ∧ l[j]? = some b := by
  obtain ⟨⟨b', j'⟩, hitem, hfound⟩ := List.mem_filterMap.1 h
  obtain ⟨first, hfirst, heq⟩ := Option.map_eq_some_iff.1 hfound
  cases heq
  have hbefore := List.mem_zipIdx_iff_getElem?.1 (List.mem_of_find?_eq_some hfirst)
  rw [List.getElem?_take] at hbefore
  split at hbefore
  · next hlt => exact ⟨hlt, hbefore, List.mem_zipIdx_iff_getElem?.1 hitem⟩
  · cases hbefore

/-- A look-up does not depend on what else is known of the items. -/
theorem duplicates_map (f : γ → β) (owners : List (α × γ)) (l : List γ) :
    duplicates key (owners.map fun owner => (owner.1, f owner.2)) (l.map f) =
      (duplicates (fun c => key (f c)) owners l).map fun found => (f found.1, f found.2) := by
  have hlookup (owners : List (α × γ)) (k : α) :
      (owners.map fun owner => (owner.1, f owner.2)).lookup k = (owners.lookup k).map f := by
    induction owners with
    | nil => rfl
    | cons owner rest ih =>
      rw [List.map_cons, List.lookup_cons, List.lookup_cons, ih]
      split <;> rfl
  induction l generalizing owners with
  | nil => rfl
  | cons c rest ih =>
    rw [List.map_cons, duplicates, duplicates, hlookup]
    cases owners.lookup (key (f c)) with
    | some owner => simp [ih]
    | none =>
      have hrest := ih (owners ++ [(key (f c), c)])
      simpa using hrest

variable [LawfulBEq α]

theorem find?_concat {k : α} {done : List β} (b : β) :
    ((done ++ [b]).zipIdx.find? fun first => key first.1 == k) =
      (done.zipIdx.find? fun first => key first.1 == k).or
        (if key b == k then some (b, done.length) else none) := by
  rw [List.zipIdx_append, List.find?_append]
  by_cases hk : key b = k
  · simp [hk]
  · simp [hk]

/-- Where the owners are the first items of the keys so far, exactly the repeats among the rest are
reported. -/
theorem duplicates_after {owners : List (α × (β × Nat))} {done rest : List β}
    (howners : ∀ k, owners.lookup k = done.zipIdx.find? fun first => key first.1 == k) :
    duplicates (fun item => key item.1) owners (rest.zipIdx done.length) =
      (rest.zipIdx done.length).filterMap fun item =>
        (firstBefore key (done ++ rest) item.2 (key item.1)).map fun first => (first, item) := by
  induction rest generalizing owners done with
  | nil => rfl
  | cons b rest ih =>
    have hsplit : done ++ b :: rest = (done ++ [b]) ++ rest := by simp
    have hlength : (done ++ [b]).length = done.length + 1 := by simp
    have hfirst : firstBefore key (done ++ b :: rest) done.length (key b) =
        owners.lookup (key b) := by
      rw [firstBefore, List.take_left, howners]
    rw [List.zipIdx_cons, List.filterMap_cons, duplicates]
    simp only [hfirst]
    cases hlookup : owners.lookup (key b) with
    | some owner =>
      have hkept (k : α) : owners.lookup k =
          (done ++ [b]).zipIdx.find? fun first => key first.1 == k := by
        rw [find?_concat, ← howners]
        by_cases hk : key b = k
        · rw [← hk, hlookup]
          rfl
        · simp [hk]
      have hrest := ih hkept
      rw [hlength, ← hsplit] at hrest
      simp only [Option.map_some, hrest]
    | none =>
      have hkept (k : α) : (owners ++ [(key b, (b, done.length))]).lookup k =
          (done ++ [b]).zipIdx.find? fun first => key first.1 == k := by
        rw [List.lookup_append, find?_concat, ← howners, List.lookup_cons, Bool.beq_comm]
        cases key b == k <;> rfl
      have hrest := ih hkept
      rw [hlength, ← hsplit] at hrest
      simp only [Option.map_none, hrest]

/-- The loop over a list finds its repeats, each with the first item of its key. -/
theorem duplicates_zipIdx (l : List β) :
    duplicates (fun item => key item.1) [] l.zipIdx = repeats key l := by
  have hnone (k : α) : ([] : List (α × (β × Nat))).lookup k =
      ([] : List β).zipIdx.find? fun first => key first.1 == k := rfl
  exact duplicates_after hnone

theorem duplicates_eq (l : List β) :
    duplicates key [] l = (repeats key l).map fun found => (found.1.1, found.2.1) := by
  have hmap : duplicates key [] (l.zipIdx.map Prod.fst) =
      (duplicates (fun item => key item.1) [] l.zipIdx).map fun found =>
        (found.1.1, found.2.1) := duplicates_map Prod.fst [] l.zipIdx
  rwa [List.zipIdx_map_fst, duplicates_zipIdx] at hmap

end Owners

/-! ## How many are reported -/

section Count

variable [DecidableEq α]

/-- Every item is either reported or the first of its key, so the reports and the keys add up to the
list. -/
theorem length_duplicates_after (owners : List (α × β)) (l : List β) :
    (duplicates key owners l).length + (owners.map Prod.fst ++ l.map key).toFinset.card =
      l.length + (owners.map Prod.fst).toFinset.card := by
  induction l generalizing owners with
  | nil => simp [duplicates]
  | cons b rest ih =>
    have hkeys : (owners.map Prod.fst ++ (b :: rest).map key).toFinset =
        insert (key b) (owners.map Prod.fst ++ rest.map key).toFinset := by
      ext k
      simp
    unfold duplicates
    -- A key that has an owner adds a report and no key, a new one adds a key and no report.
    cases hlookup : owners.lookup (key b) with
    | some owner =>
      obtain ⟨before, after, heq, -⟩ := List.lookup_eq_some_iff.1 hlookup
      have hmem : key b ∈ (owners.map Prod.fst ++ rest.map key).toFinset := by
        simp [heq]
      have hrest := ih owners
      rw [hkeys, Finset.insert_eq_of_mem hmem]
      simp only [List.length_cons]
      omega
    | none =>
      have hnew : key b ∉ (owners.map Prod.fst).toFinset := by
        rw [List.mem_toFinset, List.mem_map]
        rintro ⟨owner, howner, hkey⟩
        have hne := List.lookup_eq_none_iff.1 hlookup owner howner
        simp [hkey] at hne
      have hrest := ih (owners ++ [(key b, b)])
      have hcard : ((owners ++ [(key b, b)]).map Prod.fst).toFinset.card =
          (owners.map Prod.fst).toFinset.card + 1 := by
        rw [← Finset.card_insert_of_notMem hnew]
        congr 1
        ext k
        simp
      have hall : (owners.map Prod.fst ++ (b :: rest).map key) =
          (owners ++ [(key b, b)]).map Prod.fst ++ rest.map key := by simp
      rw [hall]
      simp only [List.length_cons]
      omega

/-- As many items are reported as there are beyond the first of each key. -/
theorem length_duplicates (l : List β) :
    (duplicates key [] l).length + (l.map key).toFinset.card = l.length := by
  have hcount : (duplicates key [] l).length + ([] ++ l.map key).toFinset.card =
      l.length + 0 := length_duplicates_after [] l
  rwa [List.nil_append] at hcount

end Count

end Unique

/-! ## Names and variables -/

/-- The errors tell of each repeat of a key, in order: one less for each key than it has items. -/
structure Unique.TellRepeats {α β : Type} [DecidableEq α] (key : β → α) (l : List β)
    (message : (β × Nat) × (β × Nat) → String) (errors : List String) : Prop where
  errors_eq : errors = (repeats key l).map message
  length_add : errors.length + (l.map key).toFinset.card = l.length
  eq_nil_iff : errors = [] ↔ (l.map key).Nodup

theorem Unique.tellRepeats {α β : Type} [DecidableEq α] {key : β → α} {l : List β}
    {message : (β × Nat) × (β × Nat) → String} {errors : List String}
    (h : errors = (repeats key l).map message) : TellRepeats key l message errors := by
  have hlength : errors.length = (duplicates key [] l).length := by
    rw [h, duplicates_eq, List.length_map, List.length_map]
  refine ⟨h, ?_, ?_⟩
  · rw [hlength, length_duplicates]
  · rw [← List.length_eq_zero_iff, hlength, List.length_eq_zero_iff, duplicates_eq_nil_iff]

/-- What is told of a name that an earlier declaration has: both their places. -/
def repeatedNameText : (Declaration × Nat) × (Declaration × Nat) → String
  | ((_, i), (d, j)) =>
    "Duplicate variable name '" ++ d.name ++ "' (entries " ++ toString i ++ " and " ++
      toString j ++ ")"

/-- What is told of a variable that an earlier declaration is about: both their addresses. -/
def repeatedVariableText : (Declaration × Nat) × (Declaration × Nat) → String
  | ((first, _), (d, _)) =>
    "Duplicate variable '" ++ d.parameters.key ++ "' (scope '" ++
      d.parameters.effectiveScope ++ "') in project " ++
      projectText d.parameters.projectId ++ ": found in both " ++ first.address ++ " and " ++
      d.address

/-- The errors for names are the texts of the repeats of a name. -/
theorem duplicateNameErrors_eq (ds : List Declaration) :
    duplicateNameErrors ds = (Unique.repeats Declaration.name ds).map repeatedNameText := by
  rw [← Unique.duplicates_zipIdx]
  rfl

/-- Two declarations at different places have different addresses if all names differ. -/
theorem address_ne_of_mem_repeats {ds : List Declaration} (hnames : (ds.map Declaration.name).Nodup)
    {a b : Declaration} {i j : Nat}
    (h : ((a, i), (b, j)) ∈ Unique.repeats Declaration.identity ds) : a.address ≠ b.address := by
  obtain ⟨hlt, ha, hb⟩ := Unique.mem_repeats h
  intro heq
  have hname : (ds.map Declaration.name)[i]? = (ds.map Declaration.name)[j]? := by
    rw [List.getElem?_map, List.getElem?_map, ha, hb]
    exact congrArg some (address_inj heq)
  have hi : i < (ds.map Declaration.name).length := by
    rw [List.length_map]
    exact (List.getElem?_eq_some_iff.1 ha).1
  have hij := (List.getElem?_inj hi hnames).1 hname
  omega

/-- If names are distinct, the errors for variables are the texts of the repeats of an identity. -/
theorem duplicateVariableErrors_eq {ds : List Declaration}
    (hnames : (ds.map Declaration.name).Nodup) :
    duplicateVariableErrors ds =
      (Unique.repeats Declaration.identity ds).map repeatedVariableText := by
  have hall : ∀ found ∈ Unique.duplicates Declaration.identity [] ds,
      (found.1.address != found.2.address) = true := by
    rw [Unique.duplicates_eq]
    intro found hfound
    obtain ⟨⟨⟨a, i⟩, ⟨b, j⟩⟩, hrepeat, rfl⟩ := List.mem_map.1 hfound
    exact bne_iff_ne.2 (address_ne_of_mem_repeats hnames hrepeat)
  unfold duplicateVariableErrors
  rw [List.filter_eq_self.2 hall, Unique.duplicates_eq, List.map_map]
  rfl

/-- Three declarations of one variable: for no environment, for an empty one and for all. -/
def allScopes : List Declaration :=
  [{ name := "a", parameters := { key := "K", projectId := some 1 } },
    { name := "b", parameters := { key := "K", projectId := some 1, scope := some "" } },
    { name := "c", parameters := { key := "K", projectId := some 1, scope := some "*" } }]

end CiVariables
