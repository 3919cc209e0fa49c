import CiVariables.Json.Basic

/-!
# Members of JSON objects

What the operations on the members of an object do to the member of a name, and when a value is the
same as a text or a number. Overwriting several members in turn is read off at each name: the newer
value where there is one, the older one elsewhere (`Fields.get?_update`).
-/

namespace CiVariables

namespace Fields

/-! ## The member of a name -/

@[simp] theorem get?_nil (name : String) : get? [] name = none := rfl

theorem get?_cons (k : String) (v : Json) (rest : Fields) (name : String) :
    get? ((k, v) :: rest) name = if name = k then some v else get? rest name := by
  unfold get?
  rw [List.lookup_cons]
  by_cases h : name = k
  · simp [h]
  · have hb : (name == k) = false := by simpa using h
    simp [h, hb]

theorem get?_cons_self (k : String) (v : Json) (rest : Fields) :
    get? ((k, v) :: rest) k = some v := by
  rw [get?_cons, if_pos rfl]

theorem get?_eq_none {fields : Fields} {name : String} (h : name ∉ fields.map Prod.fst) :
    get? fields name = none := by
  induction fields with
  | nil => rfl
  | cons field rest ih =>
    obtain ⟨k, v⟩ := field
    simp only [List.map_cons, List.mem_cons, not_or] at h
    rw [get?_cons, if_neg h.1]
    exact ih h.2

theorem get?_ne_none {fields : Fields} {name : String} (h : name ∈ fields.map Prod.fst) :
    get? fields name ≠ none := by
  induction fields with
  | nil => cases h
  | cons field rest ih =>
    obtain ⟨k, v⟩ := field
    rw [get?_cons]
    by_cases hk : name = k
    · simp [hk]
    · rw [if_neg hk]
      exact ih ((List.mem_cons.1 h).resolve_left hk)

/-- A member that is set is found, and the others as before. -/
theorem get?_set (fields : Fields) (k : String) (v : Json) (name : String) :
    get? (fields.set k v) name = if name = k then some v else get? fields name := by
  induction fields with
  | nil => rw [set, get?_cons]
  | cons field rest ih =>
    obtain ⟨l, w⟩ := field
    by_cases hl : l = k
    · subst hl
      rw [set, if_pos rfl, get?_cons, get?_cons]
      by_cases hn : name = l <;> simp [hn]
    · rw [set, if_neg hl, get?_cons, get?_cons, ih]
      by_cases hn : name = l
      · subst hn
        simp [hl]
      · simp [hn]

/-- Members with different names are overwritten as if all at once. -/
theorem get?_update {newer : Fields} (h : (newer.map Prod.fst).Nodup) (fields : Fields)
    (name : String) :
    get? (fields.update newer) name = (get? newer name).or (get? fields name) := by
  induction newer generalizing fields with
  | nil => rfl
  | cons field rest ih =>
    obtain ⟨k, v⟩ := field
    obtain ⟨hk, hrest⟩ := List.nodup_cons.1 h
    have step : fields.update ((k, v) :: rest) = (fields.set k v).update rest := rfl
    rw [step, ih hrest, get?_set, get?_cons]
    by_cases hn : name = k
    · subst hn
      rw [get?_eq_none hk]
      simp
    · simp [hn]

/-- A member that is erased is not found, and the others as before. -/
theorem get?_erase (fields : Fields) (k name : String) :
    get? (fields.erase k) name = if name = k then none else get? fields name := by
  induction fields with
  | nil => simp [erase]
  | cons field rest ih =>
    obtain ⟨l, w⟩ := field
    unfold erase at ih ⊢
    by_cases hl : l = k
    · subst hl
      rw [List.filter_cons_of_neg (by simp), ih, get?_cons]
      by_cases hn : name = l <;> simp [hn]
    · have hb : (l != k) = true := by simpa using hl
      rw [List.filter_cons_of_pos (by simp [hb]), get?_cons, ih, get?_cons]
      by_cases hn : name = l
      · subst hn
        simp [hl]
      · simp [hn]

/-! ## Members that are not null -/

/-- A null value counts as none. -/
def present? : Option Json → Option Json
  | some .null => none
  | j => j

theorem dropNull_cons_null (k : String) (rest : Fields) :
    dropNull ((k, .null) :: rest) = dropNull rest := rfl

theorem dropNull_cons {v : Json} (hv : v ≠ .null) (k : String) (rest : Fields) :
    dropNull ((k, v) :: rest) = (k, v) :: dropNull rest := by
  cases v with
  | null => exact absurd rfl hv
  | _ => rfl

theorem mem_dropNull_iff {fields : Fields} {field : String × Json} :
    field ∈ dropNull fields ↔ field ∈ fields ∧ field.2 ≠ .null := by
  obtain ⟨k, v⟩ := field
  unfold dropNull
  rw [List.mem_filter]
  cases v <;> simp

theorem names_dropNull_sublist (fields : Fields) :
    ((dropNull fields).map Prod.fst).Sublist (fields.map Prod.fst) :=
  List.filter_sublist.map _

theorem nodup_dropNull {fields : Fields} (h : (fields.map Prod.fst).Nodup) :
    ((dropNull fields).map Prod.fst).Nodup :=
  h.sublist (names_dropNull_sublist fields)

/-- Dropping null members leaves what is present. -/
theorem get?_dropNull {fields : Fields} (h : (fields.map Prod.fst).Nodup) (name : String) :
    get? (dropNull fields) name = present? (get? fields name) := by
  induction fields with
  | nil => rfl
  | cons field rest ih =>
    obtain ⟨k, v⟩ := field
    obtain ⟨hk, hrest⟩ := List.nodup_cons.1 h
    by_cases hv : v = .null
    · subst hv
      rw [dropNull_cons_null, ih hrest, get?_cons]
      by_cases hn : name = k
      · subst hn
        rw [get?_eq_none hk, if_pos rfl]
        rfl
      · rw [if_neg hn]
    · rw [dropNull_cons hv, get?_cons, get?_cons, ih hrest]
      by_cases hn : name = k
      · rw [if_pos hn, if_pos hn]
        cases v with
        | null => exact absurd rfl hv
        | _ => rfl
      · rw [if_neg hn, if_neg hn]

/-- A field that is written as null where it is unset is present exactly where it is set. -/
theorem present?_ofOption {α : Type} {f : α → Json} (hf : ∀ a, f a ≠ .null) (a? : Option α) :
    present? (some (.ofOption f a?)) = a?.map f := by
  cases a? with
  | none => rfl
  | some a =>
    show present? (some (f a)) = some (f a)
    have ha := hf a
    cases hj : f a with
    | null => exact absurd hj ha
    | _ => rfl

end Fields

/-! ## Being the same value -/

namespace Json

theorem sameValue_str_iff {j : Json} {s : String} : sameValue j (.str s) = true ↔ j = .str s := by
  cases j <;> simp [sameValue, numeric?]

/-- A number equals at most one integer. -/
theorem sameNumber_int_unique {x : Int ⊕ Double} {n m : Int} (hn : sameNumber x (.inl n) = true)
    (hm : sameNumber x (.inl m) = true) : n = m := by
  cases x with
  | inl a =>
    simp only [sameNumber, beq_iff_eq] at hn hm
    exact hn.symm.trans hm
  | inr d =>
    simp only [sameNumber, beq_iff_eq] at hn hm
    exact Option.some.inj (hn.symm.trans hm)

/-- A value is the same as at most one integer. -/
theorem sameValue_int_unique {j : Json} {n m : Int} (hn : sameValue j (.int n) = true)
    (hm : sameValue j (.int m) = true) : n = m := by
  cases j with
  | null | str | arr | obj => simp [sameValue, numeric?] at hn
  | bool b =>
    simp only [sameValue, numeric?] at hn hm
    exact sameNumber_int_unique hn hm
  | int a =>
    simp only [sameValue, numeric?] at hn hm
    exact sameNumber_int_unique hn hm
  | float x =>
    simp only [sameValue, numeric?] at hn hm
    exact sameNumber_int_unique hn hm

theorem sameValue_int_self (n : Int) : sameValue (.int n) (.int n) = true := by
  simp [sameValue, numeric?, sameNumber]

/-- Whether a value is the same as an integer does not depend on which is asked first. -/
theorem sameValue_int_comm (j : Json) (n : Int) :
    sameValue (.int n) j = sameValue j (.int n) := by
  cases j with
  | null | str | arr | obj => simp [sameValue, numeric?]
  | bool b =>
    simp only [sameValue, numeric?, sameNumber]
    exact BEq.comm
  | int a =>
    simp only [sameValue, numeric?, sameNumber]
    exact BEq.comm
  | float x => simp only [sameValue, numeric?, sameNumber]

theorem sameValue_str_comm (j : Json) (s : String) :
    sameValue (.str s) j = sameValue j (.str s) := by
  cases j with
  | str t =>
    simp only [sameValue]
    exact BEq.comm
  | null | bool | int | float | arr | obj => simp [sameValue, numeric?]

end Json

end CiVariables
