import CiVariables.Planning
import CiVariables.Proofs.Entry

/-!
# The comparison field by field

`recordDifferences` goes through all fields of a record with their markers. Between a declaration
and an observed variable it comes down to seven fields, each compared where it is set
(`recordDifferences_eq_differing`). Nothing differs exactly where the set fields, written over the
variable, change nothing (`differing_eq_nil_iff`); filling unset fields from the variable itself
does not touch that, and a variable that has been overwritten has nothing that differs.
-/

namespace CiVariables

/-! ## One field -/

/-- The difference of a field that is compared where it is set. -/
def Difference.ofField {α : Type} [DecidableEq α] (name : String) (shown : α → Json)
    (want? : Option α) (seen : α) : Option Difference :=
  match want? with
  | some want => if want = seen then none else some ⟨name, shown seen, shown want⟩
  | none => none

/-- A field shows no difference exactly if it is unset or as it was seen. -/
theorem Difference.ofField_eq_none_iff {α : Type} [DecidableEq α] {name : String} {shown : α → Json}
    {want? : Option α} {seen : α} :
    ofField name shown want? seen = none ↔ want?.getD seen = seen := by
  cases want? with
  | none => simp [ofField]
  | some want => simp [ofField]

/-- A sort of field values that are compared as such: none is skipped, and they are told apart by
what is shown of them. -/
structure Attribute.Comparable {α : Type} [DecidableEq α] (f : α → Attribute) (shown : α → Json) :
    Prop where
  isIgnored : ∀ a, (f a).isIgnored = false
  isUnset : ∀ a, (f a).isUnset = false
  eq_of_isEmpty : ∀ a b, (f a).isEmpty = true → (f b).isEmpty = true → a = b
  shown_eq : ∀ a, (f a).shown = shown a
  beq_shown : ∀ a b, (shown a == shown b) = decide (a = b)

namespace Attribute

theorem comparable_text : Comparable (fun s => .plain (.str s)) Json.str where
  isIgnored _ := rfl
  isUnset _ := rfl
  eq_of_isEmpty a b ha hb := by
    simp only [isEmpty, beq_iff_eq] at ha hb
    rw [ha, hb]
  shown_eq _ := rfl
  beq_shown _ _ := rfl

theorem comparable_bool : Comparable (fun b => .plain (.bool b)) Json.bool where
  isIgnored _ := rfl
  isUnset _ := rfl
  eq_of_isEmpty a b ha hb := by
    simp only [isEmpty, Bool.not_eq_true'] at ha hb
    rw [ha, hb]
  shown_eq _ := rfl
  beq_shown a b := by cases a <;> cases b <;> rfl

theorem comparable_kind : Comparable .kind (fun k => Json.str k.text) where
  isIgnored _ := rfl
  isUnset _ := rfl
  eq_of_isEmpty a b ha := by simp [isEmpty] at ha
  shown_eq _ := rfl
  beq_shown a b := by cases a <;> cases b <;> rfl

end Attribute

/-- The difference of a field whose values can be compared. -/
theorem fieldDifference?_comparable {α : Type} [DecidableEq α] {f : α → Attribute}
    {shown : α → Json} (h : Attribute.Comparable f shown) (name : String) (want? : Option α)
    (seen : α) : fieldDifference? name (.ofOption f want?) (f seen) =
      Difference.ofField name shown want? seen := by
  cases want? with
  | none => simp [fieldDifference?, Attribute.ofOption, Attribute.isUnset, Difference.ofField]
  | some want =>
    have hdiffers : (f want).differs (f seen) = !decide (want = seen) := by
      unfold Attribute.differs
      rw [h.shown_eq, h.shown_eq, h.beq_shown]
    unfold fieldDifference? Attribute.ofOption Difference.ofField
    simp only [h.isIgnored, h.isUnset, hdiffers, h.shown_eq, Bool.or_self, Bool.false_eq_true,
      if_false]
    by_cases heq : want = seen
    · simp [heq]
    · have hempty : ((f want).isEmpty && (f seen).isEmpty) = false := by
        cases hwant : (f want).isEmpty with
        | false => rfl
        | true =>
          cases hseen : (f seen).isEmpty with
          | false => rfl
          | true => exact absurd (h.eq_of_isEmpty _ _ hwant hseen) heq
      simp [heq, hempty]

/-- A pointer is never compared. -/
theorem fieldDifference?_pointer {α : Type} {f : α → Attribute} (h : ∀ a, (f a).isIgnored = true)
    (name : String) (a? : Option α) (seen : Attribute) :
    fieldDifference? name (.ofOption f a?) seen = none := by
  cases a? with
  | none => simp [fieldDifference?, Attribute.ofOption, Attribute.isUnset]
  | some a => simp [fieldDifference?, Attribute.ofOption, h]

/-! ## All fields -/

/-- The differing fields of a declaration and an observed variable, in order. -/
def Parameters.differing (p : Parameters) (o : Observed) : List Difference :=
  [Difference.ofField "key" .str (some p.key) o.key,
    Difference.ofField "value" .str p.value o.value,
    Difference.ofField "variable_type" (fun k => .str k.text) p.kind o.kind,
    Difference.ofField "protected" .bool p.isProtected o.isProtected,
    Difference.ofField "masked" .bool p.masked o.masked,
    Difference.ofField "environment_scope" .str p.scope o.scope,
    Difference.ofField "raw" .bool p.raw o.raw].filterMap id

/-- The fields that are compared. -/
def comparedNames : List String :=
  ["key", "value", "variable_type", "protected", "masked", "environment_scope", "raw"]

/-- A difference comes from a field that is set. -/
theorem Difference.ofField_eq_some {α : Type} [DecidableEq α] {name : String} {shown : α → Json}
    {want? : Option α} {seen : α} {difference : Difference}
    (h : ofField name shown want? seen = some difference) :
    ∃ want, want? = some want ∧ difference = ⟨name, shown seen, shown want⟩ := by
  cases want? with
  | none => cases h
  | some want =>
    simp only [ofField] at h
    split at h
    · cases h
    · cases h
      exact ⟨want, rfl, rfl⟩

theorem Parameters.mem_differing_iff {p : Parameters} {o : Observed} {difference : Difference} :
    difference ∈ p.differing o ↔
      Difference.ofField "key" .str (some p.key) o.key = some difference ∨
      Difference.ofField "value" .str p.value o.value = some difference ∨
      Difference.ofField "variable_type" (fun k => .str k.text) p.kind o.kind = some difference ∨
      Difference.ofField "protected" .bool p.isProtected o.isProtected = some difference ∨
      Difference.ofField "masked" .bool p.masked o.masked = some difference ∨
      Difference.ofField "environment_scope" .str p.scope o.scope = some difference ∨
      Difference.ofField "raw" .bool p.raw o.raw = some difference := by
  unfold differing
  simp [List.mem_filterMap, eq_comm (a := some difference)]

/-- Differences that are each named after a field come in the order of the fields. -/
theorem Difference.names_sublist (fields : List (String × Option Difference))
    (h : ∀ x ∈ fields, ∀ difference, x.2 = some difference → difference.field = x.1) :
    ((fields.filterMap Prod.snd).map Difference.field).Sublist (fields.map Prod.fst) := by
  induction fields with
  | nil => exact .slnil
  | cons x rest ih =>
    obtain ⟨hx, hrest⟩ := List.forall_mem_cons.1 h
    rw [List.map_cons]
    cases hdifference : x.2 with
    | none =>
      rw [List.filterMap_cons_none hdifference]
      exact (ih hrest).cons _
    | some difference =>
      rw [List.filterMap_cons_some hdifference, List.map_cons, hx difference hdifference]
      exact (ih hrest).cons_cons _

/-- The differences are told in the order of the fields, each once. -/
theorem Parameters.names_differing_sublist (p : Parameters) (o : Observed) :
    ((p.differing o).map Difference.field).Sublist comparedNames := by
  have hfield {α : Type} [DecidableEq α] {name : String} {shown : α → Json} {want? : Option α}
      {seen : α} : ∀ difference, Difference.ofField name shown want? seen = some difference →
        difference.field = name := by
    intro difference h
    obtain ⟨want, -, rfl⟩ := Difference.ofField_eq_some h
    rfl
  exact Difference.names_sublist
    [("key", Difference.ofField "key" .str (some p.key) o.key),
      ("value", Difference.ofField "value" .str p.value o.value),
      ("variable_type",
        Difference.ofField "variable_type" (fun k => .str k.text) p.kind o.kind),
      ("protected", Difference.ofField "protected" .bool p.isProtected o.isProtected),
      ("masked", Difference.ofField "masked" .bool p.masked o.masked),
      ("environment_scope", Difference.ofField "environment_scope" .str p.scope o.scope),
      ("raw", Difference.ofField "raw" .bool p.raw o.raw)] (by
    simp only [List.forall_mem_cons]
    exact ⟨hfield, hfield, hfield, hfield, hfield, hfield, hfield, nofun⟩)

/-- The form of an observed variable as parameters, where it has one. -/
def Observed.asParameters (o : Observed) : Parameters :=
  { key := o.key, value := some o.value, kind := some o.kind, isProtected := some o.isProtected
    masked := some o.masked, scope := some o.scope, raw := some o.raw }

/-- A variable whose key is a name has a form as parameters. -/
theorem Observed.toParameters_of_key {o : Observed} (h : Schema.IsName o.key) :
    o.toParameters = .valid o.asParameters := by
  unfold toParameters
  rw [Schema.nonemptyText_text h]
  rfl

theorem Observed.toParameters_eq_valid {o : Observed} {q : Parameters}
    (h : o.toParameters = .valid q) : q = o.asParameters := by
  unfold toParameters at h
  obtain ⟨key, hkey, rfl⟩ := Schema.Checked.map_eq_valid_iff.1 h
  rw [Schema.nonemptyText_text_eq_valid (Schema.Checked.under_eq_valid_iff.1 hkey)]
  rfl

/-- The comparison over all fields and markers is the one of seven fields. -/
theorem recordDifferences_eq_differing (p : Parameters) (o : Observed) :
    recordDifferences p.record o.asParameters.record = p.differing o := by
  let ofText := Attribute.ofOption fun s => .plain (.str s)
  let ofBool := Attribute.ofOption fun b => .plain (.bool b)
  -- The project number is marked as never compared; the other ten fields are looked at.
  have hfields : recordDifferences p.record o.asParameters.record =
      [fieldDifference? "key" (ofText (some p.key)) (.plain (.str o.key)),
        fieldDifference? "value" (ofText p.value) (.plain (.str o.value)),
        fieldDifference? "value_secret_ref" (.ofOption .secret p.secret) (.plain .null),
        fieldDifference? "variable_type" (.ofOption .kind p.kind) (.kind o.kind),
        fieldDifference? "protected" (ofBool p.isProtected) (.plain (.bool o.isProtected)),
        fieldDifference? "masked" (ofBool p.masked) (.plain (.bool o.masked)),
        fieldDifference? "environment_scope" (ofText p.scope) (.plain (.str o.scope)),
        fieldDifference? "raw" (ofBool p.raw) (.plain (.bool o.raw)),
        fieldDifference? "project_id_ref" (.ofOption .reference p.reference) (.plain .null),
        fieldDifference? "project_id_selector" (.ofOption .selector p.selector)
          (.plain .null)].filterMap id := rfl
  rw [hfields, fieldDifference?_comparable Attribute.comparable_text,
    fieldDifference?_comparable Attribute.comparable_text,
    fieldDifference?_pointer (fun _ => rfl),
    fieldDifference?_comparable Attribute.comparable_kind,
    fieldDifference?_comparable Attribute.comparable_bool,
    fieldDifference?_comparable Attribute.comparable_bool,
    fieldDifference?_comparable Attribute.comparable_text,
    fieldDifference?_comparable Attribute.comparable_bool,
    fieldDifference?_pointer (fun _ => rfl), fieldDifference?_pointer (fun _ => rfl)]
  rfl

/-! ## Nothing differs -/

/-- Nothing differs exactly where writing the set fields over the variable changes nothing. -/
theorem differing_eq_nil_iff {p : Parameters} {o : Observed} :
    p.differing o = [] ↔ p.key = o.key ∧ o.overwrite p = o := by
  obtain ⟨key, value, kind, isProtected, masked, scope, raw⟩ := o
  unfold Parameters.differing Observed.overwrite
  simp only [List.filterMap_eq_nil_iff, List.forall_mem_cons, id_eq, Difference.ofField_eq_none_iff,
    Option.getD_some, Observed.mk.injEq]
  simp

/-- Filling unset fields from a variable does not change what is written over it. -/
theorem Observed.overwrite_lateInitialize (o : Observed) (p : Parameters) :
    o.overwrite (p.lateInitialize (some o)) = o.overwrite p := by
  unfold overwrite Parameters.lateInitialize
  simp only [Option.getD_or, Option.getD_some]

/-- Filling an unset field with what was seen adds no difference. -/
theorem Difference.ofField_or {α : Type} [DecidableEq α] (name : String) (shown : α → Json)
    (want? : Option α) (seen : α) :
    ofField name shown (want?.or (some seen)) seen = ofField name shown want? seen := by
  cases want? with
  | none => simp [ofField]
  | some want => rfl

/-- Filling unset fields from a variable does not change what differs from it. -/
theorem differing_lateInitialize (p : Parameters) (o : Observed) :
    (p.lateInitialize (some o)).differing o = p.differing o := by
  unfold Parameters.differing Parameters.lateInitialize
  simp only [Difference.ofField_or]

/-- Nothing differs from a variable that the set fields have been written over. -/
theorem differing_overwrite {p : Parameters} {o : Observed} (h : p.key = o.key) :
    p.differing (o.overwrite p) = [] := by
  rw [differing_eq_nil_iff]
  refine ⟨h, ?_⟩
  have hgetD {α : Type} (a? : Option α) (a : α) : a?.getD (a?.getD a) = a?.getD a := by
    cases a? <;> rfl
  unfold Observed.overwrite
  simp only [hgetD]

/-! ## What is planned -/

/-- A comparison keeps the variable exactly if nothing differs. -/
theorem Planning.action_comparison (d : Declaration) (o : Observed) :
    (comparison d o o.asParameters).action =
      if d.parameters.differing o = [] then .keep else .update := by
  unfold comparison
  simp only [recordDifferences_eq_differing, differing_lateInitialize, List.isEmpty_iff]

theorem Planning.diff_comparison (d : Declaration) (o : Observed) :
    (comparison d o o.asParameters).diff =
      if d.parameters.differing o = [] then none
      else some (Difference.dumpAll (d.parameters.differing o)) := by
  unfold comparison
  simp only [recordDifferences_eq_differing, differing_lateInitialize, List.isEmpty_iff]

end CiVariables
