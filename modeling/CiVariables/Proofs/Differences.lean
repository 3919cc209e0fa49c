import CiVariables.Proofs.Comparison
import CiVariables.Proofs.Requests

/-!
# What a comparison says

The comparison of a declaration with a variable lists the set fields that differ, no others, in the
order of the fields (`differences_exact`). It takes no notice of whether unset fields have been
filled from the variable (`lateInitialize_settles`), and what it lists is what an update changes
(`update_changes_what_differs`).
-/

namespace CiVariables

open Schema (Checked Source Value)

/-! ## One field -/

/-- A sort of values that are told from null, and are empty where they are shown as the empty text
or as false. -/
structure Attribute.Legible {α : Type} [DecidableEq α] (f : α → Attribute) (shown : α → Json) : Prop
    extends Attribute.Comparable f shown where
  beq_null : ∀ a, (shown a == .null) = false
  isEmpty_iff : ∀ a, (f a).isEmpty = true ↔ shown a = .str "" ∨ shown a = .bool false

namespace Attribute

theorem legible_text : Legible (fun s => .plain (.str s)) Json.str where
  toComparable := comparable_text
  beq_null _ := rfl
  isEmpty_iff s := by simp [isEmpty]

theorem legible_bool : Legible (fun b => .plain (.bool b)) Json.bool where
  toComparable := comparable_bool
  beq_null _ := rfl
  isEmpty_iff b := by simp [isEmpty]

theorem legible_kind : Legible .kind (fun k => Json.str k.text) where
  toComparable := comparable_kind
  beq_null _ := rfl
  isEmpty_iff k := by cases k <;> simp [isEmpty, VariableKind.text]

variable {α : Type} [DecidableEq α] {f : α → Attribute} {shown : α → Json}

/-- A legible value is not null. -/
theorem Legible.ne_null (h : Legible f shown) (a : α) : shown a ≠ .null := by
  intro hnull
  have hbeq := h.beq_null a
  rw [hnull] at hbeq
  cases hbeq

/-- Distinct values are shown differently. -/
theorem Comparable.injective (h : Comparable f shown) : Function.Injective shown := by
  intro a b heq
  have hbeq : (shown a == shown b) = (shown a == shown a) := by rw [heq]
  rw [h.beq_shown, h.beq_shown] at hbeq
  simpa using hbeq

end Attribute

/-- A value that is set differs from nothing unless it is empty. -/
theorem fieldDifference?_absent {α : Type} [DecidableEq α] {f : α → Attribute} {shown : α → Json}
    (h : Attribute.Legible f shown) (name : String) (want : α) :
    fieldDifference? name (f want) (.plain .null) =
      if (f want).isEmpty then none else some ⟨name, .null, shown want⟩ := by
  have hdiffers : (f want).differs (.plain .null) = true := by
    unfold Attribute.differs
    rw [h.shown_eq]
    exact congrArg not (h.beq_null want)
  have hempty : (Attribute.plain .null).isEmpty = true := rfl
  have hignored : (Attribute.plain .null).isIgnored = false := rfl
  have hnull : (Attribute.plain .null).shown = .null := rfl
  simp [fieldDifference?, h.isIgnored, hignored, h.isUnset, hempty, hdiffers, h.shown_eq, hnull]

/-- A difference is told from another value or, where there is none, from nothing. An empty value
is not told from nothing. -/
def Difference.Contrasts (difference : Difference) (seen? : Option Json) : Prop :=
  match seen? with
  | some seen => difference.before = seen ∧ seen ≠ difference.after
  | none =>
    difference.before = .null ∧ difference.after ≠ .str "" ∧ difference.after ≠ .bool false

/-- When a field differs, and from what to what. -/
theorem fieldDifference?_eq_some_iff {α : Type} [DecidableEq α] {f : α → Attribute}
    {shown : α → Json} (h : Attribute.Legible f shown) {name : String} {want? seen? : Option α}
    {difference : Difference} :
    fieldDifference? name (.ofOption f want?) (.ofOption f seen?) = some difference ↔
      difference.field = name ∧ difference.after = .ofOption shown want? ∧
        difference.after ≠ .null ∧ difference.Contrasts (seen?.map shown) := by
  obtain ⟨field, before, after⟩ := difference
  cases want? with
  | none =>
    have hnone : fieldDifference? name (.ofOption f none) (.ofOption f seen?) = none := by
      simp [fieldDifference?, Attribute.ofOption, Attribute.isUnset]
    simp only [hnone, Json.ofOption, reduceCtorEq, false_iff]
    rintro ⟨-, hnull, hne, -⟩
    exact hne hnull
  | some want =>
    cases seen? with
    | some seen =>
      have hfield := fieldDifference?_comparable h.toComparable name (some want) seen
      rw [Attribute.ofOption] at hfield
      simp only [Attribute.ofOption, hfield, Difference.ofField, Json.ofOption, Option.map_some,
        Difference.Contrasts]
      by_cases heq : want = seen
      · simp only [heq, if_true, reduceCtorEq, false_iff]
        rintro ⟨-, rfl, -, -, hne⟩
        exact hne rfl
      · simp only [if_neg heq, Option.some.injEq, Difference.mk.injEq]
        constructor
        · rintro ⟨rfl, rfl, rfl⟩
          exact ⟨rfl, rfl, h.ne_null want, rfl, fun hshown => heq (h.injective hshown).symm⟩
        · rintro ⟨rfl, rfl, -, rfl, -⟩
          exact ⟨rfl, rfl, rfl⟩
    | none =>
      simp only [Attribute.ofOption, fieldDifference?_absent h, Json.ofOption, Option.map_none,
        Difference.Contrasts]
      -- Beside a variable that does not exist, an empty value is no difference.
      by_cases hempty : (f want).isEmpty = true
      · simp only [if_pos hempty, reduceCtorEq, false_iff]
        rintro ⟨-, rfl, -, -, htext, hfalse⟩
        exact ((h.isEmpty_iff want).1 hempty).elim htext hfalse
      · simp only [if_neg hempty, Option.some.injEq, Difference.mk.injEq]
        constructor
        · rintro ⟨rfl, rfl, rfl⟩
          exact ⟨rfl, rfl, h.ne_null want, rfl, not_or.1 (mt (h.isEmpty_iff want).2 hempty)⟩
        · rintro ⟨rfl, rfl, -, rfl, -⟩
          exact ⟨rfl, rfl, rfl⟩

/-! ## All fields -/

namespace Parameters

/-- The differences of the fields that are compared, by name, with a variable if there is one. -/
def comparedFields (p : Parameters) (o? : Option Observed) : List (String × Option Difference) :=
  let text := Attribute.ofOption fun s => .plain (.str s)
  let bool := Attribute.ofOption fun b => .plain (.bool b)
  let kind := Attribute.ofOption Attribute.kind
  [("key", fieldDifference? "key" (text (some p.key)) (text (o?.map (·.key)))),
    ("value", fieldDifference? "value" (text p.value) (text (o?.map (·.value)))),
    ("variable_type", fieldDifference? "variable_type" (kind p.kind) (kind (o?.map (·.kind)))),
    ("protected", fieldDifference? "protected" (bool p.isProtected)
      (bool (o?.map (·.isProtected)))),
    ("masked", fieldDifference? "masked" (bool p.masked) (bool (o?.map (·.masked)))),
    ("environment_scope", fieldDifference? "environment_scope" (text p.scope)
      (text (o?.map (·.scope)))),
    ("raw", fieldDifference? "raw" (bool p.raw) (bool (o?.map (·.raw))))]

variable (p : Parameters) (o? : Option Observed)

end Parameters

/-- What a declaration is compared with. -/
def Observed.comparedRecord (o? : Option Observed) : Record :=
  o?.elim [] fun o => o.asParameters.record

/-- A difference with a variable that is there starts from what it shows; with one that is not, from
nothing, and does not end at an empty value. -/
def Difference.StartsFrom (difference : Difference) : Option Observed → Prop
  | some o =>
    o.dumpFields.get? difference.field = some difference.before ∧
      difference.before ≠ difference.after
  | none =>
    difference.before = .null ∧ difference.after ≠ .str "" ∧ difference.after ≠ .bool false

/-- The difference of a declaration and a variable in a compared field that is set. -/
structure Difference.Tells (p : Parameters) (o? : Option Observed) (difference : Difference) :
    Prop where
  compared : difference.field ∈ comparedNames
  after : p.dumpFields.get? difference.field = some difference.after
  isSet : difference.after ≠ .null
  before : difference.StartsFrom o?

theorem Difference.startsFrom_iff_contrasts {difference : Difference} {o? : Option Observed}
    (h : difference.field ∈ comparedNames) :
    difference.StartsFrom o? ↔
      difference.Contrasts (o?.bind fun o => o.dumpFields.get? difference.field) := by
  cases o? with
  | none => rfl
  | some o =>
    obtain ⟨seen, hseen⟩ : ∃ seen, o.dumpFields.get? difference.field = some seen :=
      Option.ne_none_iff_exists'.1 (Fields.get?_ne_none h)
    simp only [StartsFrom, Option.bind_some, hseen, Contrasts, Option.some.injEq]
    constructor
    · rintro ⟨rfl, hne⟩
      exact ⟨rfl, hne⟩
    · rintro ⟨rfl, hne⟩
      exact ⟨rfl, hne⟩

namespace Parameters

variable {p : Parameters} {o? : Option Observed} {difference : Difference}

/-- The project number is marked as never compared, and pointers are not compared either. -/
theorem recordDifferences_eq_comparedFields (p : Parameters) (o? : Option Observed) :
    recordDifferences p.record (Observed.comparedRecord o?) =
      (p.comparedFields o?).filterMap Prod.snd := by
  have hfields : recordDifferences p.record (Observed.comparedRecord o?) =
      ((p.comparedFields o?).map Prod.snd |>.insertIdx 2
        (fieldDifference? "value_secret_ref" (.ofOption .secret p.secret) (.plain .null)) |>.append
        [fieldDifference? "project_id_ref" (.ofOption .reference p.reference) (.plain .null),
          fieldDifference? "project_id_selector" (.ofOption .selector p.selector)
            (.plain .null)]).filterMap id := by
    cases o? <;> rfl
  rw [hfields, fieldDifference?_pointer (fun _ => rfl), fieldDifference?_pointer (fun _ => rfl),
    fieldDifference?_pointer (fun _ => rfl)]
  rfl

theorem fieldDifference?_eq_some_iff_tells {α : Type} [DecidableEq α] {f : α → Attribute}
    {shown : α → Json} (h : Attribute.Legible f shown) {name : String} {want? seen? : Option α}
    (hname : name ∈ comparedNames) (hwant : p.dumpFields.get? name = some (.ofOption shown want?))
    (hseen : (o?.bind fun o => o.dumpFields.get? name) = seen?.map shown) :
    fieldDifference? name (.ofOption f want?) (.ofOption f seen?) = some difference ↔
      difference.field = name ∧ difference.Tells p o? := by
  rw [fieldDifference?_eq_some_iff h]
  constructor
  · rintro ⟨rfl, hafter, hset, hcontrasts⟩
    refine ⟨rfl, hname, by rw [hwant, hafter], hset, ?_⟩
    rwa [Difference.startsFrom_iff_contrasts hname, hseen]
  · rintro ⟨rfl, -, hafter, hset, hbefore⟩
    rw [hwant, Option.some.injEq] at hafter
    rw [Difference.startsFrom_iff_contrasts hname, hseen] at hbefore
    exact ⟨rfl, hafter.symm, hset, hbefore⟩

/-- A compared field is told under its name, where it is told at all. -/
theorem eq_some_iff_tells {field : String × Option Difference}
    (hmem : field ∈ p.comparedFields o?) :
    field.2 = some difference ↔ difference.field = field.1 ∧ difference.Tells p o? := by
  unfold comparedFields at hmem
  simp only [List.mem_cons, List.not_mem_nil, or_false] at hmem
  obtain rfl | rfl | rfl | rfl | rfl | rfl | rfl := hmem
  · exact fieldDifference?_eq_some_iff_tells Attribute.legible_text (by decide) rfl
      (by cases o? <;> rfl)
  · exact fieldDifference?_eq_some_iff_tells Attribute.legible_text (by decide) rfl
      (by cases o? <;> rfl)
  · exact fieldDifference?_eq_some_iff_tells Attribute.legible_kind (by decide) rfl
      (by cases o? <;> rfl)
  · exact fieldDifference?_eq_some_iff_tells Attribute.legible_bool (by decide) rfl
      (by cases o? <;> rfl)
  · exact fieldDifference?_eq_some_iff_tells Attribute.legible_bool (by decide) rfl
      (by cases o? <;> rfl)
  · exact fieldDifference?_eq_some_iff_tells Attribute.legible_text (by decide) rfl
      (by cases o? <;> rfl)
  · exact fieldDifference?_eq_some_iff_tells Attribute.legible_bool (by decide) rfl
      (by cases o? <;> rfl)

theorem names_comparedFields (p : Parameters) (o? : Option Observed) :
    (p.comparedFields o?).map Prod.fst = comparedNames := rfl

/-- A difference is listed exactly if it tells of a field. -/
theorem mem_recordDifferences_iff :
    difference ∈ recordDifferences p.record (Observed.comparedRecord o?) ↔
      difference.Tells p o? := by
  rw [recordDifferences_eq_comparedFields, List.mem_filterMap]
  constructor
  · rintro ⟨field, hmem, hdifference⟩
    exact ((eq_some_iff_tells hmem).1 hdifference).2
  · intro htells
    have hname := htells.compared
    rw [← names_comparedFields p o?, List.mem_map] at hname
    obtain ⟨field, hmem, hname⟩ := hname
    exact ⟨field, hmem, (eq_some_iff_tells hmem).2 ⟨hname.symm, htells⟩⟩

/-- The differences are listed in the order of the fields, each once. -/
theorem names_recordDifferences_sublist (p : Parameters) (o? : Option Observed) :
    ((recordDifferences p.record (Observed.comparedRecord o?)).map Difference.field).Sublist
      comparedNames := by
  rw [recordDifferences_eq_comparedFields, ← names_comparedFields p o?]
  exact Difference.names_sublist _ fun field hmem difference hdifference =>
    ((eq_some_iff_tells hmem).1 hdifference).1

/-- Neither the project nor where the value comes from matters. -/
theorem recordDifferences_withPointers (p : Parameters) (o? : Option Observed)
    (secret : Option SecretSource) (projectId : Option Int) (reference : Option Reference)
    (selector : Option Selector) :
    recordDifferences { p with secret, projectId, reference, selector : Parameters }.record
        (Observed.comparedRecord o?) =
      recordDifferences p.record (Observed.comparedRecord o?) := by
  rw [recordDifferences_eq_comparedFields, recordDifferences_eq_comparedFields]
  rfl

/-- Nothing is there to be up to date with: the key itself is missing. -/
theorem recordDifferences_absent_ne_nil (h : p.key ≠ "") :
    recordDifferences p.record (Observed.comparedRecord none) ≠ [] := by
  have hkey : (⟨"key", .null, .str p.key⟩ : Difference).Tells p none :=
    { compared := List.mem_cons_self
      after := rfl
      isSet := by simp
      before := ⟨rfl, by simpa using h, by simp⟩ }
  exact List.ne_nil_of_mem (mem_recordDifferences_iff.2 hkey)

end Parameters

/-! ## The comparison -/

section Comparison

variable {p : Parameters} {o? : Option Observed}

/-- The differences are those of the two records, if the observed key can be declared. -/
theorem differences_eq_recordDifferences (p : Parameters)
    (ho : ∀ o, o? = some o → Schema.IsName o.key) :
    differences (some p) o? =
      .valid (recordDifferences p.record (Observed.comparedRecord o?)) := by
  cases o? with
  | none => rfl
  | some o =>
    have hform := Observed.toParameters_of_key (ho o rfl)
    simp only [differences, hform]
    rfl

/-- A variable is up to date exactly if nothing differs. -/
theorem isUpToDate_eq_isEmpty {ds : List Difference} (hp : p.key ≠ "")
    (h : differences (some p) o? = .valid ds) :
    isUpToDate (some p) o? = .valid ds.isEmpty := by
  cases o? with
  | none =>
    have hds : recordDifferences p.record (Observed.comparedRecord none) = ds :=
      Checked.valid.inj h
    have hne : ds ≠ [] := hds ▸ Parameters.recordDifferences_absent_ne_nil hp
    rw [List.isEmpty_eq_false_iff.2 hne]
    rfl
  | some o =>
    have hmap : isUpToDate (some p) (some o) =
        (differences (some p) (some o)).map (·.isEmpty) := rfl
    rw [hmap, h]
    rfl

/-- The differences of a declaration and a variable are those of the compared fields that are set,
in the order of the fields, whatever else is declared. Only a variable whose key no declaration can
have cannot be compared. -/
theorem differences_exact {source : Source} {v : Value} {p : Parameters} {o? : Option Observed}
    (hp : Parameters.check source v = .valid p) (ho : ∀ o, o? = some o → Schema.IsName o.key) :
    ∃ ds, differences (some p) o? = .valid ds ∧
      (ds.map Difference.field).Sublist comparedNames ∧
      (∀ difference, difference ∈ ds ↔ difference.Tells p o?) ∧
      (∀ secret projectId reference selector,
        differences (some { p with secret, projectId, reference, selector }) o? = .valid ds) ∧
      isUpToDate (some p) o? = .valid ds.isEmpty := by
  have hkey := (Parameters.wellFormed_of_check hp).key
  have hds := differences_eq_recordDifferences p ho
  refine ⟨_, hds, p.names_recordDifferences_sublist o?,
    fun difference => Parameters.mem_recordDifferences_iff, ?_, isUpToDate_eq_isEmpty hkey.1 hds⟩
  intro secret projectId reference selector
  rw [differences_eq_recordDifferences _ ho, Parameters.recordDifferences_withPointers]

/-- A declaration that protects a variable differs from one that is not protected there only. -/
theorem differences_exact_of_protected :
    Parameters.check .data (.ofJson (.obj [("key", .str "K"), ("protected", .bool true)])) =
        .valid { key := "K", isProtected := some true } ∧
      Schema.IsName "K" ∧
      ∃ ds, differences (some { key := "K", isProtected := some true })
          (some { key := "K", value := "v" }) = .valid ds ∧
        (⟨"protected", .bool false, .bool true⟩ : Difference) ∈ ds ∧
        (∀ difference ∈ ds, difference.field = "protected") ∧
        isUpToDate (some { key := "K", isProtected := some true })
          (some { key := "K", value := "v" }) = .valid false := by
  have hcheck : Parameters.check .data
      (.ofJson (.obj [("key", .str "K"), ("protected", .bool true)])) =
        .valid { key := "K", isProtected := some true } := rfl
  have hname : Schema.IsName "K" := by decide
  have hseen (o : Observed) (ho : some { key := "K", value := "v" } = some o) :
      Schema.IsName o.key := Option.some.inj ho ▸ hname
  obtain ⟨ds, hds, -, hmem, -, hdate⟩ := differences_exact hcheck hseen
  have hlist : ds = [⟨"protected", .bool false, .bool true⟩] := (Checked.valid.inj hds).symm
  have hempty : ds.isEmpty = false := by rw [hlist]; rfl
  refine ⟨hcheck, hname, ds, hds, ?_, ?_, hempty ▸ hdate⟩
  · exact (hmem _).2
      { compared := by decide, after := rfl, isSet := by simp, before := ⟨rfl, by simp⟩ }
  · simp [hlist]

/-- A variable without a key reads, but it cannot be compared with any declaration. -/
theorem not_differences_of_keyless :
    Observed.check .data (.ofJson (.obj [("key", .str "")])) = .valid { key := "" } ∧
      Parameters.check .data (.ofJson (.obj [("key", .str "K")])) = .valid { key := "K" } ∧
      differences (some { key := "K" }) (some { key := "" }) =
        .invalid [⟨[.name "key"], .stringTooShort⟩] ∧
      isUpToDate (some { key := "K" }) (some { key := "" }) =
        .invalid [⟨[.name "key"], .stringTooShort⟩] :=
  ⟨rfl, rfl, rfl, rfl⟩

end Comparison

/-! ## After late initialization -/

theorem differences_eq_differing (p : Parameters) (o : Observed) :
    differences (some p) (some o) = o.toParameters.map fun _ => p.differing o := by
  unfold differences
  cases hform : o.toParameters with
  | invalid issues => simp only [hform, Checked.map]
  | valid q =>
    simp only [hform, Checked.map, Observed.toParameters_eq_valid hform,
      recordDifferences_eq_differing]

/-- Fields that a variable fills are neither seen by the comparison with it nor filled again: the
set fields stay, and the five that the service fills take its values where they are unset. -/
theorem lateInitialize_settles (p : Parameters) (o : Observed) :
    p.lateInitialize (some o) =
        { p with
          kind := some (p.kind.getD o.kind)
          isProtected := some (p.isProtected.getD o.isProtected)
          masked := some (p.masked.getD o.masked)
          scope := some (p.scope.getD o.scope)
          raw := some (p.raw.getD o.raw) } ∧
      differences (some (p.lateInitialize (some o))) (some o) = differences (some p) (some o) ∧
      isUpToDate (some (p.lateInitialize (some o))) (some o) = isUpToDate (some p) (some o) ∧
      ∀ later, (p.lateInitialize (some o)).lateInitialize (some later) =
        p.lateInitialize (some o) := by
  have hor {α : Type} (a? : Option α) (a : α) : a?.or (some a) = some (a?.getD a) := by
    cases a? <;> rfl
  have hfilled : p.lateInitialize (some o) =
      { p with
        kind := some (p.kind.getD o.kind)
        isProtected := some (p.isProtected.getD o.isProtected)
        masked := some (p.masked.getD o.masked)
        scope := some (p.scope.getD o.scope)
        raw := some (p.raw.getD o.raw) } := by
    simp only [Parameters.lateInitialize, hor]
  have hdifferences : differences (some (p.lateInitialize (some o))) (some o) =
      differences (some p) (some o) := by
    rw [differences_eq_differing, differences_eq_differing, differing_lateInitialize]
  refine ⟨hfilled, hdifferences, ?_, fun later => ?_⟩
  · exact congrArg (Checked.map List.isEmpty) hdifferences
  · rw [hfilled]
    rfl

/-! ## After an update -/

namespace Observed

variable {p : Parameters} {o : Observed} {name : String}

/-- A field shows what is written over it, and else what it showed. -/
theorem get?_overwrite (hkey : p.key = o.key) (hname : name ∈ comparedNames) :
    (o.overwrite p).dumpFields.get? name =
      (Fields.present? (p.dumpFields.get? name)).or (o.dumpFields.get? name) := by
  have hfield {α : Type} {f : α → Json} (hf : ∀ a, f a ≠ .null) (a? : Option α) (a : α) :
      some (f (a?.getD a)) = (Fields.present? (some (.ofOption f a?))).or (some (f a)) := by
    rw [Fields.present?_ofOption hf]
    cases a? <;> rfl
  simp only [comparedNames, List.mem_cons, List.not_mem_nil, or_false] at hname
  obtain rfl | rfl | rfl | rfl | rfl | rfl | rfl := hname
  · show some (Json.str o.key) = some (Json.str p.key)
    rw [hkey]
  · exact hfield Attribute.legible_text.ne_null p.value o.value
  · exact hfield Attribute.legible_kind.ne_null p.kind o.kind
  · exact hfield Attribute.legible_bool.ne_null p.isProtected o.isProtected
  · exact hfield Attribute.legible_bool.ne_null p.masked o.masked
  · exact hfield Attribute.legible_text.ne_null p.scope o.scope
  · exact hfield Attribute.legible_bool.ne_null p.raw o.raw

/-- What differs shows after it is overwritten as it was declared. -/
theorem get?_overwrite_of_tells {difference : Difference} (hkey : p.key = o.key)
    (h : difference.Tells p (some o)) :
    (o.overwrite p).dumpFields.get? difference.field = some difference.after := by
  rw [get?_overwrite hkey h.compared, h.after]
  have hpresent : Fields.present? (some difference.after) = some difference.after := by
    have hset := h.isSet
    cases hj : difference.after with
    | null => exact absurd hj hset
    | _ => rfl
  rw [hpresent]
  rfl

/-- Only what differs shows otherwise after it is overwritten. -/
theorem get?_overwrite_ne_iff (hkey : p.key = o.key) :
    (o.overwrite p).dumpFields.get? name ≠ o.dumpFields.get? name ↔
      ∃ difference : Difference, difference.Tells p (some o) ∧ difference.field = name := by
  constructor
  · intro hne
    -- A variable shows the compared fields only.
    have hname : name ∈ comparedNames := Decidable.byContradiction fun hname =>
      hne ((Fields.get?_eq_none hname).trans (Fields.get?_eq_none hname).symm)
    rw [get?_overwrite hkey hname] at hne
    obtain ⟨before, hbefore⟩ := Option.ne_none_iff_exists'.1
      (Fields.get?_ne_none hname : o.dumpFields.get? name ≠ none)
    cases hafter : p.dumpFields.get? name with
    | none =>
      rw [hafter] at hne
      exact absurd rfl hne
    | some after =>
      rw [hafter, hbefore] at hne
      refine ⟨⟨name, before, after⟩, ⟨hname, hafter, ?_, hbefore, ?_⟩, rfl⟩
      · rintro rfl
        exact hne rfl
      · intro heq
        have hsame : before = after := heq
        rw [← hsame] at hne
        cases before <;> exact hne rfl
  · rintro ⟨difference, h, rfl⟩
    rw [get?_overwrite_of_tells hkey h, h.before.1]
    exact fun heq => h.before.2 (Option.some.inj heq).symm

end Observed

/-- An update is needed exactly where it would change something, and it changes what differs: the
entry that is overwritten with the request shows the old variable with the differing fields
replaced, and nothing differs from it any more. -/
theorem update_changes_what_differs {source : Source} {v : Value} {p : Parameters} {o : Observed}
    {e : Entry} (hp : Parameters.check source v = .valid p) (hkey : p.key = o.key)
    (he : e.observe = .valid o) :
    ∃ ds o', differences (some (p.lateInitialize (some o))) (some o) = .valid ds ∧
      Entry.observe (Fields.update e (Fields.erase
        (UpdateRequest.ofParameters (p.lateInitialize (some o))).body "filter")) = .valid o' ∧
      (isUpToDate (some (p.lateInitialize (some o))) (some o) = .valid true ↔ o' = o) ∧
      (∀ name, o'.dumpFields.get? name ≠ o.dumpFields.get? name ↔
        name ∈ ds.map Difference.field) ∧
      (∀ difference ∈ ds, o'.dumpFields.get? difference.field = some difference.after) ∧
      isUpToDate (some (p.lateInitialize (some o))) (some o') = .valid true := by
  have hname : Schema.IsName o.key := hkey ▸ (Parameters.wellFormed_of_check hp).key
  obtain ⟨q, hq⟩ : ∃ q, p.lateInitialize (some o) = q := ⟨_, rfl⟩
  have hqkey : q.key = o.key := by rw [← hq]; exact hkey
  rw [hq]
  -- The comparison with a variable of this key, before and after.
  have hcompared (seen : Observed) (hseen : seen.key = o.key) :
      differences (some q) (some seen) = .valid (q.differing seen) := by
    rw [differences_eq_differing, Observed.toParameters_of_key (hseen ▸ hname)]
    rfl
  have hdate (seen : Observed) (hseen : seen.key = o.key) :
      isUpToDate (some q) (some seen) = .valid (q.differing seen).isEmpty :=
    congrArg (Checked.map List.isEmpty) (hcompared seen hseen)
  have hmem (difference : Difference) :
      difference ∈ q.differing o ↔ difference.Tells q (some o) := by
    have hrecord : q.differing o = recordDifferences q.record (Observed.comparedRecord (some o)) :=
      (recordDifferences_eq_differing q o).symm
    rw [hrecord, Parameters.mem_recordDifferences_iff]
  refine ⟨q.differing o, o.overwrite q, hcompared o rfl, ?_, ?_, fun name => ?_,
    fun difference hdifference => ?_, ?_⟩
  · rw [UpdateRequest.erase_filter_body]
    exact Entry.observe_eq_valid_iff.2 ((Entry.observe_eq_valid_iff.1 he).update q)
  · rw [hdate o rfl, Checked.valid.injEq, List.isEmpty_iff, differing_eq_nil_iff]
    exact and_iff_right hqkey
  · rw [Observed.get?_overwrite_ne_iff hqkey]
    simp only [List.mem_map, hmem]
  · exact Observed.get?_overwrite_of_tells hqkey ((hmem difference).1 hdifference)
  · rw [hdate (o.overwrite q) rfl, differing_overwrite hqkey]
    rfl

/-- An update that masks a variable and empties its value leaves it so, and is not needed again. -/
theorem update_changes_what_differs_of_masked :
    Parameters.check .data
        (.ofJson (.obj [("key", .str "K"), ("value", .str ""), ("masked", .bool true)])) =
      .valid { key := "K", value := some "", masked := some true } ∧
    Entry.observe [("key", .str "K"), ("value", .str "v")] = .valid { key := "K", value := "v" } ∧
    ∃ o', Entry.observe (Fields.update [("key", .str "K"), ("value", .str "v")] (Fields.erase
        (UpdateRequest.ofParameters (Parameters.lateInitialize
          { key := "K", value := some "", masked := some true }
          (some { key := "K", value := "v" }))).body "filter")) = .valid o' ∧
      o'.dumpFields.get? "value" = some (.str "") ∧
      o'.dumpFields.get? "masked" = some (.bool true) ∧
      isUpToDate (some (Parameters.lateInitialize
        { key := "K", value := some "", masked := some true }
        (some { key := "K", value := "v" }))) (some o') = .valid true := by
  have hcheck : Parameters.check .data
      (.ofJson (.obj [("key", .str "K"), ("value", .str ""), ("masked", .bool true)])) =
        .valid { key := "K", value := some "", masked := some true } := rfl
  have hobserve : Entry.observe [("key", .str "K"), ("value", .str "v")] =
      .valid { key := "K", value := "v" } := rfl
  obtain ⟨ds, o', hds, ho', -, -, hafter, hdate⟩ := update_changes_what_differs hcheck rfl hobserve
  have hlist : ds = [⟨"value", .str "v", .str ""⟩, ⟨"masked", .bool false, .bool true⟩] :=
    (Checked.valid.inj hds).symm
  refine ⟨hcheck, hobserve, o', ho', ?_, ?_, hdate⟩
  · exact hafter ⟨"value", .str "v", .str ""⟩ (by simp [hlist])
  · exact hafter ⟨"masked", .bool false, .bool true⟩ (by simp [hlist])

end CiVariables
