import CiVariables.Proofs.Checks

/-!
# Reading a recorded declaration again

A change records its declaration as JSON, and carrying it out reads that record. A well-formed
declaration is accepted again with every field as it was; only the labels of its selector may be
spelled differently, since the names of JSON members have to be whole texts
(`Declaration.check_dumpFields`).
-/

namespace CiVariables

open Schema (Checked Source Value)

/-! ## What a record reads back as -/

/-- The selector after its labels have been written and read. -/
def Selector.replayed (s : Selector) : Selector :=
  ⟨(s.labels.map fun (k, v) => (CiVariables.Text.replaceHalves k, v)).foldl
    (fun acc (k, v) => Schema.assign k v acc) []⟩

/-- The parameters after they have been written and read. -/
def Parameters.replayed (p : Parameters) : Parameters :=
  { p with selector := p.selector.map Selector.replayed }

/-- The declaration after it has been written and read. -/
def Declaration.replayed (d : Declaration) : Declaration :=
  { d with parameters := d.parameters.replayed }

/-! ## Pointers -/

theorem SecretSource.check_dump {s : SecretSource} (h : Schema.IsName s.env) (source : Source) :
    SecretSource.check source (Value.ofJson s.dump) = .valid s := by
  have hmember : Schema.required (Value.ofFields [("env", .str s.env)]) "env" Schema.nonemptyText =
      .valid s.env := by
    rw [Schema.required_ofFields (Fields.get?_cons_self ..)]
    simp [Value.ofJson, Schema.nonemptyText_text h]
  unfold SecretSource.check SecretSource.dump
  rw [Value.ofJson, Schema.record, Schema.closed_ofFields (by simp) (by decide), hmember]
  rfl

theorem Reference.check_dump {r : Reference} (h : Schema.IsName r.name) (source : Source) :
    Reference.check source (Value.ofJson r.dump) = .valid r := by
  have hmember : Schema.required (Value.ofFields [("name", .str r.name)]) "name"
      Schema.nonemptyText = .valid r.name := by
    rw [Schema.required_ofFields (Fields.get?_cons_self ..)]
    simp [Value.ofJson, Schema.nonemptyText_text h]
  unfold Reference.check Reference.dump
  rw [Value.ofJson, Schema.record, Schema.closed_ofFields (by simp) (by decide), hmember]
  rfl

theorem Schema.textEntries_text (labels : List (String × String)) :
    Schema.textEntries Schema.text
      (Value.ofFields (labels.map fun (k, v) => (k, Json.str v))) = .valid labels := by
  induction labels with
  | nil => simp [Value.ofFields, Schema.textEntries]
  | cons label rest ih =>
    obtain ⟨k, v⟩ := label
    simp only [List.map_cons, Value.ofFields, Schema.textEntries, Value.ofJson]
    rw [ih]
    simp [Schema.textKey, Schema.text]

theorem Selector.dumpLabels_eq (s : Selector) : dumpLabels s.labels =
    .obj (s.replayed.labels.map fun (k, v) => (k, Json.str v)) := by
  have hmap := Schema.assignOnto_map Json.str []
    (s.labels.map fun (k, v) => (CiVariables.Text.replaceHalves k, v))
  rw [List.map_map] at hmap
  unfold dumpLabels
  rw [Fields.dedup_eq_assignOnto]
  exact congrArg Json.obj hmap

theorem Selector.nodup_replayed (s : Selector) : (s.replayed.labels.map Prod.fst).Nodup := by
  have hnil : (([] : List (String × String)).map Prod.fst).Nodup := .nil
  exact Schema.nodup_assignOnto hnil _

/-- Labels are read back as they are replayed: of names that become one the last counts. -/
theorem Selector.check_dump (s : Selector) (source : Source) :
    Selector.check source (Value.ofJson s.dump) = .valid s.replayed := by
  have hdict : Schema.dict source Schema.text (Value.ofJson (dumpLabels s.labels)) =
      .valid s.replayed.labels := by
    rw [s.dumpLabels_eq, Value.ofJson, Schema.dict, Schema.textEntries_text]
    exact congrArg Checked.valid (Schema.assignOnto_of_nodup s.nodup_replayed)
  have hmember : Schema.optional (Value.ofFields [("match_labels", dumpLabels s.labels)])
      "match_labels" [] (Schema.dict source Schema.text) = .valid s.replayed.labels := by
    rw [Schema.optional_ofFields (Fields.get?_cons_self ..), hdict]
    rfl
  unfold Selector.check Selector.dump
  rw [Value.ofJson, Schema.record, Schema.closed_ofFields (by simp) (by decide), hmember]
  rfl

/-! ## Parameters and declarations -/

/-- A member that is written as null where it is unset, and whose values are accepted. -/
theorem Schema.optional_ofOption {α β : Type} {f : α → Json} {check : Value → Checked β} {g : α → β}
    {fields : Fields} {name : String} (a? : Option α)
    (h : fields.get? name = some (.ofOption f a?)) (hf : ∀ a, f a ≠ .null)
    (hcheck : ∀ a, a? = some a → check (Value.ofJson (f a)) = .valid (g a)) :
    Schema.optional (Value.ofFields fields) name none (Schema.nullable check) =
      .valid (a?.map g) := by
  rw [Schema.optional_ofFields h, Schema.nullable_ofOption hf a? hcheck]
  rfl

theorem Parameters.checkMembers_dumpFields {p : Parameters} (h : p.WellFormed) (source : Source) :
    Parameters.checkMembers source (Value.ofFields p.dumpFields) = .valid p.replayed := by
  have hkey : Schema.required (Value.ofFields p.dumpFields) "key" Schema.nonemptyText =
      .valid p.key := by
    rw [Schema.required_ofFields (j := .str p.key) rfl]
    simp [Value.ofJson, Schema.nonemptyText_text h.key]
  unfold Parameters.checkMembers
  simp only [hkey]
  rw [Schema.optional_ofOption p.value (g := id) rfl (by simp) (by simp),
    Schema.optional_ofOption p.secret (g := id) rfl (by simp [SecretSource.dump])
      (fun s hs => SecretSource.check_dump (h.secret s hs) source),
    Schema.optional_ofOption p.kind (g := id) rfl (by simp) (by simp),
    Schema.optional_ofOption p.isProtected (g := id) rfl (by simp) (by simp),
    Schema.optional_ofOption p.masked (g := id) rfl (by simp) (by simp),
    Schema.optional_ofOption p.scope (g := id) rfl (by simp) (by simp),
    Schema.optional_ofOption p.raw (g := id) rfl (by simp) (by simp),
    Schema.optional_ofOption p.projectId (g := id) rfl (by simp) (by simp),
    Schema.optional_ofOption p.reference (g := id) rfl (by simp [Reference.dump])
      (fun r hr => Reference.check_dump (h.reference r hr) source),
    Schema.optional_ofOption p.selector rfl (by simp [Selector.dump])
      (fun s _ => Selector.check_dump s source)]
  simp [Parameters.replayed]

/-- Well-formed parameters are read back from their record. -/
theorem Parameters.check_dump {p : Parameters} (h : p.WellFormed) (source : Source) :
    Parameters.check source (Value.ofJson p.dump) = .valid p.replayed := by
  unfold Parameters.check Parameters.dump
  rw [Value.ofJson, Schema.record, Schema.closed_ofFields (by simp [dumpFields, memberNames])
    (by decide), checkMembers_dumpFields h]
  rfl

/-- The record of a well-formed declaration is accepted. -/
theorem Declaration.check_dumpFields {d : Declaration} (h : d.WellFormed) (source : Source) :
    Declaration.check source (Value.ofJson (.obj d.dumpFields)) = .valid d.replayed := by
  have hname : Schema.required (Value.ofFields d.dumpFields) "name" Schema.identifier =
      .valid d.name := by
    rw [Schema.required_ofFields (j := .str d.name) rfl, Value.ofJson, Schema.identifier,
      Schema.textWith_text h.name h.name_whole]
    rfl
  have hdescription : Schema.optional (Value.ofFields d.dumpFields) "description" "" Schema.text =
      .valid d.description := by
    rw [Schema.optional_ofFields (j := .str d.description) rfl]
    simp
  have hparameters : Schema.required (Value.ofFields d.dumpFields) "for_provider"
      (Parameters.check source) = .valid d.parameters.replayed := by
    rw [Schema.required_ofFields (j := d.parameters.dump) rfl, Parameters.check_dump h.parameters]
    rfl
  unfold Declaration.check
  rw [Value.ofJson, Schema.record, Schema.closed_ofFields (by simp [dumpFields]) (by decide), hname,
    hdescription, hparameters]
  rfl

end CiVariables
