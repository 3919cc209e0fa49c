import CiVariables.Remote.Store
import CiVariables.Proofs.Checks

/-!
# What an entry shows

`Entry.observe` is how an entry reads as a variable, and `Entry.Shows` says the same member by
member. Two facts tie requests to it. An entry that is overwritten with the changes of an update
shows the old variable with the set fields replaced (`Entry.Shows.update`), and a created entry
shows the declared fields and the defaults (`Entry.shows_created`). Both follow from one reading of
`Fields.update` at each name.
-/

namespace CiVariables

open Schema (Checked Value)

/-- The variable that the attributes of an entry read as. -/
def Entry.observe (e : Entry) : Checked Observed :=
  Observed.check .data (.ofJson (.obj e.attributes))

/-- The variable with the set fields of parameters. -/
def Observed.overwrite (o : Observed) (p : Parameters) : Observed :=
  { key := o.key
    value := p.value.getD o.value
    kind := p.kind.getD o.kind
    isProtected := p.isProtected.getD o.isProtected
    masked := p.masked.getD o.masked
    scope := p.scope.getD o.scope
    raw := p.raw.getD o.raw }

namespace Entry

/-! ## Members one by one -/

/-- A member reads as a value; one that is not there, as the fallback. -/
def Reads {α : Type} (check : Value → Checked α) (fallback : α) (j? : Option Json) (a : α) : Prop :=
  match j? with
  | some j => check (.ofJson j) = .valid a
  | none => fallback = a

/-- An entry reads as a variable, member by member. -/
structure Shows (e : Entry) (o : Observed) : Prop where
  key : ∃ j, e.get? "key" = some j ∧ Schema.text (.ofJson j) = .valid o.key
  value : Reads Observed.checkValue "" (e.get? "value") o.value
  kind : Reads VariableKind.check .envVar (e.get? "variable_type") o.kind
  isProtected : Reads Schema.bool false (e.get? "protected") o.isProtected
  masked : Reads Schema.bool false (e.get? "masked") o.masked
  scope : Reads Schema.text "*" (e.get? "environment_scope") o.scope
  raw : Reads Schema.bool false (e.get? "raw") o.raw

theorem get?_attributes {name : String} (h : name ≠ "project") (e : Entry) :
    e.attributes.get? name = e.get? name := by
  unfold attributes
  rw [Fields.get?_erase, if_neg h]

theorem optional_eq_valid_iff {α : Type} {name : String} (h : name ≠ "project") (e : Entry)
    (fallback : α) (check : Value → Checked α) (a : α) :
    Schema.optional (Value.ofFields e.attributes) name fallback check = .valid a ↔
      Reads check fallback (e.get? name) a := by
  unfold Schema.optional
  rw [Schema.Entries.get?_ofFields, get?_attributes h]
  cases e.get? name with
  | none => simp [Reads]
  | some j =>
    simp only [Option.map_some, Reads]
    exact Checked.under_eq_valid_iff

theorem required_eq_valid_iff {α : Type} {name : String} (h : name ≠ "project") (e : Entry)
    (check : Value → Checked α) (a : α) :
    Schema.required (Value.ofFields e.attributes) name check = .valid a ↔
      ∃ j, e.get? name = some j ∧ check (.ofJson j) = .valid a := by
  unfold Schema.required
  rw [Schema.Entries.get?_ofFields, get?_attributes h]
  cases e.get? name with
  | none => simp
  | some j =>
    simp only [Option.map_some, Option.some.injEq, exists_eq_left']
    exact Checked.under_eq_valid_iff

/-- An entry is read as a variable exactly if it shows that variable. -/
theorem observe_eq_valid_iff {e : Entry} {o : Observed} : e.observe = .valid o ↔ e.Shows o := by
  unfold observe Observed.check
  rw [Value.ofJson, Schema.record]
  simp only [Checked.and_eq_valid_iff, Checked.map_eq_valid_iff,
    required_eq_valid_iff (show "key" ≠ "project" by decide),
    optional_eq_valid_iff (show "value" ≠ "project" by decide),
    optional_eq_valid_iff (show "variable_type" ≠ "project" by decide),
    optional_eq_valid_iff (show "protected" ≠ "project" by decide),
    optional_eq_valid_iff (show "masked" ≠ "project" by decide),
    optional_eq_valid_iff (show "environment_scope" ≠ "project" by decide),
    optional_eq_valid_iff (show "raw" ≠ "project" by decide)]
  constructor
  · rintro ⟨_, _, ⟨_, _, ⟨_, _, ⟨_, _, ⟨_, _, ⟨_, _, ⟨_, hkey, rfl⟩, hvalue, rfl⟩, hkind, rfl⟩,
      hprotected, rfl⟩, hmasked, rfl⟩, hscope, rfl⟩, hraw, rfl⟩
    exact ⟨hkey, hvalue, hkind, hprotected, hmasked, hscope, hraw⟩
  · intro h
    exact ⟨_, _, ⟨_, _, ⟨_, _, ⟨_, _, ⟨_, _, ⟨_, _, ⟨_, h.key, rfl⟩, h.value, rfl⟩, h.kind, rfl⟩,
      h.isProtected, rfl⟩, h.masked, rfl⟩, h.scope, rfl⟩, h.raw, rfl⟩

/-! ## Key and scope -/

theorem Shows.key_eq {e : Entry} {o : Observed} (h : e.Shows o) : e.key = .str o.key := by
  obtain ⟨j, hj, hk⟩ := h.key
  unfold Entry.key
  rw [hj, Schema.text_ofJson_eq_valid_iff.1 hk]
  rfl

theorem Shows.scope_eq {e : Entry} {o : Observed} (h : e.Shows o) : e.scope = .str o.scope := by
  have hs := h.scope
  unfold Entry.scope
  cases hj : e.get? "environment_scope" with
  | none =>
    rw [hj] at hs
    exact congrArg Json.str hs
  | some j =>
    rw [hj] at hs
    exact Schema.text_ofJson_eq_valid_iff.1 hs

/-! ## Entries after a request -/

theorem checkValue_ofJson_str (s : String) :
    Observed.checkValue (Value.ofJson (.str s)) = .valid s := by
  simp [Value.ofJson, Observed.checkValue, Schema.text]

/-- A member that is overwritten where a field is set reads as the field, or else as before. -/
theorem Reads.update {α : Type} {e : Entry} {name : String} {check : Value → Checked α}
    {fallback a : α} (h : Reads check fallback (e.get? name) a) {members : Fields}
    (hn : (members.map Prod.fst).Nodup) {f : α → Json} {a? : Option α}
    (hm : members.get? name = some (.ofOption f a?)) (hf : ∀ b, f b ≠ .null)
    (hcheck : ∀ b, check (.ofJson (f b)) = .valid b) :
    Reads check fallback ((Fields.update e members.dropNull).get? name) (a?.getD a) := by
  rw [Fields.get?_update (Fields.nodup_dropNull hn), Fields.get?_dropNull hn, hm,
    Fields.present?_ofOption hf]
  cases a? with
  | none => exact h
  | some b => exact hcheck b

/-- An update leaves the members that it does not name. -/
theorem get?_update_of_not_mem {members : Fields} (hn : (members.map Prod.fst).Nodup)
    {name : String} (h : name ∉ members.map Prod.fst) (e : Entry) :
    (Fields.update e members.dropNull).get? name = e.get? name := by
  rw [Fields.get?_update (Fields.nodup_dropNull hn), Fields.get?_dropNull hn,
    Fields.get?_eq_none h]
  rfl

end Entry

/-- The members that a request may set, null where the field is unset. -/
def Parameters.requestMembers (p : Parameters) : Fields :=
  [("value", .ofOption .str p.value),
    ("variable_type", .ofOption (.str ·.text) p.kind),
    ("protected", .ofOption .bool p.isProtected),
    ("masked", .ofOption .bool p.masked),
    ("environment_scope", .ofOption .str p.scope),
    ("raw", .ofOption .bool p.raw)]

theorem UpdateRequest.changes_ofParameters (p : Parameters) :
    (ofParameters p).changes = p.requestMembers.dropNull := rfl

theorem CreateRequest.body_ofParameters (p : Parameters) :
    (ofParameters p).body = Fields.dropNull (("key", .str p.key) :: p.requestMembers) := rfl

theorem Parameters.names_requestMembers (p : Parameters) : p.requestMembers.map Prod.fst =
    ["value", "variable_type", "protected", "masked", "environment_scope", "raw"] := rfl

theorem Parameters.nodup_requestMembers (p : Parameters) :
    (p.requestMembers.map Prod.fst).Nodup := by
  rw [names_requestMembers]
  decide

theorem Parameters.nodup_createMembers (p : Parameters) :
    ((("key", Json.str p.key) :: p.requestMembers).map Prod.fst).Nodup := by
  simp only [List.map_cons, names_requestMembers]
  decide

namespace Entry

/-- Set fields that are written over an entry show; the others show as before. -/
theorem Shows.update {e : Entry} {o : Observed} (h : e.Shows o) (p : Parameters) :
    Shows (Fields.update e (UpdateRequest.ofParameters p).changes) (o.overwrite p) := by
  have hn := p.nodup_requestMembers
  rw [UpdateRequest.changes_ofParameters]
  constructor
  · rw [get?_update_of_not_mem hn (by rw [p.names_requestMembers]; decide)]
    exact h.key
  · exact h.value.update hn rfl (by simp) checkValue_ofJson_str
  · exact h.kind.update hn rfl (by simp) VariableKind.check_ofJson_text
  · exact h.isProtected.update hn rfl (by simp) Schema.bool_ofJson_bool
  · exact h.masked.update hn rfl (by simp) Schema.bool_ofJson_bool
  · exact h.scope.update hn rfl (by simp) Schema.text_ofJson_str
  · exact h.raw.update hn rfl (by simp) Schema.bool_ofJson_bool

/-- A created entry shows the declared fields, and the defaults elsewhere. -/
theorem shows_created (project : ProjectId) (p : Parameters) :
    Shows (created project (CreateRequest.ofParameters p).body)
      (Observed.overwrite { key := p.key } p) := by
  have hn := p.nodup_createMembers
  -- The defaults of the service are those of a variable that leaves its members out.
  let start : Fields := ("project", project.toJson) :: defaults
  have hvalue : Reads Observed.checkValue "" (start.get? "value") "" := checkValue_ofJson_str ""
  have hkind : Reads VariableKind.check .envVar (start.get? "variable_type") .envVar :=
    VariableKind.check_ofJson_text .envVar
  have hprotected : Reads Schema.bool false (start.get? "protected") false :=
    Schema.bool_ofJson_bool false
  have hmasked : Reads Schema.bool false (start.get? "masked") false :=
    Schema.bool_ofJson_bool false
  have hscope : Reads Schema.text "*" (start.get? "environment_scope") "*" :=
    Schema.text_ofJson_str "*"
  have hraw : Reads Schema.bool false (start.get? "raw") false := Schema.bool_ofJson_bool false
  unfold created
  rw [CreateRequest.body_ofParameters]
  constructor
  · refine ⟨.str p.key, ?_, Schema.text_ofJson_str p.key⟩
    rw [Fields.get?_update (Fields.nodup_dropNull hn), Fields.get?_dropNull hn]
    rfl
  · exact hvalue.update hn rfl (by simp) checkValue_ofJson_str
  · exact hkind.update hn rfl (by simp) VariableKind.check_ofJson_text
  · exact hprotected.update hn rfl (by simp) Schema.bool_ofJson_bool
  · exact hmasked.update hn rfl (by simp) Schema.bool_ofJson_bool
  · exact hscope.update hn rfl (by simp) Schema.text_ofJson_str
  · exact hraw.update hn rfl (by simp) Schema.bool_ofJson_bool

/-! ## Where an entry is after a request -/

theorem project_created (project : ProjectId) (p : Parameters) :
    (created project (CreateRequest.ofParameters p).body).project = project.toJson := by
  unfold created Entry.project
  rw [CreateRequest.body_ofParameters, get?_update_of_not_mem p.nodup_createMembers
    (by simp only [List.map_cons, Parameters.names_requestMembers]; decide)]
  rfl

/-- An update leaves an entry in its project. -/
theorem project_update (e : Entry) (p : Parameters) :
    Entry.project (Fields.update e (UpdateRequest.ofParameters p).changes) = e.project := by
  unfold Entry.project
  rw [UpdateRequest.changes_ofParameters, get?_update_of_not_mem p.nodup_requestMembers
    (by rw [p.names_requestMembers]; decide)]

theorem key_update (e : Entry) (p : Parameters) :
    Entry.key (Fields.update e (UpdateRequest.ofParameters p).changes) = e.key := by
  unfold Entry.key
  rw [UpdateRequest.changes_ofParameters, get?_update_of_not_mem p.nodup_requestMembers
    (by rw [p.names_requestMembers]; decide)]

/-- An update sets the scope if the parameters do, and otherwise leaves it. -/
theorem scope_update_eq (e : Entry) (p : Parameters) :
    Entry.scope (Fields.update e (UpdateRequest.ofParameters p).changes) =
      (p.scope.map Json.str).getD e.scope := by
  have hm : p.requestMembers.get? "environment_scope" = some (.ofOption .str p.scope) := rfl
  have hn := p.nodup_requestMembers
  unfold Entry.scope
  rw [UpdateRequest.changes_ofParameters, Fields.get?_update (Fields.nodup_dropNull hn),
    Fields.get?_dropNull hn, hm, Fields.present?_ofOption (by simp)]
  cases p.scope <;> rfl

/-- An update that repeats the scope of an entry keeps it. -/
theorem scope_update {e : Entry} {p : Parameters} (h : ∀ s, p.scope = some s → e.scope = .str s) :
    Entry.scope (Fields.update e (UpdateRequest.ofParameters p).changes) = e.scope := by
  rw [scope_update_eq]
  cases hs : p.scope with
  | none => rfl
  | some s => exact (h s hs).symm

end Entry

end CiVariables
