import CiVariables.Variable.Basic
import CiVariables.Proofs.Members

/-!
# What checks accept

A check that reads several members is valid exactly where each of them is, so an accepted value can
be taken apart member by member. `Declaration.WellFormed` says what an accepted declaration
satisfies, however it was written. A well-formed declaration that is written as JSON is accepted
again, and only the labels of its selector may change in spelling (`Declaration.check_dumpFields`).
-/

namespace CiVariables

namespace Schema

/-! ## Putting checks together -/

namespace Checked

variable {α β : Type}

@[simp] theorem map_valid (f : α → β) (a : α) : (valid a).map f = valid (f a) := rfl

@[simp] theorem and_valid (f : α → β) (a : α) : (valid f).and (valid a) = valid (f a) := rfl

@[simp] theorem bind_valid (a : α) (f : α → Checked β) : (valid a).bind f = f a := rfl

@[simp] theorem under_valid (step : Step) (a : α) : (valid a).under step = valid a := rfl

theorem map_eq_valid_iff {c : Checked α} {f : α → β} {b : β} :
    c.map f = valid b ↔ ∃ a, c = valid a ∧ f a = b := by
  cases c <;> simp [map]

theorem and_eq_valid_iff {c : Checked (α → β)} {d : Checked α} {b : β} :
    c.and d = valid b ↔ ∃ f a, c = valid f ∧ d = valid a ∧ f a = b := by
  cases c <;> cases d <;> simp [and]

theorem bind_eq_valid_iff {c : Checked α} {f : α → Checked β} {b : β} :
    c.bind f = valid b ↔ ∃ a, c = valid a ∧ f a = valid b := by
  cases c <;> simp [bind]

theorem under_eq_valid_iff {c : Checked α} {step : Step} {a : α} :
    c.under step = valid a ↔ c = valid a := by
  cases c <;> simp [under]

theorem andUnit_eq_valid_iff {c : Checked α} {d : Checked Unit} {a : α} :
    c.andUnit d = valid a ↔ c = valid a ∧ d = valid () := by
  cases c <;> cases d <;> simp [andUnit, map, and]

theorem fail_ne_valid {kind : IssueKind} {a : α} : (fail kind : Checked α) ≠ valid a := by
  simp [fail]

end Checked

/-! ## Members of JSON objects as loose data -/

/-- The entries of an object are its members, one by one. -/
theorem Value.ofFields_eq_map (fields : Fields) :
    Value.ofFields fields = fields.map fun field => (Key.text field.1, Value.ofJson field.2) := by
  induction fields with
  | nil => simp [Value.ofFields]
  | cons field rest ih =>
    obtain ⟨k, j⟩ := field
    simp [Value.ofFields, ih]

/-- An entry is found under the name of its member. -/
theorem Entries.get?_ofFields (fields : Fields) (name : String) :
    Entries.get? (Value.ofFields fields) name = (fields.get? name).map Value.ofJson := by
  induction fields with
  | nil => simp [Value.ofFields, Entries.get?]
  | cons field rest ih =>
    obtain ⟨k, j⟩ := field
    unfold Entries.get? at ih ⊢
    rw [Value.ofFields, List.lookup_cons, Fields.get?_cons]
    by_cases h : name = k
    · simp [h]
    · have hb : (Key.text name == Key.text k) = false := by simpa using h
      simp [h, hb, ih]

theorem required_ofFields {α : Type} {fields : Fields} {name : String} {j : Json}
    (h : fields.get? name = some j) (check : Value → Checked α) :
    required (Value.ofFields fields) name check = (check (Value.ofJson j)).under (.name name) := by
  unfold required
  rw [Entries.get?_ofFields, h]
  rfl

theorem optional_ofFields {α : Type} {fields : Fields} {name : String} {j : Json}
    (h : fields.get? name = some j) (fallback : α) (check : Value → Checked α) :
    optional (Value.ofFields fields) name fallback check =
      (check (Value.ofJson j)).under (.name name) := by
  unfold optional
  rw [Entries.get?_ofFields, h]
  rfl

/-- A field that is written as null where it is unset reads back, if its values do. -/
theorem nullable_ofOption {α β : Type} {f : α → Json} {check : Value → Checked β} {g : α → β}
    (hf : ∀ a, f a ≠ .null) (a? : Option α)
    (hcheck : ∀ a, a? = some a → check (Value.ofJson (f a)) = .valid (g a)) :
    nullable check (Value.ofJson (.ofOption f a?)) = .valid (a?.map g) := by
  cases a? with
  | none => simp [Json.ofOption, Value.ofJson, nullable]
  | some a =>
    have ha := hcheck a rfl
    have hn := hf a
    show nullable check (Value.ofJson (f a)) = _
    cases hj : f a with
    | null => exact absurd hj hn
    | bool | int | float | str | arr | obj =>
      rw [hj] at ha
      simp only [Value.ofJson] at ha ⊢
      simp [nullable, ha]

/-! ## Texts -/

/-- The text has at least one character and holds no half of a surrogate pair. -/
def IsName (s : String) : Prop := s ≠ "" ∧ CiVariables.Text.hasHalf s = false

instance (s : String) : Decidable (IsName s) := inferInstanceAs (Decidable (_ ∧ _))

theorem wholeText_eq_valid_iff {s t : String} :
    wholeText s = .valid t ↔ CiVariables.Text.hasHalf s = false ∧ s = t := by
  unfold wholeText
  cases CiVariables.Text.hasHalf s <;> simp [Checked.fail]

/-- A text that passes a check passes the test of the check, and holds no half. -/
theorem textWith_eq_valid {test : String → Bool} {kind : IssueKind} {v : Value} {s : String}
    (h : textWith test kind v = .valid s) :
    test s = true ∧ CiVariables.Text.hasHalf s = false := by
  obtain ⟨t, ht, hs⟩ := Checked.bind_eq_valid_iff.1 h
  obtain ⟨u, -, hu⟩ := Checked.bind_eq_valid_iff.1 ht
  obtain ⟨hhalf, rfl⟩ := wholeText_eq_valid_iff.1 hu
  by_cases htest : test u = true
  · simp only [htest, if_true] at hs
    cases hs
    exact ⟨htest, hhalf⟩
  · simp only [htest] at hs
    exact absurd hs Checked.fail_ne_valid

theorem textWith_text {test : String → Bool} {s : String} (htest : test s = true)
    (hhalf : CiVariables.Text.hasHalf s = false) (kind : IssueKind) :
    textWith test kind (.text s) = .valid s := by
  simp [textWith, text, wholeText, hhalf, htest]

theorem isName_of_nonemptyText {v : Value} {s : String} (h : nonemptyText v = .valid s) :
    IsName s := by
  obtain ⟨htest, hhalf⟩ := textWith_eq_valid h
  exact ⟨by simpa using htest, hhalf⟩

theorem nonemptyText_text {s : String} (h : IsName s) : nonemptyText (.text s) = .valid s :=
  textWith_text (by simpa using h.1) h.2 _

theorem nonemptyText_text_eq_valid {s t : String} (h : nonemptyText (.text s) = .valid t) :
    t = s := by
  obtain ⟨u, hu, ht⟩ := Checked.bind_eq_valid_iff.1 h
  obtain ⟨-, rfl⟩ := wholeText_eq_valid_iff.1 hu
  by_cases htest : (s != "") = true
  · simp only [htest, if_true] at ht
    exact (Checked.valid.inj ht).symm
  · simp only [htest] at ht
    exact absurd ht Checked.fail_ne_valid

/-! ## Scalars written as JSON -/

@[simp] theorem text_ofJson_str (s : String) : text (Value.ofJson (.str s)) = .valid s := by
  simp [Value.ofJson, text]

@[simp] theorem bool_ofJson_bool (b : Bool) : bool (Value.ofJson (.bool b)) = .valid b := by
  simp [Value.ofJson, bool]

@[simp] theorem int_ofJson_int (n : Int) : int (Value.ofJson (.int n)) = .valid n := by
  simp [Value.ofJson, int]

theorem text_ofJson_eq_valid_iff {j : Json} {s : String} :
    text (Value.ofJson j) = .valid s ↔ j = .str s := by
  cases j <;> simp [Value.ofJson, text, Checked.fail]

/-! ## Entries of one name -/

section Assign

variable {α β : Type}

/-- Entries written over others, one after the other. -/
def assignOnto (acc pairs : List (String × α)) : List (String × α) :=
  pairs.foldl (fun acc (k, v) => assign k v acc) acc

theorem assignOnto_cons (acc : List (String × α)) (name : String) (value : α)
    (rest : List (String × α)) :
    assignOnto acc ((name, value) :: rest) = assignOnto (assign name value acc) rest := rfl

/-- A new name goes to the end. -/
theorem assign_of_not_mem {name : String} {pairs : List (String × α)}
    (h : name ∉ pairs.map Prod.fst) (value : α) :
    assign name value pairs = pairs ++ [(name, value)] := by
  induction pairs with
  | nil => rfl
  | cons pair rest ih =>
    obtain ⟨k, v⟩ := pair
    simp only [List.map_cons, List.mem_cons, not_or] at h
    rw [assign, if_neg (Ne.symm h.1), ih h.2]
    rfl

theorem mem_of_mem_assign {name : String} {value : α} {pairs : List (String × α)}
    {pair : String × α} (h : pair ∈ assign name value pairs) :
    pair = (name, value) ∨ pair ∈ pairs := by
  induction pairs with
  | nil => exact .inl (List.mem_singleton.1 h)
  | cons first rest ih =>
    obtain ⟨k, v⟩ := first
    rw [assign] at h
    by_cases hk : k = name
    · rw [if_pos hk] at h
      rcases List.mem_cons.1 h with rfl | hmem
      · exact .inl (by rw [hk])
      · exact .inr (List.mem_cons_of_mem _ hmem)
    · rw [if_neg hk] at h
      rcases List.mem_cons.1 h with rfl | hmem
      · exact .inr List.mem_cons_self
      · exact (ih hmem).imp_right (List.mem_cons_of_mem _)

/-- A known name keeps its place. -/
theorem names_assign_of_mem {name : String} {pairs : List (String × α)}
    (h : name ∈ pairs.map Prod.fst) (value : α) :
    (assign name value pairs).map Prod.fst = pairs.map Prod.fst := by
  induction pairs with
  | nil => cases h
  | cons pair rest ih =>
    obtain ⟨k, v⟩ := pair
    rw [assign]
    by_cases hk : k = name
    · rw [if_pos hk]
      rfl
    · rw [if_neg hk, List.map_cons, List.map_cons]
      rcases List.mem_cons.1 h with heq | hrest
      · exact absurd heq.symm hk
      · rw [ih hrest]

/-- Names that are distinct stay so. -/
theorem nodup_assign {pairs : List (String × α)} (h : (pairs.map Prod.fst).Nodup) (name : String)
    (value : α) : ((assign name value pairs).map Prod.fst).Nodup := by
  by_cases hmem : name ∈ pairs.map Prod.fst
  · rw [names_assign_of_mem hmem]
    exact h
  · rw [assign_of_not_mem hmem, List.map_append, List.map_singleton]
    refine List.nodup_append.2 ⟨h, List.pairwise_singleton _ _, ?_⟩
    rintro a ha b hb rfl
    rw [List.mem_singleton.1 hb] at ha
    exact hmem ha

theorem nodup_assignOnto {acc : List (String × α)} (h : (acc.map Prod.fst).Nodup)
    (pairs : List (String × α)) : ((assignOnto acc pairs).map Prod.fst).Nodup := by
  induction pairs generalizing acc with
  | nil => exact h
  | cons pair rest ih => exact ih (nodup_assign h pair.1 pair.2)

theorem mem_of_mem_assignOnto {acc pairs : List (String × α)} {pair : String × α}
    (h : pair ∈ assignOnto acc pairs) : pair ∈ acc ∨ pair ∈ pairs := by
  induction pairs generalizing acc with
  | nil => exact .inl h
  | cons first rest ih =>
    have h : pair ∈ assignOnto (assign first.1 first.2 acc) rest := h
    rcases ih h with hacc | hrest
    · rcases mem_of_mem_assign hacc with rfl | hacc
      · exact .inr List.mem_cons_self
      · exact .inl hacc
    · exact .inr (List.mem_cons_of_mem first hrest)

/-- Distinct names are taken over one after the other. -/
theorem assignOnto_of_nodup {acc pairs : List (String × α)}
    (h : ((acc ++ pairs).map Prod.fst).Nodup) : assignOnto acc pairs = acc ++ pairs := by
  induction pairs generalizing acc with
  | nil => exact (List.append_nil acc).symm
  | cons pair rest ih =>
    obtain ⟨k, v⟩ := pair
    have hnew : k ∉ acc.map Prod.fst := by
      rw [List.map_append, List.nodup_append] at h
      exact fun hk => h.2.2 k hk k List.mem_cons_self rfl
    rw [List.append_cons] at h ⊢
    rw [assignOnto_cons, assign_of_not_mem hnew, ih h]

theorem assign_map (f : α → β) (name : String) (value : α) (pairs : List (String × α)) :
    assign name (f value) (pairs.map fun (k, v) => (k, f v)) =
      (assign name value pairs).map fun (k, v) => (k, f v) := by
  induction pairs with
  | nil => rfl
  | cons pair rest ih =>
    obtain ⟨k, v⟩ := pair
    rw [List.map_cons, assign, assign]
    by_cases hk : k = name
    · simp [hk]
    · rw [if_neg hk, if_neg hk, ih]
      rfl

/-- Taking over names commutes with changing the values. -/
theorem assignOnto_map (f : α → β) (acc pairs : List (String × α)) :
    assignOnto (acc.map fun (k, v) => (k, f v)) (pairs.map fun (k, v) => (k, f v)) =
      (assignOnto acc pairs).map fun (k, v) => (k, f v) := by
  induction pairs generalizing acc with
  | nil => rfl
  | cons pair rest ih =>
    obtain ⟨k, v⟩ := pair
    rw [List.map_cons, assignOnto_cons, assign_map, ih, assignOnto_cons]

end Assign

/-! ## Records without other members -/

/-- A record whose members all have known names is accepted if its members are. -/
theorem closed_ofFields {α : Type} {known : List String} {fields : Fields}
    (hnames : ∀ name ∈ fields.map Prod.fst, name ∈ known)
    (hknown : ∀ name ∈ known, CiVariables.Text.hasHalf name = false) (checked : Checked α) :
    closed known (Value.ofFields fields) checked = checked.andUnit (.valid ()) := by
  have hbroken : hasBrokenName (Value.ofFields fields) = false := by
    rw [Value.ofFields_eq_map]
    simp only [hasBrokenName, List.any_map, List.any_eq_false, Function.comp]
    intro field hfield
    simpa using hknown field.1 (hnames field.1 (List.mem_map_of_mem hfield))
  have hunknown : unknownIssues known (Value.ofFields fields) = [] := by
    clear hbroken
    induction fields with
    | nil => simp [Value.ofFields, unknownIssues]
    | cons field rest ih =>
      obtain ⟨k, j⟩ := field
      simp only [List.map_cons, List.forall_mem_cons] at hnames
      rw [Value.ofFields, unknownIssues, if_pos (by simpa using hnames.1)]
      exact ih hnames.2
  unfold closed
  rw [hbroken, hunknown]
  rfl

theorem closed_eq_valid {α : Type} {known : List String} {entries : Entries} {checked : Checked α}
    {a : α} (h : closed known entries checked = .valid a) : checked = .valid a := by
  unfold closed at h
  split at h
  · exact absurd h Checked.fail_ne_valid
  · exact (Checked.andUnit_eq_valid_iff.1 h).1

/-- What a model accepts is a mapping whose entries it accepts. -/
theorem record_eq_valid {α : Type} {source : Source} {model : String}
    {check : Entries → Checked α} {v : Value} {a : α} (h : record source model check v = .valid a) :
    ∃ entries, v = .map entries ∧ check entries = .valid a := by
  cases v with
  | map entries => exact ⟨entries, rfl, h⟩
  | _ => exact absurd h Checked.fail_ne_valid

theorem required_eq_valid {α : Type} {entries : Entries} {name : String}
    {check : Value → Checked α} {a : α} (h : required entries name check = .valid a) :
    ∃ v, check v = .valid a := by
  unfold required at h
  split at h
  · exact ⟨_, Checked.under_eq_valid_iff.1 h⟩
  · cases h

theorem optional_nullable_eq_valid {α : Type} {entries : Entries} {name : String}
    {check : Value → Checked α} {a : α}
    (h : optional entries name none (nullable check) = .valid (some a)) :
    ∃ v, check v = .valid a := by
  unfold optional at h
  split at h
  · next v _ =>
    have hv := Checked.under_eq_valid_iff.1 h
    unfold nullable at hv
    split at hv
    · cases hv
    · obtain ⟨b, hb, hba⟩ := Checked.map_eq_valid_iff.1 hv
      cases hba
      exact ⟨_, hb⟩
  · cases h

end Schema

open Schema (Checked Source Value)

/-! ## Members of one name -/

theorem Fields.set_eq_assign (fields : Fields) (k : String) (v : Json) :
    fields.set k v = Schema.assign k v fields := by
  induction fields with
  | nil => rfl
  | cons field rest ih =>
    rw [Fields.set, Schema.assign, ih]

theorem Fields.dedup_eq_assignOnto (fields : Fields) :
    fields.dedup = Schema.assignOnto [] fields := by
  unfold Fields.dedup Fields.update Schema.assignOnto
  simp only [Fields.set_eq_assign]

/-- After duplicates are dropped the names are distinct. -/
theorem Fields.nodup_dedup (fields : Fields) : (fields.dedup.map Prod.fst).Nodup := by
  have hnil : (([] : Fields).map Prod.fst).Nodup := .nil
  rw [dedup_eq_assignOnto]
  exact Schema.nodup_assignOnto hnil fields

theorem Fields.mem_of_mem_dedup {fields : Fields} {field : String × Json}
    (h : field ∈ fields.dedup) : field ∈ fields := by
  rw [dedup_eq_assignOnto] at h
  exact (Schema.mem_of_mem_assignOnto h).resolve_left List.not_mem_nil

/-- An object whose names are distinct has no duplicates to drop. -/
theorem Fields.dedup_of_nodup {fields : Fields} (h : (fields.map Prod.fst).Nodup) :
    fields.dedup = fields := by
  rw [dedup_eq_assignOnto, Schema.assignOnto_of_nodup h]
  rfl

@[simp] theorem VariableKind.check_ofJson_text (k : VariableKind) :
    VariableKind.check (Value.ofJson (.str k.text)) = .valid k := by
  rw [Value.ofJson]
  cases k <;> rfl

/-! ## Well-formed declarations -/

/-- What accepted parameters satisfy. -/
structure Parameters.WellFormed (p : Parameters) : Prop where
  key : Schema.IsName p.key
  secret : ∀ s, p.secret = some s → Schema.IsName s.env
  reference : ∀ r, p.reference = some r → Schema.IsName r.name

/-- What an accepted declaration satisfies. -/
structure Declaration.WellFormed (d : Declaration) : Prop where
  name : Schema.isIdentifier d.name = true
  name_whole : CiVariables.Text.hasHalf d.name = false
  parameters : d.parameters.WellFormed

/-- Other parameters with the same key and the same secret and reference are as well formed. -/
theorem Declaration.WellFormed.withParameters {d : Declaration} (h : d.WellFormed) {p : Parameters}
    (hkey : p.key = d.parameters.key) (hsecret : p.secret = d.parameters.secret)
    (hreference : p.reference = d.parameters.reference) :
    ({ d with parameters := p } : Declaration).WellFormed :=
  ⟨h.name, h.name_whole, hkey ▸ h.parameters.key, hsecret ▸ h.parameters.secret,
    hreference ▸ h.parameters.reference⟩

theorem Reference.isName_of_check {source : Source} {v : Value} {r : Reference}
    (h : Reference.check source v = .valid r) : Schema.IsName r.name := by
  obtain ⟨entries, -, h⟩ := Schema.record_eq_valid h
  obtain ⟨name, hname, rfl⟩ := Checked.map_eq_valid_iff.1 (Schema.closed_eq_valid h)
  obtain ⟨v, hv⟩ := Schema.required_eq_valid hname
  exact Schema.isName_of_nonemptyText hv

theorem SecretSource.isName_of_check {source : Source} {v : Value} {s : SecretSource}
    (h : SecretSource.check source v = .valid s) : Schema.IsName s.env := by
  obtain ⟨entries, -, h⟩ := Schema.record_eq_valid h
  obtain ⟨env, henv, rfl⟩ := Checked.map_eq_valid_iff.1 (Schema.closed_eq_valid h)
  obtain ⟨v, hv⟩ := Schema.required_eq_valid henv
  exact Schema.isName_of_nonemptyText hv

/-- Each member of accepted parameters that has a check of its own passed it. -/
theorem Parameters.members_of_check {source : Source} {v : Value} {p : Parameters}
    (h : Parameters.check source v = .valid p) :
    (∃ v, Schema.nonemptyText v = .valid p.key) ∧
      (∀ s, p.secret = some s → ∃ v, SecretSource.check source v = .valid s) ∧
      (∀ r, p.reference = some r → ∃ v, Reference.check source v = .valid r) ∧
      ∀ s, p.selector = some s → ∃ v, Selector.check source v = .valid s := by
  obtain ⟨entries, -, h⟩ := Schema.record_eq_valid h
  have h := Schema.closed_eq_valid h
  simp only [Parameters.checkMembers, Checked.and_eq_valid_iff, Checked.map_eq_valid_iff] at h
  -- The members from the last to the first.
  obtain ⟨_, _, ⟨_, _, ⟨_, _, ⟨_, _, ⟨_, _, ⟨_, _, ⟨_, _, ⟨_, _, ⟨_, _, ⟨_, _, ⟨_, hkey, rfl⟩,
    -, rfl⟩, hsecret, rfl⟩, -, rfl⟩, -, rfl⟩, -, rfl⟩, -, rfl⟩, -, rfl⟩, -, rfl⟩,
    hreference, rfl⟩, hselector, rfl⟩ := h
  refine ⟨Schema.required_eq_valid hkey, ?_, ?_, ?_⟩
  · rintro s rfl
    exact Schema.optional_nullable_eq_valid hsecret
  · rintro r rfl
    exact Schema.optional_nullable_eq_valid hreference
  · rintro s rfl
    exact Schema.optional_nullable_eq_valid hselector

/-- Parameters that pass their check are well-formed. -/
theorem Parameters.wellFormed_of_check {source : Source} {v : Value} {p : Parameters}
    (h : Parameters.check source v = .valid p) : p.WellFormed := by
  obtain ⟨⟨_, hkey⟩, hsecret, hreference, -⟩ := members_of_check h
  refine ⟨Schema.isName_of_nonemptyText hkey, fun s hs => ?_, fun r hr => ?_⟩
  · obtain ⟨_, hs⟩ := hsecret s hs
    exact SecretSource.isName_of_check hs
  · obtain ⟨_, hr⟩ := hreference r hr
    exact Reference.isName_of_check hr

/-- The name and the parameters of a declaration that passes its check have passed theirs. -/
theorem Declaration.members_of_check {source : Source} {v : Value} {d : Declaration}
    (h : Declaration.check source v = .valid d) :
    (∃ v, Schema.identifier v = .valid d.name) ∧
      ∃ v, Parameters.check source v = .valid d.parameters := by
  obtain ⟨entries, -, h⟩ := Schema.record_eq_valid h
  have h := Schema.closed_eq_valid h
  simp only [Checked.and_eq_valid_iff, Checked.map_eq_valid_iff] at h
  obtain ⟨_, p, ⟨_, _, ⟨_, hname, rfl⟩, -, rfl⟩, hp, rfl⟩ := h
  exact ⟨Schema.required_eq_valid hname, Schema.required_eq_valid hp⟩

/-- Whatever the check of declarations accepts is well formed. -/
theorem Declaration.wellFormed_of_check {source : Source} {v : Value} {d : Declaration}
    (h : Declaration.check source v = .valid d) : d.WellFormed := by
  obtain ⟨⟨_, hname⟩, _, hp⟩ := members_of_check h
  obtain ⟨hid, hwhole⟩ := Schema.textWith_eq_valid hname
  exact ⟨hid, hwhole, Parameters.wellFormed_of_check hp⟩

end CiVariables
