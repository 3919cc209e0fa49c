import CiVariables.Proofs.Halves
import CiVariables.Proofs.Origins

/-!
# Which plans can be shown

A plan can be shown if every difference of an update says from what to what the attribute changes
(`Report.plan_eq_ok_iff`), as in every plan that was made (`Planning.complete_of_plan`). What is
shown of a plan holds the addresses of its changes, so they are whole if it is.
-/

namespace CiVariables

open CiVariables.Text (hasHalf)

/-- Says from what to what an attribute changes. -/
def Json.IsDifference (j : Json) : Prop :=
  ∃ fields before after, j = .obj fields ∧ fields.lookup "from" = some before ∧
    fields.lookup "to" = some after

/-- An update says from what to what each of its attributes changes. -/
def Change.IsComplete (c : Change) : Prop :=
  c.action = .update → ∀ name difference, (name, difference) ∈ c.diff.getD [] →
    difference.IsDifference

/-! ## Plans that were made -/

namespace Planning.Origin

variable {store : Store} {d : Declaration} {destroy : Bool} {c : Change}

theorem isComplete (h : Origin store d destroy c) : c.IsComplete := by
  cases h with
  | creation | deletion => exact nofun
  | @comparison e o =>
    intro _ name difference hmem
    unfold Planning.comparison at hmem
    simp only at hmem
    split at hmem
    · cases hmem
    · obtain ⟨x, -, hx⟩ := List.mem_map.1 hmem
      cases hx
      exact ⟨_, x.before, x.after, rfl, rfl, rfl⟩

end Planning.Origin

namespace Report

variable {color : Bool}

/-! ## Showing a change -/

theorem memberOf_eq_ok_iff {value j : Json} {name : String} :
    memberOf value name = .ok j ↔ ∃ fields, value = .obj fields ∧ fields.lookup name = some j := by
  unfold memberOf
  constructor
  · intro h
    split at h
    · next fields =>
      split at h
      · next hlookup =>
        cases h
        exact ⟨fields, rfl, hlookup⟩
      · cases h
    · cases h
  · rintro ⟨fields, rfl, hlookup⟩
    simp only [hlookup]

/-- A difference can be shown exactly if it says from what to what. -/
theorem renderDifference_eq_ok_iff (name : String) {difference : Json} :
    (∃ text, renderDifference name difference = .ok text) ↔ difference.IsDifference := by
  unfold renderDifference
  constructor
  · rintro ⟨text, h⟩
    split at h
    · cases h
    · next before hbefore =>
      split at h
      · cases h
      · next after hafter =>
        obtain ⟨fields, rfl, hfrom⟩ := memberOf_eq_ok_iff.1 hbefore
        obtain ⟨_, heq, hto⟩ := memberOf_eq_ok_iff.1 hafter
        cases heq
        exact ⟨fields, before, after, rfl, hfrom, hto⟩
  · rintro ⟨fields, before, after, rfl, hfrom, hto⟩
    rw [memberOf_eq_ok_iff.2 ⟨fields, rfl, hfrom⟩, memberOf_eq_ok_iff.2 ⟨fields, rfl, hto⟩]
    exact ⟨_, rfl⟩

theorem differencePairs_eq_ok_iff {fields : Fields} :
    (∃ pairs, differencePairs fields = .ok pairs) ↔
      ∀ name difference, (name, difference) ∈ fields → difference.IsDifference := by
  induction fields with
  | nil => exact ⟨fun _ => nofun, fun _ => ⟨[], rfl⟩⟩
  | cons field rest ih =>
    obtain ⟨name, difference⟩ := field
    have hsplit : (∀ n j, (n, j) ∈ (name, difference) :: rest → j.IsDifference) ↔
        difference.IsDifference ∧ ∀ n j, (n, j) ∈ rest → j.IsDifference := by
      simp [or_imp, forall_and]
    rw [hsplit, ← ih, ← renderDifference_eq_ok_iff name, differencePairs]
    cases renderDifference name difference with
    | error failure => simp
    | ok text => cases differencePairs rest <;> simp

/-- The attributes of a change can be shown exactly if it is complete. -/
theorem attributePairs_eq_ok_iff {c : Change} :
    (∃ pairs, attributePairs c = .ok pairs) ↔ c.IsComplete := by
  unfold attributePairs Change.IsComplete
  cases c.action with
  | update => simpa using differencePairs_eq_ok_iff
  | create | delete | keep => exact ⟨fun _ => nofun, fun _ => ⟨_, rfl⟩⟩

theorem change_eq_ok {c : Change} {block : String} (h : change color c = .ok block) :
    ∃ pairs, attributePairs c = .ok pairs ∧
      block = CiVariables.Text.join "\n" (changeLines color c pairs) := by
  unfold change at h
  split at h
  · cases h
  · next pairs hpairs =>
    cases h
    exact ⟨pairs, hpairs, rfl⟩

/-- A change can be shown exactly if it is complete. -/
theorem change_eq_ok_iff (color : Bool) {c : Change} :
    (∃ block, change color c = .ok block) ↔ c.IsComplete := by
  rw [← attributePairs_eq_ok_iff]
  constructor
  · rintro ⟨block, h⟩
    obtain ⟨pairs, hpairs, -⟩ := change_eq_ok h
    exact ⟨pairs, hpairs⟩
  · rintro ⟨pairs, hpairs⟩
    unfold change
    rw [hpairs]
    exact ⟨_, rfl⟩

/-! ## Showing a plan -/

/-- There is a block for each change. -/
theorem changeBlocks_eq_ok {cs : List Change} {blocks : List String}
    (h : changeBlocks color cs = .ok blocks) :
    ∀ c ∈ cs, ∃ block ∈ blocks, change color c = .ok block := by
  induction cs generalizing blocks with
  | nil => nofun
  | cons c rest ih =>
    rw [changeBlocks] at h
    split at h
    · cases h
    · next block hblock =>
      split at h
      · cases h
      · next more hmore =>
        cases h
        refine List.forall_mem_cons.2 ⟨⟨block, List.mem_cons_self, hblock⟩, fun c' hc' => ?_⟩
        obtain ⟨block', hmem, hblock'⟩ := ih hmore c' hc'
        exact ⟨block', List.mem_cons_of_mem block hmem, hblock'⟩

theorem exists_changeBlocks (color : Bool) {cs : List Change} (h : ∀ c ∈ cs, c.IsComplete) :
    ∃ blocks, changeBlocks color cs = .ok blocks := by
  induction cs with
  | nil => exact ⟨[], rfl⟩
  | cons c rest ih =>
    obtain ⟨hc, hrest⟩ := List.forall_mem_cons.1 h
    obtain ⟨block, hblock⟩ := (change_eq_ok_iff color).2 hc
    obtain ⟨blocks, hblocks⟩ := ih hrest
    exact ⟨block :: blocks, by rw [changeBlocks, hblock, hblocks]⟩

/-- A plan that is shown has a block for each change that is carried out, and they are joined. -/
theorem plan_eq_ok {p : Plan} {text : String} (h : plan color p = .ok text) :
    ∀ c ∈ p.actionable, ∃ blocks, ∃ block ∈ blocks, change color c = .ok block ∧
      text = CiVariables.Text.join "\n\n" blocks := by
  unfold plan changes at h
  intro c hc
  split at h
  · cases h
  · next hblocks =>
    obtain ⟨_, hmem, -⟩ := changeBlocks_eq_ok hblocks c hc
    cases hmem
  · next blocks _ hblocks =>
    cases h
    obtain ⟨block, hmem, hblock⟩ := changeBlocks_eq_ok hblocks c hc
    exact ⟨blocks, block, hmem, hblock, rfl⟩

/-- **Which plans can be shown**: those whose updates say from what to what each attribute
changes. -/
theorem plan_eq_ok_iff (color : Bool) {p : Plan} :
    (∃ text, plan color p = .ok text) ↔ ∀ c ∈ p.actionable, c.IsComplete := by
  constructor
  · rintro ⟨text, h⟩ c hc
    obtain ⟨_, block, -, hblock, -⟩ := plan_eq_ok h c hc
    exact (change_eq_ok_iff color).1 ⟨block, hblock⟩
  · intro h
    obtain ⟨blocks, hblocks⟩ := exists_changeBlocks color h
    unfold plan changes
    rw [show changeBlocks color (p.changes.filter Change.isActionable) = .ok blocks from hblocks]
    cases blocks with
    | nil => exact ⟨_, rfl⟩
    | cons block more => exact ⟨_, rfl⟩

/-! ## What is shown -/

/-- What is shown of a change holds its address. -/
theorem hasHalf_address_of_change {c : Change} {block : String} (h : change color c = .ok block)
    (hblock : hasHalf block = false) : hasHalf c.address = false := by
  obtain ⟨pairs, -, rfl⟩ := change_eq_ok h
  have hline := CiVariables.Text.hasHalf_of_mem_join List.mem_cons_self hblock
  simp only [Terminal.hasHalf_styleIf, CiVariables.Text.hasHalf_append, Bool.or_eq_false_iff]
    at hline
  exact hline.1.1.2

/-- What is shown of a plan holds the addresses of its changes. -/
theorem hasHalf_address {p : Plan} {text : String} (h : plan color p = .ok text)
    (htext : hasHalf text = false) : ∀ c ∈ p.actionable, hasHalf c.address = false := by
  intro c hc
  obtain ⟨blocks, block, hmem, hblock, rfl⟩ := plan_eq_ok h c hc
  exact hasHalf_address_of_change hblock (CiVariables.Text.hasHalf_of_mem_join hmem htext)

theorem hasHalf_countPhrase (t : Tally) (applied color : Bool) (a : Action) :
    hasHalf (countPhrase t applied color a) = false := by
  have hwords : hasHalf (countWords applied a) = false := by
    cases a <;> cases applied <;> decide +kernel
  have htext : hasHalf (toString (t.count a) ++ " " ++ countWords applied a) = false := by
    simp only [CiVariables.Text.hasHalf_append, CiVariables.Text.hasHalf_toString_int, hwords]
    decide
  unfold countPhrase
  simp only
  split
  · exact htext
  · rw [Terminal.hasHalf_styleIf, htext]

theorem hasHalf_countPhrases (t : Tally) (applied color : Bool) :
    hasHalf (CiVariables.Text.join ", " (countPhrases t applied color)) = false :=
  CiVariables.Text.hasHalf_join (by decide) fun phrase hphrase => by
    obtain ⟨a, -, rfl⟩ := List.mem_map.1 hphrase
    exact hasHalf_countPhrase t applied color a

theorem hasHalf_planSummary (color : Bool) (t : Tally) : hasHalf (planSummary color t) = false := by
  unfold planSummary
  simp only [CiVariables.Text.hasHalf_append, hasHalf_countPhrases]
  decide

theorem hasHalf_applySummary (color : Bool) (t : Tally) :
    hasHalf (applySummary color t) = false := by
  unfold applySummary
  simp only [CiVariables.Text.hasHalf_append, Terminal.hasHalf_styleIf, hasHalf_countPhrases]
  decide

end Report

end CiVariables
