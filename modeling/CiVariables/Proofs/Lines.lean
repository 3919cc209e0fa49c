import CiVariables.Proofs.Halves

/-!
# Lines of progress without halves of surrogate pairs

Lines are broken between words, tabs become blanks, and what is too wide is cut: none of it breaks a
character. So the lines that tell of a run are whole if the addresses in them are.
-/

namespace CiVariables

open Text (IsWhole isWhole_append_iff isWhole_blanks isWhole_cons_iff isWhole_nil)

theorem Text.isWhole_flatMap {α : Type} {as : List α} {f : α → List Char}
    (h : ∀ a ∈ as, IsWhole (f a)) : IsWhole (as.flatMap f) := by
  intro c hc
  obtain ⟨a, ha, hc⟩ := List.mem_flatMap.1 hc
  exact h a ha c hc

namespace Terminal

variable {cs : List Char}

/-! ## Widths -/

theorem takeCells_subset (n : Nat) (cs : List Char) : (takeCells n cs).1 ⊆ cs := by
  fun_induction takeCells n cs with
  | case1 => exact List.Subset.refl _
  | case2 n c rest hfits taken left htaken ih =>
    rw [htaken] at ih
    exact List.cons_subset_cons c ih
  | case3 => exact List.nil_subset _

theorem isWhole_fit (n : Nat) (h : IsWhole cs) : IsWhole (fit n cs) :=
  isWhole_append_iff.2 ⟨h.subset (takeCells_subset n cs), isWhole_blanks _⟩

theorem isWhole_cut (n : Nat) (h : IsWhole cs) : IsWhole (cut n cs) := by
  unfold cut
  split
  · exact isWhole_fit n h
  · exact h

theorem isWhole_fitOrElide (n : Nat) (h : IsWhole cs) : IsWhole (fitOrElide n cs) := by
  unfold fitOrElide
  split
  · exact isWhole_append_iff.2 ⟨isWhole_fit _ h, isWhole_cons_iff.2 ⟨rfl, isWhole_nil⟩⟩
  · exact isWhole_fit n h

/-! ## Lines -/

theorem isWhole_expandTabs (position : Nat) (h : IsWhole cs) :
    IsWhole (expandTabs position cs) := by
  fun_induction expandTabs position cs with
  | case1 => exact isWhole_nil
  | case2 position rest blanks ih =>
    exact isWhole_append_iff.2 ⟨isWhole_blanks _, ih (isWhole_cons_iff.1 h).2⟩
  | case3 position c rest htab ih =>
    obtain ⟨hc, hrest⟩ := isWhole_cons_iff.1 h
    exact isWhole_cons_iff.2 ⟨hc, ih hrest⟩

/-- A word and what follows it make up the line. -/
theorem nextWord_append (cs : List Char) : (nextWord cs).1 ++ (nextWord cs).2 = cs := by
  simp only [nextWord, List.append_assoc, Text.takeWhile_append_drop]

theorem isWhole_words (h : IsWhole cs) : ∀ word ∈ words cs, IsWhole word := by
  fun_induction words cs with
  | case1 => nofun
  | case2 c rest ih =>
    rw [← nextWord_append (c :: rest)] at h
    obtain ⟨hword, hrest⟩ := isWhole_append_iff.1 h
    exact List.forall_mem_cons.2 ⟨hword, ih hrest⟩

theorem isWhole_trimEnd (n : Nat) (h : IsWhole cs) : IsWhole (trimEnd n cs) :=
  h.subset (List.take_subset _ _)

theorem isWhole_chop (n : Nat) (h : IsWhole cs) : ∀ piece ∈ chop n cs, IsWhole piece := by
  -- The pieces that are chopped off so far and the one at work are whole.
  let chopped (acc : List (List Char) × List Char × Nat) : Prop :=
    (∀ piece ∈ acc.1, IsWhole piece) ∧ IsWhole acc.2.1
  have hlines {acc : List (List Char) × List Char × Nat} (hacc : chopped acc) :
      ∀ piece ∈ (acc.2.1.reverse :: acc.1).reverse, IsWhole piece := by
    intro piece hpiece
    rcases List.mem_cons.1 (List.mem_reverse.1 hpiece) with rfl | hpiece
    · exact Text.isWhole_reverse_iff.2 hacc.2
    · exact hacc.1 piece hpiece
  refine hlines (List.foldlRecOn (motive := chopped) cs _
    ⟨List.forall_mem_nil _, isWhole_nil⟩ ?_)
  rintro ⟨pieces, piece, used⟩ ⟨hpieces, hpiece⟩ c hc
  simp only
  split
  · exact ⟨List.forall_mem_cons.2 ⟨Text.isWhole_reverse_iff.2 hpiece, hpieces⟩,
      isWhole_cons_iff.2 ⟨h c hc, isWhole_nil⟩⟩
  · exact ⟨hpieces, isWhole_cons_iff.2 ⟨h c hc, hpiece⟩⟩

namespace Filling

/-- The lines so far are whole. -/
structure IsWhole (f : Filling) : Prop where
  done : ∀ line ∈ f.done, Text.IsWhole line
  line : Text.IsWhole f.line

variable {f : Filling}

theorem IsWhole.onNewLine (h : f.IsWhole) {piece : List Char} (hpiece : Text.IsWhole piece) :
    (f.onNewLine piece).IsWhole := by
  refine ⟨?_, hpiece⟩
  unfold Filling.onNewLine
  simp only
  split
  · exact List.forall_mem_cons.2 ⟨h.line, h.done⟩
  · exact h.done

/-- Adding a whole word to whole lines leaves them whole. -/
theorem IsWhole.add (n : Nat) (h : f.IsWhole) {word : List Char} (hword : Text.IsWhole word) :
    (f.add n word).IsWhole := by
  unfold Filling.add
  simp only
  split
  · exact ⟨h.done, isWhole_append_iff.2 ⟨h.line, hword⟩⟩
  · split
    · exact List.foldlRecOn (chop n word) _ h fun _ hf piece hpiece =>
        hf.onNewLine (isWhole_chop n hword piece hpiece)
    · exact h.onNewLine hword

theorem IsWhole.lines (h : f.IsWhole) : ∀ line ∈ f.lines, Text.IsWhole line := by
  intro line hline
  rcases List.mem_cons.1 (List.mem_reverse.1 hline) with rfl | hline
  · exact h.line
  · exact h.done line hline

end Filling

theorem isWhole_wrapLine (n : Nat) (h : IsWhole cs) : ∀ line ∈ wrapLine n cs, IsWhole line := by
  have hwords := isWhole_words (isWhole_expandTabs 0 h)
  have hfilled : ((words (expandTabs 0 cs)).foldl (Filling.add n) {}).IsWhole :=
    List.foldlRecOn _ _ ⟨List.forall_mem_nil _, isWhole_nil⟩ fun _ hf word hword =>
      hf.add n (hwords word hword)
  unfold wrapLine
  simp only [List.mem_map, forall_exists_index, and_imp, forall_apply_eq_imp_iff₂]
  exact fun line hline => isWhole_cut n (isWhole_trimEnd n (hfilled.lines line hline))

/-- The lines of a whole text are whole. -/
theorem isWhole_wrap (n : Nat) (h : IsWhole cs) : ∀ line ∈ wrap n cs, IsWhole line := by
  unfold wrap
  split
  · nofun
  · intro line hline
    obtain ⟨source, hsource, hline⟩ := List.mem_flatMap.1 hline
    exact isWhole_wrapLine n
      (Text.isWhole_splitLines (isWhole_withoutControls h) source hsource) line hline

/-! ## Rows -/

/-- The content is whole, however wide the cell is. -/
def Cell.IsWhole (c : Cell) : Prop := ∀ width, ∀ line ∈ c.lines width, Text.IsWhole line

theorem Cell.IsWhole.linesIn {c : Cell} (h : c.IsWhole) (width : Nat) :
    ∀ line ∈ c.linesIn width, Text.IsWhole line := by
  unfold Cell.linesIn
  split
  · nofun
  · simp only [List.mem_map, forall_exists_index, and_imp, forall_apply_eq_imp_iff₂]
    exact fun line hline => isWhole_fit _ (isWhole_fit _ (h _ line hline))

/-- The lines of a row are whole if its cells are. -/
theorem isWhole_row (screen : Nat) {cells : List Cell} (h : ∀ c ∈ cells, c.IsWhole) :
    ∀ line ∈ row screen cells, IsWhole line := by
  unfold row
  split
  · nofun
  · simp only [List.mem_map, forall_exists_index, and_imp, forall_apply_eq_imp_iff₂]
    refine fun i _ => isWhole_cut _ (Text.isWhole_flatMap fun column hcolumn => isWhole_fit _ ?_)
    obtain ⟨⟨c, width⟩, hzip, rfl⟩ := List.mem_map.1 hcolumn
    cases hline : (c.linesIn width)[i]? with
    | none => exact isWhole_nil
    | some line => exact (h c (List.of_mem_zip hzip).1).linesIn _ line (List.mem_of_getElem? hline)

end Terminal

/-! ## Progress -/

namespace Report.Progress

variable {p : Progress} {screen : Nat} {lines : List String}

theorem isWhole_descriptionCell {text : List Char} (h : IsWhole text) :
    (descriptionCell text).IsWhole := by
  intro width
  simp only [descriptionCell, List.mem_map, forall_exists_index, and_imp,
    forall_apply_eq_imp_iff₂]
  exact fun line hline => Terminal.isWhole_fitOrElide _ (Terminal.isWhole_trimEnd _
    (Terminal.isWhole_expandTabs _ (Text.isWhole_splitLines h line hline)))

theorem isWhole_bar (p : Progress) (width : Nat) : IsWhole (p.bar width) :=
  isWhole_append_iff.2 ⟨Text.isWhole_replicate _ rfl, Text.isWhole_replicate _ rfl⟩

theorem isWhole_percentage (p : Progress) : IsWhole p.percentage :=
  isWhole_append_iff.2 ⟨isWhole_append_iff.2 ⟨isWhole_blanks _, Text.isWhole_toDigits _⟩,
    isWhole_cons_iff.2 ⟨rfl, isWhole_nil⟩⟩

theorem isWhole_cells (p : Progress) {description : List Char} (h : IsWhole description) :
    ∀ c ∈ p.cells description, c.IsWhole := by
  have hmark : IsWhole [p.mark] := by
    unfold mark
    split <;> exact isWhole_cons_iff.2 ⟨rfl, isWhole_nil⟩
  simp only [cells, List.forall_mem_cons]
  exact ⟨fun _ => List.forall_mem_singleton.2 hmark, isWhole_descriptionCell h,
    fun _ => List.forall_mem_singleton.2 (p.isWhole_bar _),
    fun _ => List.forall_mem_singleton.2 (Terminal.isWhole_fitOrElide _ p.isWhole_percentage),
    List.forall_mem_nil _⟩

theorem hasHalf_map_ofList {ls : List (List Char)} (h : ∀ line ∈ ls, IsWhole line) :
    ∀ line ∈ ls.map String.ofList, Text.hasHalf line = false := by
  simp only [List.mem_map, forall_exists_index, and_imp, forall_apply_eq_imp_iff₂]
  exact fun line hline => Text.hasHalf_eq_false_iff.2 (by simpa using h line hline)

/-- The line that shows the progress can be written if what is going on can. -/
theorem hasHalf_lines (hp : Text.hasHalf p.description = false) (h : p.lines screen = .ok lines) :
    ∀ line ∈ lines, Text.hasHalf line = false := by
  have hmarkup : Text.hasHalf p.descriptionMarkup = false := by
    have hstyle : Text.hasHalf "[progress.description]" = false := by decide +kernel
    unfold descriptionMarkup
    rw [Text.hasHalf_append, hstyle, hp, Bool.or_self]
  unfold Progress.lines at h
  cases hplain : Terminal.Markup.plain p.descriptionMarkup with
  | error fault =>
    rw [hplain] at h
    cases h
  | ok text =>
    rw [hplain] at h
    cases h
    exact hasHalf_map_ofList
      (Terminal.isWhole_row _ (p.isWhole_cells (Terminal.isWhole_plain hmarkup hplain)))

/-- The line that tells of a change can be written if its address can. -/
theorem hasHalf_noteLines {e : Event}
    (he : ∀ address action, e = .finished address action → Text.hasHalf address = false)
    (h : noteLines screen e = .ok lines) : ∀ line ∈ lines, Text.hasHalf line = false := by
  cases e with
  | finished address action =>
    have hmarkup : Text.hasHalf ("  " ++ address ++ ": " ++ (lookOf action).done) = false := by
      have hdone : Text.hasHalf (lookOf action).done = false := by cases action <;> rfl
      simp only [Text.hasHalf_append, he address action rfl, hdone]
      rfl
    unfold noteLines note? at h
    simp only at h
    split at h
    · next hplain =>
      cases h
      exact hasHalf_map_ofList (Terminal.isWhole_wrap _ (Terminal.isWhole_plain hmarkup hplain))
    · cases h
  | _ =>
    cases h
    nofun

end Report.Progress

end CiVariables
