import CiVariables.Proofs.Showing

/-!
# Color only adds color

Deleting every color sequence from what is shown in color leaves what is shown without
(`Report.color_only_adds_color`). `Terminal.uncolor` deletes the sequences. `Terminal.Colors` says
of two texts that the first is the second with sequences put in; it is kept by everything that
puts shown texts together, and the deletion undoes it. What it needs is that no shown text brings
an escape of its own: a text among the attributes is shown as it is, a nested one in quotes, where
an escape is written out.
-/

namespace CiVariables

/-! ## Deleting colors -/

namespace Terminal

/-- A character between the bracket and the final letter of a color sequence. -/
def isColorParameter (c : Char) : Bool := c.isDigit || c == ';'

/-- What is left after the color sequence at the start of a text. -/
def afterColor? : List Char → Option (List Char)
  | '\x1b' :: '[' :: rest =>
    match rest.dropWhile isColorParameter with
    | 'm' :: after => some after
    | _ => none
  | _ => none

theorem length_afterColor? {cs after : List Char} (h : afterColor? cs = some after) :
    after.length < cs.length := by
  unfold afterColor? at h
  split at h
  · next rest =>
    split at h
    · next left hleft =>
      cases h
      have hle := (List.dropWhile_suffix isColorParameter (l := rest)).length_le
      rw [hleft] at hle
      simp only [List.length_cons] at hle ⊢
      omega
    · cases h
  · cases h

/-- The characters that are left when every color sequence is deleted. -/
def uncolorChars : List Char → List Char
  | [] => []
  | c :: cs =>
    match h : afterColor? (c :: cs) with
    | some after =>
      have : after.length < cs.length + 1 := length_afterColor? h
      uncolorChars after
    | none => c :: uncolorChars cs
  termination_by cs => cs.length

/-- Deletes every color sequence; unlike `strip` it leaves sequences of other kinds. -/
def uncolor (s : String) : String := String.ofList (uncolorChars s.toList)

example : uncolor "\x1b[31;1mno\x1b[0m \x1b[2K" = "no \x1b[2K" := by cbv

theorem uncolorChars_of_some {c : Char} {cs after : List Char}
    (h : afterColor? (c :: cs) = some after) : uncolorChars (c :: cs) = uncolorChars after := by
  rw [uncolorChars]
  split
  · next hsome =>
    rw [h] at hsome
    cases hsome
    rfl
  · next hnone =>
    rw [h] at hnone
    cases hnone

theorem uncolorChars_of_none {c : Char} {cs : List Char} (h : afterColor? (c :: cs) = none) :
    uncolorChars (c :: cs) = c :: uncolorChars cs := by
  rw [uncolorChars]
  split
  · next hsome =>
    rw [h] at hsome
    cases hsome
  · rfl

theorem afterColor?_of_ne {c : Char} (hc : c ≠ escape) (cs : List Char) :
    afterColor? (c :: cs) = none := by
  unfold afterColor?
  split
  · next heq =>
    cases heq
    exact absurd rfl hc
  · rfl

theorem dropWhile_code {code : List Char} (hcode : ∀ c ∈ code, isColorParameter c = true)
    (rest : List Char) : (code ++ 'm' :: rest).dropWhile isColorParameter = 'm' :: rest := by
  rw [List.dropWhile_append_of_pos hcode]
  rfl

/-- A color sequence is read whole, whatever follows. -/
theorem afterColor?_sequence {code : List Char} (hcode : ∀ c ∈ code, isColorParameter c = true)
    (rest : List Char) : afterColor? (escape :: '[' :: (code ++ 'm' :: rest)) = some rest := by
  unfold afterColor? escape
  simp only [dropWhile_code hcode]

/-! ## Color sequences put into a text -/

/-- The first text is the second, which holds no escape, with color sequences put in. -/
inductive Colors : List Char → List Char → Prop
  | nil : Colors [] []
  | char {c : Char} {cs ds : List Char} (hc : c ≠ escape) (h : Colors cs ds) :
    Colors (c :: cs) (c :: ds)
  | sequence {code cs ds : List Char} (hcode : ∀ c ∈ code, isColorParameter c = true)
    (h : Colors cs ds) : Colors (escape :: '[' :: (code ++ 'm' :: cs)) ds

/-- Taking the colors away gives the text without them. -/
theorem Colors.uncolorChars_eq {cs ds : List Char} (h : Colors cs ds) : uncolorChars cs = ds := by
  induction h with
  | nil => rw [uncolorChars]
  | char hc _ ih => rw [uncolorChars_of_none (afterColor?_of_ne hc _), ih]
  | sequence hcode _ ih => rw [uncolorChars_of_some (afterColor?_sequence hcode _), ih]

/-- Colored texts can be put one after the other. -/
theorem Colors.append {cs ds cs' ds' : List Char} (h : Colors cs ds) (h' : Colors cs' ds') :
    Colors (cs ++ cs') (ds ++ ds') := by
  induction h with
  | nil => exact h'
  | char hc _ ih => exact .char hc ih
  | sequence hcode _ ih => simpa using Colors.sequence hcode ih

/-- A text without the escape character has no colors to take away. -/
theorem Colors.refl {cs : List Char} (h : escape ∉ cs) : Colors cs cs := by
  induction cs with
  | nil => exact .nil
  | cons c cs ih =>
    rw [List.mem_cons, not_or] at h
    exact .char (Ne.symm h.1) (ih h.2)

/-! ## Texts -/

/-- No escape stands in the text. -/
def IsPlain (s : String) : Prop := escape ∉ s.toList

instance (s : String) : Decidable (IsPlain s) := inferInstanceAs (Decidable (escape ∉ s.toList))

@[simp] theorem isPlain_append_iff {s t : String} : IsPlain (s ++ t) ↔ IsPlain s ∧ IsPlain t := by
  simp [IsPlain]

@[simp] theorem isPlain_ofList_iff {cs : List Char} : IsPlain (String.ofList cs) ↔ escape ∉ cs := by
  simp [IsPlain]

/-- The first text is the second with color sequences put in. -/
def IsColored (colored plain : String) : Prop := Colors colored.toList plain.toList

namespace IsColored

variable {s t s' t' : String}

theorem uncolor_eq (h : IsColored s t) : uncolor s = t := by
  rw [uncolor, Colors.uncolorChars_eq h, String.ofList_toList]

theorem refl (h : IsPlain s) : IsColored s s := Colors.refl h

theorem append (h : IsColored s t) (h' : IsColored s' t') : IsColored (s ++ s') (t ++ t') := by
  unfold IsColored
  rw [String.toList_append, String.toList_append]
  exact Colors.append h h'

theorem sequence {code : String} (hcode : code.toList.all isColorParameter = true) :
    IsColored (Terminal.sequence code) "" := by
  have hcolors := Colors.sequence (List.all_eq_true.1 hcode) .nil
  unfold IsColored Terminal.sequence
  rw [String.toList_ofList]
  simpa using hcolors

/-- The parts are colored one by one, and what stands between them is plain. -/
theorem join {separator : String} {ss ts : List String} (hseparator : IsPlain separator)
    (h : List.Forall₂ IsColored ss ts) :
    IsColored (Text.join separator ss) (Text.join separator ts) := by
  induction h with
  | nil => exact Colors.nil
  | @cons first first' rest rest' hfirst hrest ih =>
    cases hrest with
    | nil => exact hfirst
    | cons => exact (hfirst.append (refl hseparator)).append ih

/-- A styled text is that text, colored. -/
theorem style (color : Color) (bold : Bool) (h : IsPlain s) :
    IsColored (Terminal.style (some color) bold s) s := by
  have hcolor : IsColored (Terminal.sequence color.code) "" := by
    cases color <;> exact sequence (by decide)
  have hbold : IsColored (if bold then Terminal.sequence "1" else "") "" := by
    cases bold with
    | true => exact sequence (by decide)
    | false => exact refl (by decide)
  have hreset : IsColored reset "" := sequence (by decide)
  have happended := ((hcolor.append hbold).append (refl h)).append hreset
  rwa [String.empty_append, String.empty_append, String.append_empty] at happended

theorem styleIf (color : Color) (bold : Bool) (h : IsPlain s) :
    IsColored (Terminal.styleIf true color bold s) (Terminal.styleIf false color bold s) :=
  style color bold h

end IsColored

end Terminal

/-! ## Texts that bring no escape -/

open Terminal (IsPlain IsColored isPlain_append_iff isPlain_ofList_iff escape)

namespace Text

/-- Digits to any base are letters, numerals or stars. -/
theorem escape_not_mem_toDigits {b : Nat} (hb : 1 < b) (n : Nat) : escape ∉ Nat.toDigits b n := by
  induction n using Nat.strongRecOn with
  | _ n ih =>
    rw [Nat.toDigits_eq_if hb]
    have hdigit (d : Nat) : escape ∉ [Nat.digitChar d] := by simp [escape]
    split
    · exact hdigit n
    · next hle =>
      have hlt : n / b < n := Nat.div_lt_self (by omega) hb
      rw [List.mem_append, not_or]
      exact ⟨ih _ hlt, hdigit _⟩

theorem isPlain_toString_nat (n : Nat) : IsPlain (toString n) := by
  rw [Nat.toString_eq_ofList_toDigits, isPlain_ofList_iff]
  exact escape_not_mem_toDigits (by decide) n

theorem isPlain_toString_int (n : Int) : IsPlain (toString n) := by
  cases n with
  | ofNat n => exact isPlain_toString_nat n
  | negSucc n =>
    show IsPlain ("-" ++ toString (n + 1))
    simp only [isPlain_append_iff, isPlain_toString_nat, and_true]
    decide

theorem escape_not_mem_hex (width n : Nat) : escape ∉ hex width n := by
  have hzero : escape ≠ '0' := by decide
  simp [hex, escape_not_mem_toDigits, hzero]

/-- The escape character is not shown as it is, so a quoted text cannot hold it. -/
theorem isPrintable_escape : isPrintable escape = false := by decide +kernel

/-- A quoted escape is written out. -/
theorem escape_not_mem_escapeQuoted {quote : Char} (hquote : quote ≠ escape) (c : Char) :
    escape ∉ escapeQuoted quote c := by
  have hbackslash : escape ≠ '\\' := by decide
  unfold escapeQuoted
  split
  · next hc =>
    rcases hc with rfl | rfl
    · simp [Ne.symm hquote, hbackslash]
    · decide
  split
  · decide
  split
  · decide
  split
  · decide
  split
  · next hprintable =>
    intro hmem
    rw [← List.mem_singleton.1 hmem, isPrintable_escape] at hprintable
    cases hprintable
  · have hcode (mark : Char) (hmark : escape ≠ mark) (width : Nat) :
        escape ∉ '\\' :: mark :: hex width (codeOf c) := by
      simp [escape_not_mem_hex, hbackslash, hmark]
    simp only
    split
    · exact hcode 'x' (by decide) 2
    split
    · exact hcode 'u' (by decide) 4
    · exact hcode 'U' (by decide) 8

/-- Whatever a text holds, between quotes it is plain. -/
theorem isPlain_quoted (s : String) : IsPlain (quoted s) := by
  have hquote : quoteFor s.toList ≠ escape := by
    unfold quoteFor
    split <;> decide
  unfold quoted
  rw [isPlain_ofList_iff]
  simp [Ne.symm hquote, escape_not_mem_escapeQuoted hquote]

end Text

/-! ## Numbers and nested values -/

theorem Double.escape_not_mem_shortest (x : Double) : escape ∉ x.shortest.digits := by
  have hfrom (point : Int) (fuel n : Nat) : escape ∉ (x.shortestFrom point fuel n).digits := by
    induction fuel generalizing n with
    | zero => exact Text.escape_not_mem_toDigits (by decide) _
    | succ fuel ih =>
      unfold shortestFrom
      split
      · exact Text.escape_not_mem_toDigits (by decide) _
      · exact ih _
  intro hmem
  have htrimmed := List.mem_reverse.1 hmem
  exact hfrom _ _ _ (List.mem_reverse.1 ((List.dropWhile_sublist _).subset htrimmed))

theorem DecimalStyle.escape_not_mem_write (style : DecimalStyle) {d : DecimalDigits}
    (hd : escape ∉ d.digits) : escape ∉ style.write d := by
  have hzero : escape ≠ '0' := by decide
  have hpoint : escape ≠ '.' := by decide
  have htake (n : Nat) : escape ∉ d.digits.take n := fun h => hd (List.take_subset _ _ h)
  have hdrop (n : Nat) : escape ∉ d.digits.drop n := fun h => hd (List.drop_subset _ _ h)
  unfold write
  simp only
  split
  · split
    · simp [hd, hzero, hpoint]
    split
    · simp [hd, hzero, hpoint]
    · simp [htake, hdrop, hpoint]
  · have hexponent : escape ∉ padZeros style.exponentWidth
        (Nat.toDigits 10 (d.point - 1).natAbs) := by
      simp [padZeros, Text.escape_not_mem_toDigits, hzero]
    have hmark : escape ≠ 'e' := by decide
    simp only [List.mem_append, List.mem_cons, not_or]
    refine ⟨⟨?_, hmark, ?_⟩, hexponent⟩
    · split
      · decide
      · next heq => rwa [heq] at hd
      · next heq =>
        rw [heq, List.mem_cons, not_or] at hd
        simp [hd.1, hd.2, hpoint]
    · split
      · decide
      split <;> decide

theorem Double.isPlain_display (x : Double) : IsPlain x.display := by
  unfold display
  split
  · decide
  split
  · split <;> decide
  · unfold DecimalStyle.ofFinite
    simp only
    rw [isPlain_ofList_iff, List.mem_append, not_or]
    refine ⟨?_, ?_⟩
    · split <;> decide
    · split
      · decide
      · exact DecimalStyle.escape_not_mem_write _ x.escape_not_mem_shortest

namespace Json

mutual

/-- The text of a value on one line is plain, since its texts are quoted. -/
theorem isPlain_inline : ∀ j : Json, IsPlain j.inline
  | .null => by decide
  | .bool true => by decide
  | .bool false => by decide
  | .int n => by
    unfold inline
    exact Text.isPlain_toString_int n
  | .float x => by
    unfold inline
    exact x.isPlain_display
  | .str s => by
    unfold inline
    exact Text.isPlain_quoted s
  | .arr items => by
    unfold inline
    simp only [isPlain_append_iff, isPlain_inlineItems items, and_true]
    decide
  | .obj fields => by
    unfold inline
    simp only [isPlain_append_iff, isPlain_inlineFields fields, and_true]
    decide

theorem isPlain_inlineItems : ∀ items : List Json, IsPlain (inlineItems items)
  | [] => by decide
  | [j] => by
    unfold inlineItems
    exact isPlain_inline j
  | j :: next :: rest => by
    unfold inlineItems
    simp only [isPlain_append_iff, isPlain_inline j, isPlain_inlineItems (next :: rest), and_true]
    decide

theorem isPlain_inlineFields : ∀ fields : Fields, IsPlain (inlineFields fields)
  | [] => by decide
  | [(k, j)] => by
    unfold inlineFields
    simp only [isPlain_append_iff, Text.isPlain_quoted k, isPlain_inline j, and_true]
    decide
  | (k, j) :: next :: rest => by
    unfold inlineFields
    simp only [isPlain_append_iff, Text.isPlain_quoted k, isPlain_inline j,
      isPlain_inlineFields (next :: rest), and_true]
    decide

end

end Json

/-! ## Changes -/

/-- No text of the members brings an escape: neither their names nor texts among their values. -/
def Fields.IsPlain (fields : Fields) : Prop :=
  ∀ field ∈ fields, Terminal.IsPlain field.1 ∧ ∀ s ∈ field.2.texts, Terminal.IsPlain s

instance (fields : Fields) : Decidable fields.IsPlain :=
  inferInstanceAs (Decidable (∀ field ∈ fields, Terminal.IsPlain field.1 ∧
    ∀ s ∈ field.2.texts, Terminal.IsPlain s))

/-- No text of the change that may be shown brings an escape. What is declared is never shown. -/
structure Change.IsPlain (c : Change) : Prop where
  address : Terminal.IsPlain c.address
  resourceType : Terminal.IsPlain c.resourceType
  prior : Fields.IsPlain (c.prior.getD [])
  planned : Fields.IsPlain (c.planned.getD [])
  diff : Fields.IsPlain (c.diff.getD [])

namespace Report

/-- Both fail for the same reason, or both give results, which are related. -/
inductive Alike {α β : Type} (R : α → β → Prop) : Except Failure α → Except Failure β → Prop
  | error (failure : Failure) : Alike R (.error failure) (.error failure)
  | ok {a : α} {b : β} (h : R a b) : Alike R (.ok a) (.ok b)

theorem Alike.map_uncolor {x y : Except Failure String} (h : Alike IsColored x y) :
    x.map Terminal.uncolor = y := by
  cases h with
  | error => rfl
  | ok h => exact congrArg Except.ok h.uncolor_eq

/-- What is shown of a value is plain if its texts are. -/
theorem isPlain_render {name : String} {value : Json} (h : ∀ s ∈ value.texts, IsPlain s) :
    IsPlain (render name value) := by
  unfold render
  split
  · decide
  split
  · decide
  split
  · decide
  · decide
  · next s _ =>
    have hs : IsPlain s := h s (List.mem_singleton_self s)
    simp only [isPlain_append_iff, hs, and_true]
    decide
  · exact Json.isPlain_inline _

/-- The texts of a member are among those of the whole. -/
theorem texts_subset_of_memberOf {value j : Json} {name : String}
    (h : memberOf value name = .ok j) : j.texts ⊆ value.texts := by
  obtain ⟨fields, rfl, hlookup⟩ := memberOf_eq_ok_iff.1 h
  obtain ⟨before, after, rfl, -⟩ := List.lookup_eq_some_iff.1 hlookup
  intro s hs
  rw [Json.texts, Json.textsOfFields_eq]
  simp [hs]

theorem isPlain_renderDifference {name text : String} {difference : Json}
    (htexts : ∀ s ∈ difference.texts, IsPlain s) (h : renderDifference name difference = .ok text) :
    IsPlain text := by
  unfold renderDifference at h
  split at h
  · cases h
  · next before hfrom =>
    split at h
    · cases h
    · next after hto =>
      cases h
      have hbefore : IsPlain (render name before) :=
        isPlain_render fun s hs => htexts s (texts_subset_of_memberOf hfrom hs)
      have hafter : IsPlain (render name after) :=
        isPlain_render fun s hs => htexts s (texts_subset_of_memberOf hto hs)
      simp only [isPlain_append_iff, hbefore, hafter, true_and, and_true]
      decide

/-- Names and texts that are shown as the attributes of a change. -/
def PlainPairs (pairs : List (String × String)) : Prop :=
  ∀ name text, (name, text) ∈ pairs → IsPlain name ∧ IsPlain text

theorem plainPairs_differencePairs {fields : Fields} (h : fields.IsPlain)
    {pairs : List (String × String)} (hpairs : differencePairs fields = .ok pairs) :
    PlainPairs pairs := by
  induction fields generalizing pairs with
  | nil =>
    cases hpairs
    exact fun _ _ => nofun
  | cons field rest ih =>
    obtain ⟨name, difference⟩ := field
    obtain ⟨⟨hname, htexts⟩, hmore⟩ := List.forall_mem_cons.1 h
    unfold differencePairs at hpairs
    cases htext : renderDifference name difference with
    | error failure => simp [htext] at hpairs
    | ok text =>
      cases hrest : differencePairs rest with
      | error failure => simp [htext, hrest] at hpairs
      | ok more =>
        simp only [htext, hrest, Except.ok.injEq] at hpairs
        subst hpairs
        intro name' text' hmem
        rcases List.mem_cons.1 hmem with heq | hmem
        · cases heq
          exact ⟨hname, isPlain_renderDifference htexts htext⟩
        · exact ih hmore hrest name' text' hmem

theorem plainPairs_identityPairs {prior : Fields} (h : prior.IsPlain) :
    PlainPairs (identityPairs prior) := by
  intro name text hmem
  obtain ⟨name', -, hfound⟩ := List.mem_filterMap.1 hmem
  obtain ⟨value, hvalue, heq⟩ := Option.map_eq_some_iff.1 hfound
  cases heq
  obtain ⟨before, after, rfl, -⟩ := List.lookup_eq_some_iff.1 hvalue
  obtain ⟨hname, htexts⟩ := h (name, value) (by simp)
  exact ⟨hname, isPlain_render htexts⟩

theorem plainPairs_attributePairs {c : Change} (h : c.IsPlain) {pairs : List (String × String)}
    (hpairs : attributePairs c = .ok pairs) : PlainPairs pairs := by
  unfold attributePairs at hpairs
  cases haction : c.action with
  | create =>
    simp only [haction, Except.ok.injEq] at hpairs
    subst hpairs
    intro name text hmem
    obtain ⟨⟨name', value⟩, hvalue, heq⟩ := List.mem_map.1 hmem
    cases heq
    obtain ⟨hname, htexts⟩ := h.planned (name', value) hvalue
    exact ⟨hname, isPlain_render htexts⟩
  | update =>
    simp only [haction] at hpairs
    exact plainPairs_differencePairs h.diff hpairs
  | delete =>
    simp only [haction, Except.ok.injEq] at hpairs
    subst hpairs
    exact plainPairs_identityPairs h.prior
  | keep =>
    simp only [haction, Except.ok.injEq] at hpairs
    subst hpairs
    exact fun _ _ => nofun

theorem isPlain_look (a : Action) : IsPlain (lookOf a).symbol ∧ IsPlain (lookOf a).heading := by
  cases a <;> decide

theorem isPlain_shownName {address : String} (h : IsPlain address) :
    IsPlain (shownName address) := by
  have hrest : escape ∉ (address.toList.dropWhile (· != '.')).drop 1 := fun hmem =>
    h ((List.dropWhile_sublist _).subset (List.drop_subset _ _ hmem))
  unfold shownName
  split
  · exact h
  · exact isPlain_ofList_iff.2 hrest

theorem isPlain_padRight {name : String} (width : Nat) (h : IsPlain name) :
    IsPlain (padRight width name) := by
  have hblank : escape ≠ ' ' := by decide
  simp [padRight, h, hblank]

/-- The lines of a change differ in their colors only. -/
theorem colored_changeLines {c : Change} (h : c.IsPlain) {pairs : List (String × String)}
    (hpairs : PlainPairs pairs) :
    List.Forall₂ IsColored (changeLines true c pairs) (changeLines false c pairs) := by
  obtain ⟨hsymbol, hheading⟩ := isPlain_look c.action
  have hname := isPlain_shownName h.address
  unfold changeLines
  refine .cons (.styleIf _ _ ?_) (.cons (.styleIf _ _ ?_) (List.rel_append ?_ ?_))
  · simp only [isPlain_append_iff, h.address, hheading, and_true]
    decide
  · simp only [isPlain_append_iff, hsymbol, h.resourceType, hname, and_true]
    decide
  · refine List.forall₂_map_left_iff.2 (List.forall₂_map_right_iff.2 (List.forall₂_same.2 ?_))
    rintro ⟨name, text⟩ hmem
    obtain ⟨hname, htext⟩ := hpairs name text hmem
    refine .styleIf _ _ ?_
    simp only [isPlain_append_iff, hsymbol, isPlain_padRight _ hname, htext, and_true]
    decide
  · exact .cons (.styleIf _ _ (by decide)) .nil

theorem colored_change {c : Change} (h : c.IsPlain) :
    Alike IsColored (change true c) (change false c) := by
  unfold change
  cases hpairs : attributePairs c with
  | error failure => exact .error failure
  | ok pairs =>
    have hlines := colored_changeLines h (plainPairs_attributePairs h hpairs)
    exact .ok (.join (by decide) hlines)

/-- The blocks of changes differ in their colors only; if one fails, it fails either way. -/
theorem colored_changeBlocks {cs : List Change} (h : ∀ c ∈ cs, c.IsPlain) :
    Alike (List.Forall₂ IsColored) (changeBlocks true cs) (changeBlocks false cs) := by
  induction cs with
  | nil => exact .ok .nil
  | cons c rest ih =>
    obtain ⟨hc, hrest⟩ := List.forall_mem_cons.1 h
    have hblock := colored_change hc
    have hblocks := ih hrest
    unfold changeBlocks
    generalize change true c = x, change false c = y at hblock
    generalize changeBlocks true rest = xs, changeBlocks false rest = ys at hblocks
    cases hblock with
    | error failure => exact .error failure
    | ok hblock =>
      cases hblocks with
      | error failure => exact .error failure
      | ok hblocks => exact .ok (.cons hblock hblocks)

/-- The text of all changes differs in its colors only. -/
theorem colored_changes {cs : List Change} (h : ∀ c ∈ cs, c.IsPlain) :
    Alike IsColored (changes true cs) (changes false cs) := by
  have hactionable : ∀ c ∈ cs.filter Change.isActionable, c.IsPlain := fun c hc =>
    h c (List.mem_filter.1 hc).1
  have hblocks := colored_changeBlocks hactionable
  unfold changes
  generalize changeBlocks true _ = xs, changeBlocks false _ = ys at hblocks
  cases hblocks with
  | error failure => exact .error failure
  | ok hblocks =>
    cases hblocks with
    | nil => exact .ok (.refl (by decide))
    | cons hblock hrest => exact .ok (.join (by decide) (.cons hblock hrest))

/-! ## Counts -/

theorem isPlain_countWords (applied : Bool) (a : Action) : IsPlain (countWords applied a) := by
  cases a <;> cases applied <;> decide

/-- A count in color is that count, colored. -/
theorem colored_countPhrase (t : Tally) (applied : Bool) (a : Action) :
    IsColored (countPhrase t applied true a) (countPhrase t applied false a) := by
  have htext : IsPlain (toString (t.count a) ++ " " ++ countWords applied a) := by
    simp only [isPlain_append_iff, Text.isPlain_toString_int, isPlain_countWords, and_true,
      true_and]
    decide
  unfold countPhrase
  simp only
  split
  · exact .refl htext
  · exact .styleIf _ _ htext

theorem colored_countPhrases (t : Tally) (applied : Bool) :
    IsColored (Text.join ", " (countPhrases t applied true))
      (Text.join ", " (countPhrases t applied false)) := by
  refine .join (by decide) ?_
  refine List.forall₂_map_left_iff.2 (List.forall₂_map_right_iff.2 (List.forall₂_same.2 ?_))
  intro a _
  exact colored_countPhrase t applied a

theorem colored_planSummary (t : Tally) : IsColored (planSummary true t) (planSummary false t) :=
  ((IsColored.refl (by decide)).append (colored_countPhrases t false)).append (.refl (by decide))

theorem colored_applySummary (t : Tally) : IsColored (applySummary true t) (applySummary false t) :=
  (((IsColored.styleIf _ _ (by decide)).append (.refl (by decide))).append
    (colored_countPhrases t true)).append (.refl (by decide))

/-- **Color only adds color.** Where no text that may be shown brings an escape, deleting every
color sequence from what is shown in color of a change, of changes, of a plan and of the counts
leaves what is shown without color; what cannot be shown fails for the same reason in both. -/
theorem color_only_adds_color (p : Plan) (t : Tally) (h : ∀ c ∈ p.changes, c.IsPlain) :
    (∀ c ∈ p.changes, (change true c).map Terminal.uncolor = change false c) ∧
      (changes true p.changes).map Terminal.uncolor = changes false p.changes ∧
      (plan true p).map Terminal.uncolor = plan false p ∧
      Terminal.uncolor (planSummary true t) = planSummary false t ∧
      Terminal.uncolor (applySummary true t) = applySummary false t := by
  have hchanges := (colored_changes h).map_uncolor
  refine ⟨fun c hc => ?_, hchanges, hchanges, ?_, ?_⟩
  · exact (colored_change (h c hc)).map_uncolor
  · exact (colored_planSummary t).uncolor_eq
  · exact (colored_applySummary t).uncolor_eq

/-- A creation with a nested value, an update and a removal. -/
def renewal : Plan :=
  ⟨⟨none, default, false, "1"⟩,
    [{ address := "variable.a", resourceType := "variable", action := .create,
       planned := some [("key", .str "K"), ("labels", .arr [.int 3, .str "x"])] },
     { address := "variable.b", resourceType := "variable", action := .update,
       diff := some [("masked", .obj [("from", .bool false), ("to", .bool true)])] },
     { address := "variable.c", resourceType := "variable", action := .delete,
       prior := some [("key", .str "L"), ("value", .str "v")] }]⟩

/-- The plan is shown, and the colors make a difference. -/
theorem color_only_adds_color_of_renewal :
    (∀ c ∈ renewal.changes, c.IsPlain) ∧
      (plan true renewal).map Terminal.uncolor = plan false renewal ∧
      (∃ text, plan false renewal = .ok text) ∧ plan true renewal ≠ plan false renewal := by
  have hplain : ∀ c ∈ renewal.changes, c.IsPlain := by
    simp only [renewal, List.forall_mem_cons]
    refine ⟨?_, ?_, ?_, List.forall_mem_nil _⟩
    all_goals exact ⟨by decide, by decide, by decide +kernel, by decide +kernel, by decide +kernel⟩
  have hshown := (color_only_adds_color renewal renewal.summary hplain).2.2.1
  have hcolored : (plan true renewal).toOption ≠ (plan false renewal).toOption := by
    decide +kernel
  exact ⟨hplain, hshown, ⟨_, rfl⟩, fun heq => hcolored (congrArg Except.toOption heq)⟩

end Report

end CiVariables
