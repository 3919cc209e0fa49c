import CiVariables.Report.Progress
import CiVariables.Proofs.PlanFile
import CiVariables.Proofs.Tags
import CiVariables.Proofs.Timestamps

/-!
# Texts without halves of surrogate pairs

A text is whole if none of its characters is half of a surrogate pair, and only a whole text can be
written. What a terminal does to a text keeps it whole: colors are put around it and stripped off
again, markup is read and emoji are put in, and lines are broken, cut and filled. Stripping loses no
half either (`Terminal.hasHalf_strip`).
-/

namespace CiVariables

/-! ## Whole texts -/

namespace Text

/-- No character is one half of a surrogate pair. -/
def IsWhole (cs : List Char) : Prop := ∀ c ∈ cs, isHalf c = false

theorem hasHalf_eq_false_iff {s : String} : hasHalf s = false ↔ IsWhole s.toList := by
  simp [hasHalf, IsWhole]

variable {cs ds : List Char}

theorem IsWhole.subset (h : IsWhole cs) (hsub : ds ⊆ cs) : IsWhole ds := fun c hc => h c (hsub hc)

@[simp] theorem isWhole_nil : IsWhole [] := nofun

@[simp] theorem isWhole_cons_iff {c : Char} :
    IsWhole (c :: cs) ↔ isHalf c = false ∧ IsWhole cs := List.forall_mem_cons

@[simp] theorem isWhole_append_iff : IsWhole (cs ++ ds) ↔ IsWhole cs ∧ IsWhole ds :=
  List.forall_mem_append

@[simp] theorem isWhole_reverse_iff : IsWhole cs.reverse ↔ IsWhole cs := by
  simp [IsWhole]

theorem isWhole_replicate (n : Nat) {c : Char} (h : isHalf c = false) :
    IsWhole (List.replicate n c) := fun _ hd => (List.mem_replicate.1 hd).2 ▸ h

theorem isWhole_blanks (n : Nat) : IsWhole (List.replicate n ' ') := isWhole_replicate n rfl

/-- The text of some characters is whole if they are. A closed list of them can be looked through.
-/
theorem hasHalf_ofList (h : cs.any isHalf = false) : hasHalf (String.ofList cs) = false := by
  simpa [hasHalf] using h

@[simp] theorem hasHalf_append (s t : String) : hasHalf (s ++ t) = (hasHalf s || hasHalf t) := by
  simp [hasHalf]

theorem join_cons_cons (separator first second : String) (rest : List String) :
    join separator (first :: second :: rest) =
      first ++ separator ++ join separator (second :: rest) := rfl

/-- The texts that are joined stand in the result. -/
theorem infix_join {separator s : String} {ss : List String} (h : s ∈ ss) :
    s.toList <:+: (join separator ss).toList := by
  induction ss with
  | nil => cases h
  | cons first rest ih =>
    cases rest with
    | nil =>
      rw [List.mem_singleton.1 h]
      exact List.infix_rfl
    | cons second rest =>
      rw [join_cons_cons, String.toList_append, String.toList_append]
      rcases List.mem_cons.1 h with rfl | h
      · rw [List.append_assoc]
        exact (List.prefix_append _ _).isInfix
      · exact (ih h).trans (List.suffix_append _ _).isInfix

/-- Texts that give a whole text when they are joined are whole. -/
theorem hasHalf_of_mem_join {separator s : String} {ss : List String} (hs : s ∈ ss)
    (h : hasHalf (join separator ss) = false) : hasHalf s = false :=
  hasHalf_eq_false_iff.2 ((hasHalf_eq_false_iff.1 h).subset (infix_join hs).subset)

theorem hasHalf_join {separator : String} {ss : List String}
    (hseparator : hasHalf separator = false) (h : ∀ s ∈ ss, hasHalf s = false) :
    hasHalf (join separator ss) = false := by
  induction ss with
  | nil => rfl
  | cons first rest ih =>
    obtain ⟨hfirst, hrest⟩ := List.forall_mem_cons.1 h
    cases rest with
    | nil => exact hfirst
    | cons second rest =>
      rw [join_cons_cons, hasHalf_append, hasHalf_append, hfirst, hseparator, ih hrest]
      rfl

theorem isHalf_of_toNat_lt {c : Char} (h : c.toNat < halfShift) : isHalf c = false := by
  rw [isHalf, decide_eq_false (by omega), Bool.false_and]

theorem isWhole_toDigits (n : Nat) : IsWhole (Nat.toDigits 10 n) := fun _ hc =>
  Timestamp.isHalf_of_isDigit (Nat.isDigit_of_mem_toDigits (by decide) (by decide) hc)

theorem hasHalf_toString_nat (n : Nat) : hasHalf (toString n) = false := by
  rw [hasHalf_eq_false_iff]
  simpa [Nat.repr] using isWhole_toDigits n

theorem hasHalf_toString_int (n : Int) : hasHalf (toString n) = false := by
  cases n with
  | ofNat n => exact hasHalf_toString_nat n
  | negSucc n =>
    show hasHalf ("-" ++ toString (n + 1)) = false
    rw [hasHalf_append, hasHalf_toString_nat]
    rfl

/-- The lines of a whole text are whole. -/
theorem isWhole_splitLines (h : IsWhole cs) : ∀ line ∈ splitLines cs, IsWhole line := by
  unfold splitLines
  refine List.foldrRecOn (motive := fun lines => ∀ line ∈ lines, IsWhole line) cs _
    (List.forall_mem_singleton.2 isWhole_nil) fun lines hlines c hc => ?_
  split
  · exact List.forall_mem_cons.2 ⟨isWhole_nil, hlines⟩
  · split
    · exact List.forall_mem_singleton.2 (isWhole_cons_iff.2 ⟨h c hc, isWhole_nil⟩)
    · obtain ⟨hline, hrest⟩ := List.forall_mem_cons.1 hlines
      exact List.forall_mem_cons.2 ⟨isWhole_cons_iff.2 ⟨h c hc, hline⟩, hrest⟩

/-- The parts of a whole text are whole, whatever it is split at. -/
theorem isWhole_splitOnP (p : Char → Bool) (h : IsWhole cs) :
    ∀ part ∈ cs.splitOnP p, IsWhole part := by
  induction cs with
  | nil => simp
  | cons c cs ih =>
    obtain ⟨hc, hcs⟩ := isWhole_cons_iff.1 h
    have ih := ih hcs
    rw [List.splitOnP_cons_eq_if_modifyHead]
    split
    · exact List.forall_mem_cons.2 ⟨isWhole_nil, ih⟩
    · cases hparts : cs.splitOnP p with
      | nil => nofun
      | cons part rest =>
        rw [hparts] at ih
        obtain ⟨hpart, hrest⟩ := List.forall_mem_cons.1 ih
        exact List.forall_mem_cons.2 ⟨isWhole_cons_iff.2 ⟨hc, hpart⟩, hrest⟩

end Text

open Text (IsWhole isWhole_cons_iff isWhole_append_iff isWhole_nil isWhole_blanks)

/-! ## Colors -/

namespace Terminal

theorem isHalf_of_isAlpha {c : Char} (h : c.isAlpha = true) : Text.isHalf c = false := by
  refine Text.isHalf_of_toNat_lt ?_
  unfold Text.halfShift
  have hle : c.toNat ≤ 122 := by
    rcases Bool.or_eq_true_iff.1 h with hupper | hlower
    · have hbounds : 'A'.val ≤ c.val ∧ c.val ≤ 'Z'.val := of_decide_eq_true hupper
      exact Nat.le_trans hbounds.2 (by decide)
    · have hbound : c.val ≤ 'z'.val := of_decide_eq_true (Bool.and_eq_true_iff.1 hlower).2
      exact hbound
  omega

theorem isHalf_of_isParameter {c : Char} (h : isParameter c = true) : Text.isHalf c = false := by
  simp only [isParameter, Bool.or_eq_true, beq_iff_eq] at h
  rcases h with (h | rfl) | rfl
  · exact Timestamp.isHalf_of_isDigit h
  · rfl
  · rfl

/-- An escape sequence holds no half. -/
theorem any_afterSequence? {cs rest : List Char} (h : afterSequence? cs = some rest) :
    cs.any Text.isHalf = rest.any Text.isHalf := by
  induction cs with
  | nil => simp [afterSequence?] at h
  | cons c cs ih =>
    simp only [afterSequence?] at h
    split at h
    · next hparameter => rw [List.any_cons, isHalf_of_isParameter hparameter, ih h, Bool.false_or]
    · split at h
      · next halpha =>
        cases h
        rw [List.any_cons, isHalf_of_isAlpha halpha, Bool.false_or]
      · simp at h

/-- Taking away escape sequences takes away no half: they are plain text. -/
theorem any_stripChars (cs : List Char) : (stripChars cs).any Text.isHalf = cs.any Text.isHalf := by
  fun_induction stripChars cs with
  | case1 => rfl
  | case2 c => rfl
  | case3 c d rest hopens after hafter hlt ih =>
    obtain ⟨rfl, rfl⟩ := hopens
    have hescape : Text.isHalf escape = false := rfl
    have hbracket : Text.isHalf '[' = false := rfl
    rw [ih, List.any_cons, List.any_cons, hescape, hbracket, any_afterSequence? hafter,
      Bool.false_or, Bool.false_or]
  | case4 c d rest hopens hnone ih => rw [List.any_cons, ih, ← List.any_cons]
  | case5 c d rest hopens ih => rw [List.any_cons, ih, ← List.any_cons]

/-- Stripping colors off a text neither brings halves in nor loses one. -/
theorem hasHalf_strip (s : String) : Text.hasHalf (strip s) = Text.hasHalf s := by
  rw [Text.hasHalf, strip, String.toList_ofList, any_stripChars]
  rfl

/-- Color sequences hold no half. -/
theorem hasHalf_style (color : Option Color) (bold : Bool) (text : String) :
    Text.hasHalf (style color bold text) = Text.hasHalf text := by
  have hcolor (c : Color) : Text.hasHalf (sequence c.code) = false := by cases c <;> decide
  have hbold : Text.hasHalf (sequence "1") = false := by decide
  have hreset : Text.hasHalf reset = false := by decide
  unfold style
  cases color <;> cases bold <;> simp [hcolor, hbold, hreset]

@[simp] theorem hasHalf_styleIf (enabled : Bool) (color : Color) (bold : Bool) (text : String) :
    Text.hasHalf (styleIf enabled color bold text) = Text.hasHalf text := by
  cases enabled with
  | true => exact hasHalf_style (some color) bold text
  | false => rfl

/-! ## Emoji -/

namespace Emoji

theorem hasHalf_parts : ∀ part ∈ parts, Text.hasHalf part = false := by
  unfold parts
  repeat
    refine List.forall_mem_cons.2 ⟨?_, ?_⟩
    · with_reducible refine Text.hasHalf_ofList ?_
      decide +kernel
  exact List.forall_mem_nil _

theorem isWhole_entries : ∀ e ∈ entries, IsWhole e :=
  Text.isWhole_splitOnP _ (Text.hasHalf_eq_false_iff.1 (Text.hasHalf_join rfl hasHalf_parts))

variable {es : List (List Char)} {name code emoji value : List Char} {hasTones : Bool}

theorem isWhole_found (hes : ∀ e ∈ es, IsWhole e) (h : entry? es name = some (value, hasTones)) :
    IsWhole value := by
  obtain ⟨e, he, h⟩ := List.exists_of_findSome?_eq_some h
  have hvalue : IsWhole ((e.dropWhile (· != '=')).drop 1) :=
    (hes e he).subset fun _ hc => List.dropWhile_subset _ (List.drop_subset _ _ hc)
  split at h
  · revert h
    split
    · exact nofun
    · split
      · intro h
        cases h
        exact hvalue.subset (List.dropLast_subset _)
      · intro h
        cases h
        exact hvalue
  · cases h

theorem isWhole_toned {modifier : Char} (hmodifier : Text.isHalf modifier = false)
    (h : IsWhole value) : IsWhole (toned modifier value) := by
  cases value with
  | nil => exact isWhole_nil
  | cons c rest =>
    obtain ⟨hc, hrest⟩ := isWhole_cons_iff.1 h
    exact isWhole_cons_iff.2 ⟨hc, isWhole_cons_iff.2
      ⟨hmodifier, hrest.subset (List.dropWhile_subset _)⟩⟩

theorem isHalf_of_mem_tones {x : String × Char} (h : x ∈ tones) : Text.isHalf x.2 = false := by
  simp only [tones, List.mem_cons, List.not_mem_nil, or_false] at h
  obtain rfl | rfl | rfl | rfl | rfl := h <;> rfl

theorem isHalf_of_mem_variants {x : String × Char} (h : x ∈ variants) :
    Text.isHalf x.2 = false := by
  simp only [variants, List.mem_cons, List.not_mem_nil, or_false] at h
  obtain rfl | rfl := h <;> rfl

theorem isWhole_ofName? (hes : ∀ e ∈ es, IsWhole e) (h : ofName? es name = some emoji) :
    IsWhole emoji := by
  unfold ofName? at h
  split at h
  · next hentry =>
    cases h
    exact isWhole_found hes hentry
  · obtain ⟨⟨_, modifier⟩, htone, h⟩ := List.exists_of_findSome?_eq_some h
    simp only at h
    split at h
    · split at h
      · next hbase =>
        cases h
        exact isWhole_toned (isHalf_of_mem_tones htone) (isWhole_found hes hbase)
      · cases h
    · cases h

theorem isWhole_ofCode? (hes : ∀ e ∈ es, IsWhole e) (h : ofCode? es code = some emoji) :
    IsWhole emoji := by
  unfold ofCode? at h
  simp only at h
  split at h
  · next hvaried =>
    obtain ⟨x, hmem, hvariant⟩ := List.exists_of_findSome?_eq_some hvaried
    obtain ⟨_, -, heq⟩ := Option.map_eq_some_iff.1 hvariant
    obtain ⟨-, rfl⟩ := Prod.mk.inj heq
    obtain ⟨named, hname, rfl⟩ := Option.map_eq_some_iff.1 h
    exact isWhole_append_iff.2
      ⟨isWhole_ofName? hes hname, isWhole_cons_iff.2 ⟨isHalf_of_mem_variants hmem, isWhole_nil⟩⟩
  · exact isWhole_ofName? hes h

theorem code?_eq_some {cs code rest : List Char} (h : code? cs = some (code, rest)) :
    cs = code ++ ':' :: rest := by
  unfold code? at h
  simp only at h
  split at h
  · next hrest =>
    cases h
    rw [← hrest, Text.takeWhile_append_drop]
  · cases h

/-- Emoji hold no half, so a text in which names are replaced by them stays whole. -/
theorem isWhole_replaceBy (hes : ∀ e ∈ es, IsWhole e) {cs : List Char} (h : IsWhole cs) :
    IsWhole (replaceBy es cs) := by
  fun_induction replaceBy es cs with
  | case1 => exact isWhole_nil
  | case2 rest code after hcode hlt ih =>
    rw [code?_eq_some hcode] at h
    simp only [isWhole_append_iff, isWhole_cons_iff] at h
    obtain ⟨hcolon, hword, -, hafter⟩ := h
    refine isWhole_append_iff.2 ⟨?_, ih hafter⟩
    split
    · next hemoji => exact isWhole_ofCode? hes hemoji
    · exact isWhole_append_iff.2 ⟨isWhole_cons_iff.2 ⟨hcolon, hword⟩,
        isWhole_cons_iff.2 ⟨hcolon, isWhole_nil⟩⟩
  | case3 rest hcode ih =>
    obtain ⟨hc, hrest⟩ := isWhole_cons_iff.1 h
    exact isWhole_cons_iff.2 ⟨hc, ih hrest⟩
  | case4 c rest hcolon ih =>
    obtain ⟨hc, hrest⟩ := isWhole_cons_iff.1 h
    exact isWhole_cons_iff.2 ⟨hc, ih hrest⟩

theorem isWhole_replace {cs : List Char} (h : IsWhole cs) : IsWhole (replace cs) :=
  isWhole_replaceBy isWhole_entries h

end Emoji

/-! ## Markup -/

section Markup

variable {cs : List Char}

theorem isWhole_unescape (h : IsWhole cs) : IsWhole (Markup.unescape cs) := by
  fun_induction Markup.unescape cs with
  | case1 rest ih =>
    obtain ⟨-, hbracket, hrest⟩ := by simpa using h
    exact isWhole_cons_iff.2 ⟨hbracket, ih hrest⟩
  | case2 c rest hplain ih =>
    obtain ⟨hc, hrest⟩ := isWhole_cons_iff.1 h
    exact isWhole_cons_iff.2 ⟨hc, ih hrest⟩
  | case3 => exact isWhole_nil

theorem isWhole_withoutControls (h : IsWhole cs) : IsWhole (withoutControls cs) :=
  h.subset (List.filter_subset_self _)

/-- A piece that is shown as it is, is whole. -/
def Markup.Piece.IsWhole : Markup.Piece → Prop
  | .plain cs => Text.IsWhole cs
  | .tag _ _ => True

theorem isWhole_tagPieces {position slashes : Nat} {content : List Char} (h : IsWhole content) :
    ∀ piece ∈ Markup.tagPieces position slashes content, piece.IsWhole := by
  have hslashes : ∀ piece ∈ (if slashes < 2 then []
      else [Markup.Piece.plain (List.replicate (slashes / 2) '\\')]), piece.IsWhole := by
    split
    · nofun
    · exact List.forall_mem_singleton.2 (Text.isWhole_replicate _ rfl)
  refine List.forall_mem_append.2 ⟨hslashes, ?_⟩
  split
  · refine List.forall_mem_singleton.2 ?_
    have hend : IsWhole [']'] := isWhole_cons_iff.2 ⟨rfl, isWhole_nil⟩
    exact isWhole_append_iff.2 ⟨isWhole_cons_iff.2 ⟨rfl, h⟩, hend⟩
  · exact List.forall_mem_singleton.2 trivial

theorem isWhole_pendingPieces {pending : List Char} (h : IsWhole pending) :
    ∀ piece ∈ Markup.pendingPieces pending, piece.IsWhole := by
  unfold Markup.pendingPieces
  split
  · nofun
  · exact List.forall_mem_singleton.2 (Text.isWhole_reverse_iff.2 h)

/-- The pieces of a whole text are whole. -/
theorem isWhole_piecesFrom {position : Nat} {pending : List Char} (hpending : IsWhole pending)
    (h : IsWhole cs) : ∀ piece ∈ Markup.piecesFrom position pending cs, piece.IsWhole := by
  fun_induction Markup.piecesFrom position pending cs with
  | case1 position pending cs slashes content after htag hlt ih =>
    obtain ⟨hsplit, -⟩ := Markup.tag?_eq_some_iff.1 htag
    rw [hsplit] at h
    simp only [isWhole_append_iff, isWhole_cons_iff] at h
    obtain ⟨-, -, hcontent, -, hafter⟩ := h
    rw [← Markup.piecesFrom.eq_def, Markup.piecesFrom_of_tag htag]
    exact List.forall_mem_append.2 ⟨List.forall_mem_append.2
      ⟨isWhole_pendingPieces hpending, isWhole_tagPieces hcontent⟩, ih isWhole_nil hafter⟩
  | case2 position pending htag =>
    exact isWhole_pendingPieces hpending
  | case3 position pending c rest htag ih =>
    obtain ⟨hc, hrest⟩ := isWhole_cons_iff.1 h
    rw [← Markup.piecesFrom.eq_def, Markup.piecesFrom_cons htag]
    exact ih (isWhole_cons_iff.2 ⟨hc, hpending⟩) hrest

/-- What is shown of whole pieces is whole. -/
theorem isWhole_plainFrom {styles : List String} {pieces : List Markup.Piece} {text : List Char}
    (hpieces : ∀ piece ∈ pieces, piece.IsWhole)
    (h : Markup.plainFrom styles pieces = .ok text) : IsWhole text := by
  induction pieces generalizing styles text with
  | nil =>
    cases h
    exact isWhole_nil
  | cons piece rest ih =>
    obtain ⟨hpiece, hrest⟩ := List.forall_mem_cons.1 hpieces
    cases piece with
    | plain cs =>
      simp only [Markup.plainFrom] at h
      cases hplain : Markup.plainFrom styles rest with
      | error fault =>
        rw [hplain] at h
        cases h
      | ok left =>
        rw [hplain] at h
        cases h
        exact isWhole_append_iff.2 ⟨isWhole_withoutControls
          (Emoji.isWhole_replace (isWhole_unescape hpiece)), ih hrest hplain⟩
    | tag position t =>
      simp only [Markup.plainFrom] at h
      split at h
      · exact ih hrest h
      · cases h

/-- What is left of a whole text without its markup is whole. -/
theorem isWhole_plain {markup : String} {text : List Char} (hmarkup : Text.hasHalf markup = false)
    (h : Markup.plain markup = .ok text) : IsWhole text :=
  isWhole_plainFrom (isWhole_piecesFrom isWhole_nil (Text.hasHalf_eq_false_iff.1 hmarkup)) h

end Markup

end Terminal

end CiVariables
