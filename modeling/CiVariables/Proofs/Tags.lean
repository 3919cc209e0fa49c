import Mathlib.Data.List.TakeWhile
import CiVariables.Terminal.Markup

/-!
# Which markup cannot be shown

A text with markup can be shown unless one of its closing tags has nothing to close
(`Markup.plainFrom_eq_error_iff`). That is a matter of its tags alone (`Markup.Misclosed`): an
opening tag opens a style, a closing tag closes the style that it names, or the last one if it names
none. Text without brackets that stands after another adds no tags (`Markup.tagsFrom_append`), and a
text without an opening bracket has none.
-/

namespace CiVariables

theorem Text.takeWhile_append_drop (p : Char → Bool) (cs : List Char) :
    cs.takeWhile p ++ cs.drop (cs.takeWhile p).length = cs :=
  List.prefix_iff_eq_append.1 (List.takeWhile_prefix p)

namespace Terminal.Markup

open CiVariables.Text (isSpacing trimBoth)

/-! ## Open styles -/

/-- The styles that are open before a tag and after it, the last one opened first. -/
inductive Tag.Changes (t : Tag) : List String → List String → Prop where
  | opens {styles : List String} (h : ∀ rest, t.name.toList ≠ '/' :: rest) :
    Changes t styles (Style.normalName t.name :: styles)
  | closesLast {rest : List Char} {last : String} {styles : List String}
    (h : t.name.toList = '/' :: rest) (hblank : trimBoth isSpacing rest = []) :
    Changes t (last :: styles) styles
  | closes {rest : List Char} {style : String} {styles : List String}
    (h : t.name.toList = '/' :: rest) (hnamed : trimBoth isSpacing rest ≠ [])
    (hstyle : Style.normalName (String.ofList (trimBoth isSpacing rest)) = style)
    (hopen : style ∈ styles) : Changes t styles (styles.erase style)

/-- A tag is followed exactly if it opens or closes something. -/
theorem follow_eq_ok_iff {position : Nat} {t : Tag} {styles styles' : List String} :
    follow position t styles = .ok styles' ↔ t.Changes styles styles' := by
  constructor
  · intro h
    unfold follow at h
    split at h
    · next rest hname =>
      split at h
      · next hblank =>
        cases styles with
        | nil => cases h
        | cons last styles =>
          cases h
          exact .closesLast hname hblank
      · next hnamed =>
        simp only at h
        split at h
        · next hopen =>
          cases h
          exact .closes hname hnamed rfl (List.contains_iff_mem.1 hopen)
        · cases h
    · next hname =>
      cases h
      exact .opens hname
  · intro h
    unfold follow
    cases h with
    | opens h =>
      split
      · next rest hname => exact absurd hname (h rest)
      · rfl
    | closesLast h hblank => simp only [h, hblank]
    | closes h hnamed hstyle hopen =>
      subst hstyle
      obtain ⟨c, name, hname⟩ := List.exists_cons_of_ne_nil hnamed
      simp only [h, hname] at hopen ⊢
      rw [if_pos (List.contains_iff_mem.2 hopen)]

/-- Among tags that are read one after the other is one that closes nothing. -/
inductive Misclosed : List String → List Tag → Prop where
  | here {styles : List String} {t : Tag} {rest : List Tag}
    (h : ∀ styles', ¬t.Changes styles styles') : Misclosed styles (t :: rest)
  | later {styles styles' : List String} {t : Tag} {rest : List Tag}
    (h : t.Changes styles styles') (hrest : Misclosed styles' rest) : Misclosed styles (t :: rest)

/-- Reading the first of some tags decides about them, or leaves the rest to decide. -/
theorem misclosed_cons_iff (position : Nat) {t : Tag} {styles : List String} {rest : List Tag} :
    Misclosed styles (t :: rest) ↔
      match follow position t styles with
      | .ok styles => Misclosed styles rest
      | .error _ => True := by
  cases hfollow : follow position t styles with
  | error fault =>
    refine iff_true_intro (.here fun styles' hchanges => ?_)
    cases hfollow.symm.trans (follow_eq_ok_iff.2 hchanges)
  | ok styles' =>
    have hchanges := follow_eq_ok_iff.1 hfollow
    constructor
    · intro h
      cases h with
      | here h => exact absurd hchanges (h _)
      | later h hrest =>
        cases hfollow.symm.trans (follow_eq_ok_iff.2 h)
        exact hrest
    · exact .later hchanges

/-- A tag that opens a style can be read wherever it stands. -/
theorem not_misclosed_singleton {styles : List String} {t : Tag}
    (h : ∀ rest, t.name.toList ≠ '/' :: rest) : ¬Misclosed styles [t] := by
  intro hclosed
  cases hclosed with
  | here hstays => exact hstays _ (.opens h)
  | later _ hrest => cases hrest

/-- The tag that a piece is, if it is one. -/
def Piece.tag? : Piece → Option Tag
  | .plain _ => none
  | .tag _ t => some t

/-- Pieces cannot be shown exactly if a tag among them closes nothing. -/
theorem plainFrom_eq_error_iff {styles : List String} {pieces : List Piece} :
    (∃ fault, plainFrom styles pieces = .error fault) ↔
      Misclosed styles (pieces.filterMap Piece.tag?) := by
  induction pieces generalizing styles with
  | nil => exact iff_of_false nofun nofun
  | cons piece rest ih =>
    cases piece with
    | plain cs =>
      show (∃ fault, (plainFrom styles rest).map _ = .error fault) ↔ _
      refine Iff.trans ?_ ih
      cases plainFrom styles rest <;> simp [Except.map]
    | tag position t =>
      show (∃ fault, plainFrom styles (.tag position t :: rest) = .error fault) ↔
        Misclosed styles (t :: rest.filterMap Piece.tag?)
      rw [misclosed_cons_iff position, plainFrom]
      cases follow position t styles with
      | error fault => simp
      | ok styles => exact ih

/-! ## The first tag of a text -/

/-- A tag stands after backslashes, in brackets that hold no others, and starts as a tag can. -/
theorem tag?_eq_some_iff {cs content after : List Char} {slashes : Nat} :
    tag? cs = some (slashes, content, after) ↔
      cs = List.replicate slashes '\\' ++ '[' :: (content ++ ']' :: after) ∧
        ∃ c rest, content = c :: rest ∧ startsTag c = true ∧ ∀ d ∈ rest, d ≠ '[' ∧ d ≠ ']' := by
  constructor
  · intro h
    unfold tag? at h
    simp only at h
    split at h
    · next c rest hopened =>
      split at h
      · next hc =>
        split at h
        · next hclosed =>
          cases h
          have hslashes : cs.takeWhile (· == '\\') =
              List.replicate (cs.takeWhile (· == '\\')).length '\\' :=
            List.eq_replicate_of_mem fun d hd => by simpa using List.mem_takeWhile_imp hd
          refine ⟨?_, c, _, rfl, hc, fun d hd => by simpa using List.mem_takeWhile_imp hd⟩
          rw [← hslashes, List.cons_append, ← hclosed, Text.takeWhile_append_drop, ← hopened,
            Text.takeWhile_append_drop]
        · cases h
      · cases h
    · cases h
  · rintro ⟨rfl, c, rest, rfl, hc, hrest⟩
    have hcontent : (rest ++ ']' :: after).takeWhile (fun d => d != '[' && d != ']') = rest := by
      rw [List.takeWhile_append_of_pos (by simpa using hrest)]
      simp
    unfold tag?
    simp [hc, hcontent]

variable {cs tail : List Char}

/-- Text without brackets does not change the tag that stands before it. -/
theorem tag?_append (htail : ∀ d ∈ tail, d ≠ '[' ∧ d ≠ ']') :
    tag? (cs ++ tail) =
      (tag? cs).map fun (slashes, content, after) => (slashes, content, after ++ tail) := by
  cases htag : tag? cs with
  | some found =>
    obtain ⟨slashes, content, after⟩ := found
    obtain ⟨rfl, hcontent⟩ := tag?_eq_some_iff.1 htag
    exact tag?_eq_some_iff.2 ⟨by simp, hcontent⟩
  | none =>
    cases hlonger : tag? (cs ++ tail) with
    | none => rfl
    | some found =>
      obtain ⟨slashes, content, after⟩ := found
      obtain ⟨hsplit, hcontent⟩ := tag?_eq_some_iff.1 hlonger
      -- The closing bracket cannot stand in the tail, so the tag ends before it.
      have hsplit : cs ++ tail =
          (List.replicate slashes '\\' ++ '[' :: content ++ [']']) ++ after := by
        simp [hsplit]
      have hnot (more : List Char) : cs ≠
          (List.replicate slashes '\\' ++ '[' :: content ++ [']']) ++ more := fun hcs => by
        cases htag.symm.trans (tag?_eq_some_iff.2 ⟨by simpa using hcs, hcontent⟩)
      obtain ⟨more, hcs, hmore⟩ | ⟨more, hcs, -⟩ := List.append_eq_append_iff.1 hsplit
      · obtain rfl | ⟨front, last, rfl⟩ := List.eq_nil_or_concat more
        · exact absurd (by simpa using hcs.symm) (hnot [])
        · rw [List.concat_eq_append, ← List.append_assoc] at hcs
          obtain ⟨-, hlast⟩ := List.append_inj' hcs rfl
          cases hlast
          exact absurd rfl (htail ']' (by simp [hmore])).2
      · exact absurd hcs (hnot more)

theorem tag?_eq_none (h : '[' ∉ cs) : tag? cs = none := by
  cases htag : tag? cs with
  | none => rfl
  | some found =>
    obtain ⟨rfl, -⟩ := tag?_eq_some_iff.1 htag
    simp at h

/-! ## The tags of a text -/

/-- The piece that has been read before a tag or the end. -/
def pendingPieces (pending : List Char) : List Piece :=
  if pending.isEmpty then [] else [.plain pending.reverse]

/-- Where a tag starts, the pieces are what was read before it, those of the tag, and the rest. -/
theorem piecesFrom_of_tag {position slashes : Nat} {pending content after : List Char}
    (h : tag? cs = some (slashes, content, after)) :
    piecesFrom position pending cs =
      pendingPieces pending ++ tagPieces position slashes content ++
        piecesFrom (position + slashes + content.length + 2) [] after := by
  rw [piecesFrom.eq_def]
  simp only
  split
  · next htag =>
    cases h.symm.trans htag
    rfl
  · next htag => cases h.symm.trans htag

theorem piecesFrom_nil (position : Nat) (pending : List Char) :
    piecesFrom position pending [] = pendingPieces pending := by
  rw [piecesFrom.eq_def]
  rfl

/-- Where no tag starts, one more character is read. -/
theorem piecesFrom_cons {position : Nat} {pending rest : List Char} {c : Char}
    (h : tag? (c :: rest) = none) :
    piecesFrom position pending (c :: rest) = piecesFrom (position + 1) (c :: pending) rest := by
  rw [piecesFrom.eq_def]
  simp only
  split
  · next htag => cases h.symm.trans htag
  · rfl

/-- The tags of a text of which some is read. -/
def tagsFrom (position : Nat) (pending cs : List Char) : List Tag :=
  (piecesFrom position pending cs).filterMap Piece.tag?

/-- The tags of a text, in order. -/
def tags (text : String) : List Tag := tagsFrom 0 [] text.toList

/-- The tag that the backslashes before it and its content make. -/
theorem filterMap_tagPieces (position slashes : Nat) (content : List Char) :
    (tagPieces position slashes content).filterMap Piece.tag? =
      if slashes % 2 = 1 then [] else [Tag.ofContent content] := by
  unfold tagPieces
  rw [List.filterMap_append]
  split <;> split <;> rfl

theorem filterMap_pendingPieces (pending : List Char) :
    (pendingPieces pending).filterMap Piece.tag? = [] := by
  unfold pendingPieces
  split <;> rfl

/-- The tags of a text start with the first one in it, unless that is escaped. -/
theorem tagsFrom_of_tag {position slashes : Nat} {pending content after : List Char}
    (h : tag? cs = some (slashes, content, after)) :
    tagsFrom position pending cs = (if slashes % 2 = 1 then [] else [Tag.ofContent content]) ++
      tagsFrom (position + slashes + content.length + 2) [] after := by
  unfold tagsFrom
  rw [piecesFrom_of_tag h, List.filterMap_append, List.filterMap_append, filterMap_pendingPieces,
    filterMap_tagPieces, List.nil_append]

theorem tagsFrom_eq_nil {position : Nat} {pending : List Char} (h : '[' ∉ cs) :
    tagsFrom position pending cs = [] := by
  induction cs generalizing position pending with
  | nil =>
    unfold tagsFrom
    rw [piecesFrom_nil, filterMap_pendingPieces]
  | cons c rest ih =>
    unfold tagsFrom
    rw [piecesFrom_cons (tag?_eq_none h)]
    exact ih (List.not_mem_of_not_mem_cons h)

/-- Neither what was read before nor text without brackets after it adds to the tags of a text. -/
theorem tagsFrom_append (htail : ∀ d ∈ tail, d ≠ '[' ∧ d ≠ ']') (position position' : Nat)
    (pending pending' : List Char) :
    tagsFrom position pending (cs ++ tail) = tagsFrom position' pending' cs := by
  induction hlength : cs.length using Nat.strong_induction_on
    generalizing cs position position' pending pending' with
  | _ n ih =>
    subst hlength
    cases htag : tag? cs with
    | some found =>
      obtain ⟨slashes, content, after⟩ := found
      have hlonger : tag? (cs ++ tail) = some (slashes, content, after ++ tail) := by
        rw [tag?_append htail, htag]
        rfl
      rw [tagsFrom_of_tag hlonger, tagsFrom_of_tag htag,
        ih after.length (length_tag? htag) _ _ _ _ rfl]
    | none =>
      cases cs with
      | nil =>
        have hopen : '[' ∉ tail := fun hmem => (htail _ hmem).1 rfl
        rw [List.nil_append, tagsFrom_eq_nil hopen, tagsFrom_eq_nil List.not_mem_nil]
      | cons c rest =>
        have hlonger : tag? (c :: (rest ++ tail)) = none := by
          rw [← List.cons_append, tag?_append htail, htag]
          rfl
        rw [List.cons_append]
        unfold tagsFrom
        rw [piecesFrom_cons hlonger, piecesFrom_cons htag]
        exact ih rest.length (Nat.lt_succ_self _) _ _ _ _ rfl

/-- A text cannot be shown exactly if a tag of it closes nothing. -/
theorem plain_eq_error_iff {text : String} :
    (∃ fault, plain text = .error fault) ↔ Misclosed [] (tags text) := plainFrom_eq_error_iff

/-- A text without an opening bracket can be shown. -/
theorem exists_plain {text : String} (h : '[' ∉ text.toList) : ∃ shown, plain text = .ok shown := by
  cases hplain : plain text with
  | ok shown => exact ⟨shown, rfl⟩
  | error fault =>
    have hclosed := plain_eq_error_iff.1 ⟨fault, hplain⟩
    unfold tags at hclosed
    rw [tagsFrom_eq_nil h] at hclosed
    cases hclosed

end Terminal.Markup

end CiVariables
