import CiVariables.Json.Print
import CiVariables.Json.Read
import CiVariables.Proofs.Checks
import CiVariables.Proofs.Members

/-!
# Printed JSON is read back

Indented text is read back as the value that was printed, and nothing of what follows it is taken
(`Json.Regular.readsBack`, `Json.read?_pretty`). This wants values without floating-point numbers,
texts and names without halves of surrogate pairs, and names that do not repeat. Reading succeeds
exactly where the value keeps to the limits of the reader.
-/

namespace CiVariables.Json

variable {limits : ReadLimits}

/-! ## Whole numbers -/

/-- What may follow a printed value: nothing, a comma or the end of the line. -/
inductive Delimited : List Char → Prop where
  | nil : Delimited []
  | comma (rest : List Char) : Delimited (',' :: rest)
  | lineFeed (rest : List Char) : Delimited ('\n' :: rest)

theorem digitsValue_toDigits (n : Nat) : digitsValue (Nat.toDigits 10 n) = n := by
  have hfold : digitsValue (Nat.toDigits 10 n) = Nat.ofDigitChars 10 (Nat.toDigits 10 n) 0 := by
    simp only [digitsValue, Nat.ofDigitChars_eq_foldl, Nat.mul_comm]
    rfl
  rw [hfold, Nat.ofDigitChars_ten_toDigits]

theorem head?_toDigits_ne_zero {n : Nat} (h : 0 < n) : (Nat.toDigits 10 n).head? ≠ some '0' := by
  induction n using Nat.strongRecOn with
  | ind n ih =>
    by_cases hn : n < 10
    · rw [Nat.toDigits_of_lt_base hn]
      have hdigit : ∀ d < 10, 0 < d → ¬Nat.digitChar d = '0' := by decide
      simpa using hdigit n hn h
    · rw [Nat.toDigits_of_base_le (by decide) (by omega), List.head?_append]
      have hhead := ih (n / 10) (by omega) (by omega)
      cases hdigits : (Nat.toDigits 10 (n / 10)).head? with
      | none => exact absurd (List.head?_eq_none_iff.1 hdigits) Nat.toDigits_ne_nil
      | some c => rwa [hdigits] at hhead

/-- Printed digits have no leading zero. -/
theorem length_toDigits_of_zero {n : Nat} (h : (Nat.toDigits 10 n).head? = some '0') :
    (Nat.toDigits 10 n).length = 1 := by
  rcases Nat.eq_zero_or_pos n with rfl | hn
  · rfl
  · exact absurd h (head?_toDigits_ne_zero hn)

/-- Digits are read back as the number that they were written for, unless there are too many. -/
theorem readMagnitude?_toDigits (negative : Bool) (n : Nat) {rest : List Char}
    (hrest : Delimited rest) : readMagnitude? limits negative (Nat.toDigits 10 n ++ rest) =
      if (Nat.toDigits 10 n).length ≤ limits.digits then
        some (.int (if negative then -n else n), rest)
      else none := by
  have hdigits : ∀ c ∈ Nat.toDigits 10 n, c.isDigit = true := fun c hc =>
    Nat.isDigit_of_mem_toDigits (by decide) (by decide) hc
  have hzero : ¬((Nat.toDigits 10 n).head? = some '0' ∧ (Nat.toDigits 10 n).length ≠ 1) :=
    fun h => h.2 (length_toDigits_of_zero h.1)
  have hempty : (Nat.toDigits 10 n).isEmpty = false := by simp [Nat.toDigits_ne_nil]
  have htake : (Nat.toDigits 10 n ++ rest).takeWhile Char.isDigit = Nat.toDigits 10 n := by
    rw [List.takeWhile_append_of_pos hdigits]
    cases hrest <;> simp [List.takeWhile]
  have hdrop : (Nat.toDigits 10 n ++ rest).dropWhile Char.isDigit = rest := by
    rw [List.dropWhile_append_of_pos hdigits]
    cases hrest <;> simp [List.dropWhile]
  have hfraction : readFraction? rest = some ([], rest) := by cases hrest <;> rfl
  have hexponent : readExponent? rest = some (none, rest) := by cases hrest <;> rfl
  unfold readMagnitude?
  simp only [htake, hdrop, hempty, hzero, hfraction, Option.bind_eq_bind, Option.bind_some]
  rw [hexponent]
  by_cases h : (Nat.toDigits 10 n).length ≤ limits.digits
  · simp [h, Nat.not_lt.2 h, digitsValue_toDigits]
  · simp [h, Nat.lt_of_not_le h]

theorem readValue?_of_isDigit {c : Char} (h : c.isDigit = true) (fuel depth : Nat)
    (cs : List Char) :
    readValue? limits (fuel + 1) depth (c :: cs) = readMagnitude? limits false (c :: cs) := by
  rw [readValue?]
  -- No other first character is a digit.
  all_goals
    rintro rest heq
    cases heq
    exact absurd h (by decide)

/-- A printed integer is read back if it is not too long. -/
theorem readValue?_intText (n : Int) (fuel depth : Nat) {rest : List Char}
    (hrest : Delimited rest) : readValue? limits (fuel + 1) depth (intText n ++ rest) =
      if (Nat.toDigits 10 n.natAbs).length ≤ limits.digits then some (.int n, rest) else none := by
  obtain ⟨c, cs, hcs⟩ := List.exists_cons_of_ne_nil (Nat.toDigits_ne_nil (n := n.natAbs) (b := 10))
  have hc : c.isDigit = true := Nat.isDigit_of_mem_toDigits (b := 10) (n := n.natAbs) (by decide)
    (by decide) (hcs ▸ List.mem_cons_self)
  unfold intText
  by_cases hn : n < 0
  · have hread : readMagnitude? limits true (Nat.toDigits 10 n.natAbs ++ rest) = _ :=
      readMagnitude?_toDigits true n.natAbs hrest
    have hvalue : (-(n.natAbs : Int)) = n := by omega
    rw [if_pos rfl, hvalue, hcs, List.cons_append] at hread
    rw [if_pos hn, List.cons_append, hcs, List.cons_append, readValue?, hread]
    rintro rest heq
    cases heq
    exact absurd hc (by decide)
  · have hread : readMagnitude? limits false (Nat.toDigits 10 n.natAbs ++ rest) = _ :=
      readMagnitude?_toDigits false n.natAbs hrest
    have hvalue : (n.natAbs : Int) = n := by omega
    rw [if_neg Bool.false_ne_true, hvalue, hcs, List.cons_append] at hread
    rw [if_neg hn, hcs, List.cons_append, readValue?_of_isDigit hc, hread]

/-! ## Strings -/

theorem hexValue?_hexDigit : ∀ d < 16, hexValue? (hexDigit d) = some d := by decide

/-- A control character is written as the four digits of its unit. -/
theorem readEscape?_control {c : Char} (h : c.toNat < 32) (cs : List Char) :
    readEscape? limits
        ('u' :: '0' :: '0' :: hexDigit (c.toNat / 16) :: hexDigit (c.toNat % 16) :: cs) =
      some (c, cs) := by
  have hunit :
      readHex4? ('0' :: '0' :: hexDigit (c.toNat / 16) :: hexDigit (c.toNat % 16) :: cs) =
        some (c.toNat, cs) := by
    have hzero : hexValue? '0' = some 0 := by decide
    have hhigh := hexValue?_hexDigit (c.toNat / 16) (by omega)
    have hlow := hexValue?_hexDigit (c.toNat % 16) (by omega)
    have hsum : c.toNat / 16 * 16 + c.toNat % 16 = c.toNat := by omega
    simp [readHex4?, hzero, hhigh, hlow, hsum]
  have hhigh : ¬0xD800 ≤ c.toNat := by omega
  have hlow : ¬0xDC00 ≤ c.toNat := by omega
  show readUnits? limits _ = _
  unfold readUnits?
  rw [hunit]
  simp [hhigh, hlow, Char.ofNat_toNat]

theorem readStringBody?_escape {cs rest : List Char} {c : Char}
    (h : readEscape? limits cs = some (c, rest)) (fuel : Nat) (acc : List Char) :
    readStringBody? limits (fuel + 1) ('\\' :: cs) acc =
      readStringBody? limits fuel rest (c :: acc) := by
  rw [readStringBody?, if_neg (by decide), if_pos rfl, h]

/-- A printed character is read back. -/
theorem readStringBody?_escapeChar {c : Char} (h : CiVariables.Text.isHalf c = false)
    (fuel : Nat) (cs acc : List Char) :
    readStringBody? limits (fuel + 1) (escapeChar c ++ cs) acc =
      readStringBody? limits fuel cs (c :: acc) := by
  unfold escapeChar
  -- The characters with an escape of their own.
  iterate 7
    split
    · next hc =>
      subst hc
      exact readStringBody?_escape rfl fuel acc
  split
  · next hcontrol => exact readStringBody?_escape (readEscape?_control hcontrol cs) fuel acc
  · next hquote hslash _ _ _ _ _ hcontrol =>
    rw [h, if_neg Bool.false_ne_true, List.singleton_append, readStringBody?, if_neg hquote,
      if_neg hslash, if_neg hcontrol]

/-- An escaped text is read back up to its closing quote. -/
theorem readStringBody?_flatMap {s : List Char} (hs : ∀ c ∈ s, CiVariables.Text.isHalf c = false)
    {fuel : Nat} (hfuel : s.length < fuel) (acc rest : List Char) :
    readStringBody? limits fuel (s.flatMap escapeChar ++ '"' :: rest) acc =
      some (String.ofList (acc.reverse ++ s), rest) := by
  induction s generalizing fuel acc with
  | nil =>
    obtain ⟨fuel, rfl⟩ := Nat.exists_eq_add_one_of_ne_zero (Nat.ne_of_gt hfuel)
    simp [readStringBody?]
  | cons c s ih =>
    obtain ⟨fuel, rfl⟩ := Nat.exists_eq_add_one_of_ne_zero (Nat.ne_zero_of_lt hfuel)
    obtain ⟨hc, hs⟩ := List.forall_mem_cons.1 hs
    rw [List.flatMap_cons, List.append_assoc, readStringBody?_escapeChar hc,
      ih hs (by simpa using hfuel), List.reverse_cons, List.append_assoc]
    rfl

theorem length_escapeChar_pos (c : Char) : 1 ≤ (escapeChar c).length := by
  unfold escapeChar
  repeat' split
  all_goals simp

theorem length_le_flatMap_escapeChar (s : List Char) :
    s.length ≤ (s.flatMap escapeChar).length := by
  induction s with
  | nil => exact Nat.le_refl 0
  | cons c s ih =>
    have hc := length_escapeChar_pos c
    simp only [List.length_cons, List.flatMap_cons, List.length_append]
    omega

/-- A printed string is read back, from behind its opening quote. -/
theorem readString?_quote {s : String} (hs : CiVariables.Text.hasHalf s = false)
    (rest : List Char) :
    readString? limits (s.toList.flatMap escapeChar ++ '"' :: rest) = some (s, rest) := by
  have hwhole : ∀ c ∈ s.toList, CiVariables.Text.isHalf c = false := by
    simpa [CiVariables.Text.hasHalf] using hs
  have hlength := length_le_flatMap_escapeChar s.toList
  unfold readString?
  rw [readStringBody?_flatMap hwhole (by simp only [List.length_append]; omega)]
  simp

/-! ## Values -/

/-- No floating-point numbers, and the names of each object are whole texts and do not repeat. -/
inductive Regular : Json → Prop where
  | null : Regular .null
  | bool (b : Bool) : Regular (.bool b)
  | int (n : Int) : Regular (.int n)
  | str (s : String) : Regular (.str s)
  | arr {items : List Json} (hitems : ∀ j ∈ items, Regular j) : Regular (.arr items)
  | obj {fields : Fields} (hnodup : (fields.map Prod.fst).Nodup)
    (hnames : ∀ field ∈ fields, CiVariables.Text.hasHalf field.1 = false)
    (hfields : ∀ field ∈ fields, Regular field.2) : Regular (.obj fields)

/-- Null, a truth value or a text. -/
inductive Simple : Json → Prop where
  | null : Simple .null
  | bool (b : Bool) : Simple (.bool b)
  | str (s : String) : Simple (.str s)

theorem Simple.regular {j : Json} (h : j.Simple) : j.Regular := by
  cases h with
  | null => exact .null
  | bool b => exact .bool b
  | str s => exact .str s

theorem Simple.ofOption {α : Type} {f : α → Json} (hf : ∀ a, (f a).Simple) (a? : Option α) :
    (Json.ofOption f a?).Simple := by
  cases a? with
  | none => exact .null
  | some a => exact hf a

/-- An object whose names are known. -/
theorem regular_obj {fields : Fields} (names : List String) (hnames : fields.map Prod.fst = names)
    (hnodup : names.Nodup) (hwhole : ∀ name ∈ names, CiVariables.Text.hasHalf name = false)
    (hfields : ∀ field ∈ fields, field.2.Regular) : (obj fields).Regular :=
  .obj (hnames ▸ hnodup) (fun field hfield => hwhole field.1 (hnames ▸ List.mem_map_of_mem hfield))
    hfields

theorem Regular.ofOption {α : Type} {f : α → Json} {a? : Option α}
    (h : ∀ a, a? = some a → (f a).Regular) : (Json.ofOption f a?).Regular := by
  cases a? with
  | none => exact .null
  | some a => exact h a rfl

theorem Regular.dropNull {fields : Fields} (h : (Json.obj fields).Regular) :
    (Json.obj fields.dropNull).Regular := by
  cases h with
  | obj hnodup hnames hfields =>
    have hmem {field : String × Json} (h : field ∈ fields.dropNull) : field ∈ fields :=
      (List.mem_filter.1 h).1
    exact .obj (Fields.nodup_dropNull hnodup) (fun field h => hnames field (hmem h))
      (fun field h => hfields field (hmem h))

/-- The texts among the values are whole. -/
def Whole (j : Json) : Prop := ∀ s ∈ j.texts, CiVariables.Text.hasHalf s = false

theorem textsOfItems_eq (items : List Json) : textsOfItems items = items.flatMap texts := by
  induction items with
  | nil => rfl
  | cons j rest ih => rw [textsOfItems, ih, List.flatMap_cons]

theorem textsOfFields_eq (fields : Fields) :
    textsOfFields fields = fields.flatMap fun field => field.2.texts := by
  induction fields with
  | nil => rfl
  | cons field rest ih => rw [textsOfFields, ih, List.flatMap_cons]

theorem Whole.item {items : List Json} (h : (arr items).Whole) {j : Json} (hj : j ∈ items) :
    j.Whole := by
  intro s hs
  refine h s ?_
  rw [texts, textsOfItems_eq]
  exact List.mem_flatMap.2 ⟨j, hj, hs⟩

theorem Whole.member {fields : Fields} (h : (obj fields).Whole) {field : String × Json}
    (hfield : field ∈ fields) : field.2.Whole := by
  intro s hs
  refine h s ?_
  rw [texts, textsOfFields_eq]
  exact List.mem_flatMap.2 ⟨field, hfield, hs⟩

mutual

/-- A value at a nesting level keeps to the limits of a reader. -/
def fits (limits : ReadLimits) (depth : Nat) : Json → Bool
  | .int n => (Nat.toDigits 10 n.natAbs).length ≤ limits.digits
  | .arr [] => true
  | .arr (j :: rest) => depth < limits.depth && fitsItems limits (depth + 1) (j :: rest)
  | .obj [] => true
  | .obj (field :: rest) => depth < limits.depth && fitsFields limits (depth + 1) (field :: rest)
  | .null | .bool _ | .float _ | .str _ => true

def fitsItems (limits : ReadLimits) (depth : Nat) : List Json → Bool
  | [] => true
  | j :: rest => j.fits limits depth && fitsItems limits depth rest

def fitsFields (limits : ReadLimits) (depth : Nat) : List (String × Json) → Bool
  | [] => true
  | (_, j) :: rest => j.fits limits depth && fitsFields limits depth rest

end

/-- The value is read back from its text, whatever follows, if it keeps to the limits. -/
def ReadsBack (limits : ReadLimits) (j : Json) : Prop :=
  ∀ {fuel depth level : Nat} {rest : List Char}, Delimited rest →
    2 * (prettyAt level j).length ≤ fuel + 2 →
    readValue? limits (fuel + 1) depth (prettyAt level j ++ rest) =
      if j.fits limits depth then some (j, rest) else none

/-- A line break is skipped up to the next value. -/
theorem skipBlanks_lineBreak {c : Char} (h : isBlank c = false) (level : Nat) (cs : List Char) :
    skipBlanks (lineBreak level ++ c :: cs) = c :: cs := by
  have hblank : ∀ b ∈ lineBreak level, isBlank b = true := by
    intro b hb
    rcases List.mem_cons.1 hb with rfl | hb
    · rfl
    · rw [(List.mem_replicate.1 hb).2]
      rfl
  rw [skipBlanks, List.dropWhile_append_of_pos hblank, List.dropWhile_cons_of_neg (by simp [h])]

/-- The text of a value starts neither with a blank nor with the end of a container. -/
theorem exists_cons_prettyAt {j : Json} (h : j.Regular) (level : Nat) :
    ∃ c cs, prettyAt level j = c :: cs ∧ isBlank c = false ∧ c ≠ ']' := by
  cases h with
  | null => exact ⟨'n', _, rfl, by decide, by decide⟩
  | bool b => cases b with
    | true => exact ⟨'t', _, rfl, by decide, by decide⟩
    | false => exact ⟨'f', _, rfl, by decide, by decide⟩
  | str s => exact ⟨'"', _, rfl, by decide, by decide⟩
  | @arr items => cases items <;> exact ⟨'[', _, rfl, by decide, by decide⟩
  | @obj fields => cases fields <;> exact ⟨'\x7b', _, rfl, by decide, by decide⟩
  | int n =>
    rw [prettyAt, intText]
    split
    · exact ⟨'-', _, rfl, by decide, by decide⟩
    · obtain ⟨c, cs, hcs⟩ :=
        List.exists_cons_of_ne_nil (Nat.toDigits_ne_nil (n := n.natAbs) (b := 10))
      have hc : c.isDigit = true := Nat.isDigit_of_mem_toDigits (b := 10) (n := n.natAbs)
        (by decide) (by decide) (hcs ▸ List.mem_cons_self)
      refine ⟨c, cs, hcs, ?_, ?_⟩
      · cases hblank : isBlank c with
        | false => rfl
        | true =>
          simp only [isBlank, Bool.or_eq_true, beq_iff_eq] at hblank
          obtain ((rfl | rfl) | rfl) | rfl := hblank <;> exact absurd hc (by decide)
      · rintro rfl
        exact absurd hc (by decide)

theorem delimited_prettyItems (level : Nat) (items : List Json) (rest : List Char) :
    Delimited (prettyItems level items ++ rest) := by
  cases items with
  | nil => exact .lineFeed _
  | cons j items => exact .comma _

theorem delimited_prettyFields (level : Nat) (fields : Fields) (rest : List Char) :
    Delimited (prettyFields level fields ++ rest) := by
  cases fields with
  | nil => exact .lineFeed _
  | cons field fields => exact .comma _

theorem length_prettyAt_pos {j : Json} (h : j.Regular) (level : Nat) :
    1 ≤ (prettyAt level j).length := by
  obtain ⟨c, cs, hcs, -⟩ := exists_cons_prettyAt h level
  rw [hcs]
  exact Nat.succ_pos _

theorem skipBlanks_lineBreak_prettyAt {j : Json} (h : j.Regular) (level : Nat) (rest : List Char) :
    skipBlanks (lineBreak level ++ (prettyAt level j ++ rest)) = prettyAt level j ++ rest := by
  obtain ⟨c, cs, hcs, hblank, -⟩ := exists_cons_prettyAt h level
  rw [hcs, List.cons_append, skipBlanks_lineBreak hblank]

theorem skipBlanks_lineBreak_quote (level : Nat) (k : String) (rest : List Char) :
    skipBlanks (lineBreak level ++ (quote k ++ rest)) = quote k ++ rest :=
  skipBlanks_lineBreak (by decide) _ _

/-- Items are read back up to their closing bracket. -/
theorem readItems?_prettyItems {j : Json} {items : List Json}
    (hregular : ∀ i ∈ j :: items, i.Regular) (hback : ∀ i ∈ j :: items, i.ReadsBack limits)
    (depth level fuel : Nat)
    (hfuel : 2 * ((prettyAt (level + 1) j).length + (prettyItems level items).length) ≤ fuel)
    (rest : List Char) :
    readItems? limits fuel depth (prettyAt (level + 1) j ++ (prettyItems level items ++ rest)) =
      if fitsItems limits depth (j :: items) then some (j :: items, rest) else none := by
  induction items generalizing j fuel with
  | nil =>
    have hj := length_prettyAt_pos (hregular j List.mem_cons_self) (level + 1)
    have hend : 1 ≤ (prettyItems level []).length := by simp [prettyItems]
    obtain ⟨fuel, rfl⟩ : ∃ n, fuel = n + 2 := ⟨fuel - 2, by omega⟩
    have hclose : skipBlanks (prettyItems level [] ++ rest) = ']' :: rest := by
      rw [prettyItems, List.append_assoc]
      exact skipBlanks_lineBreak (by decide) level rest
    rw [readItems?, hback j List.mem_cons_self (delimited_prettyItems ..) (by omega), fitsItems,
      fitsItems, Bool.and_true]
    cases hfits : j.fits limits depth with
    | true => simp only [if_true, hclose]
    | false => simp
  | cons i items ih =>
    obtain ⟨hj, hregular⟩ := List.forall_mem_cons.1 hregular
    obtain ⟨hreads, hback⟩ := List.forall_mem_cons.1 hback
    have hpos := length_prettyAt_pos hj (level + 1)
    have hlength : 1 + (prettyAt (level + 1) i).length + (prettyItems level items).length ≤
        (prettyItems level (i :: items)).length := by
      simp only [prettyItems, List.length_append, List.length_cons]
      omega
    obtain ⟨fuel, rfl⟩ : ∃ n, fuel = n + 2 := ⟨fuel - 2, by omega⟩
    have hcomma : skipBlanks (prettyItems level (i :: items) ++ rest) =
        ',' :: (lineBreak (level + 1) ++
          (prettyAt (level + 1) i ++ (prettyItems level items ++ rest))) := by
      simp [prettyItems, skipBlanks, isBlank]
    have hnext := skipBlanks_lineBreak_prettyAt (hregular i List.mem_cons_self) (level + 1)
      (prettyItems level items ++ rest)
    have hrest := ih hregular hback (fuel + 1) (by omega)
    rw [readItems?, hreads (delimited_prettyItems ..) (by omega), fitsItems]
    cases hfits : j.fits limits depth with
    | false => simp
    | true =>
      simp only [if_true, hcomma, hnext, hrest, Bool.true_and]
      cases fitsItems limits depth (i :: items) <;> rfl

/-- The first member is read back. -/
theorem readFields?_member {k : String} (hk : CiVariables.Text.hasHalf k = false) {j : Json}
    (hregular : j.Regular) (hback : j.ReadsBack limits) {fuel depth level : Nat}
    (hfuel : 2 * (prettyAt level j).length ≤ fuel + 2) {rest : List Char} (hrest : Delimited rest) :
    readFields? limits (fuel + 2) depth (quote k ++ ':' :: ' ' :: (prettyAt level j ++ rest)) =
      if j.fits limits depth then
        match skipBlanks rest with
        | '\x7d' :: rest => some ([(k, j)], rest)
        | ',' :: rest =>
          (readFields? limits (fuel + 1) depth (skipBlanks rest)).map fun (fs, rest) =>
            ((k, j) :: fs, rest)
        | _ => none
      else none := by
  obtain ⟨c, cs, hcs, hblank, -⟩ := exists_cons_prettyAt hregular level
  have hquote : quote k ++ ':' :: ' ' :: (prettyAt level j ++ rest) =
      '"' :: (k.toList.flatMap escapeChar ++ '"' :: ':' :: ' ' :: (prettyAt level j ++ rest)) := by
    simp [quote]
  have hcolon : skipBlanks (':' :: ' ' :: (prettyAt level j ++ rest)) =
      ':' :: ' ' :: (prettyAt level j ++ rest) := rfl
  have hvalue : skipBlanks (' ' :: (prettyAt level j ++ rest)) = prettyAt level j ++ rest := by
    rw [hcs, List.cons_append, skipBlanks, List.dropWhile_cons_of_pos rfl,
      List.dropWhile_cons_of_neg (by simp [hblank])]
  rw [hquote, readFields?, readString?_quote hk]
  simp only [hcolon, hvalue, hback hrest hfuel]
  cases j.fits limits depth <;> rfl

/-- Members are read back up to their closing brace. -/
theorem readFields?_prettyFields {k : String} {j : Json} {fields : Fields}
    (hnames : ∀ field ∈ (k, j) :: fields, CiVariables.Text.hasHalf field.1 = false)
    (hregular : ∀ field ∈ (k, j) :: fields, field.2.Regular)
    (hback : ∀ field ∈ (k, j) :: fields, field.2.ReadsBack limits) (depth level fuel : Nat)
    (hfuel : 2 * ((prettyAt (level + 1) j).length + (prettyFields level fields).length) ≤ fuel)
    (rest : List Char) :
    readFields? limits fuel depth (quote k ++
        ':' :: ' ' :: (prettyAt (level + 1) j ++ (prettyFields level fields ++ rest))) =
      if fitsFields limits depth ((k, j) :: fields) then some ((k, j) :: fields, rest)
      else none := by
  induction fields generalizing k j fuel with
  | nil =>
    have hk : CiVariables.Text.hasHalf k = false := hnames _ List.mem_cons_self
    have hj : j.Regular := hregular _ List.mem_cons_self
    have hreads : j.ReadsBack limits := hback _ List.mem_cons_self
    have hpos := length_prettyAt_pos hj (level + 1)
    have hend : 1 ≤ (prettyFields level []).length := by simp [prettyFields]
    obtain ⟨fuel, rfl⟩ : ∃ n, fuel = n + 2 := ⟨fuel - 2, by omega⟩
    have hclose : skipBlanks (prettyFields level [] ++ rest) = '\x7d' :: rest := by
      rw [prettyFields, List.append_assoc]
      exact skipBlanks_lineBreak (by decide) level rest
    rw [readFields?_member hk hj hreads (by omega) (delimited_prettyFields ..), fitsFields,
      fitsFields, Bool.and_true, hclose]
    rfl
  | cons field fields ih =>
    obtain ⟨l, i⟩ := field
    obtain ⟨hk, hnames⟩ := List.forall_mem_cons.1 hnames
    obtain ⟨hj, hregular⟩ := List.forall_mem_cons.1 hregular
    obtain ⟨hreads, hback⟩ := List.forall_mem_cons.1 hback
    have hpos : 1 ≤ (prettyAt (level + 1) j).length := length_prettyAt_pos hj (level + 1)
    have hlength : 1 + (prettyAt (level + 1) i).length + (prettyFields level fields).length ≤
        (prettyFields level ((l, i) :: fields)).length := by
      simp only [prettyFields, List.length_append, List.length_cons]
      omega
    -- The fuel is measured by the text that is left, which the text of this member is part of.
    obtain ⟨fuel, rfl⟩ : ∃ n, fuel = n + 2 := ⟨fuel - 2, by omega⟩
    have hcomma : skipBlanks (prettyFields level ((l, i) :: fields) ++ rest) =
        ',' :: (lineBreak (level + 1) ++ (quote l ++
          ':' :: ' ' :: (prettyAt (level + 1) i ++ (prettyFields level fields ++ rest)))) := by
      simp [prettyFields, skipBlanks, isBlank]
    have hrest := ih hnames hregular hback (fuel + 1) (by omega)
    rw [readFields?_member hk hj hreads (by show 2 * (prettyAt (level + 1) j).length ≤ _; omega)
      (delimited_prettyFields ..), fitsFields]
    cases hfits : j.fits limits depth with
    | false => simp
    | true =>
      simp only [if_true, hcomma, skipBlanks_lineBreak_quote, hrest, Bool.true_and]
      cases fitsFields limits depth ((l, i) :: fields) <;> rfl

/-- An array that is not empty is read item by item, a level deeper. -/
theorem readValue?_bracket {cs : List Char} (h : ∀ rest, skipBlanks cs ≠ ']' :: rest)
    (fuel depth : Nat) : readValue? limits (fuel + 1) depth ('[' :: cs) =
      if depth ≥ limits.depth then none
      else (readItems? limits fuel (depth + 1) (skipBlanks cs)).map fun (js, rest) =>
        (.arr js, rest) := by
  rw [readValue?]
  split
  · next heq => exact absurd heq (h _)
  · rfl

/-- An object that is not empty is read member by member, a level deeper. -/
theorem readValue?_brace {cs : List Char} (h : ∀ rest, skipBlanks cs ≠ '\x7d' :: rest)
    (fuel depth : Nat) : readValue? limits (fuel + 1) depth ('\x7b' :: cs) =
      if depth ≥ limits.depth then none
      else (readFields? limits fuel (depth + 1) (skipBlanks cs)).map fun (fs, rest) =>
        (.obj (Fields.dedup fs), rest) := by
  rw [readValue?]
  split
  · next heq => exact absurd heq (h _)
  · rfl

/-- An array is read back if its items are. -/
theorem ReadsBack.arr {items : List Json} (hregular : ∀ j ∈ items, j.Regular)
    (hback : ∀ j ∈ items, j.ReadsBack limits) : (Json.arr items).ReadsBack limits := by
  intro fuel depth level rest hrest hfuel
  cases items with
  | nil => rfl
  | cons j items =>
    have hlength : 1 + (prettyAt (level + 1) j).length + (prettyItems level items).length ≤
        (prettyAt level (.arr (j :: items))).length := by
      simp only [prettyAt, List.length_append, List.length_cons]
      omega
    have hread := readItems?_prettyItems hregular hback (depth + 1) level fuel (by omega) rest
    have hj := hregular j List.mem_cons_self
    have hskip := skipBlanks_lineBreak_prettyAt hj (level + 1) (prettyItems level items ++ rest)
    have hopen : ∀ cs, skipBlanks (lineBreak (level + 1) ++
        (prettyAt (level + 1) j ++ (prettyItems level items ++ rest))) ≠ ']' :: cs := by
      obtain ⟨c, text, htext, -, hc⟩ := exists_cons_prettyAt hj (level + 1)
      rw [hskip, htext]
      rintro cs heq
      cases heq
      exact hc rfl
    have htext : prettyAt level (.arr (j :: items)) ++ rest = '[' :: (lineBreak (level + 1) ++
        (prettyAt (level + 1) j ++ (prettyItems level items ++ rest))) := by
      simp [prettyAt]
    rw [htext, readValue?_bracket hopen, hskip, hread, fits]
    by_cases hdepth : depth < limits.depth
    · rw [if_neg (Nat.not_le.2 hdepth)]
      cases fitsItems limits (depth + 1) (j :: items) <;> simp [hdepth]
    · simp [hdepth, Nat.not_lt.1 hdepth]

/-- An object is read back if its members are. Reading keeps one member of each name, so that names
may not repeat. -/
theorem ReadsBack.obj {fields : Fields} (hnodup : (fields.map Prod.fst).Nodup)
    (hnames : ∀ field ∈ fields, CiVariables.Text.hasHalf field.1 = false)
    (hregular : ∀ field ∈ fields, field.2.Regular)
    (hback : ∀ field ∈ fields, field.2.ReadsBack limits) : (Json.obj fields).ReadsBack limits := by
  intro fuel depth level rest hrest hfuel
  cases fields with
  | nil => rfl
  | cons field fields =>
    obtain ⟨k, j⟩ := field
    have hlength : 1 + (prettyAt (level + 1) j).length + (prettyFields level fields).length ≤
        (prettyAt level (.obj ((k, j) :: fields))).length := by
      simp only [prettyAt, List.length_append, List.length_cons]
      omega
    have hread :=
      readFields?_prettyFields hnames hregular hback (depth + 1) level fuel (by omega) rest
    have htext : prettyAt level (.obj ((k, j) :: fields)) ++ rest =
        '\x7b' :: (lineBreak (level + 1) ++ (quote k ++
          ':' :: ' ' :: (prettyAt (level + 1) j ++ (prettyFields level fields ++ rest)))) := by
      simp [prettyAt]
    rw [htext, readValue?_brace (by rw [skipBlanks_lineBreak_quote]; nofun),
      skipBlanks_lineBreak_quote, hread, fits]
    by_cases hdepth : depth < limits.depth
    · rw [if_neg (Nat.not_le.2 hdepth)]
      cases fitsFields limits (depth + 1) ((k, j) :: fields) <;>
        simp [hdepth, Fields.dedup_of_nodup hnodup]
    · simp [hdepth, Nat.not_lt.1 hdepth]

/-- A value is read back from its text. -/
theorem Regular.readsBack {j : Json} (h : j.Regular) (hwhole : j.Whole) :
    j.ReadsBack limits := by
  induction h with
  | null =>
    intro fuel depth level rest hrest hfuel
    rfl
  | bool b =>
    intro fuel depth level rest hrest hfuel
    cases b <;> rfl
  | int n =>
    intro fuel depth level rest hrest hfuel
    rw [prettyAt, readValue?_intText n fuel depth hrest]
    simp [fits]
  | str s =>
    intro fuel depth level rest hrest hfuel
    have hs : CiVariables.Text.hasHalf s = false := hwhole s (by simp [texts])
    simp [prettyAt, quote, readValue?, readString?_quote hs, fits]
  | arr hitems ih => exact ReadsBack.arr hitems fun i hi => ih i hi (hwhole.item hi)
  | obj hnodup hnames hfields ih =>
    exact ReadsBack.obj hnodup hnames hfields fun field hfield =>
      ih field hfield (hwhole.member hfield)

/-- The text of a value at the end of a file is read as the value. -/
theorem read?_pretty {j : Json} (h : j.Regular) (hwhole : j.Whole) :
    read? limits (j.pretty ++ "\n") = if j.fits limits 0 then some j else none := by
  have htext : (j.pretty ++ "\n").toList = prettyAt 0 j ++ ['\n'] := by
    simp [pretty]
  obtain ⟨c, cs, hcs, hblank, -⟩ := exists_cons_prettyAt h 0
  have hskip : skipBlanks (prettyAt 0 j ++ ['\n']) = prettyAt 0 j ++ ['\n'] := by
    rw [hcs, List.cons_append, skipBlanks, List.dropWhile_cons_of_neg (by simp [hblank])]
  unfold read?
  simp only [htext, hskip]
  rw [h.readsBack hwhole (.lineFeed []) (by simp only [List.length_append]; omega)]
  cases j.fits limits 0 <;> rfl

/-! ## Line ends

Reading a file takes a carriage return for the end of a line. In printed text there is none. -/

theorem hexDigit_ne_return : ∀ d < 16, hexDigit d ≠ '\r' := by decide

/-- No carriage return is written as it is. -/
theorem return_not_mem_escapeChar (c : Char) : '\r' ∉ escapeChar c := by
  have hhex {d : Nat} (h : d < 16) : '\r' ≠ hexDigit d := (hexDigit_ne_return d h).symm
  unfold escapeChar
  -- The characters with an escape of their own.
  iterate 7
    split
    · simp
  split
  · have hhigh : '\r' ≠ hexDigit (c.toNat / 16) := hhex (by omega)
    have hlow : '\r' ≠ hexDigit (c.toNat % 16) := hhex (by omega)
    simp [hhigh, hlow]
  split
  · next hhalf =>
    have hcode : CiVariables.Text.codeOf c < 0xE000 := by
      rw [CiVariables.Text.codeOf, if_pos hhalf]
      simp only [CiVariables.Text.isHalf, CiVariables.Text.isHalfCode, Bool.and_eq_true,
        decide_eq_true_eq] at hhalf
      exact hhalf.2.2
    simp only [List.mem_cons, List.not_mem_nil, or_false, not_or]
    exact ⟨by decide, by decide, hhex (by omega), hhex (by omega), hhex (by omega), hhex (by omega)⟩
  · next hreturn _ _ _ _ _ => simp [Ne.symm hreturn]

theorem return_not_mem_quote (s : String) : '\r' ∉ quote s := by
  simp [quote, return_not_mem_escapeChar]

theorem return_not_mem_lineBreak (level : Nat) : '\r' ∉ lineBreak level := by
  simp [lineBreak]

theorem return_not_mem_intText (n : Int) : '\r' ∉ intText n := by
  have hdigits : '\r' ∉ Nat.toDigits 10 n.natAbs := fun h =>
    absurd (Nat.isDigit_of_mem_toDigits (by decide) (by decide) h) (by decide)
  unfold intText
  split <;> simp [hdigits]

theorem return_not_mem_prettyItems {items : List Json} {level : Nat}
    (h : ∀ j ∈ items, '\r' ∉ prettyAt (level + 1) j) : '\r' ∉ prettyItems level items := by
  induction items with
  | nil => simp [prettyItems, return_not_mem_lineBreak]
  | cons j rest ih =>
    obtain ⟨hj, hrest⟩ := List.forall_mem_cons.1 h
    simp [prettyItems, return_not_mem_lineBreak, hj, ih hrest]

theorem return_not_mem_prettyFields {fields : Fields} {level : Nat}
    (h : ∀ field ∈ fields, '\r' ∉ prettyAt (level + 1) field.2) :
    '\r' ∉ prettyFields level fields := by
  induction fields with
  | nil => simp [prettyFields, return_not_mem_lineBreak]
  | cons field rest ih =>
    obtain ⟨k, j⟩ := field
    obtain ⟨hj, hrest⟩ := List.forall_mem_cons.1 h
    simp [prettyFields, return_not_mem_lineBreak, return_not_mem_quote, hj, ih hrest]

/-- The text of a value has no carriage return, so its line ends are read as they were written. -/
theorem Regular.return_not_mem {j : Json} (h : j.Regular) (level : Nat) :
    '\r' ∉ prettyAt level j := by
  induction h generalizing level with
  | null => simp [prettyAt]
  | bool b => cases b <;> simp [prettyAt]
  | int n => exact return_not_mem_intText n
  | str s => exact return_not_mem_quote s
  | @arr items hitems ih =>
    cases items with
    | nil => simp [prettyAt]
    | cons j rest =>
      obtain ⟨hj, hrest⟩ := List.forall_mem_cons.1 ih
      have htail := return_not_mem_prettyItems fun i hi => hrest i hi (level + 1)
      simp [prettyAt, return_not_mem_lineBreak, hj, htail]
  | @obj fields hnodup hnames hfields ih =>
    cases fields with
    | nil => simp [prettyAt]
    | cons field rest =>
      obtain ⟨k, j⟩ := field
      obtain ⟨hj, hrest⟩ := List.forall_mem_cons.1 ih
      have htail := return_not_mem_prettyFields fun field hfield => hrest field hfield (level + 1)
      simp [prettyAt, return_not_mem_lineBreak, return_not_mem_quote, hj, htail]

end CiVariables.Json
