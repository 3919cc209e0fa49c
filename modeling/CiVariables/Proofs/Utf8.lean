import CiVariables.Text.Utf8

/-!
# The bytes of a text are decoded to it

A text is read back from its UTF-8 bytes (`Utf8.decode_toUTF8`). The encoder writes a character as
one to four bytes, and the decoder takes exactly these, whatever follows (`Utf8.decodeChar_encode`).
-/

namespace CiVariables.Utf8

/-! ## One character -/

theorem toNat_ofNat_byte {n : Nat} (h : n < 256) : (UInt8.ofNat n).toNat = n := by
  rw [UInt8.toNat_ofNat']
  omega

/-- What a start byte says, by its number. -/
theorem shape?_ofNat {n : Nat} (h : n < 256) : shape? (UInt8.ofNat n) =
    if n < 0xC2 then none
    else if n < 0xE0 then some (1, 0x80, 0xBF)
    else if n = 0xE0 then some (2, 0xA0, 0xBF)
    else if n = 0xED then some (2, 0x80, 0x9F)
    else if n < 0xF0 then some (2, 0x80, 0xBF)
    else if n = 0xF0 then some (3, 0x90, 0xBF)
    else if n < 0xF4 then some (3, 0x80, 0xBF)
    else if n = 0xF4 then some (3, 0x80, 0x8F)
    else none := by
  simp only [shape?, UInt8.lt_iff_toNat_lt, ← UInt8.toNat_inj, toNat_ofNat_byte h]
  rfl

/-- A continuation byte within the bounds adds its six bits. -/
theorem tail_ofNat {lo hi : UInt8} {n : Nat} (hlo : lo.toNat ≤ n % 64 + 128)
    (hhi : n % 64 + 128 ≤ hi.toNat) (count acc : Nat) (seen rest : List UInt8) :
    tail (count + 1) lo hi acc seen (UInt8.ofNat (n % 64 + 128) :: rest) =
      tail count 0x80 0xBF (acc * 64 + n % 64) (seen ++ [UInt8.ofNat (n % 64 + 128)]) rest := by
  have hbyte : (UInt8.ofNat (n % 64 + 128)).toNat = n % 64 + 128 := toNat_ofNat_byte (by omega)
  have hbounds : lo ≤ UInt8.ofNat (n % 64 + 128) ∧ UInt8.ofNat (n % 64 + 128) ≤ hi := by
    rw [UInt8.le_iff_toNat_le, UInt8.le_iff_toNat_le, hbyte]
    exact ⟨hlo, hhi⟩
  have hpayload : (n % 64 + 128) % 64 = n % 64 := by omega
  rw [tail, if_pos (by simpa using hbounds), hbyte, hpayload]

/-- Where no bounds of its own are set, any continuation byte will do. -/
theorem tail_ofNat_unbounded (n count acc : Nat) (seen rest : List UInt8) :
    tail (count + 1) 0x80 0xBF acc seen (UInt8.ofNat (n % 64 + 128) :: rest) =
      tail count 0x80 0xBF (acc * 64 + n % 64) (seen ++ [UInt8.ofNat (n % 64 + 128)]) rest :=
  tail_ofNat (by simp) (by have : n % 64 < 64 := Nat.mod_lt _ (by decide); simp; omega) ..

/-- A start byte and what follows it are decoded together. -/
theorem decodeChar_start {n count v : Nat} {lo hi : UInt8} {bs rest : List UInt8} (hn : 128 ≤ n)
    (hbyte : n < 256) (hshape : shape? (UInt8.ofNat n) = some (count, lo, hi))
    (htail : tail count lo hi (startBits count (UInt8.ofNat n)) [UInt8.ofNat n] bs =
      .ok (v, rest)) : decodeChar (UInt8.ofNat n) bs = .ok (Char.ofNat v, rest) := by
  have hascii : ¬UInt8.ofNat n < 0x80 := by
    rw [UInt8.lt_iff_toNat_lt, toNat_ofNat_byte hbyte]
    exact Nat.not_lt.2 hn
  rw [decodeChar, if_neg hascii, hshape]
  simp only [htail]

theorem decodeChar_two {v : Nat} (hlow : 128 ≤ v) (hhigh : v < 2048) (rest : List UInt8) :
    decodeChar (UInt8.ofNat (v / 64 % 32 + 192)) (UInt8.ofNat (v % 64 + 128) :: rest) =
      .ok (Char.ofNat v, rest) := by
  have hbits : (v / 64 % 32 + 192) % 32 * 64 + v % 64 = v := by omega
  have hshape : shape? (UInt8.ofNat (v / 64 % 32 + 192)) = some (1, 0x80, 0xBF) := by
    rw [shape?_ofNat (by omega), if_neg (by omega), if_pos (by omega)]
  refine decodeChar_start (by omega) (by omega) hshape ?_
  rw [startBits, if_pos rfl, toNat_ofNat_byte (by omega), tail_ofNat_unbounded, tail, hbits]

/-- Three bytes are neither too many for the character nor a half of a surrogate pair. -/
theorem decodeChar_three {v : Nat} (hlow : 2048 ≤ v) (hhigh : v < 65536)
    (hvalid : v < 0xD800 ∨ 0xDFFF < v) (rest : List UInt8) :
    decodeChar (UInt8.ofNat (v / 4096 % 16 + 224))
        (UInt8.ofNat (v / 64 % 64 + 128) :: UInt8.ofNat (v % 64 + 128) :: rest) =
      .ok (Char.ofNat v, rest) := by
  have hbits : ((v / 4096 % 16 + 224) % 16 * 64 + v / 64 % 64) * 64 + v % 64 = v := by omega
  obtain ⟨lo, hi, hshape, hlo, hhi⟩ : ∃ lo hi : UInt8,
      shape? (UInt8.ofNat (v / 4096 % 16 + 224)) = some (2, lo, hi) ∧
        lo.toNat ≤ v / 64 % 64 + 128 ∧ v / 64 % 64 + 128 ≤ hi.toNat := by
    rw [shape?_ofNat (by omega), if_neg (by omega), if_neg (by omega)]
    -- The first and the fourteenth start byte bound the next one more tightly.
    split
    · exact ⟨_, _, rfl, by simp; omega, by simp; omega⟩
    split
    · exact ⟨_, _, rfl, by simp, by simp; omega⟩
    rw [if_pos (by omega)]
    exact ⟨_, _, rfl, by simp, by simp; omega⟩
  refine decodeChar_start (by omega) (by omega) hshape ?_
  rw [startBits, if_neg (by decide), if_pos rfl, toNat_ofNat_byte (by omega), tail_ofNat hlo hhi,
    tail_ofNat_unbounded, tail, hbits]

theorem decodeChar_four {v : Nat} (hlow : 65536 ≤ v) (hhigh : v < 0x110000) (rest : List UInt8) :
    decodeChar (UInt8.ofNat (v / 262144 % 8 + 240)) (UInt8.ofNat (v / 4096 % 64 + 128) ::
        UInt8.ofNat (v / 64 % 64 + 128) :: UInt8.ofNat (v % 64 + 128) :: rest) =
      .ok (Char.ofNat v, rest) := by
  have hbits : (((v / 262144 % 8 + 240) % 8 * 64 + v / 4096 % 64) * 64 + v / 64 % 64) * 64 +
      v % 64 = v := by omega
  obtain ⟨lo, hi, hshape, hlo, hhi⟩ : ∃ lo hi : UInt8,
      shape? (UInt8.ofNat (v / 262144 % 8 + 240)) = some (3, lo, hi) ∧
        lo.toNat ≤ v / 4096 % 64 + 128 ∧ v / 4096 % 64 + 128 ≤ hi.toNat := by
    rw [shape?_ofNat (by omega), if_neg (by omega), if_neg (by omega), if_neg (by omega),
      if_neg (by omega), if_neg (by omega)]
    -- So do the first and the last start byte of four.
    split
    · exact ⟨_, _, rfl, by simp; omega, by simp; omega⟩
    split
    · exact ⟨_, _, rfl, by simp, by simp; omega⟩
    rw [if_pos (by omega)]
    exact ⟨_, _, rfl, by simp, by simp; omega⟩
  refine decodeChar_start (by omega) (by omega) hshape ?_
  rw [startBits, if_neg (by decide), if_neg (by decide), toNat_ofNat_byte (by omega),
    tail_ofNat hlo hhi, tail_ofNat_unbounded, tail_ofNat_unbounded, tail, hbits]

/-- A character is taken from the front of the bytes that begin with its own. -/
theorem decodeChar_encode (c : Char) (rest : List UInt8) :
    ∃ b bs, String.utf8EncodeChar c = b :: bs ∧ decodeChar b (bs ++ rest) = .ok (c, rest) := by
  have hvalid : c.val.toNat < 0xD800 ∨ 0xDFFF < c.val.toNat ∧ c.val.toNat < 0x110000 := c.valid
  have hchar : Char.ofNat c.val.toNat = c := c.ofNat_toNat
  unfold String.utf8EncodeChar
  simp only
  split
  · refine ⟨_, _, rfl, ?_⟩
    have hbyte : (UInt8.ofNat c.val.toNat).toNat = c.val.toNat := toNat_ofNat_byte (by omega)
    have hascii : UInt8.ofNat c.val.toNat < 0x80 := by
      rw [UInt8.lt_iff_toNat_lt, hbyte]
      exact Nat.lt_succ_of_le ‹_›
    rw [decodeChar, if_pos hascii, hbyte, hchar, List.nil_append]
  split
  · exact ⟨_, _, rfl, (decodeChar_two (by omega) (by omega) rest).trans (by rw [hchar])⟩
  split
  · exact ⟨_, _, rfl,
      (decodeChar_three (by omega) (by omega) (by omega) rest).trans (by rw [hchar])⟩
  · exact ⟨_, _, rfl, (decodeChar_four (by omega) (by omega) rest).trans (by rw [hchar])⟩

/-! ## Whole texts -/

/-- Characters that were encoded are decoded as they were. -/
theorem decodeFrom_encode {fuel : Nat} {cs : List Char} (h : cs.length ≤ fuel) (position : Nat)
    (acc : List Char) :
    decodeFrom fuel position (cs.flatMap String.utf8EncodeChar) acc = .ok (acc.reverse ++ cs) := by
  induction cs generalizing fuel position acc with
  | nil => cases fuel <;> simp [decodeFrom]
  | cons c cs ih =>
    obtain ⟨fuel, rfl⟩ := Nat.exists_eq_add_one_of_ne_zero (Nat.ne_zero_of_lt h)
    obtain ⟨b, bs, hbytes, hdecode⟩ := decodeChar_encode c (cs.flatMap String.utf8EncodeChar)
    rw [List.flatMap_cons, hbytes, List.cons_append, decodeFrom]
    simp only [hdecode]
    rw [ih (by simpa using h), List.reverse_cons, List.append_assoc]
    rfl

theorem length_le_encode (cs : List Char) :
    cs.length ≤ (cs.flatMap String.utf8EncodeChar).length := by
  induction cs with
  | nil => exact Nat.le_refl 0
  | cons c cs ih =>
    have hc := c.utf8Size_pos
    rw [List.flatMap_cons, List.length_append, String.length_utf8EncodeChar, List.length_cons]
    omega

/-- A byte array from an index on, behind what has been collected. -/
theorem toList_loop_eq (bytes : ByteArray) (i : Nat) (acc : List UInt8) :
    ByteArray.toList.loop bytes i acc = acc.reverse ++ bytes.data.toList.drop i := by
  fun_induction ByteArray.toList.loop bytes i acc with
  | case1 i acc hi ih =>
    have hlength : i < bytes.data.toList.length := hi
    have hbyte : bytes.get! i = bytes.data.toList[i] := getElem!_pos bytes.data i hi
    rw [ih, hbyte, List.drop_eq_getElem_cons hlength, List.reverse_cons, List.append_assoc]
    rfl
  | case2 i acc hi =>
    have hlength : bytes.data.toList.length ≤ i := Nat.le_of_not_lt hi
    rw [List.drop_eq_nil_of_le hlength, List.append_nil]

theorem toList_toUTF8 (s : String) : s.toUTF8.toList = s.toList.flatMap String.utf8EncodeChar := by
  have hloop := toList_loop_eq s.toByteArray 0 []
  rw [← String.utf8Encode_toList, List.utf8Encode, List.toList_data_toByteArray] at hloop
  rw [String.toUTF8, ← String.utf8Encode_toList, List.utf8Encode]
  exact hloop

/-- **The bytes of a text are decoded to it.** -/
theorem decode_toUTF8 (s : String) : decode s.toUTF8.toList = .ok s.toList := by
  rw [decode, toList_toUTF8, decodeFrom_encode (length_le_encode _)]
  rfl

/-- Text without carriage returns has no line ends to unify. -/
theorem unifyNewlines_of_not_mem {cs : List Char} (h : '\r' ∉ cs) : unifyNewlines cs = cs := by
  induction cs with
  | nil => rfl
  | cons c cs ih =>
    obtain ⟨hc, hcs⟩ := List.ne_and_not_mem_of_not_mem_cons h
    rw [unifyNewlines, ih hcs]
    · rintro rest rfl
      exact absurd rfl hc
    · rintro rfl
      exact absurd rfl hc

end CiVariables.Utf8
