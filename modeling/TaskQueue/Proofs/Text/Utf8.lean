import TaskQueue.Text.Utf8

/-!
# UTF-8

Results:
1. `encode_eq`, `decode?_eq_some_iff`: a string is written character by character, and read back
   from exactly what is written for it.
2. `char_bytes_inj`, `char_bytes_cons`: the bytes of a character are not the beginning of another
   one's, and only the first of them can begin a character.
-/

namespace TaskQueue.Utf8

/-! ## 1. Strings -/

theorem toList_loop (bytes : ByteArray) (i : Nat) (found : List UInt8) :
    ByteArray.toList.loop bytes i found = found.reverse ++ bytes.data.toList.drop i := by
  induction i, found using ByteArray.toList.loop.induct bytes with
  | case1 i found inside ih =>
    have known : i < bytes.data.toList.length := by simpa using inside
    have byte : bytes.get! i = bytes.data.toList[i] :=
      (getElem!_pos bytes.data i inside).trans (by simp)
    rw [ByteArray.toList.loop, if_pos inside, ih, List.drop_eq_getElem_cons known, byte]
    simp
  | case2 i found outside =>
    rw [ByteArray.toList.loop, if_neg outside, List.drop_of_length_le (by simpa using outside)]
    simp

theorem toList_toByteArray (bytes : List UInt8) : bytes.toByteArray.toList = bytes := by
  rw [ByteArray.toList, toList_loop, List.toList_data_toByteArray]
  rfl

/-- A string is written character by character. -/
theorem encode_eq (text : String) : encode text = text.toList.flatMap String.utf8EncodeChar := by
  rw [encode, String.toUTF8_eq_toByteArray, ← String.utf8Encode_toList, List.utf8Encode,
    toList_toByteArray]

theorem encode_singleton (c : Char) : encode (String.singleton c) = String.utf8EncodeChar c := by
  rw [encode_eq, String.toList_singleton, List.flatMap_singleton]

/-- Exactly what is written for a string is read as that string. -/
theorem decode?_eq_some_iff {bytes : List UInt8} {text : String} :
    decode? bytes = some text ↔ encode text = bytes := by
  have same : (⟨bytes.toArray⟩ : ByteArray) = bytes.toByteArray :=
    ByteArray.ext List.data_toByteArray.symm
  rw [decode?, same, encode, String.toUTF8_eq_toByteArray, String.fromUTF8?]
  constructor
  · intro read
    split at read
    · cases read
      exact toList_toByteArray bytes
    · cases read
  · rintro rfl
    have whole : text.toByteArray.toList.toByteArray = text.toByteArray := by
      rw [← String.utf8Encode_toList, List.utf8Encode, toList_toByteArray]
    have valid : text.toByteArray.toList.toByteArray.IsValidUTF8 := by
      rw [whole]
      exact text.isValidUTF8
    rw [dif_pos valid, Option.some.injEq, ← String.toByteArray_inj]
    exact whole

@[simp] theorem decode?_encode (text : String) : decode? (encode text) = some text :=
  decode?_eq_some_iff.mpr rfl

/-! ## 2. Characters -/

/-- The bytes of a character are not the beginning of those of another one. -/
theorem char_bytes_inj {c d : Char} {rest rest' : List UInt8}
    (same : String.utf8EncodeChar c ++ rest = String.utf8EncodeChar d ++ rest') :
    c = d ∧ rest = rest' := by
  have first : ∀ (c : Char) (rest : List UInt8),
      (String.utf8EncodeChar c ++ rest).toByteArray.utf8DecodeChar? 0 = some c := by
    intro c rest
    rw [List.toByteArray_append]
    exact ByteArray.utf8DecodeChar?_utf8EncodeChar_append
  have chars : some c = some d := by rw [← first c rest, same, first d rest']
  cases chars
  exact ⟨rfl, List.append_cancel_left same⟩

/-- Only the first byte of a character can begin a character. -/
theorem char_bytes_cons (c : Char) : ∃ first others, String.utf8EncodeChar c = first :: others ∧
    first.IsUTF8FirstByte ∧ ∀ b ∈ others, ¬ b.IsUTF8FirstByte := by
  have begins : ∀ i (inside : i < (String.utf8EncodeChar c).length),
      (String.utf8EncodeChar c)[i].IsUTF8FirstByte ↔ i = 0 :=
    fun i inside => UInt8.isUTF8FirstByte_getElem_utf8EncodeChar
  cases whole : String.utf8EncodeChar c with
  | nil => exact absurd whole String.utf8EncodeChar_ne_nil
  | cons first others =>
    simp only [whole] at begins
    refine ⟨first, others, rfl, (begins 0 (Nat.zero_lt_succ _)).mpr rfl, fun b member => ?_⟩
    obtain ⟨i, inside, rfl⟩ := List.getElem_of_mem member
    exact fun starts => Nat.succ_ne_zero i ((begins (i + 1) (Nat.succ_lt_succ inside)).mp starts)

/-- The bytes of a scalar value are those of its character. -/
theorem scalar?_eq_some_iff {code : Nat} {bytes : List UInt8} :
    scalar? code = some bytes ↔ ∃ c : Char, c.toNat = code ∧ bytes = String.utf8EncodeChar c := by
  unfold scalar?
  constructor
  · intro known
    split at known
    · next valid =>
      cases known
      refine ⟨Char.ofNat code, ?_, encode_singleton _⟩
      rw [Char.ofNat, dif_pos valid]
      rfl
    · cases known
  · rintro ⟨c, rfl, rfl⟩
    have valid : c.toNat.isValidChar := c.valid
    rw [if_pos valid, Char.ofNat_toNat, encode_singleton]

end TaskQueue.Utf8
