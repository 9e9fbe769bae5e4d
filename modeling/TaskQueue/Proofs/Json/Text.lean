import TaskQueue.Json.Meaning
import TaskQueue.Proofs.Text.Hex
import TaskQueue.Proofs.Text.Utf8

/-!
# Strings of a JSON text

Results:
1. `Text.string?_eq_some_iff`: the strings as they are written that denote a given string, and
   `string?_ofString`: the written one is among them.
2. `Text.read?_eq_some_iff`: what may stand between quotes, and `Text.spells_write`: what is written
   there.
-/

namespace TaskQueue.Json.Text

variable {s : Text} {bytes rest : List UInt8} {c : Char} {text : String}

/-! ## 1. What a string denotes -/

/-- The forms of a character: its bytes, an escaped unit, or an escaped pair of surrogates. -/
inductive IsChar (c : Char) : Text → Prop
  | raw : IsChar c ((String.utf8EncodeChar c).map .byte)
  | escaped {u : UInt16} : u.toNat = c.toNat → IsChar c [.unit u]
  | paired {high low : UInt16} : 0xd800 ≤ high.toNat → high.toNat < 0xdc00 →
      0xdc00 ≤ low.toNat → low.toNat < 0xe000 →
      0x10000 + (high.toNat - 0xd800) * 0x400 + (low.toNat - 0xdc00) = c.toNat →
      IsChar c [.unit high, .unit low]

/-- The characters that a string denotes, one after the other. -/
inductive Denotes : Text → List Char → Prop
  | nil : Denotes [] []
  | cons {c : Char} {front s : Text} {cs : List Char} : IsChar c front → Denotes s cs →
      Denotes (front ++ s) (c :: cs)

theorem bytes?_raw (front : List UInt8) (s : Text) :
    bytes? (front.map .byte ++ s) = (bytes? s).map (front ++ ·) := by
  induction front with
  | nil => simp
  | cons b front ih =>
    rw [List.map_cons, List.cons_append, bytes?, ih]
    cases bytes? s <;> rfl

/-- No character is a surrogate. -/
theorem not_surrogate (c : Char) : c.toNat < 0xd800 ∨ 0xdfff < c.toNat := by
  rcases c.valid with low | high
  · exact .inl low
  · exact .inr high.1

theorem scalar?_char (c : Char) : Utf8.scalar? c.toNat = some (String.utf8EncodeChar c) :=
  Utf8.scalar?_eq_some_iff.mpr ⟨c, rfl, rfl⟩

/-- One character more. -/
theorem bytes?_char {front : Text} (char : IsChar c front) (s : Text) :
    bytes? (front ++ s) = (bytes? s).map (String.utf8EncodeChar c ++ ·) := by
  cases char with
  | raw => exact bytes?_raw _ s
  | @escaped u same =>
    have plain : u < 0xd800 ∨ 0xdfff < u := by
      rw [UInt16.lt_iff_toNat_lt, UInt16.lt_iff_toNat_lt, same]
      exact not_surrogate c
    rw [List.singleton_append, bytes?.eq_def]
    simp only [plain, if_true, same, scalar?_char]
    cases bytes? s <;> rfl
  | @paired high low from_ below above under value =>
    have surrogate : ¬ (high < 0xd800 ∨ 0xdfff < high) := by
      simp only [UInt16.lt_iff_toNat_lt, UInt16.reduceToNat]
      omega
    have first : high < 0xdc00 := UInt16.lt_iff_toNat_lt.mpr below
    have second : 0xdc00 ≤ low ∧ low ≤ 0xdfff := by
      simp only [UInt16.le_iff_toNat_le, UInt16.reduceToNat]
      omega
    rw [List.cons_append, List.singleton_append, bytes?.eq_def]
    simp only [surrogate, if_false, first, if_true, second, and_self, value, scalar?_char]
    cases bytes? s <;> rfl

theorem Denotes.bytes?_eq {cs : List Char} (denotes : Denotes s cs) :
    bytes? s = some (cs.flatMap String.utf8EncodeChar) := by
  induction denotes with
  | nil => rfl
  | cons char _ ih => rw [bytes?_char char, ih, Option.map_some, List.flatMap_cons]

/-- An escaped unit belongs to the form of a character. -/
theorem bytes?_unit {u : UInt16} (known : bytes? (.unit u :: s) = some bytes) :
    ∃ c front s' rest, IsChar c front ∧ .unit u :: s = front ++ s' ∧
      bytes? s' = some rest ∧ bytes = String.utf8EncodeChar c ++ rest := by
  rw [bytes?.eq_def] at known
  simp only at known
  split at known
  · simp only [Option.bind_eq_bind, Option.bind_eq_some_iff, Option.pure_def,
      Option.some.injEq] at known
    obtain ⟨scalar, value, rest, left, rfl⟩ := known
    obtain ⟨c, same, rfl⟩ := Utf8.scalar?_eq_some_iff.mp value
    exact ⟨c, [.unit u], s, rest, .escaped same.symm, rfl, left, rfl⟩
  next surrogate =>
  split at known
  · next first =>
    split at known
    · next low s =>
      split at known
      · next second =>
        simp only [Option.bind_eq_bind, Option.bind_eq_some_iff, Option.pure_def,
          Option.some.injEq] at known
        obtain ⟨scalar, value, rest, left, rfl⟩ := known
        obtain ⟨c, same, rfl⟩ := Utf8.scalar?_eq_some_iff.mp value
        simp only [UInt16.lt_iff_toNat_lt, UInt16.le_iff_toNat_le, UInt16.reduceToNat, not_or,
          Nat.not_lt] at surrogate first second
        exact ⟨c, [.unit u, .unit low], s, rest,
          .paired surrogate.1 first second.1 (by omega) same.symm, rfl, left, rfl⟩
      · cases known
    · cases known
  · cases known

/-- Bytes that cannot begin a character come from bytes. -/
theorem bytes?_others {others : List UInt8} (inner : ∀ b ∈ others, ¬ b.IsUTF8FirstByte)
    (known : bytes? s = some (others ++ rest)) :
    ∃ s', s = others.map .byte ++ s' ∧ bytes? s' = some rest := by
  induction others generalizing s with
  | nil => exact ⟨s, rfl, known⟩
  | cons b others ih =>
    obtain ⟨own, later⟩ := List.forall_mem_cons.mp inner
    cases s with
    | nil => cases known
    | cons piece s =>
      cases piece with
      | byte b' =>
        simp only [bytes?, Option.bind_eq_bind, Option.bind_eq_some_iff, Option.pure_def,
          Option.some.injEq, List.cons_append, List.cons.injEq] at known
        obtain ⟨_, known, rfl, rfl⟩ := known
        obtain ⟨s', rfl, left⟩ := ih later known
        exact ⟨s', rfl, left⟩
      | unit u =>
        obtain ⟨c, front, s', rest', -, -, -, whole⟩ := bytes?_unit known
        obtain ⟨first, _, char, starts, -⟩ := Utf8.char_bytes_cons c
        rw [char, List.cons_append, List.cons_append, List.cons.injEq] at whole
        exact absurd (whole.1 ▸ starts) own

theorem denotes_of_bytes {cs : List Char}
    (known : bytes? s = some (cs.flatMap String.utf8EncodeChar)) : Denotes s cs := by
  induction cs generalizing s with
  | nil =>
    cases s with
    | nil => exact .nil
    | cons piece s =>
      cases piece with
      | byte b => cases rest : bytes? s <;> simp [bytes?, rest] at known
      | unit u =>
        obtain ⟨c, _, _, _, -, -, -, whole⟩ := bytes?_unit known
        obtain ⟨first, others, char, -⟩ := Utf8.char_bytes_cons c
        rw [char] at whole
        cases whole
  | cons c cs ih =>
    rw [List.flatMap_cons] at known
    cases s with
    | nil =>
      obtain ⟨first, others, char, -⟩ := Utf8.char_bytes_cons c
      rw [char] at known
      cases known
    | cons piece s =>
      cases piece with
      | byte b =>
        obtain ⟨first, others, char, -, inner⟩ := Utf8.char_bytes_cons c
        simp only [char, bytes?, Option.bind_eq_bind, Option.bind_eq_some_iff, Option.pure_def,
          Option.some.injEq, List.cons_append, List.cons.injEq] at known
        obtain ⟨_, known, rfl, rfl⟩ := known
        obtain ⟨s', rfl, left⟩ := bytes?_others inner known
        have form : IsChar c (.byte b :: others.map .byte) := by
          rw [← List.map_cons, ← char]
          exact .raw
        exact .cons form (ih left)
      | unit u =>
        obtain ⟨d, front, s', rest, form, whole, left, same⟩ := bytes?_unit known
        obtain ⟨rfl, rfl⟩ := Utf8.char_bytes_inj same
        rw [whole]
        exact .cons form (ih left)

/-- A string as it is written stands for a string if and only if it denotes its characters. -/
theorem string?_eq_some_iff : string? s = some text ↔ Denotes s text.toList := by
  simp only [string?, Option.bind_eq_bind, Option.bind_eq_some_iff, Utf8.decode?_eq_some_iff,
    Utf8.encode_eq]
  constructor
  · rintro ⟨bytes, known, rfl⟩
    exact denotes_of_bytes known
  · intro denotes
    exact ⟨_, denotes.bytes?_eq, rfl⟩

theorem denotes_ofString (text : String) : Denotes (ofString text) text.toList := by
  rw [ofString, Utf8.encode_eq]
  induction text.toList with
  | nil => exact .nil
  | cons c cs ih =>
    rw [List.flatMap_cons, List.map_append]
    exact .cons .raw ih

@[simp] theorem string?_ofString (text : String) : string? (ofString text) = some text :=
  string?_eq_some_iff.mpr (denotes_ofString text)

/-! ## 2. Between quotes -/

/-- The bytes between the quotes of a string: bytes as they are, short escapes and escaped units. -/
inductive Spells : Text → List UInt8 → Prop
  | nil : Spells [] []
  | plain {s : Text} {bytes : List UInt8} {b : UInt8} : 0x20 ≤ b → b ≠ 0x22 → b ≠ 0x5c →
      Spells s bytes → Spells (.byte b :: s) (b :: bytes)
  | short {s : Text} {bytes : List UInt8} {letter b : UInt8} : ofShortEscape? letter = some b →
      Spells s bytes → Spells (.byte b :: s) (0x5c :: letter :: bytes)
  | unit {s : Text} {bytes : List UInt8} {a b c d : UInt8} {code : Nat} :
      unitOf? a b c d = some code → Spells s bytes →
      Spells (Piece.ofUnit code :: s) (0x5c :: 0x75 :: a :: b :: c :: d :: bytes)

theorem read?_plain {b : UInt8} (visible : 0x20 ≤ b) (quote : b ≠ 0x22) (slash : b ≠ 0x5c)
    (bytes : List UInt8) :
    Text.read? (b :: bytes) = (Text.read? bytes).map fun r => (.byte b :: r.1, r.2) := by
  have kept : ¬ (b < 0x20 ∨ b = 0x5c) := by
    rw [not_or, UInt8.not_lt]
    exact ⟨visible, slash⟩
  rw [Text.read?.eq_def]
  split
  · next empty => cases empty
  · next same => exact absurd (List.cons.inj same).1 quote
  · next same => exact absurd (List.cons.inj same).1 slash
  · next same => exact absurd (List.cons.inj same).1 slash
  · next same =>
    cases same
    rw [if_neg kept]
    cases Text.read? bytes <;> rfl

theorem read?_short {letter b : UInt8} (escape : ofShortEscape? letter = some b)
    (bytes : List UInt8) : Text.read? (0x5c :: letter :: bytes) =
      (Text.read? bytes).map fun r => (.byte b :: r.1, r.2) := by
  have notUnit : letter ≠ 0x75 := by
    rintro rfl
    cases escape
  rw [Text.read?.eq_def]
  split
  · next empty => cases empty
  · next same => cases (List.cons.inj same).1
  · next same => exact absurd (List.cons.inj (List.cons.inj same).2).1 notUnit
  · next same =>
    cases same
    rw [escape]
    cases Text.read? bytes <;> rfl
  · next other same =>
    cases same
    exact absurd rfl (other letter bytes rfl)

theorem read?_unit {a b c d : UInt8} {code : Nat} (hex : unitOf? a b c d = some code)
    (bytes : List UInt8) : Text.read? (0x5c :: 0x75 :: a :: b :: c :: d :: bytes) =
      (Text.read? bytes).map fun r => (Piece.ofUnit code :: r.1, r.2) := by
  rw [Text.read?, hex]
  cases Text.read? bytes <;> rfl

theorem Spells.read (spells : Spells s bytes) (rest : List UInt8) :
    Text.read? (bytes ++ 0x22 :: rest) = some (s, rest) := by
  induction spells with
  | nil => rfl
  | plain visible quote slash _ ih =>
    rw [List.cons_append, read?_plain visible quote slash, ih, Option.map_some]
  | short escape _ ih =>
    rw [List.cons_append, List.cons_append, read?_short escape, ih, Option.map_some]
  | unit hex _ ih =>
    simp only [List.cons_append]
    rw [read?_unit hex, ih, Option.map_some]

/-- A string is read up to the quote that closes it. -/
theorem read?_eq_some_iff : Text.read? bytes = some (s, rest) ↔
    ∃ front, Spells s front ∧ bytes = front ++ 0x22 :: rest := by
  constructor
  · intro read
    fun_induction Text.read? bytes generalizing s rest with
    | case1 => cases read
    | case2 rest' =>
      cases read
      exact ⟨[], .nil, rfl⟩
    | case3 a b c d bytes ih =>
      simp only [Option.bind_eq_bind, Option.bind_eq_some_iff, Option.pure_def, Option.some.injEq,
        Prod.mk.injEq] at read
      obtain ⟨code, hex, ⟨s, rest⟩, read, rfl, rfl⟩ := read
      obtain ⟨front, spells, rfl⟩ := ih read
      exact ⟨_, .unit hex spells, rfl⟩
    | case4 letter bytes _ ih =>
      simp only [Option.bind_eq_bind, Option.bind_eq_some_iff, Option.pure_def, Option.some.injEq,
        Prod.mk.injEq] at read
      obtain ⟨b, escape, ⟨s, rest⟩, read, rfl, rfl⟩ := read
      obtain ⟨front, spells, rfl⟩ := ih read
      exact ⟨_, .short escape spells, rfl⟩
    | case5 b bytes _ _ _ refused => cases read
    | case6 b bytes quote _ _ kept ih =>
      simp only [Option.bind_eq_bind, Option.bind_eq_some_iff, Option.pure_def, Option.some.injEq,
        Prod.mk.injEq] at read
      obtain ⟨⟨s, rest⟩, read, rfl, rfl⟩ := read
      obtain ⟨front, spells, rfl⟩ := ih read
      rw [not_or, UInt8.not_lt] at kept
      exact ⟨_, .plain kept.1 (by simpa using quote) kept.2 spells, rfl⟩
  · rintro ⟨front, spells, rfl⟩
    exact spells.read rest

/-! ## What is written -/

/-- A unit that is not written as a byte. -/
def IsPlain : Piece → Prop
  | .byte _ => True
  | .unit u => 0x80 ≤ u.toNat

theorem map_ascii {chars : List Char} (small : ∀ c ∈ chars, c.toNat < 128) :
    (ascii chars).map (fun b => Char.ofNat b.toNat) = chars := by
  rw [ascii, List.map_map]
  refine (List.map_congr_left fun c member => ?_).trans chars.map_id
  have bound := small c member
  simp only [Function.comp, UInt8.toNat_ofNat', id]
  rw [Nat.mod_eq_of_lt (by omega), Char.ofNat_toNat]

/-- The escape of a unit is read as that unit. -/
theorem spells_escape {n : Nat} (small : n < 0x10000) {s : Text} {bytes : List UInt8}
    (spells : Spells s bytes) :
    Spells (Piece.ofUnit n :: s) (ascii ('\\' :: 'u' :: Hex.write 4 n) ++ bytes) := by
  have digits : ∃ a b c d, ascii (Hex.write 4 n) = [a, b, c, d] := by
    simp [Hex.write, ascii]
  obtain ⟨a, b, c, d, digits⟩ := digits
  have hex : unitOf? a b c d = some n := by
    rw [unitOf?, ← digits, map_ascii fun c member => Hex.lt_of_mem_write member]
    exact Hex.read?_write small
  have whole : ascii ('\\' :: 'u' :: Hex.write 4 n) ++ bytes =
      0x5c :: 0x75 :: a :: b :: c :: d :: bytes := by
    have front : ascii ('\\' :: 'u' :: Hex.write 4 n) =
        0x5c :: 0x75 :: ascii (Hex.write 4 n) := rfl
    rw [front, digits]
    rfl
  rw [whole]
  exact .unit hex spells

theorem ofShortEscape?_of_written {b : UInt8} {letter : Char}
    (written : shortEscape? b = some letter) :
    ofShortEscape? (.ofNat letter.toNat) = some b := by
  rw [shortEscape?] at written
  repeat' split at written
  all_goals cases written <;> (subst b; rfl)

/-- What is written for a string spells it. -/
theorem spells_write (plain : ∀ p ∈ s, IsPlain p) : Spells s (s.flatMap Piece.write) := by
  induction s with
  | nil => exact .nil
  | cons piece s ih =>
    obtain ⟨own, plain⟩ := List.forall_mem_cons.mp plain
    have rest := ih plain
    rw [List.flatMap_cons]
    cases piece with
    | byte b =>
      rw [Piece.write]
      split
      · next letter escape => exact .short (ofShortEscape?_of_written escape) rest
      · next visible =>
        split
        · next control =>
          have bound : b.toNat < 0x20 := UInt8.lt_iff_toNat_lt.mp control
          have same : Piece.ofUnit b.toNat = .byte b := by
            rw [Piece.ofUnit, if_pos (by omega), UInt8.ofNat_toNat]
          have escape := spells_escape (Nat.lt_trans bound (by decide)) rest
          rwa [same] at escape
        · next high =>
          refine .plain (UInt8.not_lt.mp high) ?_ ?_ rest
          · rintro rfl
            cases visible
          · rintro rfl
            cases visible
    | unit u =>
      have same : Piece.ofUnit u.toNat = .unit u := by
        rw [Piece.ofUnit, if_neg (Nat.not_lt.mpr own), UInt16.ofNat_toNat]
      have escape := spells_escape u.toNat_lt rest
      rwa [same] at escape

theorem isPlain_ofString (text : String) : ∀ p ∈ ofString text, IsPlain p := by
  intro p member
  obtain ⟨b, -, rfl⟩ := List.mem_map.mp member
  trivial

end TaskQueue.Json.Text
