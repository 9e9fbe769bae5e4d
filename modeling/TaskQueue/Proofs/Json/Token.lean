import Mathlib.Data.Fintype.Basic
import Mathlib.Tactic.FinCases
import TaskQueue.Proofs.Json.Text

/-!
# The tokens of a JSON text

The grammar is a relation from tokens to bytes; it says nothing about how they are read. A number is
read as far as it goes, so two numbers in a row would be one: they are the only tokens that have to
be kept apart.

Results:
1. `Numeral.Spells.read`: a number is read to its end where nothing follows that could go on with it.
2. `spread_of_tokens?`: tokens are read from a text that spells them.
3. `Spread.tokens?_eq`: all tokens of a text are found if no two numbers stand in a row.
-/

namespace TaskQueue.Json

variable {bytes rest : List UInt8}

/-! ## 1. Numbers -/

/-- The first byte of some bytes, if there is one, does not go on with a run of digits. -/
def EndsDigits (rest : List UInt8) : Prop :=
  ∀ b ∈ rest.head?, digit? b = none

/-- The first byte of some bytes, if there is one, does not go on with a number. -/
def EndsNumber (rest : List UInt8) : Prop :=
  ∀ b ∈ rest.head?, digit? b = none ∧ b ≠ 0x2e ∧ b ≠ 0x65 ∧ b ≠ 0x45

/-- The whole part of a number is a zero alone, or it starts with another digit. -/
def IsWhole (digits : List Digit) : Prop :=
  (∃ d, digits = [d] ∧ d.val = 0) ∨ ∃ d others, digits = d :: others ∧ d.val ≠ 0

/-- The signs of an exponent. -/
inductive SpellsSign : Bool → List UInt8 → Prop
  | none : SpellsSign false []
  | plus : SpellsSign false [0x2b]
  | minus : SpellsSign true [0x2d]

/-- The forms of an exponent. -/
inductive SpellsExponent : Option (Bool × List Digit) → List UInt8 → Prop
  | absent : SpellsExponent none []
  | written {letter : UInt8} {negative : Bool} {sign : List UInt8} {digits : List Digit} :
      letter = 0x65 ∨ letter = 0x45 → SpellsSign negative sign → digits ≠ [] →
      SpellsExponent (some (negative, digits)) (letter :: (sign ++ digits.map writeDigit))

/-- The forms of a number without its sign. -/
def Numeral.SpellsUnsigned (n : Numeral) (bytes : List UInt8) : Prop :=
  IsWhole n.whole ∧ ∃ exponent, SpellsExponent n.exponent exponent ∧
    bytes = n.whole.map writeDigit ++ (writeFraction n.fraction ++ exponent)

/-- The forms of a number. -/
def Numeral.Spells (n : Numeral) (bytes : List UInt8) : Prop :=
  ∃ unsigned, n.SpellsUnsigned unsigned ∧
    bytes = if n.negative then 0x2d :: unsigned else unsigned

theorem digit?_eq_some_iff {b : UInt8} {d : Digit} : digit? b = some d ↔ b = writeDigit d := by
  have bound : 48 + d.val < 256 := by omega
  have whole : (writeDigit d).toNat = 48 + d.val := UInt8.toNat_ofNat_of_lt' bound
  have low : 0x30 ≤ b ↔ 48 ≤ b.toNat := UInt8.le_iff_toNat_le
  have high : b ≤ 0x39 ↔ b.toNat ≤ 57 := UInt8.le_iff_toNat_le
  rw [← UInt8.toNat_inj, whole, digit?]
  split
  · next within =>
    rw [low, high] at within
    rw [Option.some.injEq, Fin.ext_iff, Fin.val_ofNat]
    omega
  · next beyond =>
    rw [low, high] at beyond
    exact iff_of_false nofun (by omega)

@[simp] theorem digit?_writeDigit (d : Digit) : digit? (writeDigit d) = some d :=
  digit?_eq_some_iff.mpr rfl

theorem EndsNumber.digits (ends : EndsNumber rest) : EndsDigits rest :=
  fun b first => (ends b first).1

theorem spanDigits_eq {digits : List Digit} (ends : EndsDigits rest) :
    spanDigits (digits.map writeDigit ++ rest) = (digits, rest) := by
  induction digits with
  | nil =>
    cases rest with
    | nil => rfl
    | cons b rest =>
      have other : digit? b = none := ends b rfl
      simp [spanDigits, other]
  | cons d digits ih => simp [spanDigits, ih]

theorem of_spanDigits {digits : List Digit} (read : spanDigits bytes = (digits, rest)) :
    bytes = digits.map writeDigit ++ rest := by
  induction bytes generalizing digits with
  | nil =>
    cases read
    rfl
  | cons b bytes ih =>
    rw [spanDigits] at read
    cases digit : digit? b with
    | none =>
      rw [digit] at read
      cases read
      rfl
    | some d =>
      simp only [digit, Prod.mk.injEq] at read
      obtain ⟨rfl, rfl⟩ := read
      rw [List.map_cons, List.cons_append, ← ih rfl, digit?_eq_some_iff.mp digit]

theorem readDigits?_eq {digits : List Digit} (nonempty : digits ≠ []) (ends : EndsDigits rest) :
    readDigits? (digits.map writeDigit ++ rest) = some (digits, rest) := by
  rw [readDigits?, spanDigits_eq ends]
  cases digits with
  | nil => exact absurd rfl nonempty
  | cons d digits => rfl

theorem of_readDigits? {digits : List Digit} (read : readDigits? bytes = some (digits, rest)) :
    digits ≠ [] ∧ bytes = digits.map writeDigit ++ rest := by
  rw [readDigits?] at read
  split at read
  · cases read
  · next found =>
    have span := Option.some.inj read
    refine ⟨?_, of_spanDigits span⟩
    rintro rfl
    exact found rest span

/-- The byte of a digit is none of the marks inside a number. -/
theorem writeDigit_ne : ∀ d : Digit, writeDigit d ≠ 0x2b ∧ writeDigit d ≠ 0x2d ∧
    writeDigit d ≠ 0x2e ∧ (writeDigit d = 0x30 ↔ d.val = 0) := by
  decide

theorem isSpace_writeDigit : ∀ d : Digit, isSpace (writeDigit d) = false := by
  decide

theorem readWhole?_eq {digits : List Digit} (whole : IsWhole digits) (ends : EndsDigits rest) :
    readWhole? (digits.map writeDigit ++ rest) = some (digits, rest) := by
  obtain ⟨d, rfl, zero⟩ | ⟨d, others, rfl, positive⟩ := whole
  · obtain rfl : d = 0 := Fin.ext zero
    rfl
  · have first : writeDigit d ≠ 0x30 := fun same => positive ((writeDigit_ne d).2.2.2.mp same)
    rw [readWhole?.eq_def]
    split
    · next same => exact absurd (List.cons.inj same).1 first
    · rw [spanDigits_eq ends]

theorem of_readWhole? {digits : List Digit} (read : readWhole? bytes = some (digits, rest)) :
    IsWhole digits ∧ bytes = digits.map writeDigit ++ rest := by
  rw [readWhole?.eq_def] at read
  split at read
  · cases read
    exact ⟨.inl ⟨_, rfl, rfl⟩, rfl⟩
  · next zero =>
    obtain ⟨nonempty, rfl⟩ := of_readDigits? read
    refine ⟨?_, rfl⟩
    cases digits with
    | nil => exact absurd rfl nonempty
    | cons d digits =>
      refine .inr ⟨d, digits, rfl, fun first => zero (digits.map writeDigit ++ rest) ?_⟩
      rw [List.map_cons, List.cons_append, (writeDigit_ne d).2.2.2.mpr first]

theorem readFraction?_eq (digits : List Digit) (ends : EndsDigits rest)
    (point : ∀ b ∈ rest.head?, b ≠ 0x2e) :
    readFraction? (writeFraction digits ++ rest) = some (digits, rest) := by
  cases digits with
  | nil =>
    rw [writeFraction, List.nil_append, readFraction?.eq_def]
    split
    · exact absurd rfl (point _ rfl)
    · rfl
  | cons d digits =>
    rw [writeFraction]
    · exact readDigits?_eq (List.cons_ne_nil d digits) ends
    · exact List.cons_ne_nil d digits

theorem of_readFraction? {digits : List Digit} (read : readFraction? bytes = some (digits, rest)) :
    bytes = writeFraction digits ++ rest := by
  rw [readFraction?.eq_def] at read
  split at read
  · obtain ⟨nonempty, rfl⟩ := of_readDigits? read
    cases digits with
    | nil => exact absurd rfl nonempty
    | cons d digits => rfl
  · cases read
    rfl

/-- The bytes of a sign and of digits are read together. -/
theorem readSigned?_eq {negative : Bool} {sign : List UInt8} {digits : List Digit}
    (spells : SpellsSign negative sign) (nonempty : digits ≠ []) (ends : EndsDigits rest) :
    readSigned? (sign ++ digits.map writeDigit ++ rest) = some ((negative, digits), rest) := by
  have read := readDigits?_eq nonempty ends
  cases spells with
  | none =>
    cases digits with
    | nil => exact absurd rfl nonempty
    | cons d digits =>
      obtain ⟨plus, minus, -⟩ := writeDigit_ne d
      rw [List.nil_append, readSigned?.eq_def]
      split
      · next same => exact absurd (List.cons.inj same).1 plus
      · next same => exact absurd (List.cons.inj same).1 minus
      · rw [read, Option.map_some]
  | plus => exact congrArg (Option.map fun r => ((false, r.1), r.2)) read
  | minus => exact congrArg (Option.map fun r => ((true, r.1), r.2)) read

theorem of_readSigned? {e : Bool × List Digit} (read : readSigned? bytes = some (e, rest)) :
    e.2 ≠ [] ∧ ∃ sign, SpellsSign e.1 sign ∧ bytes = sign ++ e.2.map writeDigit ++ rest := by
  rw [readSigned?.eq_def] at read
  split at read
  all_goals
    simp only [Option.map_eq_some_iff, Prod.mk.injEq] at read
    obtain ⟨⟨digits, rest⟩, read, rfl, rfl⟩ := read
    obtain ⟨nonempty, rfl⟩ := of_readDigits? read
  · exact ⟨nonempty, _, .plus, rfl⟩
  · exact ⟨nonempty, _, .minus, rfl⟩
  · exact ⟨nonempty, _, .none, rfl⟩

theorem SpellsExponent.read {e : Option (Bool × List Digit)} {front : List UInt8}
    (spells : SpellsExponent e front) (ends : EndsNumber rest) :
    readExponent? (front ++ rest) = some (e, rest) := by
  cases spells with
  | absent =>
    rw [List.nil_append, readExponent?.eq_def]
    split
    · exact absurd rfl (ends _ rfl).2.2.1
    · exact absurd rfl (ends _ rfl).2.2.2
    · rfl
  | written letter sign nonempty =>
    have read := readSigned?_eq sign nonempty ends.digits
    obtain rfl | rfl := letter
    all_goals exact congrArg (Option.map fun r => (some r.1, r.2)) read

theorem of_readExponent? {e : Option (Bool × List Digit)}
    (read : readExponent? bytes = some (e, rest)) :
    ∃ front, SpellsExponent e front ∧ bytes = front ++ rest := by
  rw [readExponent?.eq_def] at read
  split at read
  · simp only [Option.map_eq_some_iff, Prod.mk.injEq] at read
    obtain ⟨⟨e, rest⟩, read, rfl, rfl⟩ := read
    obtain ⟨nonempty, sign, spells, rfl⟩ := of_readSigned? read
    exact ⟨_, .written (.inl rfl) spells nonempty, rfl⟩
  · simp only [Option.map_eq_some_iff, Prod.mk.injEq] at read
    obtain ⟨⟨e, rest⟩, read, rfl, rfl⟩ := read
    obtain ⟨nonempty, sign, spells, rfl⟩ := of_readSigned? read
    exact ⟨_, .written (.inr rfl) spells nonempty, rfl⟩
  · cases read
    exact ⟨_, .absent, rfl⟩

/-- What stands behind the digits of a number goes on neither with them nor with a fraction. -/
theorem SpellsExponent.ends {e : Option (Bool × List Digit)} {front : List UInt8}
    (spells : SpellsExponent e front) (ends : EndsNumber rest) :
    ∀ b ∈ (front ++ rest).head?, digit? b = none ∧ b ≠ 0x2e := by
  cases spells with
  | absent => exact fun b first => ⟨(ends b first).1, (ends b first).2.1⟩
  | written letter sign nonempty =>
    rintro b ⟨⟩
    obtain rfl | rfl := letter <;> decide

theorem endsDigits_fraction {digits : List Digit} (ends : EndsDigits rest) :
    EndsDigits (writeFraction digits ++ rest) := by
  cases digits with
  | nil => exact ends
  | cons d digits =>
    rintro b ⟨⟩
    rfl

namespace Numeral

theorem SpellsUnsigned.read {n : Numeral} (spells : n.SpellsUnsigned bytes)
    (ends : EndsNumber rest) : readUnsigned? n.negative (bytes ++ rest) = some (n, rest) := by
  obtain ⟨whole, front, exponent, rfl⟩ := spells
  have stops := exponent.ends ends
  have digits : EndsDigits (front ++ rest) := fun b first => (stops b first).1
  have point : ∀ b ∈ (front ++ rest).head?, b ≠ 0x2e := fun b first => (stops b first).2
  rw [readUnsigned?, List.append_assoc, List.append_assoc,
    readWhole?_eq whole (endsDigits_fraction digits)]
  simp only [Option.bind_eq_bind, Option.bind_some, readFraction?_eq _ digits point,
    exponent.read ends]
  rfl

theorem SpellsUnsigned.starts {n : Numeral} (spells : n.SpellsUnsigned bytes) :
    ∃ d others, bytes = writeDigit d :: others := by
  obtain ⟨whole, front, -, rfl⟩ := spells
  obtain ⟨d, same, -⟩ | ⟨d, others, same, -⟩ := whole <;> rw [same] <;> exact ⟨_, _, rfl⟩

theorem of_readUnsigned? {n : Numeral} {negative : Bool}
    (read : readUnsigned? negative bytes = some (n, rest)) :
    n.negative = negative ∧ ∃ front, n.SpellsUnsigned front ∧ bytes = front ++ rest := by
  simp only [readUnsigned?, Option.bind_eq_bind, Option.bind_eq_some_iff, Option.pure_def,
    Option.some.injEq, Prod.mk.injEq] at read
  obtain ⟨⟨whole, _⟩, first, ⟨fraction, _⟩, second, ⟨exponent, _⟩, third, rfl, rfl⟩ := read
  obtain ⟨form, rfl⟩ := of_readWhole? first
  obtain rfl := of_readFraction? second
  obtain ⟨front, spells, rfl⟩ := of_readExponent? third
  refine ⟨rfl, _, ⟨form, front, spells, rfl⟩, ?_⟩
  simp only [List.append_assoc]

/-- What is written for a number spells it, if its parts have the digits they need. -/
theorem spells_write {n : Numeral} (whole : IsWhole n.whole)
    (exponent : ∀ e ∈ n.exponent, e.2 ≠ []) : n.Spells n.write := by
  refine ⟨n.whole.map writeDigit ++ (writeFraction n.fraction ++ writeExponent n.exponent),
    ⟨whole, _, ?_, rfl⟩, ?_⟩
  · cases given : n.exponent with
    | none => exact .absent
    | some e =>
      obtain ⟨negative, digits⟩ := e
      have nonempty : digits ≠ [] := exponent _ given
      cases negative with
      | false => exact .written (.inl rfl) .plus nonempty
      | true => exact .written (.inl rfl) .minus nonempty
  · rw [write, List.append_assoc, List.append_assoc]
    cases n.negative <;> rfl

end Numeral

/-! ## 2. One token -/

namespace Token

/-- The bytes of a token. Only numbers and strings have more than one form. -/
def Spells : Token → List UInt8 → Prop
  | .number n, bytes => n.Spells bytes
  | .string s, bytes => ∃ body, Text.Spells s body ∧ bytes = 0x22 :: (body ++ [0x22])
  | token, bytes => bytes = token.write

/-- Whether a token is a number. -/
def isNumber : Token → Bool
  | .number _ => true
  | _ => false

/-- Neither a mark nor a word begins with a digit. -/
theorem read?_digit (d : Fin 10) (rest : List UInt8) :
    Token.read? (writeDigit d :: rest) =
      (Numeral.readUnsigned? false (writeDigit d :: rest)).map fun r => (.number r.1, r.2) := by
  fin_cases d <;> rfl

theorem Spells.read {t : Token} (spells : t.Spells bytes) (ends : t.isNumber → EndsNumber rest) :
    Token.read? (bytes ++ rest) = some (t, rest) := by
  cases t with
  | number n =>
    obtain ⟨unsigned, spells, rfl⟩ := spells
    have read := congrArg (Option.map fun r => (Token.number r.1, r.2)) (spells.read (ends rfl))
    cases negative : n.negative with
    | true =>
      rw [negative] at read
      exact read
    | false =>
      obtain ⟨d, others, rfl⟩ := spells.starts
      rw [negative] at read
      exact (read?_digit d _).trans read
  | string s =>
    obtain ⟨body, spells, rfl⟩ := spells
    have read := congrArg (Option.map fun r => (Token.string r.1, r.2)) (spells.read rest)
    rw [List.cons_append, List.append_assoc]
    exact read
  | bool b => cases b <;> cases spells <;> rfl
  | _ => cases spells; rfl

theorem spells_of_read? {t : Token} (read : Token.read? bytes = some (t, rest)) :
    ∃ front, t.Spells front ∧ bytes = front ++ rest := by
  rw [Token.read?.eq_def] at read
  split at read
  case h_7 =>
    simp only [Option.map_eq_some_iff, Prod.mk.injEq] at read
    obtain ⟨⟨s, rest⟩, read, rfl, rfl⟩ := read
    obtain ⟨body, spells, rfl⟩ := Text.read?_eq_some_iff.mp read
    refine ⟨_, ⟨body, spells, rfl⟩, ?_⟩
    simp
  case h_11 =>
    simp only [Option.map_eq_some_iff, Prod.mk.injEq] at read
    obtain ⟨⟨n, rest⟩, read, rfl, rfl⟩ := read
    obtain ⟨negative, front, spells, rfl⟩ := Numeral.of_readUnsigned? read
    refine ⟨0x2d :: front, ⟨front, spells, ?_⟩, rfl⟩
    rw [negative, if_pos rfl]
  case h_12 =>
    simp only [Option.map_eq_some_iff, Prod.mk.injEq] at read
    obtain ⟨⟨n, rest⟩, read, rfl, rfl⟩ := read
    obtain ⟨negative, front, spells, rfl⟩ := Numeral.of_readUnsigned? read
    refine ⟨front, ⟨front, spells, ?_⟩, rfl⟩
    rw [negative]
    rfl
  all_goals
    cases read
    exact ⟨_, rfl, rfl⟩

/-- A token begins with a byte that is not a space, and only a number goes on with a number. -/
theorem Spells.starts {t : Token} (spells : t.Spells bytes) :
    ∃ b others, bytes = b :: others ∧ isSpace b = false ∧
      (t.isNumber = false → digit? b = none ∧ b ≠ 0x2e ∧ b ≠ 0x65 ∧ b ≠ 0x45) := by
  cases t with
  | number n =>
    obtain ⟨unsigned, spells, rfl⟩ := spells
    obtain ⟨d, others, rfl⟩ := spells.starts
    cases n.negative with
    | true => exact ⟨_, _, rfl, rfl, nofun⟩
    | false => exact ⟨_, _, rfl, isSpace_writeDigit d, nofun⟩
  | string s =>
    obtain ⟨body, -, rfl⟩ := spells
    exact ⟨_, _, rfl, rfl, fun _ => by decide⟩
  | bool b => cases b <;> cases spells <;> exact ⟨_, _, rfl, by decide⟩
  | _ => cases spells; exact ⟨_, _, rfl, by decide⟩

end Token

/-! ## 3. The tokens of a text -/

/-- A text of tokens with any spaces before, between and after them. -/
inductive Spread : List Token → List UInt8 → Prop
  | nil : Spread [] []
  | space {tokens : List Token} {b : UInt8} {bytes : List UInt8} : isSpace b →
      Spread tokens bytes → Spread tokens (b :: bytes)
  | token {t : Token} {tokens : List Token} {front bytes : List UInt8} : t.Spells front →
      Spread tokens bytes → Spread (t :: tokens) (front ++ bytes)

/-- No two numbers stand in a row. -/
def Apart : List Token → Prop
  | [] => True
  | t :: rest => (t.isNumber → ∀ next ∈ rest.head?, next.isNumber = false) ∧ Apart rest

variable {tokens : List Token}

/-- A text whose first token is not a number does not go on with a number before it. -/
theorem Spread.endsNumber (spread : Spread tokens bytes)
    (other : ∀ t ∈ tokens.head?, t.isNumber = false) : EndsNumber bytes := by
  cases spread with
  | nil => nofun
  | space space _ =>
    rintro b ⟨⟩
    simp only [isSpace, Bool.or_eq_true, decide_eq_true_eq] at space
    obtain ((rfl | rfl) | rfl) | rfl := space <;> decide
  | token spells _ =>
    obtain ⟨b, others, rfl, -, ends⟩ := spells.starts
    rintro _ ⟨⟩
    exact ends (other _ rfl)

theorem Spread.readAll?_eq (spread : Spread tokens bytes) (apart : Apart tokens) {fuel : Nat}
    (enough : bytes.length ≤ fuel) : Token.readAll? fuel bytes = some tokens := by
  induction spread generalizing fuel with
  | nil => cases fuel <;> rfl
  | space space _ ih =>
    obtain _ | fuel := fuel
    · cases enough
    · rw [Token.readAll?, if_pos space]
      exact ih apart (Nat.le_of_succ_le_succ enough)
  | @token t tokens front bytes spells later ih =>
    obtain ⟨b, others, rfl, visible, -⟩ := spells.starts
    obtain _ | fuel := fuel
    · cases enough
    · have ends : t.isNumber → EndsNumber bytes := fun number =>
        later.endsNumber (apart.1 number)
      have read := spells.read ends
      have fits : bytes.length ≤ fuel := by
        rw [List.cons_append, List.length_cons, List.length_append] at enough
        omega
      have left := ih apart.2 fits
      rw [List.cons_append] at read ⊢
      rw [Token.readAll?, if_neg (by rw [visible]; nofun), read]
      simp only [Option.bind_eq_bind, Option.bind_some, left]
      rfl

theorem spread_of_readAll? {fuel : Nat} (read : Token.readAll? fuel bytes = some tokens) :
    Spread tokens bytes := by
  induction fuel generalizing bytes tokens with
  | zero =>
    cases bytes with
    | nil => cases read; exact .nil
    | cons b bytes => cases read
  | succ fuel ih =>
    cases bytes with
    | nil => cases read; exact .nil
    | cons b bytes =>
      rw [Token.readAll?] at read
      split at read
      · next space => exact .space space (ih read)
      · simp only [Option.bind_eq_bind, Option.bind_eq_some_iff, Option.pure_def,
          Option.some.injEq] at read
        obtain ⟨⟨t, rest⟩, first, tokens, later, rfl⟩ := read
        obtain ⟨front, spells, whole⟩ := Token.spells_of_read? first
        rw [whole]
        exact .token spells (ih later)

/-- The tokens that are read spell the text. -/
theorem spread_of_tokens? (read : tokens? bytes = some tokens) : Spread tokens bytes :=
  spread_of_readAll? read

/-- Tokens are read from every text that they spell, unless two numbers in a row make one. -/
theorem Spread.tokens?_eq (spread : Spread tokens bytes) (apart : Apart tokens) :
    tokens? bytes = some tokens :=
  spread.readAll?_eq apart (Nat.le_refl _)

/-- What is written for tokens is a text of them. -/
theorem spread_write (spells : ∀ t ∈ tokens, t.Spells t.write) :
    Spread tokens (tokens.flatMap Token.write) := by
  induction tokens with
  | nil => exact .nil
  | cons t tokens ih =>
    obtain ⟨own, later⟩ := List.forall_mem_cons.mp spells
    exact .token own (ih later)

end TaskQueue.Json
