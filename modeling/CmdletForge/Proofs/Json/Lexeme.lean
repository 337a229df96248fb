import CmdletForge.Json.Lexeme
import CmdletForge.Proofs.Json.Layout
import Mathlib.Tactic.IntervalCases

/-!
# Printed strings and numbers read back

From the text of a string or of an integer that fits 64 bits the reader takes the string or the integer,
and leaves what follows.
-/

namespace CmdletForge

/-- The number is an integer that fits 64 bits. -/
def Number.Fits : Number → Prop
  | .int n => -(2 ^ 63) ≤ n ∧ n < 2 ^ 64
  | .float _ => False

namespace Json

/-! ## Readers in sequence -/

section Sequence

variable {α β : Type} {cs rest : List Char}

theorem bind_ok {reader : Reader α} {next : α → Reader β} {x : α} (read : reader cs = .ok (x, rest)) :
    (reader >>= next) cs = next x rest := by
  change (reader cs >>= fun result => next result.1 result.2) = _
  rw [read]
  rfl

theorem bind_error {reader : Reader α} {next : α → Reader β} {e : ReadError}
    (failed : reader cs = .error e) : (reader >>= next) cs = .error e := by
  change (reader cs >>= fun result => next result.1 result.2) = _
  rw [failed]
  rfl

/-- A sequence of readers that ends has gone through both. -/
theorem exists_of_bind_ok {reader : Reader α} {next : α → Reader β} {y : β}
    (read : (reader >>= next) cs = .ok (y, rest)) :
    ∃ x middle, reader cs = .ok (x, middle) ∧ next x middle = .ok (y, rest) := by
  cases first : reader cs with
  | error e =>
    rw [bind_error first] at read
    contradiction
  | ok result => exact ⟨_, _, rfl, (bind_ok first).symm.trans read⟩

theorem peek_ok {c : Char} (front : cs.dropWhile isSpace = c :: rest) :
    peek cs = .ok (c, c :: rest) := by
  have first : peek? cs = .ok (some c, c :: rest) := by
    rw [peek?, front]
    rfl
  exact bind_ok first

/-- What follows a value: nothing, a comma or a line break. -/
inductive Ended : List Char → Prop where
  | done : Ended []
  | comma (rest : List Char) : Ended (',' :: rest)
  | line (rest : List Char) : Ended ('\n' :: rest)

/-- From the text, whatever follows, the reader takes the value. -/
def Takes (reader : Reader α) (text : List Char) (x : α) : Prop :=
  ∀ rest, Ended rest → reader (text ++ rest) = .ok (x, rest)

end Sequence

/-! ## Numbers -/

theorem head_toDigits {n : Nat} (pos : 0 < n) :
    ∃ c more, Nat.toDigits 10 n = c :: more ∧ c ≠ '0' ∧ c.isDigit = true := by
  have differ : ∀ n < 10, 0 < n → n.digitChar ≠ '0' ∧ n.digitChar.isDigit = true := by decide
  induction n using Nat.strongRecOn with
  | ind n ih =>
    by_cases small : n < 10
    · exact ⟨_, [], Nat.toDigits_of_lt_base small, differ n small pos⟩
    · obtain ⟨c, more, digits, first⟩ := ih (n / 10) (by omega) (by omega)
      refine ⟨c, more ++ [(n % 10).digitChar], ?_, first⟩
      rw [Nat.toDigits_of_base_le (by decide) (by omega), digits, List.cons_append]

theorem takeDigits_eq {digits rest : List Char} (value count : Nat)
    (all : ∀ c ∈ digits, c.isDigit = true) (stop : digitAhead rest = false)
    (fits : Nat.ofDigitChars 10 digits value < Nat.pow 2 64) :
    takeDigits value count (digits ++ rest) =
      (Nat.ofDigitChars 10 digits value, count + digits.length, rest) := by
  induction digits generalizing value count with
  | nil =>
    cases rest with
    | nil => rfl
    | cons c rest =>
      have none : digit? c = none := if_neg (by simpa [digitAhead] using stop)
      simp [takeDigits, none]
  | cons c digits ih =>
    obtain ⟨first, others⟩ := List.forall_mem_cons.1 all
    have digit : digit? c = some (c.toNat - '0'.toNat) := if_pos first
    rw [Nat.ofDigitChars_cons, Nat.mul_comm] at fits ⊢
    have grows : value * 10 + (c.toNat - '0'.toNat) ≤
        Nat.ofDigitChars 10 digits (value * 10 + (c.toNat - '0'.toNat)) := by
      rw [Nat.ofDigitChars_eq_ofDigitChars_zero]
      exact Nat.le_add_right_of_le (Nat.le_mul_of_pos_left _ (Nat.pow_pos (by decide)))
    rw [List.cons_append, takeDigits]
    simp only [digit]
    rw [if_pos (Nat.lt_of_le_of_lt grows fits), ih _ _ others fits, List.length_cons,
      Nat.add_right_comm, Nat.add_assoc]

theorem Ended.digitAhead {rest : List Char} (ended : Ended rest) : digitAhead rest = false := by
  cases ended <;> rfl

theorem readNumber_after {negative : Bool} {significand : Nat} {rest : List Char} (ended : Ended rest) :
    readNumber.after negative significand 0 rest =
      if ¬ negative then .ok (.int significand, rest)
      else if significand = 0 ∨ Nat.pow 2 63 < significand then
        .ok (.float (-significand.toUInt64.toFloat), rest)
      else .ok (.int (-significand), rest) := by
  cases ended <;> rfl

/-- The digits of a number are read as the number. -/
theorem readNumber_digits {negative : Bool} {n : Nat} {rest : List Char} (fits : n < Nat.pow 2 64)
    (ended : Ended rest) : readNumber negative (Nat.toDigits 10 n ++ rest) =
      readNumber.after negative n 0 rest := by
  have digits : ∀ c ∈ Nat.toDigits 10 n, c.isDigit = true :=
    fun c mem => Nat.isDigit_of_mem_toDigits (by decide) (by decide) mem
  have taken := takeDigits_eq 0 0 digits ended.digitAhead (by rwa [Nat.ofDigitChars_ten_toDigits])
  rw [Nat.ofDigitChars_ten_toDigits] at taken
  by_cases zero : n = 0
  · rw [zero, Nat.toDigits_zero, List.singleton_append, readNumber, ended.digitAhead]
    rfl
  · obtain ⟨c, more, whole, notZero, digit⟩ := head_toDigits (Nat.pos_of_ne_zero zero)
    have beyond : rest.takeWhile Char.isDigit = [] ∧ rest.dropWhile Char.isDigit = rest := by
      cases ended <;> exact ⟨rfl, rfl⟩
    rw [whole, List.cons_append] at taken ⊢
    unfold readNumber
    split
    next => contradiction
    next same => exact absurd (List.cons.inj same).1 notZero
    next d more' _ same =>
      obtain ⟨rfl, rfl⟩ := List.cons.inj same
      rw [if_pos digit, taken]
      simp only [beyond.1, beyond.2, List.length_nil]

theorem ne_of_isDigit {c d : Char} (digit : c.isDigit = true)
    (other : d ∈ [' ', '\n', '\t', '\r', '[', '{', ']', ',']) : c ≠ d := by
  rintro rfl
  have all : ∀ d ∈ [' ', '\n', '\t', '\r', '[', '{', ']', ','], d.isDigit = false := by decide
  rw [all c other] at digit
  contradiction

theorem isSpace_of_isDigit {c : Char} (digit : c.isDigit = true) : isSpace c = false := by
  have differ : ∀ d ∈ [' ', '\n', '\t', '\r', '[', '{', ']', ','], c ≠ d :=
    fun d => ne_of_isDigit digit
  simp [isSpace, differ]

/-- The text of an integer that fits: digits, or a minus and digits. -/
theorem numberText_cases {n : Number} (fits : n.Fits) :
    (∃ m : Nat, m < Nat.pow 2 64 ∧ n = .int m ∧ (numberText n).toList = Nat.toDigits 10 m) ∨
    (∃ m : Nat, 0 < m ∧ m ≤ Nat.pow 2 63 ∧ n = .int (-m) ∧
      (numberText n).toList = '-' :: Nat.toDigits 10 m) := by
  cases n with
  | float x => exact fits.elim
  | int n =>
    obtain ⟨low, high⟩ := fits
    rw [numberText, Int.toString_eq_repr, Int.repr_eq_if]
    rcases le_or_gt 0 n with sign | sign
    · obtain ⟨m, rfl⟩ := Int.eq_ofNat_of_zero_le sign
      refine .inl ⟨m, ?_, rfl, ?_⟩
      · change m < 2 ^ 64
        omega
      · rw [if_pos sign, Int.toNat_natCast, Nat.repr_eq_ofList_toDigits, String.toList_ofList]
    · obtain ⟨m, same⟩ := Int.eq_ofNat_of_zero_le (Int.neg_nonneg_of_nonpos sign.le)
      refine .inr ⟨m, by omega, ?_, by rw [← same, Int.neg_neg], ?_⟩
      · change m ≤ 2 ^ 63
        omega
      · rw [if_neg (by omega), same, Int.toNat_natCast, Nat.repr_eq_ofList_toDigits,
          String.toList_append]
        exact congrArg (['-'] ++ ·) String.toList_ofList

theorem exists_digit (m : Nat) : ∃ c more, Nat.toDigits 10 m = c :: more ∧ c.isDigit = true := by
  obtain ⟨c, more, digits⟩ := List.exists_cons_of_ne_nil (Nat.toDigits_ne_nil (n := m) (b := 10))
  refine ⟨c, more, digits, Nat.isDigit_of_mem_toDigits (by decide) (by decide) (n := m) (b := 10) ?_⟩
  rw [digits]
  exact List.mem_cons_self

/-! ## Strings -/

theorem readText_plain {c : Char} (plain : Plain c) (rest : List Char) :
    readText (c :: rest) = onto c (readText rest) := by
  rw [readText, if_neg (Nat.not_lt.2 plain.2.2)]
  all_goals simp [plain.1, plain.2.1]

theorem readText_unicode {a b c d : Char} {n : Nat} (rest : List Char)
    (value : unit16? a b c d = some n) (low : n < 0xD800) :
    readText ('\\' :: 'u' :: a :: b :: c :: d :: rest) = onto (Char.ofNat n) (readText rest) := by
  rw [readText, value]
  exact if_pos (.inl low)

theorem readText_special {c : Char} (special : ¬ Plain c) (rest : List Char) :
    readText (escapeChar c ++ rest) = onto c (readText rest) := by
  refine of_special (P := fun c => readText (escapeChar c ++ rest) = onto c (readText rest))
    rfl rfl (fun n low => ?_) special
  -- Five of the control characters have a short escape, the others are written by their number.
  interval_cases n <;> first | exact readText_unicode rest rfl (by decide) | rfl

/-- The characters of an escaped text are read one by one, and then what follows. -/
theorem readText_escape_append (text rest : List Char) :
    readText (escape text ++ rest) = text.foldr onto (readText rest) := by
  induction text with
  | nil => rfl
  | cons c text ih =>
    rw [escape_cons, List.append_assoc, List.foldr_cons, ← ih]
    by_cases plain : Plain c
    · rw [escapeChar_of_plain plain, List.singleton_append, readText_plain plain]
    · exact readText_special plain _

theorem readText_escape (text rest : List Char) :
    readText (escape text ++ '"' :: rest) = .ok (text, rest) := by
  rw [readText_escape_append]
  induction text with
  | nil => rfl
  | cons c text ih =>
    rw [List.foldr_cons, ih]
    rfl

end Json
end CmdletForge
