import CmdletForge.Proofs.Json.Lexeme

/-!
# Strings and numbers that are passed over

What passes over a string does not look at surrogates, and what passes over a number does not look at its size:
it goes on where the reader may stop. Where the reader does not stop, both leave the same behind.
-/

namespace CmdletForge.Json

variable {cs rest : List Char}

/-! ## Strings -/

theorem exists_of_onto {c : Char} {result : Except ReadError (List Char × List Char)} {text : List Char}
    (read : onto c result = .ok (text, rest)) : ∃ more, result = .ok (more, rest) := by
  cases result with
  | error e => contradiction
  | ok pair =>
    obtain ⟨more, left⟩ := pair
    cases read
    exact ⟨more, rfl⟩

theorem skipText_of_readText {text : List Char} (read : readText cs = .ok (text, rest)) :
    skipText cs = .ok ((), rest) := by
  fun_induction readText cs generalizing text
  -- The closing quote.
  case case2 =>
    cases read
    rfl
  -- A character by its number, then one by two numbers, a letter behind a backslash, and one that is plain.
  case case5 known _ ih =>
    obtain ⟨_, read⟩ := exists_of_onto read
    rw [skipText, if_pos (by rw [known]; rfl)]
    exact ih read
  case case8 known _ _ _ _ _ _ _ _ known' _ ih =>
    obtain ⟨_, read⟩ := exists_of_onto read
    rw [skipText, if_pos (by rw [known]; rfl), skipText, if_pos (by rw [known']; rfl)]
    exact ih read
  case case15 known ih =>
    obtain ⟨_, read⟩ := exists_of_onto read
    rw [skipText, if_pos (by rw [known]; rfl)]
    · exact ih read
    all_goals assumption
  case case18 solid ih =>
    obtain ⟨_, read⟩ := exists_of_onto read
    rw [skipText, if_neg solid]
    · exact ih read
    all_goals assumption
  all_goals contradiction

theorem length_lt_of_skipText (skipped : skipText cs = .ok ((), rest)) : rest.length < cs.length := by
  fun_induction skipText cs
  case case2 =>
    cases skipped
    exact Nat.lt_succ_self _
  case case4 ih | case7 ih | case10 ih =>
    have shorter := ih skipped
    simp only [List.length_cons]
    omega
  all_goals contradiction

/-! ## Numbers -/

/-- What is left of digits that were taken in front is left of them all. -/
theorem takeDigits_spec (value count : Nat) (cs : List Char) {value' count' : Nat}
    (taken : takeDigits value count cs = (value', count', rest)) :
    rest.dropWhile Char.isDigit = cs.dropWhile Char.isDigit ∧
      (count' = count ∧ rest = cs ∨ digitAhead cs = true) := by
  fun_induction takeDigits value count cs
  case case1 | case3 | case4 =>
    cases taken
    exact ⟨rfl, .inl ⟨rfl, rfl⟩⟩
  case case2 c cs d known _ ih =>
    have digit : c.isDigit = true := by
      by_contra other
      rw [digit?, if_neg other] at known
      contradiction
    refine ⟨(ih taken).1.trans ?_, .inr (by simpa [digitAhead] using digit)⟩
    rw [List.dropWhile_cons_of_pos digit]

theorem rest_of_doubleOf {negative : Bool} {significand : Nat} {exponent : Int} {n : Number}
    (read : (do .ok (← doubleOf negative significand exponent, cs)) = Except.ok (n, rest)) : cs = rest := by
  cases made : doubleOf negative significand exponent with
  | error e =>
    rw [made] at read
    contradiction
  | ok number =>
    rw [made] at read
    cases read
    rfl

/-- What passes over an exponent goes past its sign as the reader does. -/
theorem skipExponent_eq {lowered : Bool} {unsigned : List Char}
    (sign : (match cs with | '+' :: rest => (false, rest) | '-' :: rest => (true, rest) | _ => (false, cs)) =
      (lowered, unsigned)) :
    skipExponent cs =
      if digitAhead unsigned then .ok ((), unsigned.dropWhile Char.isDigit) else .error .malformed := by
  unfold skipExponent
  split at sign
  next => cases sign; rfl
  next => cases sign; rfl
  next =>
    cases sign
    simp only

theorem skipExponent_of_readExponent {negative : Bool} {significand : Nat} {exponent : Int} {n : Number}
    (read : readExponent negative significand exponent cs = .ok (n, rest)) :
    skipExponent cs = .ok ((), rest) := by
  unfold readExponent at read
  split at read
  next _ lowered unsigned sign =>
    rw [skipExponent_eq sign]
    clear sign
    cases unsigned with
    | nil => contradiction
    | cons c more =>
      dsimp only at read
      split at read
      next digit =>
        rw [if_pos (by simpa [digitAhead] using digit)]
        congr
        split at read
        next => exact rest_of_doubleOf read
        next =>
          split at read
          next => contradiction
          next =>
            cases read
            rfl
      next => contradiction

/-- What may follow the digits of a fraction is an exponent. -/
theorem skipScale_of_readScale {negative : Bool} {significand : Nat} {exponent : Int} {n : Number}
    (read : readScale negative significand exponent cs = .ok (n, rest)) :
    (match cs with
      | 'e' :: rest => skipExponent rest
      | 'E' :: rest => skipExponent rest
      | rest => .ok ((), rest)) = .ok ((), rest) := by
  unfold readScale at read
  split at read
  next => exact skipExponent_of_readExponent read
  next => exact skipExponent_of_readExponent read
  next =>
    obtain rfl := rest_of_doubleOf read
    simp only

theorem skipFraction_of_readFraction {negative : Bool} {significand : Nat} {exponent : Int} {n : Number}
    (read : readFraction negative significand exponent cs = .ok (n, rest)) : digitAhead cs = true ∧
      (match cs.dropWhile Char.isDigit with
        | 'e' :: rest => skipExponent rest
        | 'E' :: rest => skipExponent rest
        | rest => .ok ((), rest)) = .ok ((), rest) := by
  unfold readFraction at read
  split at read
  next _ _ count left taken =>
    obtain ⟨same, digits⟩ := takeDigits_spec _ _ _ taken
    split at read
    next beyond =>
      rw [same] at read
      refine ⟨digits.elim (fun none => none.2 ▸ beyond) id, skipScale_of_readScale read⟩
    next stop =>
      split at read
      next => contradiction
      next some =>
        have stays : left.dropWhile Char.isDigit = left := by
          cases left with
          | nil => rfl
          | cons c left => exact List.dropWhile_cons_of_neg (by simpa [digitAhead] using stop)
        rw [← stays, same] at read
        refine ⟨digits.elim (fun none => absurd none.1 some) id, skipScale_of_readScale read⟩

/-- What may follow the whole part is a fraction or an exponent. -/
theorem skipNumber_after_of_readNumber {negative : Bool} {significand beyond : Nat} {n : Number}
    (read : readNumber.after negative significand beyond cs = .ok (n, rest)) :
    skipNumber.after cs = .ok ((), rest) := by
  unfold readNumber.after at read
  unfold skipNumber.after
  split at read
  next =>
    obtain ⟨digits, scale⟩ := skipFraction_of_readFraction read
    rw [if_pos digits]
    exact scale
  next => exact skipExponent_of_readExponent read
  next => exact skipExponent_of_readExponent read
  next =>
    have done : cs = rest := by
      split at read
      next =>
        split at read
        next => cases read; rfl
        next => split at read <;> cases read <;> rfl
      next => exact rest_of_doubleOf read
    rw [done]

theorem skipNumber_of_readNumber {negative : Bool} {n : Number} (read : readNumber negative cs = .ok (n, rest)) :
    skipNumber cs = .ok ((), rest) := by
  unfold readNumber at read
  unfold skipNumber
  split at read
  next => contradiction
  next more =>
    split at read
    next => contradiction
    next single =>
      exact (if_neg single).trans (skipNumber_after_of_readNumber read)
  next c more other =>
    split at read
    next digit =>
      split at read
      next _ _ _ left taken =>
        obtain ⟨same, -⟩ := takeDigits_spec _ _ _ taken
        rw [same] at read
        split
        next same => exact (other (List.cons.inj same).1).elim
        next =>
          rw [if_pos (by simpa [digitAhead] using digit)]
          exact skipNumber_after_of_readNumber read
    next => contradiction

theorem length_lt_of_digitAhead (digits : digitAhead cs = true) :
    (cs.dropWhile Char.isDigit).length < cs.length := by
  cases cs with
  | nil => contradiction
  | cons c cs =>
    rw [List.dropWhile_cons_of_pos (by simpa [digitAhead] using digits)]
    exact Nat.lt_succ_of_le (List.dropWhile_sublist _).length_le

theorem length_le_of_skipExponent (skipped : skipExponent cs = .ok ((), rest)) : rest.length ≤ cs.length := by
  have unsigned (cs : List Char) (skipped : (if digitAhead cs then .ok ((), cs.dropWhile Char.isDigit)
      else .error .malformed : Except ReadError (Unit × List Char)) = .ok ((), rest)) :
      rest.length ≤ cs.length := by
    split at skipped
    next digits =>
      cases skipped
      exact (length_lt_of_digitAhead digits).le
    next => contradiction
  unfold skipExponent at skipped
  dsimp only at skipped
  split at skipped
  next => exact Nat.le_succ_of_le (unsigned _ skipped)
  next => exact Nat.le_succ_of_le (unsigned _ skipped)
  next => exact unsigned _ skipped

theorem length_le_of_skipNumber_after (skipped : skipNumber.after cs = .ok ((), rest)) :
    rest.length ≤ cs.length := by
  unfold skipNumber.after at skipped
  split at skipped
  next more =>
    split at skipped
    next digits =>
      have shorter := (length_lt_of_digitAhead digits).le
      have within : rest.length ≤ (more.dropWhile Char.isDigit).length := by
        split at skipped
        next same => rw [same]; exact Nat.le_succ_of_le (length_le_of_skipExponent skipped)
        next same => rw [same]; exact Nat.le_succ_of_le (length_le_of_skipExponent skipped)
        next => cases skipped; exact Nat.le_refl _
      exact Nat.le_succ_of_le (Nat.le_trans within shorter)
    next => contradiction
  next => exact Nat.le_succ_of_le (length_le_of_skipExponent skipped)
  next => exact Nat.le_succ_of_le (length_le_of_skipExponent skipped)
  next => cases skipped; exact Nat.le_refl _

theorem length_lt_of_skipNumber (skipped : skipNumber cs = .ok ((), rest)) : rest.length < cs.length := by
  unfold skipNumber at skipped
  split at skipped
  next =>
    split at skipped
    next => contradiction
    next => exact Nat.lt_succ_of_le (length_le_of_skipNumber_after skipped)
  next =>
    split at skipped
    next digits => exact Nat.lt_of_le_of_lt (length_le_of_skipNumber_after skipped) (length_lt_of_digitAhead digits)
    next => contradiction

end CmdletForge.Json
