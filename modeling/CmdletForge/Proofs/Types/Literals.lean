import CmdletForge.Types.Resolver

/-!
# Quoted texts

The literal of a text, as whoever reads the generated code takes it: the literal ends at the first quote that no
backslash escapes, and then the escapes between the quotes are undone from left to right. `Spells` says what may be
written there for a text. A quote, a backslash, a line break or a tab can only be written as one of five escapes, so
the literal of a text ends where it should, whatever the text is and whatever comes behind it, and it says the text.
-/

namespace CmdletForge.Literal

/-! ## Escapes -/

/-- What an escape stands for, by the character behind the backslash. -/
def meaning? : Char → Option Char
  | '"' => some '"'
  | '\\' => some '\\'
  | 'n' => some '\n'
  | 'r' => some '\r'
  | 't' => some '\t'
  | _ => none

/-- A character that stands for itself between quotes. -/
def Plain (c : Char) : Prop := c ∉ ['"', '\\', '\n', '\r', '\t']

instance : DecidablePred Plain := fun _ => inferInstanceAs (Decidable (¬ _))

/-- Undoes the escapes from left to right. The first character may be escaped. There is no result if a character
stands alone that cannot. -/
def unescape? (escaped : Bool) : List Char → Option (List Char)
  | [] => if escaped then none else some []
  | c :: rest =>
    if escaped then (meaning? c).bind fun own => (unescape? false rest).map (own :: ·)
    else if c = '\\' then unescape? true rest
    else if Plain c then (unescape? false rest).map (c :: ·)
    else none

/-- Whether a character escapes the next one: it is a backslash, and not escaped itself. -/
def escaping (escaped : Bool) (c : Char) : Bool := !escaped && decide (c = '\\')

/-- Whether what is behind a text is escaped by it. -/
def escapesNext (front : List Char) : Bool := front.foldl escaping false

/-- The text up to the first quote that is not escaped, and what is behind the quote. What is before the text may
escape its first character. -/
def untilQuote? (escaped : Bool) : List Char → Option (List Char × List Char)
  | [] => none
  | c :: rest =>
    if c = '"' ∧ escaped = false then some ([], rest)
    else (untilQuote? (escaping escaped c) rest).map fun (body, left) => (c :: body, left)

/-- What may be written between quotes for a text. -/
inductive Spells : (body text : List Char) → Prop
  | nil : Spells [] []
  | plain {c : Char} {body text : List Char} (plain : Plain c) (rest : Spells body text) :
    Spells (c :: body) (c :: text)
  | escaped {mark c : Char} {body text : List Char} (means : meaning? mark = some c) (rest : Spells body text) :
    Spells ('\\' :: mark :: body) (c :: text)

/-- A text between quotes that does not end early: no line break or tab, no quote that is not escaped, and no
backslash but in one of the escapes. -/
structure Enclosed (body : List Char) : Prop where
  unbroken : ∀ c ∈ body, c ∉ ['\n', '\r', '\t']
  quotes : ∀ front back, body = front ++ '"' :: back → escapesNext front = true
  backslashes : ∀ front back, body = front ++ '\\' :: back → escapesNext front = false →
    ∃ mark ∈ back.head?, ∃ c, meaning? mark = some c

section Escapes

variable {c mark : Char} {body text front back : List Char}

/-- A character is escaped if it cannot stand for itself. -/
theorem escape_cases (c : Char) :
    Plain c ∧ escape c = [c] ∨ ∃ mark, meaning? mark = some c ∧ escape c = ['\\', mark] := by
  unfold escape
  split
  · exact .inr ⟨'"', rfl, rfl⟩
  · exact .inr ⟨'\\', rfl, rfl⟩
  · exact .inr ⟨'n', rfl, rfl⟩
  · exact .inr ⟨'r', rfl, rfl⟩
  · exact .inr ⟨'t', rfl, rfl⟩
  · refine .inl ⟨?_, rfl⟩
    simp_all [Plain]

theorem spells_escape (text : List Char) : Spells (text.flatMap escape) text := by
  induction text with
  | nil => exact .nil
  | cons c rest ih =>
    rw [List.flatMap_cons]
    rcases escape_cases c with ⟨plain, own⟩ | ⟨mark, means, own⟩
    · rw [own]
      exact .plain plain ih
    · rw [own]
      exact .escaped means ih

theorem Plain.ne_backslash (plain : Plain c) : c ≠ '\\' := by
  rintro rfl
  simp [Plain] at plain

theorem Plain.ne_quote (plain : Plain c) : c ≠ '"' := by
  rintro rfl
  simp [Plain] at plain

theorem Plain.unbroken (plain : Plain c) : c ∉ ['\n', '\r', '\t'] := by
  intro mem
  exact plain (List.mem_cons_of_mem _ (List.mem_cons_of_mem _ mem))

/-- The marks of escapes are written as they are. -/
theorem unbroken_of_meaning? (means : meaning? mark = some c) : mark ∉ ['\n', '\r', '\t'] := by
  intro mem
  have none : meaning? mark = none := by
    rcases (by simpa using mem : mark = '\n' ∨ mark = '\r' ∨ mark = '\t') with rfl | rfl | rfl <;> rfl
  rw [none] at means
  contradiction

theorem escaping_of_ne {escaped : Bool} (other : c ≠ '\\') : escaping escaped c = false := by
  simp [escaping, other]

theorem escapesNext_cons_of_ne (other : c ≠ '\\') : escapesNext (c :: front) = escapesNext front := by
  rw [escapesNext, List.foldl_cons, escaping_of_ne other]
  rfl

/-- Behind an escape nothing is escaped by it. -/
theorem escapesNext_escape (mark : Char) (front : List Char) :
    escapesNext ('\\' :: mark :: front) = escapesNext front := rfl

namespace Spells

theorem unescape?_eq (spells : Spells body text) : unescape? false body = some text := by
  induction spells with
  | nil => rfl
  | plain plain rest ih =>
    rw [unescape?, if_neg Bool.false_ne_true, if_neg plain.ne_backslash, if_pos plain, ih, Option.map_some]
  | escaped means rest ih =>
    rw [unescape?, if_neg Bool.false_ne_true, if_pos rfl, unescape?, if_pos rfl, means, Option.bind_some, ih,
      Option.map_some]

theorem untilQuote?_eq (spells : Spells body text) (back : List Char) :
    untilQuote? false (body ++ '"' :: back) = some (body, back) := by
  induction spells with
  | nil => rfl
  | plain plain rest ih =>
    rw [List.cons_append, untilQuote?, if_neg fun its => plain.ne_quote its.1,
      escaping_of_ne plain.ne_backslash, ih, Option.map_some]
  | @escaped mark c body text means rest ih =>
    have behind : escaping (escaping false '\\') mark = false := rfl
    rw [List.cons_append, List.cons_append, untilQuote?, if_neg (by simp), untilQuote?,
      if_neg fun its => Bool.noConfusion its.2, behind, ih, Option.map_some, Option.map_some]

theorem unbroken (spells : Spells body text) : ∀ c ∈ body, c ∉ ['\n', '\r', '\t'] := by
  induction spells with
  | nil => simp
  | plain plain rest ih => exact List.forall_mem_cons.2 ⟨plain.unbroken, ih⟩
  | escaped means rest ih =>
    exact List.forall_mem_cons.2 ⟨by decide, List.forall_mem_cons.2 ⟨unbroken_of_meaning? means, ih⟩⟩

/-- What is not escaped stands for itself, or it is the backslash of an escape. -/
theorem of_not_escaped (spells : Spells body text) (whole : body = front ++ c :: back)
    (free : escapesNext front = false) :
    Plain c ∨ c = '\\' ∧ ∃ mark ∈ back.head?, ∃ own, meaning? mark = some own := by
  induction spells generalizing front with
  | nil => simp at whole
  | @plain first body text plain rest ih =>
    cases front with
    | nil =>
      obtain ⟨rfl, -⟩ := List.cons.inj whole
      exact .inl plain
    | cons d front =>
      obtain ⟨rfl, rest⟩ := List.cons.inj whole
      rw [escapesNext_cons_of_ne plain.ne_backslash] at free
      exact ih rest free
  | @escaped mark own body text means rest ih =>
    match front with
    | [] =>
      obtain ⟨rfl, rfl⟩ := List.cons.inj whole
      exact .inr ⟨rfl, mark, rfl, own, means⟩
    | [d] =>
      -- The character behind the backslash is escaped.
      obtain ⟨rfl, -⟩ := List.cons.inj whole
      contradiction
    | d :: e :: front =>
      obtain ⟨rfl, behind⟩ := List.cons.inj whole
      obtain ⟨rfl, others⟩ := List.cons.inj behind
      rw [escapesNext_escape] at free
      exact ih others free

theorem enclosed (spells : Spells body text) : Enclosed body := by
  refine ⟨spells.unbroken, fun front back whole => ?_, fun front back whole free => ?_⟩
  · cases free : escapesNext front with
    | true => rfl
    | false =>
      rcases spells.of_not_escaped whole free with plain | ⟨other, -⟩
      · exact absurd rfl plain.ne_quote
      · exact absurd other (by decide)
  · rcases spells.of_not_escaped whole free with plain | ⟨-, escape⟩
    · exact absurd rfl plain.ne_backslash
    · exact escape

end Spells

end Escapes

/-! ## Literals -/

theorem toList_quote (text : String) :
    (quote text).toList = '"' :: text.toList.flatMap escape ++ ['"'] := String.toList_ofList

/-- Different texts have different literals. -/
theorem quote_injective : Function.Injective quote := by
  intro text other same
  have chars := congrArg String.toList same
  rw [toList_quote, toList_quote] at chars
  have bodies := List.append_inj_left' (List.cons.inj chars).2 rfl
  have read := (spells_escape text.toList).unescape?_eq
  rw [bodies, (spells_escape other.toList).unescape?_eq] at read
  exact String.toList_inj.1 (Option.some.inj read).symm

/-- **Quoted texts.** Nothing between the quotes of a literal breaks it or ends it early; undoing the escapes gives
the text, and wherever the literal stands it ends at its own closing quote. So the literals of different texts are
different, and the default of a primitive is the literal of the text that is given for it. -/
theorem quote_read (text : String) :
    (∃ body, (quote text).toList = '"' :: body ++ ['"'] ∧ Enclosed body ∧
      unescape? false body = some text.toList ∧
      ∀ back, untilQuote? false (body ++ '"' :: back) = some (body, back)) ∧
    (∀ other, scalar? (.str other) = scalar? (.str text) ↔ other = text) ∧
    ∀ p required, (Resolver.primitive p (some (.str text)) required).default = quote text := by
  have spells := spells_escape text.toList
  refine ⟨⟨_, toList_quote text, spells.enclosed, spells.unescape?_eq, spells.untilQuote?_eq⟩, ?_, ?_⟩
  · intro other
    exact ⟨fun same => quote_injective (Option.some.inj same), fun same => by rw [same]⟩
  · intro p required
    cases p <;> rfl

end CmdletForge.Literal
