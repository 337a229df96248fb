import CmdletForge.Proofs.Json.Layout
import CmdletForge.Proofs.Naming.Characters
import CmdletForge.Proofs.Types.Optional

/-!
# Defaults and declared types

What stands for a value that is not given is a text between quotes, a number, a truth value, a member of a
generated enumeration, or what is written where there is no literal: `null`, or the default of the type. No
text is of two of these forms, as its last character and its dots show. So a default can be held against the
type that is declared beside it, and `typed_iff_fits` says for which schemas the two go together. The
exceptions are primitives whose default is of another kind than they are: a primitive takes any text, any
number and any truth value for its literal, while a truth value and an enumeration take their own kind only.
-/

namespace CmdletForge

/-- The text of a member of an enumeration. -/
def TypeRef.member (type : TypeRef) (name : String) : String :=
  type.fullName ++ "." ++ Naming.toPascalCase name

/-- A member says which type it is of, and its own name in Pascal case. -/
theorem TypeRef.member_inj {type other : TypeRef} {name name' : String}
    (same : type.member name = other.member name') :
    type.fullName = other.fullName ∧ Naming.toPascalCase name = Naming.toPascalCase name' := by
  have free (name : String) : '.' ∉ (Naming.toPascalCase name).toList :=
    Naming.not_mem_toPascalCase Naming.separator_dot.outside name
  have spelled := congrArg String.toList same
  simp only [TypeRef.member, String.toList_append, List.append_assoc] at spelled
  obtain ⟨front, back⟩ := Naming.append_separator_inj (free name) (free name') spelled
  exact ⟨String.toList_inj.1 front, String.toList_inj.1 back⟩

/-! ## Forms of defaults -/

namespace Literal

/-- The forms in which a default is written. -/
inductive Form where
  | text
  | number
  | flag
  | member
  | fallback
deriving DecidableEq

/-- The form of a default, by its last character, the words that are written out and the number of dots. -/
def form (literal : String) : Form :=
  if literal.toList.getLast? = some '"' then .text
  else if literal.toList.getLast? = some ')' ∨ literal = "null" then .fallback
  else if literal = "true" ∨ literal = "false" then .flag
  else if 2 ≤ Json.dots literal then .member
  else .number

theorem form_quote (text : String) : form (quote text) = .text := by
  have last : (quote text).toList.getLast? = some '"' := by
    rw [quote, String.toList_ofList, List.getLast?_append, List.getLast?_singleton, Option.some_or]
  rw [form, if_pos last]

theorem form_ofBool (b : Bool) : form (ofBool b) = .flag := by
  cases b <;> decide

theorem form_null : form "null" = .fallback := by decide

theorem form_default (base : String) : form ("default(" ++ base ++ ")") = .fallback := by
  have last : ("default(" ++ base ++ ")").toList.getLast? = some ')' := by
    rw [String.toList_append, List.getLast?_append]
    rfl
  rw [form, last]
  simp

/-- What ends in a dot and a name has no other character at its end. -/
theorem getLast?_ne_of_not_mem {left right : List Char} {x y : Char} (apart : y ≠ x) (free : y ∉ right) :
    (left ++ x :: right).getLast? ≠ some y := by
  intro last
  rw [List.getLast?_append_of_ne_nil _ (List.cons_ne_nil x right)] at last
  rcases List.mem_cons.1 (List.mem_of_getLast? last) with same | mem
  · exact apart same
  · exact free mem

theorem form_member (type : TypeRef) (name : String) : form (type.member name) = .member := by
  have spelled : (type.member name).toList =
      type.fullName.toList ++ '.' :: (Naming.toPascalCase name).toList := by
    simp [TypeRef.member, String.toList_append]
  have dots : 2 ≤ Json.dots (type.member name) := by
    have point : Json.dots "." = 1 := by decide
    simp only [TypeRef.member, TypeRef.fullName, Json.dots_append, point]
    omega
  have undotted (word : String) (none : Json.dots word = 0) : type.member name ≠ word := by
    rintro rfl
    omega
  have unlike (y : Char) (ascii : y.toNat < 0x80) (apart : Text.isAlphanumeric y = false) (other : y ≠ '.') :
      (type.member name).toList.getLast? ≠ some y := by
    rw [spelled]
    exact getLast?_ne_of_not_mem other
      (Naming.not_mem_toPascalCase (Naming.outside_of_ascii ascii apart) name)
  rw [form, if_neg (unlike '"' (by decide) (by decide +kernel) (by decide)), if_neg, if_neg, if_pos dots]
  · exact not_or.2 ⟨undotted _ (by decide), undotted _ (by decide)⟩
  · exact not_or.2 ⟨unlike ')' (by decide) (by decide +kernel) (by decide), undotted _ (by decide)⟩

theorem form_numberText (n : Number) : form (Json.numberText n) = .number := by
  have numeric := Json.numeric_numberText n
  have few := Json.dots_numberText n
  generalize Json.numberText n = text at numeric few
  have closed (y : Char) (other : y ∉ Json.numerals) : text.toList.getLast? ≠ some y :=
    fun last => other (numeric y (List.mem_of_getLast? last))
  have nonword (word : String) (other : ¬ Json.Numeric word) : text ≠ word := by
    rintro rfl
    exact other numeric
  rw [form, if_neg (closed _ (by decide)), if_neg, if_neg, if_neg (by omega)]
  · exact not_or.2 ⟨nonword _ (by decide), nonword _ (by decide)⟩
  · exact not_or.2 ⟨closed _ (by decide), nonword _ (by decide)⟩

end Literal

/-! ## Declarations -/

namespace Declaration

/-- What is declared is a type, optional or not. -/
def IsOf (declaration : Declaration) (base : String) : Prop :=
  declaration.text = base ∨ declaration.text = base ++ "?"

instance (declaration : Declaration) (base : String) : Decidable (declaration.IsOf base) :=
  inferInstanceAs (Decidable (_ ∨ _))

/-- The default of a declaration is a value of the type that is declared. -/
structure Typed (schema : Schema) (declaration : Declaration) : Prop where
  text : ∀ text, declaration.default = Literal.quote text → declaration.IsOf "string"
  number : ∀ n, declaration.default = Json.numberText n →
    ∃ base ∈ ["int", "long", "double", "float"], declaration.IsOf base
  flag : ∀ b, declaration.default = Literal.ofBool b → declaration.IsOf "bool"
  member : ∀ (type : TypeRef) name, declaration.default = type.member name →
    schema.kind = .enumeration ∧ declaration.IsOf type.fullName
  /-- There are no other defaults. -/
  known : (∃ text, declaration.default = Literal.quote text) ∨
    (∃ n, declaration.default = Json.numberText n) ∨ (∃ b, declaration.default = Literal.ofBool b) ∨
    (∃ type name, declaration.generated = some type ∧ declaration.default = type.member name) ∨
    declaration.default = "null" ∨ declaration.default = "default(" ++ declaration.text ++ ")"

/-- The default names a member that the generated type has. -/
def NamesValue (schema : Schema) (declaration : Declaration) : Prop :=
  ∃ type value, declaration.generated = some type ∧ value ∈ schema.values ∧
    declaration.default = type.member value

/-! What a declaration needs to be typed depends on the form of its default. -/

section Typed

variable {schema : Schema} {declaration : Declaration}

/-- A declaration answers for the form of its default only. -/
theorem typed_of_form {form : Literal.Form} (its : Literal.form declaration.default = form)
    (text : form = .text → declaration.IsOf "string")
    (number : form = .number → ∃ base ∈ ["int", "long", "double", "float"], declaration.IsOf base)
    (flag : form = .flag → declaration.IsOf "bool")
    (member : form = .member → ∀ (type : TypeRef) name, declaration.default = type.member name →
      schema.kind = .enumeration ∧ declaration.IsOf type.fullName)
    (known : (∃ text, declaration.default = Literal.quote text) ∨
      (∃ n, declaration.default = Json.numberText n) ∨ (∃ b, declaration.default = Literal.ofBool b) ∨
      (∃ type name, declaration.generated = some type ∧ declaration.default = type.member name) ∨
      declaration.default = "null" ∨ declaration.default = "default(" ++ declaration.text ++ ")") :
    declaration.Typed schema where
  text := fun _ same => text (by rw [← its, same, Literal.form_quote])
  number := fun _ same => number (by rw [← its, same, Literal.form_numberText])
  flag := fun _ same => flag (by rw [← its, same, Literal.form_ofBool])
  member := fun type name same => member (by rw [← its, same, Literal.form_member]) type name same
  known := known

theorem typed_of_fallback (written : declaration.default = "null" ∨
    declaration.default = "default(" ++ declaration.text ++ ")") : declaration.Typed schema := by
  have form : Literal.form declaration.default = .fallback := by
    rcases written with written | written
    · rw [written, Literal.form_null]
    · rw [written, Literal.form_default]
  exact typed_of_form form nofun nofun nofun nofun (by tauto)

theorem typed_iff_of_text {text : String} (written : declaration.default = Literal.quote text) :
    declaration.Typed schema ↔ declaration.IsOf "string" := by
  have form : Literal.form declaration.default = .text := by rw [written, Literal.form_quote]
  refine ⟨fun typed => typed.text text written, fun base => ?_⟩
  exact typed_of_form form (fun _ => base) nofun nofun nofun (.inl ⟨_, written⟩)

theorem typed_iff_of_number {n : Number} (written : declaration.default = Json.numberText n) :
    declaration.Typed schema ↔ ∃ base ∈ ["int", "long", "double", "float"], declaration.IsOf base := by
  have form : Literal.form declaration.default = .number := by rw [written, Literal.form_numberText]
  refine ⟨fun typed => typed.number n written, fun base => ?_⟩
  exact typed_of_form form nofun (fun _ => base) nofun nofun (.inr (.inl ⟨_, written⟩))

theorem typed_iff_of_flag {b : Bool} (written : declaration.default = Literal.ofBool b) :
    declaration.Typed schema ↔ declaration.IsOf "bool" := by
  have form : Literal.form declaration.default = .flag := by rw [written, Literal.form_ofBool]
  refine ⟨fun typed => typed.flag b written, fun base => ?_⟩
  exact typed_of_form form nofun nofun (fun _ => base) nofun (.inr (.inr (.inl ⟨_, written⟩)))

theorem typed_of_member {type : TypeRef} {name : String} (written : declaration.default = type.member name)
    (generated : declaration.generated = some type) (kind : schema.kind = .enumeration)
    (base : declaration.IsOf type.fullName) : declaration.Typed schema := by
  have form : Literal.form declaration.default = .member := by rw [written, Literal.form_member]
  refine typed_of_form form nofun nofun nofun (fun _ other name' same => ⟨kind, ?_⟩)
    (.inr (.inr (.inr (.inl ⟨_, _, generated, written⟩))))
  rw [← (TypeRef.member_inj (written.symm.trans same)).1]
  exact base

end Typed

end Declaration

/-! ## Resolved schemas -/

/-- The default of a schema is of the kind that the schema is, or of no kind that has a literal. -/
def Schema.DefaultFits (schema : Schema) : Prop :=
  match schema.kind, schema.default with
  | .primitive p, some (.str _) => p = .string ∨ p = .uuid
  | .primitive p, some (.num _) => p = .int32 ∨ p = .int64 ∨ p = .number ∨ p = .float
  | .primitive _, some (.bool _) => False
  | _, _ => True

namespace Resolver

open Declaration

variable {resolver : Resolver} {model : Model} {id : SchemaId} {schema : Schema} {required : Bool}
  {registry after : Registry} {declaration : Declaration}

theorem defaults_of_byKind (made : (byKind id schema required).run registry = .ok (declaration, after)) :
    declaration.Defaults schema := by
  have sound : schema.fault? = none := by
    cases fault : schema.fault? with
    | none => rfl
    | some failure =>
      rw [StateT.run, byKind_of_fault id fault] at made
      contradiction
  obtain ⟨first, second, after', parts, made₁, made₂⟩ := counterparts_byKind id sound registry
  cases required with
  | true =>
    cases made.symm.trans made₁
    exact parts.defaults.1
  | false =>
    cases made.symm.trans made₂
    exact parts.defaults.2

theorem isOf_value (base : String) (required : Bool) (jsonType : JsonType) (default : Option String)
    (generated : Option TypeRef) : (Declaration.value base required jsonType default generated).IsOf base := by
  cases required with
  | true => exact .inl rfl
  | false => exact .inr rfl

/-- Primitives are declared by the table of primitives. -/
theorem isOf_primitive (p : Primitive) (default : Option Json) (required : Bool) :
    (primitive p default required).IsOf (primitiveBase p).1 := by
  unfold primitive
  dsimp only
  split
  · exact isOf_value _ _ _ _ _
  · exact .inl rfl

theorem isOf_text_iff {p : Primitive} (base : declaration.IsOf (primitiveBase p).1) :
    declaration.IsOf "string" ↔ p = .string ∨ p = .uuid := by
  rcases base with same | same <;> rw [IsOf, same] <;> cases p <;> decide

theorem isOf_number_iff {p : Primitive} (base : declaration.IsOf (primitiveBase p).1) :
    (∃ base ∈ ["int", "long", "double", "float"], declaration.IsOf base) ↔
      p = .int32 ∨ p = .int64 ∨ p = .number ∨ p = .float := by
  simp only [IsOf]
  rcases base with same | same <;> rw [same] <;> cases p <;> decide

theorem not_isOf_flag {p : Primitive} (base : declaration.IsOf (primitiveBase p).1) :
    ¬ declaration.IsOf "bool" := by
  rcases base with same | same <;> rw [IsOf, same] <;> cases p <;> decide

/-- Without a literal a declaration falls back. -/
theorem typed_of_unwritten (defaults : declaration.Defaults schema)
    (none : schema.literal? declaration.generated = none) : declaration.Typed schema := by
  rw [Defaults, none, Option.getD_none] at defaults
  refine typed_of_fallback ?_
  split at defaults
  · exact .inl defaults
  · exact .inr defaults

/-- An enumeration is declared by its own type. -/
theorem isOf_enumeration (kind : schema.kind = .enumeration)
    (made : (byKind id schema required).run registry = .ok (declaration, after)) :
    ∃ type, declaration.generated = some type ∧ declaration.IsOf type.fullName := by
  simp only [byKind, kind] at made
  cases made
  exact ⟨_, rfl, isOf_value _ _ _ _ _⟩

/-- A primitive takes any text, number or truth value for its literal. -/
theorem typed_iff_of_primitive {p : Primitive} (kind : schema.kind = .primitive p)
    (made : (byKind id schema required).run registry = .ok (declaration, after)) :
    declaration.Typed schema ↔ schema.DefaultFits := by
  have defaults := defaults_of_byKind made
  have base : declaration.IsOf (primitiveBase p).1 := by
    simp only [byKind, kind] at made
    cases made
    exact isOf_primitive p _ _
  have literal : schema.literal? declaration.generated = schema.default.bind Literal.scalar? := by
    rw [Schema.literal?, kind]
  rw [Schema.DefaultFits, kind]
  cases value : schema.default with
  | none => exact iff_of_true (typed_of_unwritten defaults (by rw [literal, value]; rfl)) trivial
  | some json =>
    rw [value] at literal
    cases json with
    | str text =>
      rw [Defaults, literal] at defaults
      exact (typed_iff_of_text defaults).trans (isOf_text_iff base)
    | num n =>
      rw [Defaults, literal] at defaults
      exact (typed_iff_of_number defaults).trans (isOf_number_iff base)
    | bool b =>
      rw [Defaults, literal] at defaults
      exact (typed_iff_of_flag defaults).trans (iff_false_intro (not_isOf_flag base))
    | null => exact iff_of_true (typed_of_unwritten defaults literal) trivial
    | arr items => exact iff_of_true (typed_of_unwritten defaults literal) trivial
    | obj entries => exact iff_of_true (typed_of_unwritten defaults literal) trivial

/-- A truth value takes no other default than its own. -/
theorem typed_of_boolean (kind : schema.kind = .boolean)
    (made : (byKind id schema required).run registry = .ok (declaration, after)) :
    declaration.Typed schema := by
  have defaults := defaults_of_byKind made
  have base : declaration.IsOf "bool" := by
    simp only [byKind, kind] at made
    cases made
    exact isOf_value _ _ _ _ _
  have literal : schema.literal? declaration.generated = schema.default.bind Literal.flag? := by
    rw [Schema.literal?, kind]
  cases written : schema.default.bind Literal.flag? with
  | none => exact typed_of_unwritten defaults (literal.trans written)
  | some text =>
    rw [Defaults, literal, written] at defaults
    obtain ⟨json, -, flag⟩ := Option.bind_eq_some_iff.1 written
    cases json with
    | bool b =>
      cases flag
      exact (typed_iff_of_flag defaults).2 base
    | _ => contradiction

/-- An enumeration takes texts only, and makes members of them. -/
theorem typed_of_enumeration (kind : schema.kind = .enumeration)
    (made : (byKind id schema required).run registry = .ok (declaration, after)) :
    declaration.Typed schema := by
  have defaults := defaults_of_byKind made
  obtain ⟨type, generated, base⟩ := isOf_enumeration kind made
  have literal : schema.literal? declaration.generated = schema.default.bind (memberText type) := by
    rw [Schema.literal?, kind, generated, Option.bind_some]
  cases written : schema.default.bind (memberText type) with
  | none => exact typed_of_unwritten defaults (literal.trans written)
  | some text =>
    rw [Defaults, literal, written] at defaults
    obtain ⟨json, -, member⟩ := Option.bind_eq_some_iff.1 written
    cases json with
    | str name =>
      cases member
      exact typed_of_member defaults generated kind base
    | _ => contradiction

/-- A declaration by kind is typed if the default fits the schema, and only then. -/
theorem typed_iff_of_byKind
    (made : (byKind id schema required).run registry = .ok (declaration, after)) :
    declaration.Typed schema ↔ schema.DefaultFits := by
  cases kind : schema.kind with
  | primitive p => exact typed_iff_of_primitive kind made
  | boolean => exact iff_of_true (typed_of_boolean kind made) (by rw [Schema.DefaultFits, kind]; trivial)
  | enumeration =>
    exact iff_of_true (typed_of_enumeration kind made) (by rw [Schema.DefaultFits, kind]; trivial)
  | _ =>
    refine iff_of_true (typed_of_unwritten (defaults_of_byKind made) (by rw [Schema.literal?, kind])) ?_
    rw [Schema.DefaultFits, kind]
    trivial

/-- A default that is a text names a member of the enumeration; whether there is such a member depends on
the values, in Pascal case. -/
theorem namesValue_iff_of_byKind (kind : schema.kind = .enumeration)
    (made : (byKind id schema required).run registry = .ok (declaration, after)) {name : String}
    (value : schema.default = some (.str name)) : declaration.NamesValue schema ↔
      ∃ value ∈ schema.values, Naming.toPascalCase value = Naming.toPascalCase name := by
  have defaults := defaults_of_byKind made
  obtain ⟨type, generated, -⟩ := isOf_enumeration kind made
  have written : declaration.default = type.member name := by
    rw [Defaults, Schema.literal?, kind, generated, value] at defaults
    exact defaults
  constructor
  · rintro ⟨other, value, -, mem, same⟩
    exact ⟨value, mem, (TypeRef.member_inj (same.symm.trans written)).2⟩
  · rintro ⟨value, mem, same⟩
    exact ⟨type, value, generated, mem, by rw [written, TypeRef.member, TypeRef.member, same]⟩

/-- The core of a collection lies inside it. -/
theorem wrappers_of_core {core : Core} {wrapper : Wrapper} (found : model.schema? id = some schema)
    (wraps : resolver.wrapper? schema = some wrapper) (search : resolver.core model id = .ok core) :
    ∃ inner, core.wrappers = wrapper :: inner := by
  rw [Resolver.core, coreFrom] at search
  simp only [found, wraps] at search
  split at search
  next => contradiction
  next items holds =>
    rw [if_neg List.not_mem_nil] at search
    split at search
    next => contradiction
    next inside along =>
      cases search
      exact ⟨_, rfl⟩

/-- A list or a map is declared without a literal. -/
theorem default_of_unwraps (found : model.schema? id = some schema) (unwraps : resolver.Unwraps schema)
    (made : (resolver.resolve model id required).run registry = .ok (declaration, after)) :
    declaration.default = "null" := by
  cases search : resolver.core model id with
  | error stop =>
    rw [resolve_of_stop search] at made
    contradiction
  | ok core =>
    cases wraps : resolver.wrapper? schema with
    | none => exact absurd unwraps (wrapper?_eq_none.1 wraps)
    | some wrapper =>
      obtain ⟨inner, wrappers⟩ := wrappers_of_core found wraps search
      rw [StateT.run, resolve_of_core search, wrappers] at made
      cases element : resolver.declareCore core (required || !(wrapper :: inner).isEmpty) registry with
      | error stop =>
        rw [element] at made
        contradiction
      | ok declared =>
        rw [element] at made
        cases made
        cases wrapper <;> rfl

/-- **Defaults and declared types.** The default of a declaration that no override makes is a value of the
declared type exactly if it fits the schema. An enumeration takes any text for the name of a member; it is one
that there is exactly if it is a value up to Pascal case. -/
theorem typed_iff_fits (found : model.schema? id = some schema) (unmatched : resolver.Unmatched schema)
    (made : (resolver.resolve model id required).run registry = .ok (declaration, after)) :
    (declaration.Typed schema ↔ schema.DefaultFits) ∧
    (schema.kind = .enumeration → ∀ name, schema.default = some (.str name) →
      (declaration.NamesValue schema ↔
        ∃ value ∈ schema.values, Naming.toPascalCase value = Naming.toPascalCase name)) := by
  by_cases unwraps : resolver.Unwraps schema
  · have null := default_of_unwraps found unwraps made
    have kind := unwraps.2
    refine ⟨iff_of_true (typed_of_fallback (.inl null)) ?_, fun enumeration => ?_⟩
    · unfold Schema.DefaultFits
      rcases kind with kind | kind <;> rw [kind] <;> trivial
    · rw [enumeration] at kind
      simp at kind
  · rw [(Chain.here id).resolve_of_unmatched found unmatched unwraps] at made
    cases byKind : (byKind id schema (required || !([] : List (SchemaId × Wrapper)).isEmpty)).run registry with
    | error stop =>
      rw [byKind] at made
      contradiction
    | ok declared =>
      rw [byKind] at made
      cases made
      exact ⟨typed_iff_of_byKind byKind, fun kind _ value => namesValue_iff_of_byKind kind byKind value⟩

/-- A weight whose default is a text, and a size whose default is spelled otherwise than its values. -/
def parcels : Model where
  schemas :=
    [{ kind := .primitive .int32, path := "/schemas/Weight", default := some (.str "10") },
      { kind := .enumeration, path := "/schemas/Size", name := some "Size", values := ["small", "over-sized"],
        default := some (.str "overSized") }]

theorem typed_parcels : ∃ schema declaration after, parcels.schema? 1 = some schema ∧
    ({} : Resolver).Unmatched schema ∧
    (({} : Resolver).resolve parcels 1 true).run { owner := "Api" } = .ok (declaration, after) ∧
    schema.DefaultFits ∧ declaration.Typed schema ∧ declaration.NamesValue schema := by
  have unmatched (schema : Schema) : ({} : Resolver).Unmatched schema := fun _ mem => nomatch mem
  obtain ⟨declaration, after, made⟩ : ∃ declaration after,
      (({} : Resolver).resolve parcels 1 true).run { owner := "Api" } = .ok (declaration, after) := ⟨_, _, rfl⟩
  have found : parcels.schema? 1 = some _ := rfl
  obtain ⟨typed, names⟩ := typed_iff_fits found (unmatched _) made
  exact ⟨_, declaration, after, found, unmatched _, made, trivial, typed.2 trivial,
    (names rfl _ rfl).2 ⟨"over-sized", by decide, by decide +kernel⟩⟩

/-- A number whose default is a text keeps the quotes of the text. -/
theorem parcels_untyped : ∃ schema declaration, parcels.schema? 0 = some schema ∧
    ({} : Resolver).Unmatched schema ∧
    (({} : Resolver).resolve parcels 0 true).run { owner := "Api" } =
      .ok (declaration, { owner := "Api" }) ∧
    declaration.text = "int" ∧ declaration.default = Literal.quote "10" ∧ ¬ declaration.Typed schema := by
  have unmatched (schema : Schema) : ({} : Resolver).Unmatched schema := fun _ mem => nomatch mem
  refine ⟨_, ⟨"int", true, false, Literal.quote "10", .number, none⟩, rfl, unmatched _, rfl, rfl, rfl, ?_⟩
  exact fun typed => absurd (typed.text "10" rfl) (by decide)

end Resolver
end CmdletForge
