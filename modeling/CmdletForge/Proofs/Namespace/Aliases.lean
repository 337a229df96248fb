import CmdletForge.Proofs.Naming.Ascii
import CmdletForge.Proofs.Namespace.Partition

/-!
# The aliases of parameters

A parameter may be called by its aliases: those that are declared, and what it is called on the wire. An alias
that reads as the name of the parameter itself is left out, where texts are read without the case of ASCII
letters. Nobody looks at the names of the other parameters, and an alias may well read as one of them. A name
is made of the name on the wire, so what stands in the way is a number: where a parameter has got its name
without one, the name on the wire of an ASCII parameter never reads as the name of another.
-/

namespace CmdletForge

namespace Commands

/-! ## Reading without case -/

variable {a b : String}

theorem sameName_iff : sameName a b = true ↔ a.toList.map Char.toLower = b.toList.map Char.toLower :=
  beq_iff_eq

/-- What reads as one of two texts reads as the other if and only if the two read the same. -/
theorem sameName_congr (same : sameName a b = true) (c : String) : sameName a c = sameName b c := by
  rw [Bool.eq_iff_iff, sameName_iff, sameName_iff, sameName_iff.1 same]

theorem sameName_comm (a b : String) : sameName a b = sameName b a := by
  rw [Bool.eq_iff_iff, sameName_iff, sameName_iff, eq_comm]

/-! ## Aliases -/

/-- The texts by which a parameter may be called besides its name. -/
def callNames (parameter : Parameter) : List String := parameter.aliases ++ [parameter.name]

theorem mem_addAliases (name text : String) (aliases texts : List String) :
    text ∈ addAliases name aliases texts ↔
      text ∈ aliases ∨ text ∈ texts ∧ sameName text name = false := by
  induction texts generalizing aliases with
  | nil => simp [addAliases]
  | cons first rest ih =>
    unfold addAliases
    by_cases left : sameName first name || aliases.contains first
    · rw [if_pos left, ih]
      rw [Bool.or_eq_true, List.contains_iff_mem] at left
      constructor
      · rintro (known | ⟨mem, other⟩)
        · exact .inl known
        · exact .inr ⟨List.mem_cons_of_mem _ mem, other⟩
      · rintro (known | ⟨mem, other⟩)
        · exact .inl known
        · rcases List.mem_cons.1 mem with rfl | mem
          · exact .inl (left.resolve_left (by simp [other]))
          · exact .inr ⟨mem, other⟩
    · rw [if_neg left, ih, List.mem_append, List.mem_singleton, List.mem_cons, or_assoc]
      simp only [Bool.or_eq_true, not_or, Bool.not_eq_true] at left
      refine or_congr_right ⟨?_, ?_⟩
      · rintro (rfl | ⟨mem, other⟩)
        · exact ⟨.inl rfl, left.1⟩
        · exact ⟨.inr mem, other⟩
      · rintro ⟨rfl | mem, other⟩
        · exact .inl rfl
        · exact .inr ⟨mem, other⟩

theorem mem_aliasesOf (name text : String) (parameter : Parameter) :
    text ∈ aliasesOf name parameter ↔ text ∈ callNames parameter ∧ sameName text name = false := by
  rw [aliasesOf, mem_addAliases]
  simp [callNames]

end Commands

open Commands

/-- The definition of a parameter beside those of all parameters: what its aliases are, and when one of them
reads as the name of another parameter. -/
structure ParameterDefinition.Called (all : List ParameterDefinition) (parameter : Parameter)
    (definition : ParameterDefinition) : Prop where
  wireName : definition.wireName = parameter.name
  aliases : ∀ text, text ∈ definition.aliases ↔
    text ∈ callNames parameter ∧ sameName text definition.name = false
  clash : ∀ other ∈ all, (∃ text ∈ definition.aliases, sameName text other.name = true) ↔
    (∃ text ∈ callNames parameter, sameName text other.name = true) ∧
      sameName definition.name other.name = false
  plain : definition.name = Naming.pascalOr "Parameter" parameter.name →
    (∀ c ∈ parameter.name.toList, c.toNat < 0x80) →
      ∀ other ∈ all, ∀ text ∈ definition.aliases, sameName text other.name = true →
        text ∈ parameter.aliases

/-- The parameters of the variant of an operation have different names, and each has its aliases. -/
structure CommandVariant.Called (operation : Operation) (variant : CommandVariant) : Prop where
  distinct : (variant.parameters.map (·.name)).Nodup
  parameters : ∃ kept, kept.Sublist operation.parameters ∧
    List.Forall₂ (ParameterDefinition.Called variant.parameters) kept variant.parameters

namespace Commands

open Synthesis

variable {source : Source} {run : Run} {taken : List String} {kept : List Parameter}
  {defined : List ParameterDefinition}

/-! ## The parameters of an operation -/

/-- Definitions of parameters, named in a row beside taken names and with their aliases. -/
structure Listed (taken : List String) (kept : List Parameter) (defined : List ParameterDefinition) :
    Prop where
  names : defined.map (·.name) =
    Naming.uniqueNames taken (kept.map fun parameter => Naming.pascalOr "Parameter" parameter.name)
  each : List.Forall₂ (fun parameter definition => definition.wireName = parameter.name ∧
    definition.aliases = aliasesOf definition.name parameter) kept defined

theorem yields_listed (operation : String) {taken : List String} {position : Nat}
    {parameters : List Parameter} :
    Yields source run (defineParameters operation taken position parameters) fun defined _ =>
      ∃ kept, kept.Sublist parameters ∧ Listed taken kept defined := by
  induction parameters generalizing run taken position with
  | nil => exact .pure ⟨[], .slnil, rfl, .nil⟩
  | cons parameter rest ih =>
    refine (Yields.any _).bind fun answer declared _ => ?_
    cases answer with
    | none =>
      -- The parameter is left out, and takes no name from those after it.
      refine ih.mono ?_
      rintro defined after ⟨kept, sub, listed⟩
      exact ⟨kept, sub.cons parameter, listed⟩
    | some declaration =>
      refine .noteIf fun noted _ => ih.bind ?_
      rintro defined after ⟨kept, sub, names, each⟩
      refine .pure ⟨parameter :: kept, sub.cons_cons parameter, ?_, .cons ⟨rfl, rfl⟩ each⟩
      rw [List.map_cons, List.map_cons, names, Naming.uniqueNames]

/-- A name in a row is not empty, and has no character from outside. -/
theorem Listed.name (listed : Listed taken kept defined) {other : ParameterDefinition} (mem : other ∈ defined) :
    other.name ≠ "" ∧ ∀ x, Naming.Outside x → x ∉ other.name.toList := by
  have named : other.name ∈ defined.map (·.name) := List.mem_map_of_mem mem
  rw [listed.names] at named
  obtain ⟨before, candidate, wanted, same⟩ := Naming.exists_of_mem_uniqueNames named
  obtain ⟨parameter, -, rfl⟩ := List.mem_map.1 wanted
  rw [← same]
  refine ⟨Naming.uniqueName_ne_empty before ?_, fun x out => Naming.not_mem_uniqueName out ?_⟩
  · unfold Naming.pascalOr
    dsimp only
    split
    next => decide
    next something => simpa using something
  · refine Naming.not_mem_pascalOr out (fun inside => ?_) parameter.name
    have letters : ∀ c ∈ "Parameter".toList, Text.isAlphanumeric c = true := by decide +kernel
    have apart := out.apart
    rw [letters x inside] at apart
    contradiction

/-- A parameter of an ASCII name that got no number reads as it is called on the wire, if that reads as any
name at all. -/
theorem Listed.reads (listed : Listed taken kept defined) {other : ParameterDefinition} (mem : other ∈ defined)
    {wireName : String} (ascii : ∀ c ∈ wireName.toList, c.toNat < 0x80)
    (same : sameName wireName other.name = true) :
    sameName wireName (Naming.pascalOr "Parameter" wireName) = true := by
  obtain ⟨something, outside⟩ := listed.name mem
  rw [sameName_iff] at same ⊢
  have reads := Naming.toPascalCase_of_reads ascii outside same
  -- What reads as a name is not empty, so that the fallback does not come in.
  have pascal : Naming.pascalOr "Parameter" wireName = Naming.toPascalCase wireName := by
    refine if_neg fun empty => something ?_
    rw [String.isEmpty_iff] at empty
    rw [same, empty] at reads
    simpa using reads.symm
  rw [pascal, reads]

/-- The aliases of a parameter in a row. -/
theorem Listed.called (listed : Listed taken kept defined) {parameter : Parameter}
    {definition : ParameterDefinition} (wireName : definition.wireName = parameter.name)
    (its : definition.aliases = aliasesOf definition.name parameter) :
    definition.Called defined parameter := by
  have aliases : ∀ text, text ∈ definition.aliases ↔
      text ∈ callNames parameter ∧ sameName text definition.name = false := by
    intro text
    rw [its, mem_aliasesOf]
  refine ⟨wireName, aliases, fun other _ => ⟨?_, ?_⟩, fun plain ascii other mem text its same => ?_⟩
  · rintro ⟨text, mem, same⟩
    obtain ⟨called, differs⟩ := (aliases text).1 mem
    refine ⟨⟨text, called, same⟩, ?_⟩
    rw [sameName_congr same] at differs
    rw [sameName_comm, differs]
  · rintro ⟨⟨text, called, same⟩, differs⟩
    refine ⟨text, (aliases text).2 ⟨called, ?_⟩, same⟩
    rw [sameName_congr same, sameName_comm, differs]
  · obtain ⟨called, differs⟩ := (aliases text).1 its
    rcases List.mem_append.1 called with declared | wire
    · exact declared
    · obtain rfl := List.mem_singleton.1 wire
      rw [plain, listed.reads mem ascii same] at differs
      contradiction

/-- The parameters of the variant of an operation, by whatever name the variant goes. -/
theorem yields_called (operation : Operation) (name : CommandName) :
    Yields source run (defineVariant operation name) fun variant _ => variant.Called operation := by
  refine (yields_listed operation.id).bind ?_
  rintro parameters declared ⟨kept, sub, listed⟩
  refine (Yields.any _).bind fun output _ _ => .pure ⟨?_, kept, sub, ?_⟩
  · rw [listed.names]
    exact (Naming.nodup_uniqueNames _ _).1
  · exact listed.each.imp fun parameter definition ⟨wireName, its⟩ => listed.called wireName its

/-! ## All commands -/

/-- The commands of operations, with the aliases of their parameters. -/
abbrev Aliased (name : Operation → CommandName) (operations : List Operation)
    (commands : List CommandDefinition) : Prop :=
  Groups (fun operation variant => variant.Called operation) name operations commands

/-- Every operation keeps the aliases of parameters. -/
theorem invariant_aliased (source : Source) (service : Service) (namePrefix subjectPrefix : String) :
    Invariant source (nameOf service namePrefix subjectPrefix)
      (fun operation variant => variant.Called operation)
      (Aliased (nameOf service namePrefix subjectPrefix)) :=
  ⟨.empty, fun _ operation => yields_called operation _, fun _ _ _ _ groups its =>
    groups.place nameOf_inj fun _ _ => ⟨its.distinct, its.parameters⟩⟩

/-- **The aliases of parameters.** Whenever the commands are built, an alias of a parameter reads as the name
of another parameter of the variant if and only if the parameter may be called by the latter, and the names
of the two do not read the same. Where the name has no number and the name on the wire is ASCII, the alias is
a declared one. In a closed model the commands are built. -/
theorem build_aliased (source : Source) (run : Run) (service : Service) (config : Config) :
    Yields source run (build service config) (fun done _ =>
      Aliased (nameOf service (setting config "prefix") (setting config "subject-prefix"))
        source.model.operations done.commands.definitions) ∧
    (source.model.Closed → ∀ earlier, Models.Settled source earlier run.registry →
      Ends source run (build service config) fun done _ =>
        Aliased (nameOf service (setting config "prefix") (setting config "subject-prefix"))
          source.model.operations done.commands.definitions) := by
  have aliased : Yields source run (build service config) fun done _ =>
      Aliased (nameOf service (setting config "prefix") (setting config "subject-prefix"))
        source.model.operations done.commands.definitions :=
    (invariant_aliased source service _ _).yields_build
  exact ⟨aliased, fun closed earlier settled => (ends_build closed settled).of_yields aliased⟩

/-- An operation with two parameters of one word. -/
def filters : Model where
  schemas := [{ kind := .primitive .string, path := "operations/listWidgets/parameters/filter" }]
  table := []
  operations := [{ id := "listWidgets", parameters := [{ name := "filter", location := .query, schema := 0 },
    { name := "Filter", location := .header, schema := 0 }] }]

theorem filters_aliased :
    filters.Closed ∧ Models.Settled ⟨filters, ⟨[]⟩⟩ [] { owner := "" } ∧
      Ends ⟨filters, ⟨[]⟩⟩ { registry := { owner := "" } } (build ⟨"Api", "Api"⟩ {}) fun done _ =>
        Aliased (nameOf ⟨"Api", "Api"⟩ (setting {} "prefix") (setting {} "subject-prefix"))
          filters.operations done.commands.definitions := by
  have closed : filters.Closed := by decide
  exact ⟨closed, .empty _ _, (build_aliased _ _ _ _).2 closed [] (.empty _ _)⟩

/-- The second parameter has an alias that is the name of the first. -/
theorem filters_clash : Ends ⟨filters, ⟨[]⟩⟩ {} (build ⟨"Api", "Api"⟩ {}) fun done _ =>
    ∃ command ∈ done.commands.definitions, ∃ variant ∈ command.variants,
      ∃ parameter ∈ variant.parameters, ∃ other ∈ variant.parameters, parameter ≠ other ∧
        ∃ text ∈ parameter.aliases, sameName text other.name = true := by
  have checked : (((build ⟨"Api", "Api"⟩ {}).run ⟨filters, ⟨[]⟩⟩).run.run {}).1.toOption.any (fun done =>
      done.commands.definitions.any fun command => command.variants.any fun variant =>
        variant.parameters.any fun parameter => variant.parameters.any fun other =>
          decide (parameter ≠ other) && parameter.aliases.any (sameName · other.name)) = true := by
    decide +kernel
  refine (Ends.of_any checked).mono fun done _ clash => ?_
  simpa only [List.any_eq_true, Bool.and_eq_true, decide_eq_true_eq] using clash

end Commands
end CmdletForge
