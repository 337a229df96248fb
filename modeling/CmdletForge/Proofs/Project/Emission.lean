import CmdletForge.Project.Emission
import CmdletForge.Proofs.Output.Encoding
import CmdletForge.Proofs.Output.Staging
import CmdletForge.Proofs.Project.Completeness
import CmdletForge.Proofs.Project.Document

/-!
# What an emitted project model reads back as

The project model is printed as a JSON text, and then legacy names are replaced in the text. If what is put
in is plain, the staged text is that of the document with the names replaced in its strings, and it reads
back as that document. Otherwise the staged text need not be JSON: a namespace with a backslash breaks it.
-/

namespace CmdletForge

theorem run_stage (file : StagedFile) (staging : Staging) : (stage file).run.run staging =
    match staging.stage file with
    | .ok after => (.ok (), after)
    | .error e => (.error e, staging) := by
  have first : (stage file).run.run staging = (match staging.stage file with
    | .ok after => (set after : Emitting Unit)
    | .error e => throw e).run.run staging := rfl
  rw [first]
  cases staging.stage file <;> rfl

theorem exists_of_isOk {result : Except PathTaken Unit × Staging} (succeeds : result.1.isOk = true) :
    ∃ after, result = (.ok (), after) := by
  obtain ⟨_ | done, after⟩ := result
  · contradiction
  · exact ⟨after, rfl⟩

namespace Project

open SubstitutionTable (legacyRuntime)

variable {project : Project} {descriptor : Descriptor} {staging after : Staging}

/-! ## The staged text -/

/-- Where emission succeeds, the descriptor was staged and then the project model. -/
theorem exists_of_emit (emitted : (project.emit descriptor).run.run staging = (.ok (), after)) :
    ∃ middle, staging.stage (project.descriptorFile descriptor) = .ok middle ∧
      middle.stage project.modelFile = .ok after := by
  unfold emit at emitted
  dsimp only at emitted
  split at emitted
  · cases emitted
  · rw [ExceptT.run_bind, StateT.run_bind, run_stage] at emitted
    cases first : staging.stage (project.descriptorFile descriptor) with
    | error e =>
      rw [first] at emitted
      cases emitted
    | ok middle =>
      rw [first] at emitted
      change (stage project.modelFile).run.run middle = _ at emitted
      rw [run_stage] at emitted
      refine ⟨middle, rfl, ?_⟩
      cases second : middle.stage project.modelFile with
      | error e =>
        rw [second] at emitted
        cases emitted
      | ok last =>
        rw [second] at emitted
        cases emitted
        rfl

theorem get?_modelPath (emitted : (project.emit descriptor).run.run staging = (.ok (), after)) :
    after.get? project.modelPath = some project.modelFile := by
  obtain ⟨_, -, staged⟩ := exists_of_emit emitted
  exact Staging.get?_of_stage staged

/-- What is put into the strings of the document is plain. -/
def PutsPlain (project : Project) : Prop :=
  ∀ text ∈ project.document.texts,
    SubstitutionTable.PutsPlain project.substitutions.pairs text.toList

instance (project : Project) : Decidable project.PutsPlain :=
  inferInstanceAs (Decidable (∀ text ∈ project.document.texts, _))

theorem decode_modelFile (puts : project.PutsPlain) (words : ∀ n ∈ project.positions, n < 2 ^ 64) :
    Json.decode project.modelFile.content =
      .ok (project.document.mapTexts project.substitutions.apply) := by
  have same : project.modelFile.content =
      (project.document.mapTexts project.substitutions.apply).pretty :=
    SubstitutionTable.apply_pretty (SubstitutionTable.legible_legacyRuntime _) puts
  rw [same]
  exact Json.decode_pretty ((Document.readable_document words).mapTexts _)

/-- **Substitution commutes with encoding.** In a plain namespace replacing the legacy names in the text of
a JSON value comes to replacing them in its strings; so the project model that is staged reads back as the
document with the names replaced in its strings. -/
theorem substitution_commutes {space : String} (plain : ∀ c ∈ space.toList, Json.Plain c) :
    (∀ value : Json, (legacyRuntime space).apply value.pretty =
      (value.mapTexts (legacyRuntime space).apply).pretty) ∧
    ∀ (project : Project) (descriptor : Descriptor) (staging after : Staging),
      project.settings.space = space → (∀ n ∈ project.positions, n < 2 ^ 64) →
      (project.emit descriptor).run.run staging = (.ok (), after) →
      ∃ file, after.get? project.modelPath = some file ∧
        Json.decode file.content = .ok (project.document.mapTexts (legacyRuntime space).apply) := by
  have puts := SubstitutionTable.putsPlain_legacyRuntime plain
  refine ⟨fun value => ?_, ?_⟩
  · exact SubstitutionTable.apply_pretty (SubstitutionTable.legible_legacyRuntime space)
      fun text _ => puts text.toList
  · rintro project descriptor staging after rfl words emitted
    exact ⟨_, get?_modelPath emitted, decode_modelFile (fun text _ => puts text.toList) words⟩

/-- A model that still speaks of the legacy runtime. -/
def envelope : Model where
  schemas :=
    [{ kind := .object, path := "/schemas/A", name := some "A"
       description := some "Wraps \"Carbon.Json.JsonNode\" payloads." }]
  table := [("A", 0)]

theorem exists_envelope : ∃ project after,
    (Assembly.run Assembly.leastConfig envelope []).1 = .assembled project ∧
      project.settings.space = "Kennel" ∧ (∀ n ∈ project.positions, n < 2 ^ 64) ∧
      (project.emit .csproj).run.run {} = (.ok (), after) := by
  have checked : (Assembly.run Assembly.leastConfig envelope []).1.project?.any (fun project =>
      project.settings.space = "Kennel" && project.positions.all (· < 2 ^ 64) &&
        ((project.emit .csproj).run.run {}).1.isOk) = true := by decide +kernel
  obtain ⟨project, assembled, checked⟩ := Outcome.exists_of_any checked
  simp only [Bool.and_eq_true, decide_eq_true_eq, List.all_eq_true] at checked
  obtain ⟨⟨same, words⟩, succeeds⟩ := checked
  obtain ⟨after, emitted⟩ := exists_of_isOk succeeds
  exact ⟨project, after, assembled, same, words, emitted⟩

theorem envelope_commutes : (∀ c ∈ "Kennel".toList, Json.Plain c) ∧
    ∃ (project : Project) (after : Staging),
      (Assembly.run Assembly.leastConfig envelope []).1 = .assembled project ∧
      project.settings.space = "Kennel" ∧ (∀ n ∈ project.positions, n < 2 ^ 64) ∧
      (project.emit .csproj).run.run {} = (.ok (), after) ∧
      ∃ file, after.get? project.modelPath = some file ∧
        Json.decode file.content = .ok (project.document.mapTexts (legacyRuntime "Kennel").apply) := by
  have plain : ∀ c ∈ "Kennel".toList, Json.Plain c := by decide
  obtain ⟨project, after, assembled, same, words, emitted⟩ := exists_envelope
  exact ⟨plain, project, after, assembled, same, words, emitted,
    (substitution_commutes plain).2 project .csproj {} after same words emitted⟩

/-- **The staged project model is JSON** if what is put into its strings is plain, whatever the namespace
is. -/
theorem emit_decodes (puts : project.PutsPlain) (words : ∀ n ∈ project.positions, n < 2 ^ 64)
    (emitted : (project.emit descriptor).run.run staging = (.ok (), after)) :
    ∃ file, after.get? project.modelPath = some file ∧
      Json.decode file.content = .ok (project.document.mapTexts project.substitutions.apply) :=
  ⟨_, get?_modelPath emitted, decode_modelFile puts words⟩

theorem envelope_decodes : ∃ project after,
    (Assembly.run Assembly.leastConfig envelope []).1 = .assembled project ∧ project.PutsPlain ∧
      (∀ n ∈ project.positions, n < 2 ^ 64) ∧ (project.emit .csproj).run.run {} = (.ok (), after) ∧
      ∃ file, after.get? project.modelPath = some file ∧
        Json.decode file.content = .ok (project.document.mapTexts project.substitutions.apply) := by
  obtain ⟨project, after, assembled, same, words, emitted⟩ := exists_envelope
  have plain : ∀ c ∈ project.settings.space.toList, Json.Plain c := by
    rw [same]
    decide
  have puts : project.PutsPlain :=
    fun text _ => SubstitutionTable.putsPlain_legacyRuntime plain text.toList
  exact ⟨project, after, assembled, puts, words, emitted, emit_decodes puts words emitted⟩

/-! ## A text that is not JSON -/

/-- What stands before a string that is the first of an object that is the first of an object. -/
def beforeFirst (outer inner : String) : List Char :=
  '{' :: (Json.newline 1 ++ (Json.quoted outer ++ ':' :: ' ' ::
    '{' :: (Json.newline 2 ++ (Json.quoted inner ++ [':', ' ', '"']))))

theorem prettyChars_first (outer inner s : String) (fields entries : List (String × Json)) :
    ∃ more, Json.prettyChars 0 (.obj ((outer, .obj ((inner, .str s) :: fields)) :: entries)) =
      beforeFirst outer inner ++ (Json.escape s.toList ++ '"' :: more) := by
  refine ⟨Json.trail 2 (fields.map (Json.entryText 2)) ++ (Json.newline 1 ++ '}' ::
    (Json.trail 1 (entries.map (Json.entryText 1)) ++ (Json.newline 0 ++ ['}']))), ?_⟩
  rw [Json.prettyChars_obj, List.map_cons, Json.block_cons, Json.entryText, Json.prettyChars_obj,
    List.map_cons, Json.block_cons, Json.entryText, Json.prettyChars_str, Json.quoted_eq s, beforeFirst]
  simp only [List.append_assoc, List.cons_append, List.nil_append]

/-- If no escape starts with what follows the backslash, no value is read. -/
theorem readValue_first (outer inner : String) {depth : Nat} {cs : List Char}
    (failed : Json.readText cs = .error .malformed) :
    Json.readValue (depth + 2) (beforeFirst outer inner ++ cs) = .error .malformed := by
  have string : Json.readValue depth ('"' :: cs) = .error .malformed := by
    have passed : (Json.advance : Json.Reader Unit) ('"' :: cs) = .ok ((), cs) := rfl
    rw [Json.readValue_scalar rfl (by decide) (by decide)]
    exact (Json.bind_ok passed).trans (Json.bind_error failed)
  have object := Json.readValue_object_error 1 outer (Json.readValue_object_error 2 inner string)
  rw [beforeFirst]
  simpa only [List.append_assoc, List.cons_append, List.nil_append] using object

/-- The name of the module is the first string of the document, and the namespace is put into the text in
its place, as it is. -/
theorem content_backslash {project : Project} (module : project.settings.moduleName = "Microsoft.Rest")
    (space : project.settings.space = "Contoso\\Client") :
    ∃ rest, project.modelFile.content.toList =
      beforeFirst "settings" "moduleName" ++ ("Contoso\\Client".toList ++ rest) := by
  have legible := SubstitutionTable.legible_legacyRuntime "Contoso\\Client"
  obtain ⟨more, text⟩ : ∃ more, Json.prettyChars 0 project.document =
      beforeFirst "settings" "moduleName" ++
        (Json.escape project.settings.moduleName.toList ++ '"' :: more) := prettyChars_first ..
  have found := SubstitutionTable.startsWith?_escape legible "Microsoft.Rest".toList more
  have name : Json.escape "Microsoft.Rest".toList = "Microsoft.Rest".toList :=
    Json.escape_of_plain (by decide)
  have entry : SubstitutionTable.startsWith? (legacyRuntime "Contoso\\Client").pairs
      "Microsoft.Rest".toList = some ("Microsoft.Rest".toList, "Contoso\\Client".toList) := by
    decide +kernel
  rw [name, entry] at found
  have quiet := SubstitutionTable.turns_of_quiet legible.marked (beforeFirst "settings" "moduleName")
    (by decide)
  refine ⟨SubstitutionTable.rewrite (legacyRuntime "Contoso\\Client").pairs ('"' :: more), ?_⟩
  rw [modelFile, substitutions, space, SubstitutionTable.toList_apply, Json.pretty,
    String.toList_ofList, text, module, name, quiet,
    SubstitutionTable.rewrite_of_some (by decide) found]

/-- A backslash in the namespace starts an escape that there is none of. -/
theorem decode_backslash {project : Project} (module : project.settings.moduleName = "Microsoft.Rest")
    (space : project.settings.space = "Contoso\\Client") :
    Json.decode project.modelFile.content = .error .malformed := by
  obtain ⟨rest, content⟩ := content_backslash module space
  -- The string is read up to the backslash, and `C` is no escape.
  have failed : Json.readText ("Contoso\\Client".toList ++ rest) = .error .malformed := by
    have split : "Contoso\\Client".toList = Json.escape "Contoso".toList ++ "\\Client".toList := by
      decide
    rw [split, List.append_assoc, Json.readText_escape_append]
    rfl
  have read : Json.readValue 127 (beforeFirst "settings" "moduleName" ++
      ("Contoso\\Client".toList ++ rest)) = .error .malformed :=
    readValue_first "settings" "moduleName" failed
  rw [Json.decode, Json.readWhole, content, Json.maxDepth, read]
  rfl

/-- The name of the module is a legacy name, and the namespace has a backslash. -/
def backslashed : Config :=
  ⟨[(.str "module-version", .str "1.0"), (.str "module-name", .str "Microsoft.Rest"),
    (.str "dll-name", .str "Client"), (.str "namespace", .str "Contoso\\Client")]⟩

theorem backslashed_malformed : ∃ project after file,
    (Assembly.run backslashed {} []).1 = .assembled project ∧
      (project.emit .csproj).run.run {} = (.ok (), after) ∧
      after.get? project.modelPath = some file ∧ Json.decode file.content = .error .malformed := by
  have checked : (Assembly.run backslashed {} []).1.project?.any (fun project =>
      project.settings.moduleName = "Microsoft.Rest" && project.settings.space = "Contoso\\Client" &&
        ((project.emit .csproj).run.run {}).1.isOk) = true := by decide +kernel
  obtain ⟨project, assembled, checked⟩ := Outcome.exists_of_any checked
  simp only [Bool.and_eq_true, decide_eq_true_eq] at checked
  obtain ⟨⟨module, space⟩, succeeds⟩ := checked
  obtain ⟨after, emitted⟩ := exists_of_isOk succeeds
  exact ⟨project, after, _, assembled, emitted, get?_modelPath emitted, decode_backslash module space⟩

end Project
end CmdletForge
