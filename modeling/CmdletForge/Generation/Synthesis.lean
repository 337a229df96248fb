import CmdletForge.Namespace.Basic
import CmdletForge.Types.Resolver

/-!
# Steps of a generation

A step looks at the model and the resolver, and changes the registry of types and the report. It
may stop, with all that was reported before.
-/

namespace CmdletForge

/-- What a generation works on. -/
structure Source where
  model : Model
  resolver : Resolver

/-- The state of a generation. -/
structure Run where
  registry : Registry := {}
  report : Report := {}

/-- A step of a generation. -/
abbrev Synthesis := ReaderT Source (ExceptT Stop (StateM Run))

namespace Synthesis

/-- A step that only reports. -/
def report {α : Type} (reporting : Reporting α) : Synthesis α :=
  modifyGet fun run =>
    let (x, report) := reporting.run run.report
    (x, { run with report })

/-- Adds a line to the log. -/
def note (line : LogLine) : Synthesis Unit := report (CmdletForge.note line)

/-- Stops with a failure. -/
def fail {α : Type} (failure : Failure) : Synthesis α := throw (.failure failure)

/-- The result of a call that may fail. -/
def orFail {α : Type} : Except Failure α → Synthesis α
  | .ok x => pure x
  | .error failure => fail failure

/-- The schema at a position, which must be there. -/
def schema (id : SchemaId) : Synthesis Schema := do
  match (← read).model.schema? id with
  | some schema => pure schema
  | none => throw (.noSchema id)

/-- Makes a namespace the owner of new types. -/
def setOwner (space : String) : Synthesis Unit := do
  note (Registry.ownerLine space)
  modify fun run => { run with registry := run.registry.setOwner space }

/-- The type that waits longest to be defined. -/
def nextPending : Synthesis (Option SchemaId) :=
  modifyGet fun run =>
    let (id, registry) := run.registry.nextPending
    (id, { run with registry })

/-- Adds lines to the log. -/
def noteAll (lines : List LogLine) : Synthesis Unit := lines.forM note

/-- Logs a type that was registered. -/
def noteType (type : TypeRef) : Synthesis Unit := do
  noteAll (Registry.typeLines (← schema type.schema) type)

/-- Logs the types that were registered after an earlier state. -/
def noteNew (before : Registry) : Synthesis Unit := do
  ((← get).registry.newSince before).forM noteType

/-- The declaration of a schema. A failure is recorded, and leaves no declaration. -/
def declare? (id : SchemaId) (required : Bool) : Synthesis (Option Declaration) := do
  let source ← read
  let before := (← get).registry
  match (source.resolver.resolve source.model id required).run before with
  | .ok (declaration, registry) =>
    modify fun run => { run with registry }
    noteNew before
    pure (some declaration)
  | .error (.failure failure) =>
    report (record failure)
    pure none
  | .error stop => throw stop

/-- Opens a namespace. -/
def «begin» {δ : Type} [Named δ] (space : Namespace δ) : Synthesis (Namespace δ) := do
  let opened ← orFail space.begin
  note (opened.phaseLine space.phase)
  pure opened

/-- Seals a namespace. -/
def finalize {δ : Type} [Named δ] (space : Namespace δ) : Synthesis (Namespace δ) := do
  let sealed ← orFail space.finalize
  note (sealed.phaseLine space.phase)
  pure sealed

end Synthesis
end CmdletForge
