import CmdletForge.Generation.Report

/-!
# Namespaces of definitions

A namespace holds definitions in the order in which they were added, each under a name of its own.
It goes through its phases once: definitions are added and changed while it is being initialized,
and never after it is finalized. A call in the wrong phase fails and changes nothing.
-/

namespace CmdletForge

/-- Definitions have a name. -/
class Named (δ : Type) where
  name : δ → String

/-- A namespace. -/
structure Namespace (δ : Type) where
  fullName : String
  phase : Phase := .constructed
  definitions : List δ := []

namespace Namespace

variable {δ : Type} [Named δ]

/-- The failure of a call in the wrong phase. -/
def wrongPhase (space : Namespace δ) : Failure := .wrongPhase space.fullName space.phase

/-- The definition with a name. -/
def get? (space : Namespace δ) (name : String) : Option δ :=
  space.definitions.find? fun definition => Named.name definition = name

/-- There is a definition with the name. -/
def contains (space : Namespace δ) (name : String) : Bool := (space.get? name).isSome

/-- The names of the definitions, in order. -/
def names (space : Namespace δ) : List String := space.definitions.map Named.name

/-- How many definitions there are. -/
def size (space : Namespace δ) : Nat := space.definitions.length

/-- Opens the namespace for definitions. -/
def begin (space : Namespace δ) : Except Failure (Namespace δ) :=
  if space.phase = .constructed then .ok { space with phase := .initializing }
  else .error space.wrongPhase

/-- Seals the namespace. One that was never opened may be sealed as well. -/
def finalize (space : Namespace δ) : Except Failure (Namespace δ) :=
  if space.phase = .finalized then .error space.wrongPhase
  else .ok { space with phase := .finalized }

/-- Adds a definition at the end; its name must be free. -/
def insert (space : Namespace δ) (definition : δ) : Except Failure (Namespace δ) :=
  if space.phase = .initializing then
    if space.contains (Named.name definition) then
      .error (.duplicateDefinition space.fullName (Named.name definition))
    else .ok { space with definitions := space.definitions ++ [definition] }
  else .error space.wrongPhase

/-- Changes the first definition with the name in a list. -/
def changeFirst (name : String) (change : δ → δ) : List δ → List δ
  | [] => []
  | definition :: rest =>
    if Named.name definition = name then change definition :: rest
    else definition :: changeFirst name change rest

/-- Changes the definition with a name, which must stay as it is; nothing where there is none. -/
def update (space : Namespace δ) (name : String) (change : δ → δ) :
    Except Failure (Option (Namespace δ)) :=
  if space.phase = .initializing then
    if space.contains name then
      .ok (some { space with definitions := changeFirst name change space.definitions })
    else .ok none
  else .error space.wrongPhase

/-- What the log says when a namespace has gone into another phase. -/
def phaseLine (space : Namespace δ) (before : Phase) : LogLine :=
  .debug "namespace state change"
    [("namespace", .text space.fullName), ("from", .text before.name), ("to", .text space.phase.name)]

end Namespace
end CmdletForge
