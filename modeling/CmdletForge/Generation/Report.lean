import CmdletForge.Generation.Failure

/-!
# What a generation reports

The checkpoint: the failures collected so far, each once, in the order they were met. The log: a
line for every step of note. Both only grow.
-/

namespace CmdletForge

/-- How much a line of the log matters. -/
inductive Severity where
  | warning
  | info
  | debug
deriving DecidableEq

/-- What a line of the log says of something. -/
inductive Detail where
  | text (s : String)
  | count (n : Nat)
deriving DecidableEq

/-- A line of the log. -/
structure LogLine where
  severity : Severity
  message : String
  details : List (String × Detail)
deriving DecidableEq

namespace LogLine

/-- A warning. -/
def warning (message : String) (details : List (String × Detail)) : LogLine :=
  ⟨.warning, message, details⟩

/-- A line on the course of the generation. -/
def info (message : String) (details : List (String × Detail)) : LogLine := ⟨.info, message, details⟩

/-- A line on a single step. -/
def debug (message : String) (details : List (String × Detail)) : LogLine := ⟨.debug, message, details⟩

end LogLine

/-- The failures collected so far. -/
structure Checkpoint where
  failures : List Failure := []

namespace Checkpoint

/-- Adds a failure, unless it is there already. -/
def record (checkpoint : Checkpoint) (failure : Failure) : Checkpoint :=
  if failure ∈ checkpoint.failures then checkpoint
  else ⟨checkpoint.failures ++ [failure]⟩

/-- Nothing has failed. -/
def isClean (checkpoint : Checkpoint) : Bool := checkpoint.failures.isEmpty

/-- What the log says of a failure that is recorded. -/
def recordLine (checkpoint : Checkpoint) (failure : Failure) : LogLine :=
  let details := [("error", Detail.text failure.message)]
  if failure ∈ checkpoint.failures then .debug "duplicate generation error ignored" details
  else .warning "generation error recorded" details

/-- What the log says when the generation gives up. -/
def abortLine (checkpoint : Checkpoint) : LogLine :=
  .warning "generation aborted at checkpoint" [("count", .count checkpoint.failures.length)]

/-- What the log says when the checkpoint decides whether the generation goes on. -/
def checkLine (checkpoint : Checkpoint) : LogLine :=
  if checkpoint.isClean then .info "checkpoint passed" [] else checkpoint.abortLine

end Checkpoint

/-- The checkpoint and the log. -/
structure Report where
  checkpoint : Checkpoint := {}
  log : Array LogLine := #[]

/-- Adds a line to the log. -/
def Report.note (report : Report) (line : LogLine) : Report := { report with log := report.log.push line }

/-- Records a failure. -/
def Report.record (report : Report) (failure : Failure) : Report :=
  { report.note (report.checkpoint.recordLine failure) with
    checkpoint := report.checkpoint.record failure }

/-- Steps that report. -/
abbrev Reporting := StateM Report

/-- Adds a line to the log. -/
def note (line : LogLine) : Reporting Unit := modify (·.note line)

/-- Records a failure. -/
def record (failure : Failure) : Reporting Unit := modify (·.record failure)

end CmdletForge
