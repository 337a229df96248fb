/-!
# Names kept apart by a number

A name that is taken gets the least number from 1 on that makes it free. Among as many numbers as
there are taken names one is free, so the search is bounded by the list.
-/

namespace CmdletForge.Naming

/-- `candidate` followed by `n` in decimal. -/
def numbered (candidate : String) (n : Nat) : String := candidate ++ toString n

/-- `candidate` if it is free, else the first free `candidate1`, `candidate2`, … -/
def uniqueName (taken : List String) (candidate : String) : String :=
  if candidate ∈ taken then
    (((List.range taken.length).map fun n => numbered candidate (n + 1)).find?
      fun name => name ∉ taken).getD candidate
  else candidate

/-- Unique names for the candidates in order, each one taken from then on. -/
def uniqueNames (taken : List String) : List String → List String
  | [] => []
  | candidate :: rest =>
    let name := uniqueName taken candidate
    name :: uniqueNames (name :: taken) rest

end CmdletForge.Naming
