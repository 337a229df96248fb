/-!
# JSON values

Numbers are 64-bit integers or doubles; an object is the list of its entries. A value in
*canonical* form has the keys of every object in increasing order and each key once, the last
entry of a repeated key being the one that counts.
-/

namespace CmdletForge

/-- A JSON number: an integer that fits 64 bits, or a finite double. -/
inductive Number where
  | int (n : Int)
  | float (x : Float)
deriving BEq, Inhabited

/-- A JSON value. -/
inductive Json where
  | null
  | bool (b : Bool)
  | num (n : Number)
  | str (s : String)
  | arr (items : List Json)
  | obj (entries : List (String × Json))
deriving BEq, Inhabited

namespace Json

/-- Entries in key order with `key` set to `value`. -/
def insertEntry {α : Type} (key : String) (value : α) : List (String × α) → List (String × α)
  | [] => [(key, value)]
  | (k, v) :: rest =>
    if key < k then (key, value) :: (k, v) :: rest
    else if key = k then (key, value) :: rest
    else (k, v) :: insertEntry key value rest

/-- Entries in key order, each key with its last value. -/
def sortEntries {α : Type} (entries : List (String × α)) : List (String × α) :=
  entries.foldl (fun sorted entry => insertEntry entry.1 entry.2 sorted) []

/-- The canonical object of some entries. -/
def object (entries : List (String × Json)) : Json := .obj (sortEntries entries)

/-- The value of a key, of an object. -/
def get? (key : String) : Json → Option Json
  | .obj entries => entries.lookup key
  | _ => none

/-- The integer `n` as a JSON number. -/
def ofNat (n : Nat) : Json := .num (.int n)

/-- A text or null. -/
def ofText? : Option String → Json
  | none => .null
  | some s => .str s

/-- An array of texts. -/
def ofTexts (texts : List String) : Json := .arr (texts.map .str)

end Json
end CmdletForge
