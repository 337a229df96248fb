import CmdletForge.Json.Value

/-!
# Untyped data

A tree of scalars, sequences and mappings as a text gives it, before a shape is expected of it.
Keys may be any value and may repeat; a tag of its own may stand on a value, and is kept without the
mark that opens it.
-/

namespace CmdletForge

/-- An untyped value. -/
inductive Value where
  | null
  | bool (b : Bool)
  | int (n : Int)
  /-- The integer zero with a minus sign. -/
  | minusZero
  | float (x : Float)
  | str (s : String)
  | seq (items : List Value)
  | map (entries : List (Value × Value))
  | tagged (tag : String) (value : Value)
deriving Inhabited

namespace Value

mutual

/-- How many containers lie around the innermost value. -/
def depth : Value → Nat
  | .seq items => depthOfItems items + 1
  | .map entries => depthOfEntries entries + 1
  | .tagged _ value => depth value
  | _ => 0

/-- The greatest depth among items. -/
def depthOfItems : List Value → Nat
  | [] => 0
  | item :: rest => max (depth item) (depthOfItems rest)

/-- The greatest depth among keys and values. -/
def depthOfEntries : List (Value × Value) → Nat
  | [] => 0
  | (key, value) :: rest => max (max (depth key) (depth value)) (depthOfEntries rest)

end

mutual

/-- Equality of values as keys: numbers of one kind by value (a NaN equals a NaN), mappings
whatever the order of their entries, tags by their name. -/
def alike : Value → Value → Bool
  | .null, .null => true
  | .bool a, .bool b => a == b
  | .int a, .int b => a == b
  | .int a, .minusZero => a == 0
  | .minusZero, .int b => b == 0
  | .minusZero, .minusZero => true
  | .float a, .float b => (a.isNaN && b.isNaN) || a == b
  | .str a, .str b => a == b
  | .seq as, .seq bs => alikeItems as bs
  | .map as, .map bs => as.length == bs.length && alikeEntries as bs
  | .tagged s a, .tagged t b => bareTag s == bareTag t && alike a b
  | _, _ => false
where
  /-- A tag without a second mark, unless the mark is all there is. -/
  bareTag (tag : String) : List Char :=
    match tag.toList with
    | ['!'] => ['!']
    | '!' :: rest => rest
    | rest => rest

/-- Item by item. -/
def alikeItems : List Value → List Value → Bool
  | [], [] => true
  | a :: as, b :: bs => alike a b && alikeItems as bs
  | _, _ => false

/-- Every entry of the first mapping is in the second. -/
def alikeEntries : List (Value × Value) → List (Value × Value) → Bool
  | [], _ => true
  | (k, v) :: rest, bs =>
    (match bs.find? fun entry => alike k entry.1 with
      | some entry => alike v entry.2
      | none => false) && alikeEntries rest bs

end

/-- The value under its tags. -/
def untagged : Value → Value
  | .tagged _ value => untagged value
  | value => value

/-- The value is null, whatever tags are on it. -/
def isNull (value : Value) : Bool :=
  match value.untagged with
  | .null => true
  | _ => false

/-- A number as an untyped value. -/
def ofNumber : Number → Value
  | .int n => .int n
  | .float x => .float x

mutual

/-- A JSON value as untyped data. -/
def ofJson : Json → Value
  | .null => .null
  | .bool b => .bool b
  | .num n => ofNumber n
  | .str s => .str s
  | .arr items => .seq (ofJsonItems items)
  | .obj entries => .map (ofJsonEntries entries)

/-- The items of a JSON array as untyped data. -/
def ofJsonItems : List Json → List Value
  | [] => []
  | item :: rest => ofJson item :: ofJsonItems rest

/-- The entries of a JSON object as untyped data. -/
def ofJsonEntries : List (String × Json) → List (Value × Value)
  | [] => []
  | (key, value) :: rest => (.str key, ofJson value) :: ofJsonEntries rest

end

end Value
end CmdletForge
