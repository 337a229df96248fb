import CmdletForge.Data.Format
import CmdletForge.Yaml.Node
import CmdletForge.Yaml.Resolution

/-!
# Reading YAML

Typed data in YAML, read along the tree of a document. An alias is followed wherever it stands, as
long as not too many have been. The first value of the wrong shape counts, and where it stands.

A text may be any scalar as it is written, and what has no text of its own is an empty list, mapping
or record; but a record is never a list. `valueOf` reads a text as untyped data.
-/

namespace CmdletForge.Yaml

/-- Where a value stands: the way from the root. -/
inductive Path where
  | root
  | item (outer : Path) (index : Nat)
  | entry (outer : Path) (key : String)
  | unknown (outer : Path)

namespace Path

/-- The wording of a path; the root is a dot. -/
def render : Path → String
  | .root => "."
  | .item outer index => outer.render ++ "[" ++ toString index ++ "]"
  | .entry .root key => key
  | .entry outer key => outer.render ++ "." ++ key
  | .unknown .root => "?"
  | .unknown outer => outer.render ++ ".?"

end Path

/-- Why a text cannot be read. -/
inductive ReadError where
  | unreadable
  | tooDeep
  | tooManyAliases
  | mismatch (m : Mismatch) (path : Option Path)

/-- The words of YAML: doubles have no exponent. -/
def wording : Wording := ⟨"unit value", Decimal.messageText⟩

/-- The wording of an error, with the path of what has the wrong shape. An unreadable text has
none. -/
def ReadError.message? : ReadError → Option String
  | .unreadable => none
  | .tooDeep => some "recursion limit exceeded"
  | .tooManyAliases => some "repetition limit exceeded"
  | .mismatch m path =>
    let shown := (path.map Path.render).getD "."
    some ((if shown = "." then "" else shown ++ ": ") ++ m.message wording)

/-- The node in front and where it stands. -/
structure Place where
  document : Document
  node : Node
  path : Path

/-- A reader looks at a node; it counts the aliases that were followed. -/
abbrev Reader := ReaderT Place (StateT Nat (Except ReadError))

/-- Fails with data of the wrong shape, at no place yet. -/
def mismatch {α : Type} (m : Mismatch) : Reader α := throw (.mismatch m none)

/-- The reader, with its failures placed here unless they have a place. -/
def located {α : Type} (reader : Reader α) : Reader α := fun place => do
  try reader place
  catch
    | .mismatch m none => throw (.mismatch m (some place.path))
    | e => throw e

/-- The reader at another node, in the same place. -/
def onNode {α : Type} (node : Node) (reader : Reader α) : Reader α := fun place =>
  reader { place with node }

/-- The reader at a node of its own place. -/
def inside {α : Type} (node : Node) (step : Path → Path) (reader : Reader α) : Reader α := fun place =>
  reader { place with node, path := step place.path }

/-- The reader at what the alias in front stands for, if there is one. At most a hundred aliases for
each event of the document are followed. -/
def follow {α : Type} (reader : Reader α) : Reader α := fun place => do
  match place.node with
  | .alias anchor =>
    let count := (← get) + 1
    set count
    if place.document.size * 100 < count then throw .tooManyAliases
    else
      match place.document.target? anchor with
      | some node => reader { place with node }
      | none => throw .unreadable
  | _ => reader place

/-- Refuses the node in front, naming its kind. -/
def unexpected {α : Type} (expected : String) : Reader α := do
  match (← read).node with
  | .scalar tag text style =>
    match scalarKind tag text style with
    | .ok found => mismatch (.invalidType found expected)
    | .error m => mismatch m
  | .sequence _ _ => mismatch (.invalidType .sequence expected)
  | .mapping _ _ => mismatch (.invalidType .map expected)
  | _ => throw .unreadable

/-! ## Scalars -/

/-- The text of a scalar as it is written. -/
def textReader (expected : String) : Reader String := located <| follow do
  match (← read).node with
  | .scalar _ text _ => pure text
  | _ => unexpected expected

/-- True or false: a plain scalar, or a literal one with the tag for it. -/
def flagReader : Reader Bool := located <| follow do
  match (← read).node with
  | .scalar tag text style =>
    if style = .plain || (style = .literal && tag = some (.standard "bool")) then
      match boolOf? text with
      | some b => pure b
      | none => unexpected "a boolean"
    else unexpected "a boolean"
  | _ => unexpected "a boolean"

/-- Nothing, or what the reader finds. Only a plain scalar may be nothing. -/
def optionalReader {α : Type} (reader : Reader α) : Reader (Option α) := follow do
  match (← read).node with
  | .scalar tag text .plain =>
    match tag with
    | none => if text.isEmpty || isNullText text then pure none else some <$> reader
    | some tag =>
      if tag = .standard "null" then
        if isNullText text then pure none else mismatch (.invalidValue (.text text) "null")
      else some <$> reader
  | .void => pure none
  | _ => some <$> reader

/-- Nothing, after a tag. A scalar is nothing only if it is plain. -/
def unitReader : Reader Unit := located do
  match (← read).node with
  | .scalar _ text style =>
    if style = .plain && (text.isEmpty || isNullText text) then pure ()
    else mismatch (.invalidValue (.text text) "null")
  | _ => unexpected "unit"

/-- The place of a word among the known ones. -/
def variant (known : List String) (name : String) : Reader Nat :=
  match known.idxOf? name with
  | some index => pure index
  | none => mismatch (.unknownVariant name known)

/-- One of the known words: a scalar, or a tag on nothing. -/
def choiceReader (known : List String) : Reader Nat := follow do
  let byTag (tag : Option Tag) (otherwise : Reader Nat) : Reader Nat :=
    match tag.bind Tag.ownName? with
    | some name => do
      let index ← variant known name
      unitReader
      pure index
    | none => otherwise
  let tagless (found : Found) : Reader Nat :=
    located (mismatch (.invalidType found "a YAML tag starting with '!'"))
  match (← read).node with
  | .scalar tag text _ => byTag tag (located (variant known text))
  | .sequence tag _ => byTag tag (tagless .sequence)
  | .mapping tag _ => byTag tag (tagless .map)
  | _ => throw .unreadable

/-! ## Collections -/

/-- What the reader finds at each item. -/
def readItems {α : Type} (item : Reader α) : (index : Nat) → List Node → Reader (List α)
  | _, [] => pure []
  | index, node :: rest => do
    let x ← inside node (·.item index) item
    let xs ← readItems item (index + 1) rest
    pure (x :: xs)

/-- The place of a key's value. -/
def valuePath : Node → Path → Path
  | .scalar _ text _, outer => .entry outer text
  | _, outer => .unknown outer

/-- What the readers find at each entry. -/
def readEntries {κ α : Type} (key : Reader κ) (value : Reader α) :
    List (Node × Node) → Reader (List (κ × α))
  | [] => pure []
  | (k, v) :: rest => do
    let x ← onNode k key
    let y ← inside v (valuePath k) value
    let entries ← readEntries key value rest
    pure ((x, y) :: entries)

/-- Opens a collection, if one more may nest. -/
def enter (depth : Nat) : Reader Unit := if depth = 0 then throw .tooDeep else pure ()

/-- A list. -/
def listReader {α : Type} (depth : Nat) (item : Reader α) : Reader (List α) := located <| follow do
  match (← read).node with
  | .sequence _ items =>
    enter depth
    readItems item 0 items
  | .scalar _ "" .plain => pure []
  | .void => pure []
  | _ => unexpected "a sequence"

/-- The reader at the entries of the mapping in front. -/
def atEntries {α : Type} (depth : Nat) (expected : String)
    (reader : List (Node × Node) → Reader α) : Reader α := located <| follow do
  match (← read).node with
  | .mapping _ entries =>
    enter depth
    reader entries
  | .scalar _ "" .plain => reader []
  | .void => reader []
  | _ => unexpected expected

/-- The entries of a mapping. -/
def entriesReader {α : Type} (depth : Nat) (value : Reader α) : Reader (List (String × α)) :=
  atEntries depth "a map" (readEntries (textReader "a string") value)

/-- The fields of a record; others are passed over. -/
def readFields {σ : Type} (shape : RecordShape) (field : Nat → σ → Reader σ) :
    (seen : List Nat) → List (Node × Node) → σ → Reader σ
  | seen, [], record =>
    match shape.missing? seen with
    | some name => mismatch (.missingField name)
    | none => pure record
  | seen, (k, v) :: rest, record => do
    let key ← onNode k (textReader "field identifier")
    match shape.index? key with
    | some index =>
      if index ∈ seen then mismatch (.duplicateField (shape.nameAt index))
      else
        let record ← inside v (valuePath k) (field index record)
        readFields shape field (index :: seen) rest record
    | none => readFields shape field seen rest record

/-- A record. -/
def recordReader {σ : Type} (depth : Nat) (shape : RecordShape) (record : σ)
    (field : Nat → σ → Reader σ) : Reader σ :=
  atEntries depth shape.title fun entries => readFields shape field [] entries record

/-! ## Values -/

/-- A JSON value that is no container. A float that JSON has no number for is null. -/
def jsonScalar : Found → Reader Json
  | .bool b => pure (.bool b)
  | .int n => pure (.num (.int n))
  | .minusZero => pure (.num (.int 0))
  | .float x => pure (if x.isFinite then .num (.float x) else .null)
  | .text s => pure (.str s)
  | .wide _ => mismatch .numberOutOfRange
  | _ => pure .null

/-- An untyped value that is no container. -/
def plainValue (expected : String) : Found → Reader Value
  | .bool b => pure (.bool b)
  | .int n => pure (.int n)
  | .minusZero => pure .minusZero
  | .float x => pure (.float x)
  | .text s => pure (.str s)
  | .wide n => mismatch (.invalidType (.wide n) expected)
  | _ => pure .null

/-- What a scalar is. -/
def kindReader (tag : Option Tag) (text : String) (style : ScalarStyle) : Reader Found :=
  match scalarKind tag text style with
  | .ok found => pure found
  | .error m => mismatch m

/-- A node by its kind, unless it has a tag with a name of its own. -/
def byKind {α : Type} (depth : Nat) (tagged : String → Reader α) (scalar : Found → Reader α)
    (sequence : List Node → Reader α) (mapping : List (Node × Node) → Reader α) : Reader α :=
  located <| follow do
    let untagged (tag : Option Tag) (reader : Reader α) : Reader α :=
      match tag.bind Tag.ownName? with
      | some name => tagged name
      | none => reader
    match (← read).node with
    | .scalar tag text style => untagged tag (kindReader tag text style >>= scalar)
    | .sequence tag items => untagged tag do
      enter depth
      sequence items
    | .mapping tag entries => untagged tag do
      enter depth
      mapping entries
    | .void => scalar .unit
    | _ => throw .unreadable

/-- The entries of a JSON object. Only the first key is asked for by what it is. -/
def readJsonEntries (value : Reader Json) : List (Node × Node) → Reader (List (String × Json))
  | [] => pure []
  | first :: rest => do
    let entry ← readEntries (textReader "a string key") value [first]
    let entries ← readEntries (textReader "a string") value rest
    pure (entry ++ entries)

/-- A JSON value. -/
def jsonReader : (depth : Nat) → Reader Json
  | 0 => byKind 0 refuseTag jsonScalar (fun _ => throw .tooDeep) (fun _ => throw .tooDeep)
  | depth + 1 =>
    byKind (depth + 1) refuseTag jsonScalar
      (fun items => return .arr (← readItems (jsonReader depth) 0 items))
      (fun entries => return Json.object (← readJsonEntries (jsonReader depth) entries))
where
  /-- JSON has no tags. -/
  refuseTag (_ : String) : Reader Json := mismatch (.invalidType .tagged "any valid JSON value")

/-- An untyped value without tags. -/
def untypedReader : (depth : Nat) → Reader Value
  | 0 => byKind 0 refuseTag (plainValue "any value") (fun _ => throw .tooDeep) (fun _ => throw .tooDeep)
  | depth + 1 =>
    byKind (depth + 1) refuseTag (plainValue "any value")
      (fun items => return .seq (← readItems (untypedReader depth) 0 items))
      (fun entries => return .map (← readEntries (untypedReader depth) (untypedReader depth) entries))
where
  /-- A tag cannot be kept. -/
  refuseTag (_ : String) : Reader Value := mismatch .tagInUntagged

/-- The entries of a mapping that has each key once. -/
def readUnique (key value : Reader Value) :
    (seen : List Value) → List (Node × Node) → Reader (List (Value × Value))
  | _, [] => pure []
  | seen, (k, v) :: rest => do
    let x ← onNode k key
    match seen.find? (Value.alike x) with
    | some first => mismatch (.duplicateKey first)
    | none =>
      let y ← inside v (valuePath k) value
      let entries ← readUnique key value (x :: seen) rest
      pure ((x, y) :: entries)

/-- How the items of a sequence and the entries of a mapping are read. For a mapping it counts
whether a tag was taken off it. -/
structure ContentReaders where
  sequence : List Node → Reader Value
  mapping : (taken : Bool) → List (Node × Node) → Reader Value

namespace ContentReaders

/-- A value whose tag is not looked at. -/
def bare (content : ContentReaders) (depth : Nat) : Reader Value := located do
  match (← read).node with
  | .scalar _ text style => plainValue "any YAML value" (writtenKind text style)
  | .sequence _ items =>
    enter depth
    content.sequence items
  | .mapping _ entries =>
    enter depth
    content.mapping true entries
  | _ => throw .unreadable

/-- A value with its tag, if it has one of its own. -/
def value (content : ContentReaders) (depth : Nat) : Reader Value :=
  byKind depth (fun tag => return .tagged tag (← content.bare depth))
    (plainValue "any YAML value") content.sequence (content.mapping false)

/-- A key of a mapping whose tag was taken off: it loses its tag as well, unless it is an alias. -/
def takenKey (content : ContentReaders) (depth : Nat) : Reader Value := do
  match (← read).node with
  | .alias _ => content.value depth
  | _ => content.bare depth

end ContentReaders

/-- How containers are read that nest up to a depth. -/
def contentReaders : (depth : Nat) → ContentReaders
  | 0 => ⟨fun _ => throw .tooDeep, fun _ _ => throw .tooDeep⟩
  | depth + 1 =>
    let content := contentReaders depth
    ⟨fun items => return .seq (← readItems (content.value depth) 0 items),
      fun taken entries => do
        let key := if taken then content.takenKey depth else content.value depth
        return .map (← readUnique key (content.value depth) [] entries)⟩

/-- An untyped value, with its tags. -/
def valueReader (depth : Nat) : Reader Value := (contentReaders depth).value depth

/-! ## Documents -/

/-- YAML as a format of typed data. -/
def format : Format Reader where
  text := textReader "a string"
  flag := flagReader
  optional := optionalReader
  choice := choiceReader
  listOf := listReader
  entriesOf := entriesReader
  record := recordReader
  json := jsonReader
  untyped := untypedReader

/-- How deep collections may nest. -/
def maxDepth : Nat := 128

/-- Reads a whole text, which must be one document. -/
def readWhole {α : Type} (reader : Reader α) (text : String) : Except ReadError α := do
  match Document.ofText? text with
  | none => .error .unreadable
  | some document =>
    let (x, _) ← (reader ⟨document, document.root, .root⟩).run 0
    .ok x

/-- A text as untyped data. -/
def valueOf (text : String) : Except ReadError Value := readWhole (valueReader maxDepth) text

end CmdletForge.Yaml
