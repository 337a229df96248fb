import CmdletForge.Yaml.Token

/-!
# The events of a YAML document

An event is a scalar, an alias, or the start or end of a collection. Which event a token gives
depends on what is expected at its place: `Expectation` names these places, and a stack of them
stands for the collections that are open. A place where no node stands gives an empty plain scalar.

Events are given one by one. Those of a text at fault end with the fault, and never with the end of
the stream.
-/

namespace CmdletForge.Yaml

/-- An event. Nodes carry the name of their anchor and their tag. -/
inductive Event where
  | streamStart
  | streamEnd
  | documentStart
  | documentEnd
  | alias (name : String)
  | scalar (anchor : Option String) (tag : Option Tag) (text : String) (style : ScalarStyle)
  | sequenceStart (anchor : Option String) (tag : Option Tag)
  | sequenceEnd
  | mappingStart (anchor : Option String) (tag : Option Tag)
  | mappingEnd
deriving DecidableEq

/-- What may stand at a place. `first` says that the opening token of the collection is still in
front; a loose item is one of a sequence whose dashes are not indented. -/
inductive Expectation where
  | streamStart
  | document (first : Bool)
  | content
  | documentEnd
  | node
  | item (first : Bool)
  | looseItem
  | key (first : Bool)
  | value
  | flowItem (first : Bool)
  | pairKey
  | pairValue
  | pairEnd
  | flowKey (first : Bool)
  | flowValue
  | noValue
deriving DecidableEq

/-- The tokens of a text, what is expected next (innermost first), and the tag handles of the
document with what they stand for. -/
structure EventSource where
  tokens : TokenSource
  expected : List Expectation
  handles : List (String × List UInt8)

namespace EventSource

/-- The source of a text's events. -/
def ofText (text : List Char) : EventSource := ⟨TokenSource.ofText text, [.streamStart], []⟩

/-- The token in front. -/
def peek (s : EventSource) : Option (Token × EventSource) :=
  s.tokens.peek.map fun (token, tokens) => (token, { s with tokens })

/-- Past the token in front. -/
def advance (s : EventSource) : EventSource := { s with tokens := s.tokens.next }

/-- The token after the one in front. -/
def peekNext (s : EventSource) : Option (Token × EventSource) := s.advance.peek

/-- An empty plain scalar, with `expected` after it. -/
def absent (s : EventSource) (expected : List Expectation) : Event × EventSource :=
  (.scalar none none "" .plain, { s with expected })

/-! ## Directives -/

/-- The handles that every document knows. -/
def knownHandles : List (String × List UInt8) :=
  [("!", (Tag.ofText "!").bytes), ("!!", (Tag.standard "").bytes)]

/-- The directives in front: at most one version, 1.1 or 1.2, and each handle once. -/
def readDirectives : (steps : Nat) → (versionSeen : Bool) → EventSource → Option (Token × EventSource)
  | 0, _, _ => none
  | steps + 1, versionSeen, s => do
    let (token, s) ← s.peek
    match token with
    | .versionDirective major minor =>
      if versionSeen || major ≠ 1 || (minor ≠ 1 && minor ≠ 2) then none
      else readDirectives steps true s.advance
    | .tagDirective handle expansion =>
      if (s.handles.lookup handle).isSome then none
      else readDirectives steps versionSeen { s with handles := s.handles ++ [(handle, expansion)] }.advance
    | token => some (token, { s with handles := s.handles ++ knownHandles })

/-- Past the marks of a document's end. -/
def skipEnds : (steps : Nat) → EventSource → Option (Token × EventSource)
  | 0, _ => none
  | steps + 1, s => do
    let (token, s) ← s.peek
    if token = .documentEnd then skipEnds steps s.advance else some (token, s)

/-- As many steps as there are tokens, at most. -/
def steps (s : EventSource) : Nat := s.tokens.cursor.steps + s.tokens.waiting.length + 1

/-- A document or the end of the stream. Only the first document may open without a mark. -/
def readDocument (s : EventSource) (first : Bool) : Option (Event × EventSource) := do
  let (token, s) ← if first then s.peek else skipEnds s.steps s
  match token with
  | .streamEnd => some (.streamEnd, { s with expected := [] }.advance)
  | token =>
    let opensPlain := match token with
      | .versionDirective _ _ | .tagDirective _ _ | .documentStart => false
      | _ => first
    let (token, s) ← readDirectives s.steps false s
    if opensPlain then some (.documentStart, { s with expected := [.node, .documentEnd] })
    else if token = .documentStart then
      some (.documentStart, { s with expected := [.content, .documentEnd] }.advance)
    else none

/-! ## Nodes -/

/-- A tag in full. An empty handle stands for nothing. -/
def resolveTag (s : EventSource) (handle : String) (suffix : List UInt8) : Option Tag :=
  if handle.isEmpty then some ⟨suffix⟩
  else (s.handles.lookup handle).map fun expansion => ⟨expansion ++ suffix⟩

/-- The anchor and the tag in front, in either order, and the token after them. -/
def readProperties (s : EventSource) :
    Option (Option String × Option Tag × Token × EventSource) := do
  let (token, s) ← s.peek
  match token with
  | .anchor name =>
    let (token, s) ← s.peekNext
    match token with
    | .tag handle suffix =>
      let (token, s) ← s.peekNext
      some (some name, some (← s.resolveTag handle suffix), token, s)
    | token => some (some name, none, token, s)
  | .tag handle suffix =>
    let (token, s) ← s.peekNext
    match token with
    | .anchor name =>
      let (token, s) ← s.peekNext
      some (some name, some (← s.resolveTag handle suffix), token, s)
    | token => some (none, some (← s.resolveTag handle suffix), token, s)
  | token => some (none, none, token, s)

/-- A node, with `rest` expected after it. Only inside a block may a block collection stand, and only
as a key or a value a loose sequence. -/
def readNode (s : EventSource) (inBlock loose : Bool) (rest : List Expectation) :
    Option (Event × EventSource) := do
  let (token, s) ← s.peek
  match token with
  | .alias name => some (.alias name, { s with expected := rest }.advance)
  | _ =>
    let (anchor, tag, token, s) ← s.readProperties
    let opens (event : Event) (inside : Expectation) : Option (Event × EventSource) :=
      some (event, { s with expected := inside :: rest })
    let orAbsent : Option (Event × EventSource) :=
      if anchor.isSome || tag.isSome then
        some (.scalar anchor tag "" .plain, { s with expected := rest })
      else none
    match token with
    | .scalar text style => some (.scalar anchor tag text style, { s with expected := rest }.advance)
    | .flowSequenceStart => opens (.sequenceStart anchor tag) (.flowItem true)
    | .flowMappingStart => opens (.mappingStart anchor tag) (.flowKey true)
    | .blockEntry => if loose then opens (.sequenceStart anchor tag) .looseItem else orAbsent
    | .blockSequenceStart =>
      if inBlock then opens (.sequenceStart anchor tag) (.item true) else orAbsent
    | .blockMappingStart =>
      if inBlock then opens (.mappingStart anchor tag) (.key true) else orAbsent
    | _ => orAbsent

/-- A node, unless one of the tokens `ends` is in front. -/
def nodeUnless (s : EventSource) (ends : List Token) (inBlock loose : Bool)
    (rest : List Expectation) : Option (Event × EventSource) := do
  let (token, s) ← s.peek
  if token ∈ ends then some (s.absent rest) else s.readNode inBlock loose rest

/-! ## Block collections -/

/-- An item of a block sequence, or its end. -/
def readItem (s : EventSource) (first : Bool) (rest : List Expectation) :
    Option (Event × EventSource) := do
  let (token, s) ← if first then s.peekNext else s.peek
  match token with
  | .blockEntry => s.advance.nodeUnless [.blockEntry, .blockEnd] true false (.item false :: rest)
  | .blockEnd => some (.sequenceEnd, { s with expected := rest }.advance)
  | _ => none

/-- An item of a loose sequence, or its end. -/
def readLooseItem (s : EventSource) (rest : List Expectation) : Option (Event × EventSource) := do
  let (token, s) ← s.peek
  match token with
  | .blockEntry =>
    s.advance.nodeUnless [.blockEntry, .key, .value, .blockEnd] true false (.looseItem :: rest)
  | _ => some (.sequenceEnd, { s with expected := rest })

/-- A key of a block mapping, or its end. -/
def readKey (s : EventSource) (first : Bool) (rest : List Expectation) :
    Option (Event × EventSource) := do
  let (token, s) ← if first then s.peekNext else s.peek
  match token with
  | .key => s.advance.nodeUnless [.key, .value, .blockEnd] true true (.value :: rest)
  | .blockEnd => some (.mappingEnd, { s with expected := rest }.advance)
  | _ => none

/-- A value of a block mapping. -/
def readValue (s : EventSource) (rest : List Expectation) : Option (Event × EventSource) := do
  let (token, s) ← s.peek
  match token with
  | .value => s.advance.nodeUnless [.key, .value, .blockEnd] true true (.key false :: rest)
  | _ => some (s.absent (.key false :: rest))

/-! ## Flow collections -/

/-- The token that an item or a key of a flow collection starts with, after a comma if it is not
the first one; or the closing mark. -/
def afterComma (s : EventSource) (first : Bool) (closing : Token) : Option (Token × EventSource) := do
  let (token, s) ← if first then s.peekNext else s.peek
  if first || token = closing then some (token, s)
  else if token = .flowEntry then s.peekNext
  else none

/-- An item of a flow sequence, or its end. A key opens a mapping of one entry. -/
def readFlowItem (s : EventSource) (first : Bool) (rest : List Expectation) :
    Option (Event × EventSource) := do
  let (token, s) ← s.afterComma first .flowSequenceEnd
  match token with
  | .flowSequenceEnd => some (.sequenceEnd, { s with expected := rest }.advance)
  | .key => some (.mappingStart none none, { s with expected := .pairKey :: .flowItem false :: rest }.advance)
  | _ => s.readNode false false (.flowItem false :: rest)

/-- The key of a mapping of one entry. Where none stands, the token in front is passed over. -/
def readPairKey (s : EventSource) (rest : List Expectation) : Option (Event × EventSource) := do
  let (token, s) ← s.peek
  if token ∈ [Token.value, .flowEntry, .flowSequenceEnd] then some (s.advance.absent (.pairValue :: rest))
  else s.readNode false false (.pairValue :: rest)

/-- The value of a mapping of one entry. -/
def readPairValue (s : EventSource) (rest : List Expectation) : Option (Event × EventSource) := do
  let (token, s) ← s.peek
  match token with
  | .value => s.advance.nodeUnless [.flowEntry, .flowSequenceEnd] false false (.pairEnd :: rest)
  | _ => some (s.absent (.pairEnd :: rest))

/-- A key of a flow mapping, or its end. A node without the mark of a key has no value. -/
def readFlowKey (s : EventSource) (first : Bool) (rest : List Expectation) :
    Option (Event × EventSource) := do
  let (token, s) ← s.afterComma first .flowMappingEnd
  match token with
  | .flowMappingEnd => some (.mappingEnd, { s with expected := rest }.advance)
  | .key => s.advance.nodeUnless [.value, .flowEntry, .flowMappingEnd] false false (.flowValue :: rest)
  | _ => s.readNode false false (.noValue :: rest)

/-- A value of a flow mapping. -/
def readFlowValue (s : EventSource) (rest : List Expectation) : Option (Event × EventSource) := do
  let (token, s) ← s.peek
  match token with
  | .value => s.advance.nodeUnless [.flowEntry, .flowMappingEnd] false false (.flowKey false :: rest)
  | _ => some (s.absent (.flowKey false :: rest))

/-! ## The events of a document -/

/-- The next event; none where the text is at fault or has ended. -/
def next (s : EventSource) : Option (Event × EventSource) :=
  match s.expected with
  | [] => none
  | expectation :: rest =>
    match expectation with
    | .streamStart => do
      let (_, s) ← s.peek
      some (.streamStart, { s with expected := [.document true] }.advance)
    | .document first => s.readDocument first
    | .content => do
      let (token, s) ← s.peek
      match token with
      | .versionDirective _ _ | .tagDirective _ _ | .documentStart | .documentEnd | .streamEnd =>
        some (s.absent rest)
      | _ => s.readNode true false rest
    | .documentEnd => do
      let (token, s) ← s.peek
      let s := { s with expected := [.document false], handles := [] }
      some (.documentEnd, if token = .documentEnd then s.advance else s)
    | .node => s.readNode true false rest
    | .item first => s.readItem first rest
    | .looseItem => s.readLooseItem rest
    | .key first => s.readKey first rest
    | .value => s.readValue rest
    | .flowItem first => s.readFlowItem first rest
    | .pairKey => s.readPairKey rest
    | .pairValue => s.readPairValue rest
    | .pairEnd => some (.mappingEnd, { s with expected := rest })
    | .flowKey first => s.readFlowKey first rest
    | .flowValue => s.readFlowValue rest
    | .noValue => do
      let (_, s) ← s.peek
      some (s.absent (.flowKey false :: rest))

/-- All events up to the end of the stream or the first fault. -/
def events : (steps : Nat) → EventSource → List Event
  | 0, _ => []
  | steps + 1, s =>
    match s.next with
    | none => []
    | some (event, s) => event :: events steps s

end EventSource

/-- All events of a text up to its end or its first fault. A text with a character that may not
stand in one has none. -/
def eventsOf (text : String) : List Event :=
  let chars := text.toList
  if chars.all isAllowed then (EventSource.ofText chars).events (16 * (chars.length + 4)) else []

end CmdletForge.Yaml
