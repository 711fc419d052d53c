import Tokenry.Document.Tokens

namespace Tokenry.Document

inductive NodeTag where
  | none
  | written (uri : String)
  deriving DecidableEq, Repr

inductive Node where
  | scalar (tag : NodeTag) (plain : Bool) (text : String)
  | sequence (tag : NodeTag) (items : List Node)
  | mapping (tag : NodeTag) (entries : List (Node × Node))
  deriving Repr

def Node.absent : Node := .scalar .none true ""

structure ParseState where
  tokens : List Token
  anchors : List (String × Node) := []
  handles : List (String × String) := []

abbrev Parse := StateT ParseState (Except Problem)

namespace Parse

def fail {α : Type} (cause : Malformed) : Parse α := throw (.malformed cause)

def next : Parse Token := return ((← get).tokens.headD .streamEnd)

def skip : Parse Unit := modify fun s ↦ { s with tokens := s.tokens.tail }

def accept (t : Token) : Parse Bool := do
  if (← next) == t then
    skip
    return true
  return false

def expect (t : Token) (cause : Malformed) : Parse Unit := do
  if !(← accept t) then fail cause

def nextIsOneOf (tokens : List Token) : Parse Bool := return tokens.contains (← next)

def knownHandles : List (String × String) := [("!", "!"), ("!!", "tag:yaml.org,2002:")]

/-- Writes a tag out in full. A lone exclamation mark says nothing. -/
def fullTag (handle : Option String) (rest : String) : Parse NodeTag := do
  match handle with
  | none => return if rest == "!" then .none else .written rest
  | some handle =>
    match (← get).handles.lookup handle <|> knownHandles.lookup handle with
    | some target => return .written (target ++ rest)
    | none => fail (.unknownHandle handle)

structure Properties where
  anchor : Option String := none
  tag : NodeTag := .none
  given : Bool := false

def acceptAnchor : Parse (Option String) := do
  match ← next with
  | .anchor name =>
    skip
    return some name
  | _ => return none

def acceptTag : Parse (Option NodeTag) := do
  match ← next with
  | .tag handle rest =>
    skip
    return some (← fullTag handle rest)
  | _ => return none

/-- Takes an anchor and a tag, in either order. -/
def properties : Parse Properties := do
  let early ← acceptAnchor
  let tag ← acceptTag
  let late ← if early.isNone && tag.isSome then acceptAnchor else pure none
  let anchor := early <|> late
  return { anchor, tag := tag.getD .none, given := anchor.isSome || tag.isSome }

def mark (anchor : Option String) (node : Node) : Parse Unit := do
  if let some name := anchor then modify fun s ↦ { s with anchors := (name, node) :: s.anchors }

mutual

/-- Takes a node. `block` allows collections that indentation marks, and `indentless` sequences that
are not indented deeper than the mapping around them. A collection that names itself inside counts
as empty there. -/
def node (block indentless : Bool) : (fuel : Nat) → Parse Node
  | 0 => fail .missingNode
  | fuel + 1 => do
    if let .alias name := ← next then
      skip
      match (← get).anchors.lookup name with
      | some node => return node
      | none => fail (.unknownAlias name)
    else
      let p ← properties
      let t ← next
      let sequenceOf (items : Parse (List Node)) : Parse Node := do
        mark p.anchor (.sequence p.tag [])
        return .sequence p.tag (← items)
      let mappingOf (entries : Parse (List (Node × Node))) : Parse Node := do
        mark p.anchor (.mapping p.tag [])
        return .mapping p.tag (← entries)
      let found ←
        match t with
        | .scalar text plain => do
          skip
          pure (Node.scalar p.tag plain text)
        | .flowSequenceStart => do
          skip
          sequenceOf (flowItems true fuel)
        | .flowMappingStart => do
          skip
          mappingOf (flowEntries true fuel)
        | t =>
          if indentless && t == .blockEntry then sequenceOf (indentlessItems fuel)
          else if block && t == .blockSequenceStart then do
            skip
            sequenceOf (blockItems fuel)
          else if block && t == .blockMappingStart then do
            skip
            mappingOf (blockEntries fuel)
          else if p.given then pure (Node.scalar p.tag true "")
          else fail .missingNode
      mark p.anchor found
      return found

def nodeUnless (stops : List Token) (block indentless : Bool) : (fuel : Nat) → Parse Node
  | 0 => fail .missingNode
  | fuel + 1 => do
    if ← nextIsOneOf stops then return .absent
    node block indentless fuel

def blockItems : (fuel : Nat) → Parse (List Node)
  | 0 => fail .unclosedCollection
  | fuel + 1 => do
    if ← accept .blockEntry then
      let item ← nodeUnless [.blockEntry, .blockEnd] true false fuel
      return item :: (← blockItems fuel)
    expect .blockEnd .unclosedCollection
    return []

def indentlessItems : (fuel : Nat) → Parse (List Node)
  | 0 => fail .unclosedCollection
  | fuel + 1 => do
    if ← accept .blockEntry then
      let item ← nodeUnless [.blockEntry, .key, .value, .blockEnd] true false fuel
      return item :: (← indentlessItems fuel)
    return []

def blockEntries : (fuel : Nat) → Parse (List (Node × Node))
  | 0 => fail .unclosedCollection
  | fuel + 1 => do
    let stops := [Token.key, .value, .blockEnd]
    if ← accept .blockEnd then return []
    let explicit ← accept .key
    if !explicit && (← next) != .value then fail .unclosedCollection
    let key ← if explicit then nodeUnless stops true true fuel else pure .absent
    let hasValue ← accept .value
    let value ← if hasValue then nodeUnless stops true true fuel else pure .absent
    return (key, value) :: (← blockEntries fuel)

/-- The items of a sequence up to its closing bracket. A pair among them is a mapping of its own. -/
def flowItems (first : Bool) : (fuel : Nat) → Parse (List Node)
  | 0 => fail .unclosedCollection
  | fuel + 1 => do
    if ← accept .flowSequenceEnd then return []
    if !first then
      expect .flowEntry .unclosedCollection
      if ← accept .flowSequenceEnd then return []
    if ← accept .key then
      let key ← nodeUnless [.value, .flowEntry, .flowSequenceEnd] false false fuel
      let hasValue ← accept .value
      let value ← if hasValue then nodeUnless [.flowEntry, .flowSequenceEnd] false false fuel
        else pure .absent
      return .mapping .none [(key, value)] :: (← flowItems false fuel)
    let item ← node false false fuel
    return item :: (← flowItems false fuel)

def flowEntries (first : Bool) : (fuel : Nat) → Parse (List (Node × Node))
  | 0 => fail .unclosedCollection
  | fuel + 1 => do
    if ← accept .flowMappingEnd then return []
    if !first then
      expect .flowEntry .unclosedCollection
      if ← accept .flowMappingEnd then return []
    let explicit ← accept .key
    let bare := (← next) == .value
    let key ←
      if explicit then nodeUnless [.value, .flowEntry, .flowMappingEnd] false false fuel
      else if bare then pure .absent
      else node false false fuel
    let hasValue ← if explicit || bare then accept .value else pure false
    let value ← if hasValue then nodeUnless [.flowEntry, .flowMappingEnd] false false fuel
      else pure .absent
    return (key, value) :: (← flowEntries false fuel)

end

def directives : (fuel : Nat) → Parse Unit
  | 0 => return
  | fuel + 1 => do
    match ← next with
    | .directive name handle target =>
      skip
      if name == "TAG" then
        if (← get).handles.any (·.1 == handle) then fail .badDirective
        modify fun s ↦ { s with handles := (handle, target) :: s.handles }
      directives fuel
    | _ => return

def document (fuel : Nat) : Parse (Option Node) := do
  let first ← next
  if first == .streamEnd then return none
  let isMarked := match first with
    | .directive _ _ _ | .documentStart => true
    | _ => false
  let root ←
    if isMarked then do
      directives fuel
      expect .documentStart .missingMarker
      match ← next with
      | .directive _ _ _ | .documentStart | .documentEnd | .streamEnd => pure .absent
      | _ => node true false fuel
    else node true false fuel
  let _ ← accept .documentEnd
  expect .streamEnd .severalDocuments
  return some root

end Parse

def parse (text : List Char) : Except Problem (Option Node) := do
  let tokens ← tokens text
  return (← (Parse.document (4 * tokens.length + 8)).run { tokens }).1

end Tokenry.Document
