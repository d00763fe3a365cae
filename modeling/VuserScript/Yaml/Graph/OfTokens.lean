/-
  VuserScript.Yaml.Graph.OfTokens

  The nodes that tokens stand for. What is left out stands for a null scalar at
  the place where it would start. Only one document is read.
-/
import VuserScript.Yaml.Graph
import VuserScript.Yaml.Token

namespace VuserScript.Yaml

/-- The tokens that are left with the failure behind them, and the nodes so far. -/
structure GraphReader where
  tokens : List Token
  failure : Option Failure
  graph : Graph := {}
  anchors : List (String × NodeId) := []
  handles : List (String × String) := []

/-- A step of reading nodes. -/
abbrev GraphStep := StateT GraphReader (Except Failure)

namespace GraphReader

/-! ## Tokens -/

/-- The next token. Behind the last one comes the failure. -/
def peek : GraphStep Token := do
  let r ← get
  match r.tokens, r.failure with
  | t :: _, _ => pure t
  | [], some failure => throw failure
  | [], none => pure ⟨.streamEnd, {}, {}⟩

/-- What the next token is. -/
def peekKind : GraphStep TokenKind := do
  pure (← peek).kind

/-- Takes the next token. -/
def next : GraphStep Token := do
  let t ← peek
  modify fun r => { r with tokens := r.tokens.tail }
  pure t

/-- Stops because of the next token. -/
def refuse {α : Type} (activity : Activity) (start : Place) (complaint : String → Complaint) :
    GraphStep α := do
  let t ← peek
  throw (.within activity start (complaint t.kind.name) t.start)

/-! ## Nodes -/

/-- Adds a node. -/
def addNode (n : Node) : GraphStep NodeId := do
  let r ← get
  set { r with graph := ⟨r.graph.nodes.push n⟩ }
  pure r.graph.nodes.size

/-- Adds the node for what is left out. -/
def addMissing (place : Place) : GraphStep NodeId :=
  addNode ⟨.core .null, place, .scalar ""⟩

/-- Gives a node its content. -/
def fill (id : NodeId) (content : Content) : GraphStep Unit :=
  modify fun r => { r with graph := r.graph.set id { r.graph.get id with content } }

/-- What stands before the content of a node, and where that starts. -/
structure Properties where
  anchor : Option String := none
  tag : Option TagName := none
  start : Option Place := none
  tagPlace : Place := {}

/-- An anchor that comes next. -/
def readAnchor (p : Properties) : GraphStep Properties := do
  match (← peek).kind with
  | .anchor name =>
    let t ← next
    pure { p with anchor := some name, start := p.start.or (some t.start) }
  | _ => pure p

/-- A tag that comes next. -/
def readTag (p : Properties) : GraphStep Properties := do
  match (← peek).kind with
  | .tag name =>
    let t ← next
    pure { p with tag := some name, start := p.start.or (some t.start), tagPlace := t.start }
  | _ => pure p

/-- An anchor and a tag, in either order. -/
def properties : GraphStep Properties := do
  let p ← readAnchor {}
  let withTag ← readTag p
  if p.anchor.isNone && withTag.tag.isSome then readAnchor withTag else pure withTag

/-- The text of a tag, without its handle. -/
def tagText (p : Properties) : GraphStep (Option String) := do
  match p.tag with
  | none => pure none
  | some ⟨none, rest⟩ => pure (some rest)
  | some ⟨some handle, rest⟩ =>
    match (← get).handles.lookup handle with
    | some first => pure (some (first ++ rest))
    | none =>
      throw (.within .node (p.start.getD p.tagPlace) (.unknownHandle handle) p.tagPlace)

/-- Whether the type of a node is left to its form: it has no tag, or an exclamation mark alone. -/
def isOpen (tag : Option String) : Bool :=
  tag.all (· == "!")

/-- The tag of a node whose type by its form is given. -/
def tagOr (form : CoreType) (tag : Option String) : Tag :=
  if isOpen tag then .core form else Tag.ofText (tag.getD "")

/-- Adds a node that may have an anchor, which no earlier node has. -/
def addNamed (anchor : Option String) (n : Node) : GraphStep NodeId := do
  match anchor with
  | none => addNode n
  | some name =>
    let r ← get
    match r.anchors.lookup name with
    | some first =>
      throw (.within (.firstAnchor name) (r.graph.get first).start .secondAnchor n.start)
    | none =>
      let id ← addNode n
      modify fun r => { r with anchors := (name, id) :: r.anchors }
      pure id

/-- The node that an alias stands for. -/
def named (name : String) (place : Place) : GraphStep NodeId := do
  match (← get).anchors.lookup name with
  | some id => pure id
  | none => throw (.plain (.unknownAnchor name) place)

/-! ## Collections -/

/-- How a collection is written. -/
inductive Style where
  | block
  /-- A block sequence that is indented no further than the mapping around it. -/
  | indentless
  | flow
  deriving DecidableEq, Repr

/-- Which collection a token starts. -/
def opening (inBlock mayBeIndentless : Bool) : TokenKind → Option (CoreType × Style)
  | .blockEntry => if mayBeIndentless then some (.sequence, .indentless) else none
  | .blockSequenceStart => if inBlock then some (.sequence, .block) else none
  | .blockMappingStart => if inBlock then some (.mapping, .block) else none
  | .flowSequenceStart => some (.sequence, .flow)
  | .flowMappingStart => some (.mapping, .flow)
  | _ => none

/-- Takes a comma, unless this is the first entry. -/
def separate (isFirst : Bool) (activity : Activity) (start : Place)
    (complaint : String → Complaint) : GraphStep Unit := do
  if isFirst then pure ()
  else if (← peekKind) = .flowEntry then
    let _ ← next
  else refuse activity start complaint

/-- A reader of nodes: whether in a block, and whether an indentless sequence may stand there. -/
abbrev NodeReader := Bool → Bool → GraphStep NodeId

/-- A node behind a token, unless a token comes that may only follow it. -/
def part (node : GraphStep NodeId) (t : Token) (ends : List TokenKind) : GraphStep NodeId := do
  if ends.contains (← peekKind) then addMissing t.stop else node

/-- The value behind a key, which is left out with its colon or alone. -/
def valuePart (node : GraphStep NodeId) (ends : List TokenKind) : GraphStep NodeId := do
  if (← peekKind) = .value then part node (← next) ends else addMissing (← peek).start

/-- The entries of a block sequence that starts at a place. -/
def blockItems (node : NodeReader) (start : Place) : (fuel : Nat) → GraphStep (List NodeId)
  | 0 => pure []
  | fuel + 1 => do
    match ← peekKind with
    | .blockEntry =>
      let item ← part (node true false) (← next) [.blockEntry, .blockEnd]
      let items ← blockItems node start fuel
      pure (item :: items)
    | .blockEnd =>
      let _ ← next
      pure []
    | _ => refuse .blockSequence start .notBlockEnd

/-- The entries of an indentless sequence. -/
def indentlessItems (node : NodeReader) : (fuel : Nat) → GraphStep (List NodeId)
  | 0 => pure []
  | fuel + 1 => do
    match ← peekKind with
    | .blockEntry =>
      let item ← part (node true false) (← next) [.blockEntry, .key, .value, .blockEnd]
      let items ← indentlessItems node fuel
      pure (item :: items)
    | _ => pure []

/-- The pairs of a block mapping that starts at a place. -/
def blockPairs (node : NodeReader) (start : Place) :
    (fuel : Nat) → GraphStep (List (NodeId × NodeId))
  | 0 => pure []
  | fuel + 1 => do
    let ends : List TokenKind := [.key, .value, .blockEnd]
    match ← peekKind with
    | .key =>
      let key ← part (node true true) (← next) ends
      let value ← valuePart (node true true) ends
      let pairs ← blockPairs node start fuel
      pure ((key, value) :: pairs)
    | .blockEnd =>
      let _ ← next
      pure []
    | _ => refuse .blockMapping start .notBlockEnd

/-- A mapping of one pair within a flow sequence, whose key is marked. -/
def flowPair (node : NodeReader) : GraphStep NodeId := do
  let t ← next
  let id ← addNode ⟨.core .mapping, t.start, .mapping []⟩
  let key ← part (node false false) t [.value, .flowEntry, .flowSequenceEnd]
  let value ← valuePart (node false false) [.flowEntry, .flowSequenceEnd]
  fill id (.mapping [(key, value)])
  pure id

/-- The entries of a flow sequence that starts at a place, behind the first one or not. -/
def flowItems (node : NodeReader) (start : Place) :
    (fuel : Nat) → (isFirst : Bool) → GraphStep (List NodeId)
  | 0, _ => pure []
  | fuel + 1, isFirst => do
    if (← peekKind) ≠ .flowSequenceEnd then
      separate isFirst .flowSequence start .notInFlowSequence
    match ← peekKind with
    | .flowSequenceEnd =>
      let _ ← next
      pure []
    | kind =>
      let item ← if kind = .key then flowPair node else node false false
      let items ← flowItems node start fuel false
      pure (item :: items)

/-- The pairs of a flow mapping that starts at a place, behind the first one or not. A node
without the mark of a key is a key without a value. -/
def flowPairs (node : NodeReader) (start : Place) :
    (fuel : Nat) → (isFirst : Bool) → GraphStep (List (NodeId × NodeId))
  | 0, _ => pure []
  | fuel + 1, isFirst => do
    if (← peekKind) ≠ .flowMappingEnd then
      separate isFirst .flowMapping start .notInFlowMapping
    match ← peekKind with
    | .flowMappingEnd =>
      let _ ← next
      pure []
    | .key =>
      let key ← part (node false false) (← next) [.value, .flowEntry, .flowMappingEnd]
      let value ← valuePart (node false false) [.flowEntry, .flowMappingEnd]
      let pairs ← flowPairs node start fuel false
      pure ((key, value) :: pairs)
    | _ =>
      let key ← node false false
      let value ← addMissing (← peek).start
      let pairs ← flowPairs node start fuel false
      pure ((key, value) :: pairs)

/-- The content of a collection, whose first token comes next. -/
def collection (node : NodeReader) (fuel : Nat) (type : CoreType) (style : Style) :
    GraphStep Content := do
  let t ← peek
  if style ≠ .indentless then
    let _ ← next
  if type = .sequence then
    let items ← match style with
      | .block => blockItems node t.start fuel
      | .indentless => indentlessItems node fuel
      | .flow => flowItems node t.start fuel true
    pure (.sequence items)
  else
    let pairs ← match style with
      | .flow => flowPairs node t.start fuel true
      | _ => blockPairs node t.start fuel
    pure (.mapping pairs)

/-! ## One node -/

/-- A node, within a block or not, at a place where an indentless sequence may stand or not. -/
def node : (fuel : Nat) → NodeReader
  | 0, _, _ => do addMissing (← peek).start
  | fuel + 1, inBlock, mayBeIndentless => do
    if let .aliasName name ← peekKind then
      let t ← next
      named name t.start
    else
      let p ← properties
      let tag ← tagText p
      let t ← peek
      let start := p.start.getD t.start
      match t.kind, opening inBlock mayBeIndentless t.kind with
      | .scalar text isPlain, _ =>
        let _ ← next
        let hasForm := isPlain && tag.isNone || tag == some "!"
        let form := if hasForm then Schema.typeOf text else .text
        addNamed p.anchor ⟨tagOr form tag, start, .scalar text⟩
      | _, some (type, style) =>
        let empty : Content := if type = .sequence then .sequence [] else .mapping []
        let id ← addNamed p.anchor ⟨tagOr type tag, start, empty⟩
        let content ← collection (node fuel) fuel type style
        fill id content
        pure id
      | _, none =>
        if p.anchor.isSome || tag.isSome then
          addNamed p.anchor ⟨tagOr .null tag, start, .scalar ""⟩
        else refuse (if inBlock then .blockNode else .flowNode) start .notContent

/-! ## Documents -/

/-- The handles that need not be declared. -/
def commonHandles : List (String × String) :=
  [("!", "!"), ("!!", CoreType.firstPart)]

/-- The directives that come next; whether a version was among them before. -/
def directives : (fuel : Nat) → (hasVersion : Bool) → GraphStep Unit
  | 0, _ => pure ()
  | fuel + 1, hasVersion => do
    let t ← peek
    match t.kind with
    | .directive (.version major _) =>
      let _ ← next
      if hasVersion then throw (.plain .secondVersion t.start)
      if major ≠ 1 then throw (.plain .otherVersion t.start)
      directives fuel true
    | .directive (.handle handle first) =>
      let _ ← next
      if ((← get).handles.lookup handle).isSome then
        throw (.plain (.secondHandle handle) t.start)
      modify fun r => { r with handles := r.handles ++ [(handle, first)] }
      directives fuel hasVersion
    | .directive .other =>
      let _ ← next
      directives fuel hasVersion
    | _ => pure ()

/-- Passes over the ends of documents. -/
def documentEnds : (fuel : Nat) → GraphStep Unit
  | 0 => pure ()
  | fuel + 1 => do
    if (← peekKind) = .documentEnd then
      let _ ← next
      documentEnds fuel

/-- The directives and the mark at the start of a document; none at the end of the text. The
answer is the place where the document starts. -/
def documentStart (fuel : Nat) : GraphStep (Option Place) := do
  documentEnds fuel
  let first ← peek
  if first.kind = .streamEnd then
    pure none
  else
    modify fun r => { r with handles := [] }
    directives fuel false
    modify fun r => { r with handles := r.handles ++ commonHandles }
    let t ← peek
    if t.kind ≠ .documentStart then
      throw (.plain (.notDocumentStart t.kind.name) t.start)
    let _ ← next
    pure (some first.start)

/-- The root of the document at the start of the text, if there is one. -/
def root (fuel : Nat) : GraphStep (Option NodeId) := do
  match ← peekKind with
  | .directive _ | .documentStart | .streamEnd =>
    match ← documentStart fuel with
    | none => pure none
    | some _ =>
      let t ← peek
      match t.kind with
      | .directive _ | .documentStart | .documentEnd | .streamEnd => some <$> addMissing t.start
      | _ => some <$> node fuel true false
  | _ =>
    modify fun r => { r with handles := commonHandles }
    some <$> node fuel true false

/-- The root of the only document of the text, if there is one. -/
def onlyRoot (fuel : Nat) : GraphStep (Option NodeId) := do
  let _ ← next
  match ← root fuel with
  | none => pure none
  | some id =>
    match ← documentStart fuel with
    | none => pure (some id)
    | some place =>
      let r ← get
      throw (.within .onlyDocument (r.graph.get id).start .secondDocument place)

/-- The nodes of tokens, which may end with a failure, and the root. A node takes a token or is
left out behind one, so that no more nodes lie within each other than there are tokens. -/
def ofTokens (tokens : List Token) (failure : Option Failure) :
    Except Failure (Graph × Option NodeId) := do
  let (root, r) ← (onlyRoot (2 * tokens.length + 2)).run { tokens, failure }
  pure (r.graph, root)

end GraphReader

end VuserScript.Yaml
