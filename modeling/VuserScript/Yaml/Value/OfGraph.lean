/-
  VuserScript.Yaml.Value.OfGraph

  The values of all nodes. A collection has its value before its parts have
  theirs, so that it may be part of itself; the parts follow level by level. A
  problem is reported where it is met in this order.
-/
import VuserScript.Yaml.Graph
import VuserScript.Yaml.Value.OfScalar

namespace VuserScript.Yaml

/-- The nodes, and the values so far. -/
structure ValueReader where
  graph : Graph
  values : List (NodeId × Value) := []
  /-- The collections whose parts have no values yet. -/
  pending : List NodeId := []

/-- A step of reading values. -/
abbrev ValueStep := StateT ValueReader (Except Failure)

namespace ValueReader

/-- The node with a number. -/
def node (id : NodeId) : ValueStep Node := do
  pure ((← get).graph.get id)

/-- Stops because of a node. -/
def refuse {α : Type} (n : Node) (complaint : Complaint) : ValueStep α := do
  throw (.plain complaint n.start)

/-- Stops because of a part of a node. -/
def refusePart {α : Type} (activity : Activity) (whole part : Node) (complaint : Complaint) :
    ValueStep α := do
  throw (.within activity whole.start complaint part.start)

/-! ## Scalars -/

/-- The text of a scalar, or of the scalar that is the value of a mapping. With more fuel than there
are nodes, it is spent only if a mapping leads back to itself. -/
def scalarText : (fuel : Nat) → Node → ValueStep String
  | 0, _ => throw (.misfit .endless)
  | fuel + 1, n => do
    match n.content with
    | .scalar text => pure text
    | .sequence _ => refuse n (.notScalar n.content.kind)
    | .mapping pairs =>
      let graph := (← get).graph
      match pairs.find? fun pair => (graph.get pair.1).tag == .core .value with
      | some pair => scalarText fuel (graph.get pair.2)
      | none => refuse n (.notScalar n.content.kind)

/-- A value, or a misfit. -/
def orMisfit {α : Type} : Except Misfit α → ValueStep α
  | .ok a => pure a
  | .error m => throw (.misfit m)

/-- The value of a node whose type is no collection. -/
def scalarValue (type : CoreType) (n : Node) (text : String) : ValueStep Value := do
  match type with
  | .null => pure .null
  | .bool => Value.bool <$> orMisfit (Scalar.bool text)
  | .int => Value.int <$> orMisfit (Scalar.int text)
  | .float => Value.float <$> orMisfit (Scalar.float text)
  | .timestamp =>
    match n.content with
    | .scalar _ => orMisfit (Scalar.moment text)
    | _ => orMisfit (.error .momentInMapping)
  | .binary =>
    match Scalar.bytesFault text with
    | some complaint => refuse n complaint
    | none => pure .bytes
  | _ => pure (.text text)

/-! ## Merging -/

/-- The first pair whose key has a tag: the pairs before it, its value, and the pairs behind it. -/
def splitAtTag (g : Graph) (tag : Tag) :
    List (NodeId × NodeId) → Option (List (NodeId × NodeId) × NodeId × List (NodeId × NodeId))
  | [] => none
  | (key, value) :: rest =>
    if (g.get key).tag = tag then some ([], value, rest)
    else (splitAtTag g tag rest).map fun (before, found) => ((key, value) :: before, found)

/-- Makes a text of a key that stands for the value of a mapping as a scalar. -/
def nameValueKey (g : Graph) (pair : NodeId × NodeId) : Graph :=
  if (g.get pair.1).tag = .core .value then g.setTag pair.1 (.core .text) else g

/-- Makes texts of such keys in a mapping. -/
def nameValueKeys (id : NodeId) : ValueStep Unit :=
  modify fun r => { r with graph := (r.graph.pairs id).foldl nameValueKey r.graph }

/-- Puts the pairs of merged mappings before the pairs of a mapping. Of several mappings in a
sequence the last comes first. -/
def merge : (fuel : Nat) → NodeId → ValueStep Unit
  | 0, _ => pure ()
  | fuel + 1, id => do
    let g := (← get).graph
    match splitAtTag g (.core .merge) (g.pairs id) with
    | none => nameValueKeys id
    | some (before, merged, rest) =>
      modify fun r => { r with graph := r.graph.setPairs id (before ++ rest) }
      let whole ← node id
      let source ← node merged
      let pairs ← match source.content with
        | .mapping _ => do
          merge fuel merged
          pure ((← get).graph.pairs merged)
        | .sequence items => do
          let parts ← items.mapM fun item => do
            let part ← node item
            match part.content with
            | .mapping _ =>
              merge fuel item
              pure ((← get).graph.pairs item)
            | other => refusePart .mapping whole part (.notMergeableItem other.kind)
          pure parts.reverse.flatten
        | other => refusePart .mapping whole source (.notMergeable other.kind)
      merge fuel id
      modify fun r => { r with graph := r.graph.setPairs id (pairs ++ r.graph.pairs id) }

/-- How many pairs there are. -/
def pairCount (g : Graph) : Nat :=
  g.nodes.foldl (fun n node => n + match node.content with
    | .mapping pairs => pairs.length
    | _ => 0) 0

/-! ## Collections -/

/-- The value of a collection of a type. -/
def collectionValue? : CoreType → Option Value
  | .sequence | .orderedMap | .pairs => some .list
  | .set => some .set
  | .mapping => some .mapping
  | _ => none

/-- The value of a node that has none yet. The parts of a collection follow later. -/
def readNew (id : NodeId) (n : Node) : ValueStep Value := do
  match n.tag with
  | .other text => refuse n (.unknownTag text)
  | .core type =>
    if type ∈ [.merge, .value, .indicator] then refuse n (.unknownTag n.tag.text)
    match collectionValue? type with
    | some v =>
      modify fun r => { r with pending := r.pending ++ [id] }
      pure v
    | none =>
      let text ← scalarText ((← get).graph.nodes.size + 1) n
      scalarValue type n text

/-- The value of a node. -/
def read (id : NodeId) : ValueStep Value := do
  match (← get).values.lookup id with
  | some v => pure v
  | none =>
    let v ← readNew id (← node id)
    modify fun r => { r with values := (id, v) :: r.values }
    pure v

/-- Reads the values of the parts of a sequence. -/
def readItems (n : Node) : ValueStep Unit := do
  match n.content with
  | .sequence items => items.forM fun item => do
    let _ ← read item
  | other => refuse n (.notSequence other.kind)

/-- Reads the keys and the values of a mapping. -/
def readPairs (id : NodeId) : ValueStep Unit := do
  let n ← node id
  match n.content with
  | .mapping _ =>
    merge (pairCount (← get).graph + 1) id
    let pairs := (← get).graph.pairs id
    pairs.forM fun (key, value) => do
      let k ← read key
      unless k.isKey do
        refusePart .mapping n (← node key) .unusableKey
      let _ ← read value
  | other => refuse n (.notMapping other.kind)

/-- Reads the values of a sequence of mappings of one pair. -/
def readSingles (activity : Activity) (n : Node) : ValueStep Unit := do
  match n.content with
  | .sequence items => items.forM fun item => do
    let part ← node item
    match part.content with
    | .mapping [(key, value)] =>
      let _ ← read key
      let _ ← read value
    | .mapping pairs => refusePart activity n part (.notOneItem pairs.length)
    | other => refusePart activity n part (.notPair other.kind)
  | other => refusePart activity n n (.notListOfPairs other.kind)

/-- Reads the values of the parts of a collection. -/
def readParts (id : NodeId) : ValueStep Unit := do
  let n ← node id
  match n.tag with
  | .core .sequence => readItems n
  | .core .orderedMap => readSingles .orderedMap n
  | .core .pairs => readSingles .pairs n
  | _ => readPairs id

/-! ## All nodes -/

/-- Reads the parts of the pending collections, the oldest first. -/
def readPending : (fuel : Nat) → ValueStep Unit
  | 0 => pure ()
  | fuel + 1 => do
    let r ← get
    match r.pending with
    | [] => pure ()
    | id :: others =>
      set { r with pending := others }
      readParts id
      readPending fuel

/-- Reads the values of a root and of all that it holds. Each node becomes pending at most once,
so that the number of nodes bounds the loop. -/
def readAll (root : NodeId) : ValueStep Unit := do
  let _ ← read root
  readPending ((← get).graph.nodes.size + 1)

end ValueReader

end VuserScript.Yaml
