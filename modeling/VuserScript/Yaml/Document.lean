/-
  VuserScript.Yaml.Document

  Reading the only document of a text: its nodes and their values.
-/
import VuserScript.Yaml.Graph.OfTokens
import VuserScript.Yaml.Token.Stream
import VuserScript.Yaml.Value.OfGraph

namespace VuserScript.Yaml

/-- The nodes of a document and their values; an empty text has no root. -/
structure Document where
  root : Option NodeId
  graph : Graph
  values : List (NodeId × Value)

namespace Document

/-! ## Reading -/

/-- The document of a text. -/
def read (source : Source) : Except Failure Document := do
  let (tokens, failure) := TokenReader.tokens source
  let (graph, root) ← GraphReader.ofTokens tokens failure
  match root with
  | none => pure ⟨none, graph, []⟩
  | some id =>
    let (_, r) ← (ValueReader.readAll id).run { graph }
    pure ⟨root, r.graph, r.values⟩

/-! ## Asking -/

/-- The value of a node. -/
def value (d : Document) (id : NodeId) : Value :=
  (d.values.lookup id).getD .null

/-- The value of the document. -/
def rootValue (d : Document) : Value :=
  match d.root with
  | some id => d.value id
  | none => .null

/-- The keys and values of the document, if it is a mapping. -/
def entries (d : Document) : List (Value × Value) :=
  match d.root with
  | some id => (d.graph.pairs id).map fun (key, value) => (d.value key, d.value value)
  | none => []

end Document

end VuserScript.Yaml
