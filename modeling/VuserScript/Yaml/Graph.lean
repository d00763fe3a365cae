/-
  VuserScript.Yaml.Graph

  The nodes of a text. Since an alias stands for a node that occurs elsewhere,
  even around the alias, nodes are named by numbers and hold the numbers of
  their parts.
-/
import VuserScript.Yaml.Fault
import VuserScript.Yaml.Schema

namespace VuserScript.Yaml

/-- The number of a node. -/
abbrev NodeId := Nat

/-- What a node holds. -/
inductive Content where
  | scalar (text : String)
  | sequence (items : List NodeId)
  | mapping (pairs : List (NodeId × NodeId))
  deriving DecidableEq, Repr

/-- The name of a kind of content. -/
def Content.kind : Content → String
  | scalar _ => "scalar"
  | sequence _ => "sequence"
  | mapping _ => "mapping"

/-- A node, with the place where it starts. -/
structure Node where
  tag : Tag
  start : Place
  content : Content
  deriving DecidableEq, Repr

/-- Nodes by their numbers. -/
structure Graph where
  nodes : Array Node := #[]

namespace Graph

/-- The node with a number. -/
def get (g : Graph) (id : NodeId) : Node :=
  g.nodes[id]?.getD ⟨.core .null, {}, .scalar ""⟩

/-- The graph with another node at a number. -/
def set (g : Graph) (id : NodeId) (n : Node) : Graph :=
  ⟨g.nodes.setIfInBounds id n⟩

/-- The pairs of a mapping, none of another node. -/
def pairs (g : Graph) (id : NodeId) : List (NodeId × NodeId) :=
  match (g.get id).content with
  | .mapping pairs => pairs
  | _ => []

/-- The graph with other pairs in a mapping. -/
def setPairs (g : Graph) (id : NodeId) (pairs : List (NodeId × NodeId)) : Graph :=
  g.set id { g.get id with content := .mapping pairs }

/-- The graph with another tag at a node. -/
def setTag (g : Graph) (id : NodeId) (tag : Tag) : Graph :=
  g.set id { g.get id with tag }

end Graph

end VuserScript.Yaml
