import JsonShape.Yaml.Tag

/-!
# Graphs of YAML nodes

The nodes of a document, each at a place of its own.  An alias is one more way to the place of its
anchor, so nodes may be shared, and a collection may be inside itself.
-/

namespace JsonShape.Yaml

/-- The place of a node. -/
abbrev Ref := Nat

/-- A node of a document. -/
inductive Node
  | scalar (tag : Tag) (text : Text)
  | sequence (tag : Tag) (items : List Ref)
  | mapping (tag : Tag) (entries : List (Ref × Ref))

namespace Node

/-- What an omitted node stands for. -/
def empty : Node := .scalar .null []

def tag : Node → Tag
  | .scalar t _ => t
  | .sequence t _ => t
  | .mapping t _ => t

/-- The same node under another tag. -/
def retag (t : Tag) : Node → Node
  | .scalar _ text => .scalar t text
  | .sequence _ items => .sequence t items
  | .mapping _ entries => .mapping t entries

def items : Node → List Ref
  | .sequence _ items => items
  | _ => []

def entries : Node → List (Ref × Ref)
  | .mapping _ entries => entries
  | _ => []

end Node

/-- The nodes of a document by their places. -/
structure Graph where
  nodes : Array Node

namespace Graph

def empty : Graph := ⟨#[]⟩

/-- The number of places. -/
def size (g : Graph) : Nat := g.nodes.size

/-- The node at a place. -/
def node (g : Graph) (r : Ref) : Node := g.nodes[r]?.getD .empty

def tag (g : Graph) (r : Ref) : Tag := (g.node r).tag

def entries (g : Graph) (r : Ref) : List (Ref × Ref) := (g.node r).entries

/-- A graph with one more node, at the next place. -/
def add (n : Node) (g : Graph) : Graph := ⟨g.nodes.push n⟩

/-- A graph with another node at a place. -/
def put (r : Ref) (n : Node) (g : Graph) : Graph := ⟨g.nodes.setIfInBounds r n⟩

/-- A graph with other entries of the mapping at a place. -/
def putEntries (r : Ref) (es : List (Ref × Ref)) (g : Graph) : Graph :=
  g.put r (.mapping (g.tag r) es)

end Graph

end JsonShape.Yaml
