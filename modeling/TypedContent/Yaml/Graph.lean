import TypedContent.Yaml.Tag

/-!
# Graphs of documents

The nodes of a document are numbered in the order in which they begin.  A collection holds the
numbers of its parts.  Where an alias stands, that is the number of the node with the anchor, so a
node can be part of several collections, and a collection of itself.
-/

namespace TypedContent.Yaml

inductive Content where
  | scalar (text : String)
  | sequence (items : List Nat)
  | mapping (entries : List (Nat × Nat))
  deriving Inhabited

structure Node where
  tag : Tag
  content : Content

structure Graph where
  nodes : Array Node

namespace Graph

def empty : Graph := ⟨#[]⟩

def size (g : Graph) : Nat := g.nodes.size

def node? (g : Graph) (i : Nat) : Option Node := g.nodes[i]?

/-- A graph with one more node, which gets the next number. -/
def add (g : Graph) (n : Node) : Nat × Graph := (g.size, ⟨g.nodes.push n⟩)

def tagOf (g : Graph) (i : Nat) : Tag := (g.node? i).elim .unknown (·.tag)

def contentOf (g : Graph) (i : Nat) : Content := (g.node? i).elim (.scalar "") (·.content)

/-- The entries of a mapping. -/
def entriesOf (g : Graph) (i : Nat) : List (Nat × Nat) :=
  match g.contentOf i with
  | .mapping entries => entries
  | _ => []

def isMapping (g : Graph) (i : Nat) : Bool :=
  match g.contentOf i with
  | .mapping _ => true
  | _ => false

def setContent (g : Graph) (i : Nat) (c : Content) : Graph :=
  ⟨g.nodes.modify i fun n => { n with content := c }⟩

def setTag (g : Graph) (i : Nat) (t : Tag) : Graph :=
  ⟨g.nodes.modify i fun n => { n with tag := t }⟩

/-- How many entries all mappings have. -/
def entryCount (g : Graph) : Nat :=
  (List.range g.size).foldl (fun n i => n + (g.entriesOf i).length) 0

end Graph

end TypedContent.Yaml
