/-!
# Graphs of nodes

The nodes of a document form a graph, since an alias stands for the very node that
it names.  A mapping takes over the entries of the mappings under its merge keys, in
front of its own entries.  From then on every reference to the node finds the
settled mapping.
-/

namespace OpenApiSharp.Yaml

/-- The kinds of values that a node can stand for. -/
inductive Tag where
  | null
  | bool
  | int
  | float
  | bytes
  | timestamp
  | text
  | list
  | map
  | set
  /-- A list of pairs, each written as a mapping with one entry. -/
  | pairs
  /-- The key of mappings whose entries are taken over. -/
  | merge
  /-- The key of the value that stands for a whole mapping. -/
  | main
  | unknown
  deriving DecidableEq, Repr

/-- The beginning of the names of standard tags. -/
def standardTagStart : String := "tag:yaml.org,2002:"

/-- The standard tags by the ends of their names. -/
def standardTags : List (String × Tag) :=
  [("null", .null), ("bool", .bool), ("int", .int), ("float", .float), ("binary", .bytes),
   ("timestamp", .timestamp), ("str", .text), ("seq", .list), ("map", .map), ("set", .set),
   ("omap", .pairs), ("pairs", .pairs), ("merge", .merge), ("value", .main)]

def Tag.ofName (name : String) : Tag :=
  ((standardTags.find? fun entry => standardTagStart ++ entry.1 == name).map (·.2)).getD .unknown

abbrev NodeId := Nat

inductive Shape where
  | scalar (content : String)
  | list (items : List NodeId)
  | map (entries : List (NodeId × NodeId))
  deriving DecidableEq, Repr

structure Node where
  tag : Tag
  shape : Shape
  deriving DecidableEq, Repr

/-- The node where nothing is written. -/
def Node.empty : Node := { tag := .null, shape := .scalar "" }

/-- The nodes of a document by their numbers. -/
structure Graph where
  nodes : Array Node := #[]
  deriving DecidableEq, Repr

namespace Graph

def node? (graph : Graph) (id : NodeId) : Option Node :=
  graph.nodes[id]?

/-- The tag of a node; there is none for a number without a node. -/
def tag (graph : Graph) (id : NodeId) : Tag :=
  ((graph.node? id).map Node.tag).getD .unknown

def shape? (graph : Graph) (id : NodeId) : Option Shape :=
  (graph.node? id).map Node.shape

def entries (graph : Graph) (id : NodeId) : List (NodeId × NodeId) :=
  match graph.shape? id with
  | some (.map entries) => entries
  | _ => []

def isMap (graph : Graph) (id : NodeId) : Bool :=
  match graph.shape? id with
  | some (.map _) => true
  | _ => false

def setShape (graph : Graph) (id : NodeId) (shape : Shape) : Graph :=
  { nodes := graph.nodes.modify id fun node => { node with shape } }

def setTag (graph : Graph) (id : NodeId) (tag : Tag) : Graph :=
  { nodes := graph.nodes.modify id fun node => { node with tag } }

end Graph

namespace Graph

/-- Take the first entry under a merge key out of entries: its value, and the other
entries. -/
def splitMerge? (graph : Graph) :
    List (NodeId × NodeId) → Option (NodeId × List (NodeId × NodeId))
  | [] => none
  | (key, value) :: rest =>
      if graph.tag key = .merge then some (value, rest)
      else (graph.splitMerge? rest).map fun (source, others) => (source, (key, value) :: others)

/-- The mappings that are named under a merge key: one mapping, or a list of them. -/
def mergeSources? (graph : Graph) (id : NodeId) : Option (List NodeId) :=
  match graph.shape? id with
  | some (.map _) => some [id]
  | some (.list items) => if items.all graph.isMap then some items else none
  | _ => none

/-- Turn the keys of main values into texts. -/
def plainKeys (graph : Graph) (entries : List (NodeId × NodeId)) : Graph :=
  entries.foldl
    (fun graph (key, _) => if graph.tag key = .main then graph.setTag key .text else graph) graph

/-- Settle a mapping.  Of several mappings under one merge key the last one comes
first.  Each step takes a merge key out of the graph, so their number bounds
the steps. -/
def settle? : Nat → NodeId → Graph → Option Graph
  | 0, _, _ => none
  | steps + 1, id, graph =>
      match graph.splitMerge? (graph.entries id) with
      | none => some (graph.plainKeys (graph.entries id))
      | some (source, others) => do
          let sources ← graph.mergeSources? source
          let (taken, graph) ← sources.foldlM
            (fun ((taken, graph) : List (NodeId × NodeId) × Graph) source => do
              let graph ← settle? steps source graph
              return (graph.entries source ++ taken, graph))
            ([], graph.setShape id (.map others))
          let graph ← settle? steps id graph
          return graph.setShape id (.map (taken ++ graph.entries id))

/-- The number of steps that always suffices to settle a mapping. -/
def settlingSteps (graph : Graph) : Nat :=
  graph.nodes.foldl
    (fun steps node =>
      match node.shape with
      | .map entries => steps + entries.length
      | _ => steps)
    1

end Graph

end OpenApiSharp.Yaml
