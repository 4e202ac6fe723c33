import OpenApiSharp.Document.Value
import OpenApiSharp.Yaml.Composition
import OpenApiSharp.Yaml.Graph
import OpenApiSharp.Yaml.Lexer
import OpenApiSharp.Yaml.Scalar

/-!
# The meaning of nodes

What the nodes of a document stand for, level by level from its root.  A scalar
gets its value when it is met first; a collection is put on a list then, and
filled when its turn comes.  The order counts, since a mapping that was settled
is settled for everything that refers to it and is filled later.
-/

namespace OpenApiSharp.Yaml

open Document

structure Key where
  value : Scalar
  /-- What is no number is a key of its own for every node that it was read from,
  unless it was written by its name. -/
  origin : Option NodeId := none
  deriving DecidableEq, Repr

def Key.same (left right : Key) : Bool :=
  left.value.same right.value && left.origin == right.origin

/-- What a node stands for. -/
inductive Part where
  | scalar (key : Key)
  /-- A collection that waits for its turn. -/
  | waiting
  | list (items : List NodeId)
  | pairs (pairs : List (NodeId × NodeId))
  | map (entries : List (Key × NodeId))
  | set (members : List Key)
  deriving Repr

/-- A document whose nodes get their meaning. -/
structure Reading where
  graph : Graph
  /-- What the nodes stand for, as far as they were met. -/
  parts : Array (Option Part)
  /-- All collections that were met, in their order. -/
  collections : Array NodeId := #[]

namespace Reading

/-- The text of a node that stands for a scalar: its own, or that of the main value
of a mapping, which is found in a number of steps. -/
def content? (graph : Graph) : Nat → NodeId → Option String
  | 0, _ => none
  | steps + 1, id =>
      match graph.shape? id with
      | some (.scalar content) => some content
      | some (.map entries) =>
          (entries.find? fun entry => graph.tag entry.1 = .main).bind fun entry =>
            content? graph steps entry.2
      | _ => none

/-- The scalar that a node stands for.  A date has no other form than its own. -/
def key? (graph : Graph) (id : NodeId) : Option Key := do
  let tag := graph.tag id
  if tag = .timestamp && graph.isMap id then none
  let content ← content? graph (graph.nodes.size + 1) id
  let value ← scalarValue? tag content
  return { value, origin := if isNameless value content then some id else none }

def part? (reading : Reading) (id : NodeId) : Option Part :=
  reading.parts[id]?.join

def setPart (reading : Reading) (id : NodeId) (part : Part) : Reading :=
  { reading with parts := reading.parts.setIfInBounds id (some part) }

def meet? (reading : Reading) (id : NodeId) : Option Reading :=
  match reading.part? id, reading.graph.tag id with
  | some _, _ => some reading
  | none, .list | none, .pairs | none, .map | none, .set =>
      some { reading.setPart id .waiting with collections := reading.collections.push id }
  | none, _ => (key? reading.graph id).map fun key => reading.setPart id (.scalar key)

/-- Meet the key and the value of an entry.  Only scalars can be keys. -/
def meetEntry? (reading : Reading) (entry : NodeId × NodeId) : Option (Key × Reading) := do
  let reading ← reading.meet? entry.1
  match reading.part? entry.1 with
  | some (.scalar key) => return (key, ← reading.meet? entry.2)
  | _ => none

/-- Meet all entries of a mapping, which gets settled.  Of entries with equal keys the
last one counts. -/
def entries? (reading : Reading) (id : NodeId) :
    Option (List (Key × NodeId) × Reading) := do
  if !reading.graph.isMap id then none
  let graph ← reading.graph.settle? reading.graph.settlingSteps id
  let (entries, reading) ← (graph.entries id).foldlM
    (fun ((table, reading) : List (Key × NodeId) × Reading) entry => do
      let (key, reading) ← reading.meetEntry? entry
      return (Keyed.put Key.same key entry.2 table, reading))
    ([], { reading with graph })
  return (entries, reading)

/-- Meet the key and the value of a mapping with one entry, as it is written. -/
def meetPair? (reading : Reading) (id : NodeId) : Option ((NodeId × NodeId) × Reading) := do
  match reading.graph.entries id with
  | [(first, second)] =>
      let reading ← reading.meet? first
      let reading ← reading.meet? second
      return ((first, second), reading)
  | _ => none

def fill? (reading : Reading) (id : NodeId) : Option Reading := do
  match reading.graph.tag id, reading.graph.shape? id with
  | .list, some (.list items) =>
      let reading ← items.foldlM meet? reading
      return reading.setPart id (.list items)
  | .pairs, some (.list items) =>
      let (pairs, reading) ← items.foldlM
        (fun ((pairs, reading) : List (NodeId × NodeId) × Reading) item => do
          let (pair, reading) ← reading.meetPair? item
          return (pairs ++ [pair], reading))
        ([], reading)
      return reading.setPart id (.pairs pairs)
  | .map, _ =>
      let (entries, reading) ← reading.entries? id
      return reading.setPart id (.map entries)
  | .set, _ =>
      let (entries, reading) ← reading.entries? id
      return reading.setPart id (.set (entries.map (·.1)))
  | _, _ => none

/-- Fill the collections from a turn on.  There are no more turns than nodes. -/
def fillFrom? : Nat → Nat → Reading → Option Reading
  | 0, _, reading => some reading
  | turns + 1, turn, reading =>
      match reading.collections[turn]? with
      | none => some reading
      | some id => (reading.fill? id).bind (fillFrom? turns (turn + 1))

/-- How often a value may be found inside of itself.  Values are finite, so a
collection that contains itself stands for its beginning: what never follows it
further reads the same, and what would follow it without end reads the cut. -/
def selfLimit : Nat := 4

/-- The value of a node inside of others. -/
def valueInside (reading : Reading) : Nat → List NodeId → NodeId → Value
  | 0, _, _ => .map []
  | depth + 1, outer, id =>
      let inside := reading.valueInside depth (id :: outer)
      if selfLimit ≤ outer.count id then .map []
      else
        match reading.part? id with
        | some (.scalar key) => .scalar key.value
        | some (.list items) => .list (items.map inside)
        | some (.pairs pairs) =>
            .list (pairs.map fun (first, second) => .pair (inside first) (inside second))
        | some (.map entries) =>
            .map (entries.map fun (key, value) => (key.value, inside value))
        | some (.set members) => .set (members.map (·.value))
        | some .waiting | none => .map []

def value (reading : Reading) (id : NodeId) : Value :=
  reading.valueInside (selfLimit * reading.graph.nodes.size + 1) [] id

end Reading

/-- The value that a document stands for. -/
def Rooted.value? (document : Rooted) : Option Value := do
  let count := document.graph.nodes.size
  let start : Reading := { graph := document.graph, parts := Array.replicate count none }
  let met ← start.meet? document.root
  let reading ← met.fillFrom? count 0
  return reading.value document.root

end OpenApiSharp.Yaml

namespace OpenApiSharp.Document

open Yaml

/-- The value that a YAML text stands for, if it is well-formed.  A text without
content stands for nothing. -/
def readYaml (text : List Char) : Option Value := do
  let tokens ← tokens? text
  let document ← document? tokens
  match document with
  | none => return .scalar .null
  | some document => document.value?

end OpenApiSharp.Document
