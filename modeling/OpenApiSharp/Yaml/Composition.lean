import OpenApiSharp.Yaml.Graph
import OpenApiSharp.Yaml.Scalar
import OpenApiSharp.Yaml.Token

/-!
# Documents as graphs

The nodes of a document from its tokens.  A reader takes tokens from the front and
returns what it read, the draft of the nodes by then, and the tokens left, whose
number is bounded.
-/

namespace OpenApiSharp.Yaml

/-- The nodes of a document that were read so far. -/
structure Draft where
  graph : Graph := {}
  /-- The nodes with anchors. -/
  anchors : List (String × NodeId) := []

namespace Draft

/-- The node that an alias stands for. -/
def named? (draft : Draft) (name : String) : Option NodeId :=
  draft.anchors.lookup name

/-- Whether a node may have an anchor: there must be no other one of that name. -/
def allows (draft : Draft) (anchor : Option String) : Bool :=
  !anchor.any fun name => (draft.named? name).isSome

/-- Add a node, which may have an anchor. -/
def add (draft : Draft) (anchor : Option String) (node : Node) : NodeId × Draft :=
  let id := draft.graph.nodes.size
  (id,
    { graph := { nodes := draft.graph.nodes.push node }
      anchors := (anchor.map fun name => (name, id)).toList ++ draft.anchors })

end Draft

/-- The names that tag handles stand for. -/
abbrev Handles := List (String × String)

/-- The handles that need no directive. -/
def standardHandles : Handles := [("!", "!"), ("!!", standardTagStart)]

/-- What is written in the place of a tag. -/
inductive Tagging where
  | absent
  /-- A lone exclamation mark: the form of the node decides. -/
  | unspecific
  | tagged (tag : Tag)
  deriving DecidableEq, Repr

def TagText.resolve? (handles : Handles) : TagText → Option Tagging
  | whole "!" => some .unspecific
  | whole name => some (.tagged (.ofName name))
  | short handle rest =>
      (handles.lookup handle).map fun expansion => .tagged (.ofName (expansion ++ rest))

/-- The tag of a scalar. -/
def Tagging.scalarTag (tagging : Tagging) (content : String) (isPlain : Bool) : Tag :=
  match tagging with
  | tagged tag => tag
  | unspecific => impliedTag content
  | absent => if isPlain then impliedTag content else .text

/-- The tag of a collection, given that of its kind. -/
def Tagging.orElse (tagging : Tagging) (kind : Tag) : Tag :=
  match tagging with
  | tagged tag => tag
  | _ => kind

def Tagging.listNode (tagging : Tagging) : Node :=
  { tag := tagging.orElse .list, shape := .list [] }

def Tagging.mapNode (tagging : Tagging) : Node :=
  { tag := tagging.orElse .map, shape := .map [] }

/-- The anchor and the tag in front of a node, and the tokens behind them. -/
structure Marks where
  anchor : Option String := none
  tag : Option TagText := none
  rest : List Token

/-- The marks at the front of the tokens. -/
def Marks.ofTokens : List Token → Marks
  | .anchor name :: .tag tag :: rest => { anchor := some name, tag := some tag, rest }
  | .tag tag :: .anchor name :: rest => { anchor := some name, tag := some tag, rest }
  | .anchor name :: rest => { anchor := some name, rest }
  | .tag tag :: rest => { tag := some tag, rest }
  | rest => { rest }

theorem Marks.rest_length (tokens : List Token) :
    (Marks.ofTokens tokens).rest.length ≤ tokens.length := by
  unfold Marks.ofTokens
  split <;> simp only [List.length_cons] <;> omega

theorem Marks.behind_length {tokens rest : List Token} {token : Token}
    (marked : (Marks.ofTokens tokens).rest = token :: rest) : rest.length < tokens.length := by
  have shorter := Marks.rest_length tokens
  rw [marked, List.length_cons] at shorter
  omega

def Marks.tagging? (marks : Marks) (handles : Handles) : Option Tagging :=
  match marks.tag with
  | none => some .absent
  | some tag => tag.resolve? handles

/-- Where a node stands. -/
inductive Place where
  | document
  | blockItem
  /-- In a list that is indented no more than the key that it belongs to. -/
  | looseItem
  | blockEntry
  | flowItem
  | flowPair
  | flowEntry
  deriving DecidableEq, Repr

namespace Place

/-- Whether block collections are allowed. -/
def allowsBlock : Place → Bool
  | document | blockItem | looseItem | blockEntry => true
  | flowItem | flowPair | flowEntry => false

/-- The tokens before which a node is empty. -/
def stops : Place → List Token
  | document | flowItem => []
  | blockItem => [.blockItem, .blockEnd]
  | looseItem => [.blockItem, .key, .value, .blockEnd]
  | blockEntry => [.key, .value, .blockEnd]
  | flowPair => [.value, .flowComma, .flowListEnd]
  | flowEntry => [.value, .flowComma, .flowMapEnd]

end Place

/-- What was read, with less than a bound of tokens left. -/
structure Parsed (α : Type) (bound : Nat) where
  value : α
  draft : Draft
  rest : List Token
  bounded : rest.length < bound

namespace Parsed

/-- The same for a greater bound. -/
def widen {α : Type} {bound wider : Nat} (parsed : Parsed α bound) (le : bound ≤ wider) :
    Parsed α wider :=
  { parsed with bounded := Nat.lt_of_lt_of_le parsed.bounded le }

/-- The same with something made of the value. -/
def map {α β : Type} {bound : Nat} (f : α → β) (parsed : Parsed α bound) : Parsed β bound :=
  { parsed with value := f parsed.value }

def fill {bound : Nat} (parsed : Parsed Shape bound) (id : NodeId) : Parsed NodeId bound :=
  { parsed with
    value := id
    draft := { parsed.draft with graph := parsed.draft.graph.setShape id parsed.value } }

def enclose {bound : Nat} (parsed : Parsed Node bound) : Parsed NodeId bound :=
  let (id, draft) := parsed.draft.add none parsed.value
  { parsed with value := id, draft }

/-- The entry of a key with an empty value. -/
def alone {bound : Nat} (parsed : Parsed NodeId bound) : Parsed (NodeId × NodeId) bound :=
  let (id, draft) := parsed.draft.add none .empty
  { parsed with value := (parsed.value, id), draft }

end Parsed

/-- An empty node in front of the tokens. -/
def emptyBefore (draft : Draft) (tokens : List Token) : Parsed NodeId (tokens.length + 1) :=
  let (value, draft) := draft.add none .empty
  { value, draft, rest := tokens, bounded := Nat.lt_succ_self _ }

/-- The empty node behind marks, of which there has to be one. -/
def emptyNode? (tagging : Tagging) (draft : Draft) (tokens : List Token) :
    Option (Parsed NodeId tokens.length) :=
  let marks := Marks.ofTokens tokens
  if bounded : marks.rest.length < tokens.length then
    let (value, draft) :=
      draft.add marks.anchor { tag := tagging.scalarTag "" true, shape := .scalar "" }
    some { value, draft, rest := marks.rest, bounded }
  else none

mutual

/-- A node that is not empty, unless marks stand in front of it. -/
def node (handles : Handles) (place : Place) (draft : Draft) (tokens : List Token) :
    Option (Parsed NodeId tokens.length) :=
  match tokens with
  | .alias name :: rest => do
      let value ← draft.named? name
      return { value, draft, rest, bounded := Nat.lt_succ_self _ }
  | tokens => do
      let marks := Marks.ofTokens tokens
      let tagging ← marks.tagging? handles
      if !draft.allows marks.anchor then none
      match marked : marks.rest with
      | .scalar content isPlain :: rest =>
          let (value, draft) := draft.add marks.anchor
            { tag := tagging.scalarTag content isPlain, shape := .scalar content }
          return { value, draft, rest, bounded := Marks.behind_length marked }
      | .flowListStart :: rest => do
          have behind := Marks.behind_length marked
          let (id, draft) := draft.add marks.anchor tagging.listNode
          let items ← flowItems handles draft rest
          return ((items.map .list).fill id).widen (Nat.le_of_lt behind)
      | .flowMapStart :: rest => do
          have behind := Marks.behind_length marked
          let (id, draft) := draft.add marks.anchor tagging.mapNode
          let entries ← flowEntries handles draft rest
          return ((entries.map .map).fill id).widen (Nat.le_of_lt behind)
      | .blockListStart :: rest =>
          have behind := Marks.behind_length marked
          if place.allowsBlock then do
            let (id, draft) := draft.add marks.anchor tagging.listNode
            let items ← blockItems handles draft rest
            return ((items.map .list).fill id).widen (Nat.le_of_lt behind)
          else emptyNode? tagging draft tokens
      | .blockMapStart :: rest =>
          have behind := Marks.behind_length marked
          if place.allowsBlock then do
            let (id, draft) := draft.add marks.anchor tagging.mapNode
            let entries ← blockEntries handles draft rest
            return ((entries.map .map).fill id).widen (Nat.le_of_lt behind)
          else emptyNode? tagging draft tokens
      -- as the value of an entry a list may be indented like its key
      | .blockItem :: rest =>
          have behind := Marks.behind_length marked
          if place == .blockEntry then do
            let (id, draft) := draft.add marks.anchor tagging.listNode
            let first ← slot handles .looseItem draft rest
            have bounded := first.bounded
            let items ← looseItems handles first.draft first.rest
            return ((items.map fun items => .list (first.value :: items)).fill id).widen
              (Nat.le_trans bounded behind)
          else emptyNode? tagging draft tokens
      | _ => emptyNode? tagging draft tokens
termination_by (tokens.length, 0)

/-- A node that may be empty. -/
def slot (handles : Handles) (place : Place) (draft : Draft) (tokens : List Token) :
    Option (Parsed NodeId (tokens.length + 1)) :=
  if tokens.head?.any place.stops.contains then
    some (emptyBefore draft tokens)
  else
    (node handles place draft tokens).map (.widen · (Nat.le_succ _))
termination_by (tokens.length, 1)

def blockItems (handles : Handles) (draft : Draft) :
    (tokens : List Token) → Option (Parsed (List NodeId) tokens.length)
  | .blockEnd :: rest => some { value := [], draft, rest, bounded := Nat.lt_succ_self _ }
  | .blockItem :: rest => do
      let item ← slot handles .blockItem draft rest
      have bounded := item.bounded
      let items ← blockItems handles item.draft item.rest
      return (items.map (item.value :: ·)).widen (Nat.le_of_lt bounded)
  | _ => none
termination_by tokens => (tokens.length, 0)

/-- The elements of a list that nothing ends but the lack of a further one. -/
def looseItems (handles : Handles) (draft : Draft) (tokens : List Token) :
    Option (Parsed (List NodeId) (tokens.length + 1)) :=
  match tokens with
  | .blockItem :: rest => do
      let item ← slot handles .looseItem draft rest
      have bounded := item.bounded
      let items ← looseItems handles item.draft item.rest
      return (items.map (item.value :: ·)).widen (Nat.le_succ_of_le bounded)
  | rest => some { value := [], draft, rest, bounded := Nat.lt_succ_self _ }
termination_by (tokens.length, 0)

/-- A key and its value, which is empty if there is no sign of it. -/
def entry (handles : Handles) (place : Place) (draft : Draft) (tokens : List Token) :
    Option (Parsed (NodeId × NodeId) (tokens.length + 1)) := do
  let key ← slot handles place draft tokens
  match rest_eq : key.rest with
  | .value :: rest =>
      have behind : rest.length < tokens.length := by
        have bounded := key.bounded
        rw [rest_eq, List.length_cons] at bounded
        omega
      let value ← slot handles place key.draft rest
      return (value.map fun value => (key.value, value)).widen
        (Nat.succ_le_succ (Nat.le_of_lt behind))
  | _ => return key.alone
termination_by (tokens.length, 2)

def blockEntries (handles : Handles) (draft : Draft) :
    (tokens : List Token) → Option (Parsed (List (NodeId × NodeId)) tokens.length)
  | .blockEnd :: rest => some { value := [], draft, rest, bounded := Nat.lt_succ_self _ }
  | .key :: rest => do
      let first ← entry handles .blockEntry draft rest
      have bounded := first.bounded
      let entries ← blockEntries handles first.draft first.rest
      return (entries.map (first.value :: ·)).widen (Nat.le_of_lt bounded)
  | _ => none
termination_by tokens => (tokens.length, 0)

def flowItems (handles : Handles) (draft : Draft) (tokens : List Token) :
    Option (Parsed (List NodeId) tokens.length) :=
  match tokens with
  | .flowListEnd :: rest => some { value := [], draft, rest, bounded := Nat.lt_succ_self _ }
  | .key :: rest => do
      let pair ← entry handles .flowPair draft rest
      let item := (pair.map fun pair => { tag := .map, shape := .map [pair] : Node }).enclose
      have bounded := item.bounded
      let items ← furtherItems handles item.draft item.rest
      return (items.map (item.value :: ·)).widen (Nat.le_of_lt bounded)
  | tokens => do
      let item ← node handles .flowItem draft tokens
      have bounded := item.bounded
      let items ← furtherItems handles item.draft item.rest
      return (items.map (item.value :: ·)).widen (Nat.le_of_lt bounded)
termination_by (tokens.length, 1)

/-- The elements of a flow list behind one of them. -/
def furtherItems (handles : Handles) (draft : Draft) :
    (tokens : List Token) → Option (Parsed (List NodeId) tokens.length)
  | .flowListEnd :: rest => some { value := [], draft, rest, bounded := Nat.lt_succ_self _ }
  | .flowComma :: rest => (flowItems handles draft rest).map (.widen · (Nat.le_succ _))
  | _ => none
termination_by tokens => (tokens.length, 0)

/-- The entries of a flow mapping, up to its end.  A node without a sign is a key
with an empty value. -/
def flowEntries (handles : Handles) (draft : Draft) (tokens : List Token) :
    Option (Parsed (List (NodeId × NodeId)) tokens.length) :=
  match tokens with
  | .flowMapEnd :: rest => some { value := [], draft, rest, bounded := Nat.lt_succ_self _ }
  | .key :: rest => do
      let first ← entry handles .flowEntry draft rest
      have bounded := first.bounded
      let entries ← furtherEntries handles first.draft first.rest
      return (entries.map (first.value :: ·)).widen (Nat.le_of_lt bounded)
  | tokens => do
      let key ← node handles .flowItem draft tokens
      let first := key.alone
      have bounded := first.bounded
      let entries ← furtherEntries handles first.draft first.rest
      return (entries.map (first.value :: ·)).widen (Nat.le_of_lt bounded)
termination_by (tokens.length, 1)

/-- The entries of a flow mapping behind one of them. -/
def furtherEntries (handles : Handles) (draft : Draft) :
    (tokens : List Token) → Option (Parsed (List (NodeId × NodeId)) tokens.length)
  | .flowMapEnd :: rest => some { value := [], draft, rest, bounded := Nat.lt_succ_self _ }
  | .flowComma :: rest => (flowEntries handles draft rest).map (.widen · (Nat.le_succ _))
  | _ => none
termination_by tokens => (tokens.length, 0)

end

/-- The tag handles that the directives in front of a document give, and the tokens
behind its marker.  The version may be given once, and so may each handle. -/
def prologue? (versioned : Bool) (handles : Handles) : List Token → Option (Handles × List Token)
  | .directive (.version major _) :: rest =>
      if versioned || major != 1 then none else prologue? true handles rest
  | .directive (.handle handle expansion) :: rest =>
      if (handles.lookup handle).isSome then none
      else prologue? versioned ((handle, expansion) :: handles) rest
  | .directive (.other _) :: rest => prologue? versioned handles rest
  | .documentStart :: rest => some (handles ++ standardHandles, rest)
  | _ => none

/-- Whether nothing but marks of the end of a document follows. -/
def endsText (tokens : List Token) : Bool :=
  tokens.all (· == .documentEnd)

/-- A graph and the node in it where a document begins. -/
structure Rooted where
  graph : Graph
  root : NodeId
  deriving DecidableEq, Repr

/-- The root of a document, behind which the text ends. -/
def root? (handles : Handles) (tokens : List Token) : Option Rooted := do
  let root ← node handles .document {} tokens
  if endsText root.rest then return { graph := root.draft.graph, root := root.value } else none

/-- The document that the tokens of a text describe.  A text without tokens holds no
document; a document without content is an empty node. -/
def document? (tokens : List Token) : Option (Option Rooted) :=
  match tokens with
  | [] => some none
  | .directive _ :: _ | .documentStart :: _ => do
      let (handles, rest) ← prologue? false [] tokens
      if endsText rest then return some { graph := { nodes := #[.empty] }, root := 0 }
      (root? handles rest).map some
  | _ => (root? standardHandles tokens).map some

end OpenApiSharp.Yaml
