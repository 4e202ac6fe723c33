import OpenApiSharp.Document.Scalar
import OpenApiSharp.Keyed

/-!
# Documents

A document is a tree of mappings, lists and scalars.  Mappings keep the order
of their entries.  Beside these there are the pairs of an ordered mapping,
which stand in lists, and sets.

The accessors answer for every value: what is not a mapping has no entries,
and what is not a list has no elements.
-/

namespace OpenApiSharp.Document

/-- A value of a document. -/
inductive Value where
  | scalar (value : Scalar)
  | list (elements : List Value)
  | pair (first second : Value)
  | set (members : List Scalar)
  | map (entries : List (Scalar × Value))

namespace Value

instance : Inhabited Value := ⟨.scalar .null⟩

def text (value : String) : Value :=
  .scalar (.text value)

def isMap : Value → Bool
  | map _ => true
  | _ => false

/-- The entries of a mapping in document order. -/
def entries : Value → List (Scalar × Value)
  | map entries => entries
  | _ => []

def elements : Value → List Value
  | list elements => elements
  | _ => []

def text? : Value → Option String
  | scalar (.text value) => some value
  | _ => none

def get? (value : Value) (key : String) : Option Value :=
  Keyed.find? (fun present => present == .text key) value.entries

def has (value : Value) (key : String) : Bool :=
  (value.get? key).isSome

/-- The text under a key; any other value counts as absent. -/
def getText? (value : Value) (key : String) : Option String :=
  (value.get? key).bind text?

def isBool (expected : Bool) : Value → Bool
  | scalar (.bool value) => value == expected
  | _ => false

def isTrue (value : Value) (key : String) : Bool :=
  (value.get? key).any (isBool true)

mutual

/-- Equality of the parts of values: scalars by `Scalar.same`, mappings whatever the
order of their entries. -/
def same : Value → Value → Bool
  | scalar left, scalar right => left.same right
  | list left, list right => sameElements left right
  | pair first second, pair first' second' => same first first' && same second second'
  | set left, set right =>
      left.length == right.length &&
        left.all fun member => right.any fun other => member.same other
  | map left, map right => left.length == right.length && sameEntries left right
  | _, _ => false

def sameElements : List Value → List Value → Bool
  | [], [] => true
  | left :: lefts, right :: rights => same left right && sameElements lefts rights
  | _, _ => false

/-- Whether every entry has an equal one under the same key. -/
def sameEntries : List (Scalar × Value) → List (Scalar × Value) → Bool
  | [], _ => true
  | (key, value) :: rest, others =>
      (match Keyed.find? (fun other => other.same key) others with
        | some other => same value other
        | none => false) && sameEntries rest others

end

/-- Whether the value is a double that stands for no number. -/
def isNaN : Value → Bool
  | scalar (.float x) => x.isNaN
  | _ => false

/-- Equality of whole values.  What is no number equals itself as a part of other
values, but not by itself. -/
def equal (left right : Value) : Bool :=
  !left.isNaN && left.same right

end Value

end OpenApiSharp.Document
