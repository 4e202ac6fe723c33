/-!
# Entries in order of first arrival

A list of pairs is read as a table that remembers the order in which its keys
first arrived: writing to a key that is present keeps its place and its first
spelling, and replaces its value.  Keys may be equal without being the same,
so the test is a parameter.
-/

namespace OpenApiSharp.Keyed

/-- The value under the first key that satisfies the test. -/
def find? {κ α : Type} (matchesKey : κ → Bool) : List (κ × α) → Option α
  | [] => none
  | (key, value) :: rest =>
      if matchesKey key then some value else find? matchesKey rest

def put {κ α : Type} (same : κ → κ → Bool) (key : κ) (value : α) :
    List (κ × α) → List (κ × α)
  | [] => [(key, value)]
  | (present, old) :: rest =>
      if same present key then (present, value) :: rest
      else (present, old) :: put same key value rest

/-- The table that arises by writing the pairs one after the other. -/
def ofList {κ α : Type} (same : κ → κ → Bool) (pairs : List (κ × α)) :
    List (κ × α) :=
  pairs.foldl (fun table pair => put same pair.1 pair.2 table) []

/-- The elements collected by key: the keys in order of first arrival, and
under each key its elements in their order. -/
def group {κ α : Type} [BEq κ] (keyOf : α → κ) (elements : List α) :
    List (κ × List α) :=
  (elements.map keyOf).eraseDups.map fun key =>
    (key, elements.filter fun element => keyOf element == key)

end OpenApiSharp.Keyed
