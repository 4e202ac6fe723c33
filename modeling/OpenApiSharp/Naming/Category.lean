import OpenApiSharp.Keyed
import OpenApiSharp.Text.Case
import OpenApiSharp.Text.Search

/-!
# Categories

Definitions are grouped by the entity that their names speak of, so that
`CreateOrderRequest`, `OrderDto` and `OrderStatus` all belong to `Order`.  The words
of a name begin at its capitals, and runs of capitals stay together.  The folder of
a category is the English plural of the entity, made by rule.
-/

namespace OpenApiSharp.Naming

open Text

/-- The words of a camel-case name, as lists of characters. -/
def splitCamelChars : List Char → List (List Char)
  | [] => []
  | c :: rest =>
      match rest.head?, splitCamelChars rest with
      | some next, word :: more =>
          if isUpper next && !isUpper c then [c] :: word :: more
          else (c :: word) :: more
      | _, _ => [[c]]

def splitCamel (name : String) : List String :=
  (splitCamelChars name.toList).map String.ofList

def uncountable : List String :=
  ["equipment", "information", "rice", "money", "news", "feedback",
   "software", "hardware", "metadata", "staff", "luggage", "furniture"]

/-- Words whose plural follows no rule. -/
def irregularPlurals : List (String × String) :=
  [("person", "people"), ("man", "men"), ("woman", "women"),
   ("child", "children"), ("tooth", "teeth"), ("foot", "feet"),
   ("mouse", "mice"), ("goose", "geese"), ("ox", "oxen"),
   ("fish", "fish"), ("sheep", "sheep"), ("deer", "deer"),
   ("series", "series"), ("species", "species"),
   ("criterion", "criteria"), ("phenomenon", "phenomena"),
   ("analysis", "analyses"), ("crisis", "crises"), ("datum", "data")]

/-- The vowels that keep a final y and take a plain s after a final o. -/
def isVowel (c : Char) : Bool :=
  ['a', 'e', 'i', 'o', 'u'].contains c

/-- Write `target` in the case of `source`: all capitals, a leading capital,
or as it is.  A single capital is a leading one. -/
def matchCase (source target : String) : String :=
  if 1 < source.length && source.toList.all isUpper then capitals target
  else if source.toList.head?.any isUpper then capitalizeFirst target
  else target

def dropEnd (count : Nat) (text : String) : String :=
  String.ofList (text.toList.take (text.toList.length - count))

/-- The plural by the ending of the lower-case word, which is given from its
last letter on. -/
def pluralByEnding (word : String) : List Char → String
  | 's' :: _ | 'x' :: _ | 'z' :: _ | 'h' :: 'c' :: _ | 'h' :: 's' :: _ => word ++ "es"
  | 'y' :: c :: _ => if isVowel c then word ++ "s" else dropEnd 1 word ++ "ies"
  | 'e' :: 'f' :: _ => dropEnd 2 word ++ "ves"
  | 'f' :: _ => dropEnd 1 word ++ "ves"
  | 'o' :: c :: _ => if isVowel c then word ++ "s" else word ++ "es"
  | _ => word ++ "s"

def pluralize (word : String) : String :=
  let small := lower word
  if word.isEmpty then word
  else if uncountable.contains small then word
  else
    match irregularPlurals.lookup small with
    | some plural => matchCase word plural
    | none => pluralByEnding word small.toList.reverse

/-- Parts of names that say nothing about the entity, in the order in which
they are removed. -/
def noiseTokens : List String :=
  ["Dto", "DTO", "Request", "Response", "Proxy",
   "Create", "Update", "Delete", "Filter", "Paged"]

def commonWords : List String :=
  ["and", "or", "the", "of", "in", "to", "for", "by", "with",
   "on", "at", "from", "as", "is", "are", "was", "were", "be",
   "has", "have", "had", "do", "does", "did", "get", "set",
   "add", "remove", "update", "delete", "create", "new", "old",
   "current", "previous", "next", "first", "last", "multiple",
   "single", "all", "any", "each", "every", "some", "no", "not",
   "type", "status", "category", "filter", "search", "find",
   "list", "page", "paged", "count", "total", "sum", "average",
   "min", "max", "value", "values", "data", "info", "detail",
   "details", "item", "items", "element", "elements", "object",
   "objects", "entity", "entities", "model", "models", "class",
   "record", "struct", "enum", "interface", "base", "abstract",
   "virtual", "override", "static", "public", "private", "protected",
   "internal", "sealed", "partial", "async", "await", "task"]

/-- Whether a word, in any case, names no entity. -/
def isCommonWord (word : String) : Bool :=
  commonWords.contains (lower word)

def stripNoise (name : String) : String :=
  noiseTokens.foldl (fun current token => eraseAll token current) name

/-- The first word that can name an entity: longer than two characters and not
a common word. -/
def mainEntity (name : String) : String :=
  match splitCamel name with
  | [] => "Common"
  | first :: rest =>
      ((first :: rest).find? fun word =>
        decide (2 < word.length) && !isCommonWord word).getD first

def categorize (name : String) : String :=
  mainEntity (stripNoise name)

/-- Named definitions by category, in order of first arrival. -/
def categorizeAll {α : Type} (definitions : List (String × α)) :
    List (String × List (String × α)) :=
  Keyed.group (fun definition => categorize definition.1) definitions

end OpenApiSharp.Naming
