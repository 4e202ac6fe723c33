import Mathlib.Data.Bool.AllAny
import OpenApiSharp.Document.Value
import OpenApiSharp.Proofs.Keyed
import OpenApiSharp.Proofs.Text.LowerCase
import OpenApiSharp.Schema

namespace OpenApiSharp.Document

open Text

namespace Scalar

def isPlainKey : Scalar → Bool
  | text _ => true
  | int _ => true
  | _ => false

/-- Whether a text has a character that no integer is written with. -/
def isNoInteger (word : String) : Bool :=
  word.toList.any fun c => !('-' :: asciiDigits).contains c

theorem mem_of_mem_label_int
    {n : Int} {c : Char} (member : c ∈ (int n).label.toList) :
    c ∈ '-' :: asciiDigits := by
  cases n with
  | ofNat m =>
      exact List.mem_cons_of_mem _ (mem_asciiDigits_of_mem_toString member)
  | negSucc m =>
      have spelling :
          (int (.negSucc m)).label = "-" ++ toString (m + 1) :=
        rfl
      rw [spelling, String.toList_append, List.mem_append] at member
      rcases member with sign | digit
      · rw [List.mem_singleton.1 sign]
        exact List.mem_cons_self
      · exact List.mem_cons_of_mem _ (mem_asciiDigits_of_mem_toString digit)

private theorem label_int_ne
    {word : String} (noInteger : isNoInteger word = true) (n : Int) :
    (int n).label ≠ word := by
  intro same
  obtain ⟨c, member, foreign⟩ := List.any_eq_true.1 noInteger
  rw [← same] at member
  have inside :=
    List.contains_iff_mem.2 (mem_of_mem_label_int member)
  rw [inside] at foreign
  cases foreign

/-- Only the word itself is written like a word that is no integer. -/
theorem eq_text_of_label_eq
    {key : Scalar} {word : String} (plain : key.isPlainKey = true)
    (noInteger : isNoInteger word = true) (same : key.label = word) :
    key = text word := by
  cases key with
  | text content => exact congrArg text same
  | int n => exact absurd same (label_int_ne noInteger n)
  | _ => cases plain

end Scalar

namespace Value

mutual

/-- The value with the text of every key, at every depth, in place of the
key. -/
def quoteKeys : Value → Value
  | map entries => map (quoteEntries entries)
  | list elements => list (quoteElements elements)
  | pair first second => pair (quoteKeys first) (quoteKeys second)
  | scalar value => scalar value
  | set members => set members

def quoteElements : List Value → List Value
  | [] => []
  | value :: rest => quoteKeys value :: quoteElements rest

def quoteEntries : List (Scalar × Value) → List (Scalar × Value)
  | [] => []
  | (key, value) :: rest =>
      (.text key.label, quoteKeys value) :: quoteEntries rest

end

mutual

/-- Whether all keys, at every depth, are texts or integers, and no two keys of
a mapping are written alike. -/
def hasPlainKeys : Value → Bool
  | map entries =>
      decide (entries.map fun entry => entry.1.label).Nodup &&
        entriesHavePlainKeys entries
  | list elements => elementsHavePlainKeys elements
  | pair first second => hasPlainKeys first && hasPlainKeys second
  | scalar _ => true
  | set _ => true

def elementsHavePlainKeys : List Value → Bool
  | [] => true
  | value :: rest => hasPlainKeys value && elementsHavePlainKeys rest

def entriesHavePlainKeys : List (Scalar × Value) → Bool
  | [] => true
  | (key, value) :: rest =>
      key.isPlainKey && hasPlainKeys value && entriesHavePlainKeys rest

end

private theorem quoteEntries_eq_map (entries : List (Scalar × Value)) :
    quoteEntries entries =
      entries.map fun entry => (.text entry.1.label, entry.2.quoteKeys) := by
  induction entries with
  | nil => rfl
  | cons entry rest inductionHypothesis =>
      rw [quoteEntries, inductionHypothesis, List.map_cons]

theorem entriesHavePlainKeys_iff (entries : List (Scalar × Value)) :
    entriesHavePlainKeys entries = true ↔
      ∀ entry ∈ entries,
        entry.1.isPlainKey = true ∧ entry.2.hasPlainKeys = true := by
  induction entries with
  | nil => simp [entriesHavePlainKeys]
  | cons entry rest inductionHypothesis =>
      obtain ⟨key, value⟩ := entry
      simp [entriesHavePlainKeys, inductionHypothesis]

private theorem plain_of_mem_entries
    {value : Value} {entry : Scalar × Value}
    (plain : value.hasPlainKeys = true) (member : entry ∈ value.entries) :
    entry.1.isPlainKey = true ∧ entry.2.hasPlainKeys = true := by
  cases value with
  | map entries =>
      rw [hasPlainKeys, Bool.and_eq_true] at plain
      exact (entriesHavePlainKeys_iff entries).1 plain.2 entry member
  | _ => cases member

private theorem hasPlainKeys_of_get?
    {value child : Value} {word : String}
    (plain : value.hasPlainKeys = true) (found : value.get? word = some child) :
    child.hasPlainKeys = true := by
  obtain ⟨key, _, member⟩ := Keyed.mem_of_find?_eq_some found
  exact (plain_of_mem_entries plain member).2

@[simp]
private theorem entries_quoteKeys (value : Value) :
    value.quoteKeys.entries =
      value.entries.map fun entry =>
        (.text entry.1.label, entry.2.quoteKeys) := by
  cases value with
  | map entries => exact quoteEntries_eq_map entries
  | _ => rfl

@[simp]
private theorem text?_quoteKeys (value : Value) :
    value.quoteKeys.text? = value.text? := by
  cases value <;> rfl

@[simp]
private theorem isBool_quoteKeys (expected : Bool) (value : Value) :
    value.quoteKeys.isBool expected = value.isBool expected := by
  cases value <;> rfl

/-- Where all keys that are written like a word are that word, what is found
under the word is found under it with quoted keys. -/
private theorem get?_quoteKeys
    {value : Value} {word : String}
    (quoted : ∀ entry ∈ value.entries, entry.1.label = word →
      entry.1 = .text word) :
    value.quoteKeys.get? word = (value.get? word).map quoteKeys := by
  rw [get?, get?, entries_quoteKeys]
  refine
    Keyed.find?_map_keys (fun key : Scalar => Scalar.text key.label)
      quoteKeys ?_
  intro entry member
  rw [Bool.eq_iff_iff, beq_iff_eq, beq_iff_eq, Scalar.text.injEq]
  constructor
  · exact quoted entry member
  · intro same
    rw [same]
    rfl

section Words

variable {value : Value} (plain : value.hasPlainKeys = true)
  (word : String) (noInteger : Scalar.isNoInteger word = true)

include plain noInteger

private theorem get?_quoteKeys_of_isNoInteger :
    value.quoteKeys.get? word = (value.get? word).map quoteKeys := by
  apply get?_quoteKeys
  intro entry member
  exact Scalar.eq_text_of_label_eq
    (plain_of_mem_entries plain member).1 noInteger

private theorem getText?_quoteKeys :
    value.quoteKeys.getText? word = value.getText? word := by
  rw [getText?, getText?, get?_quoteKeys_of_isNoInteger plain word noInteger,
    Option.bind_map]
  congr 1
  exact funext text?_quoteKeys

end Words

end Value

end OpenApiSharp.Document

namespace OpenApiSharp.Schema

open Document CSharp

/-! ## Return types -/

private theorem itemName_quoteKeys
    {items : Option Value}
    (plain : ∀ schema, items = some schema → schema.hasPlainKeys = true) :
    itemName (items.map Value.quoteKeys) = itemName items := by
  cases items with
  | none => rfl
  | some schema =>
      have keys := plain schema rfl
      rw [Option.map_some, itemName, itemName]
      simp only [Value.getText?_quoteKeys keys "$ref" (by decide),
        Value.getText?_quoteKeys keys "type" (by decide),
        Value.getText?_quoteKeys keys "format" (by decide)]

mutual

private theorem resolve_quoteKeys :
    ∀ schema : Value, schema.hasPlainKeys = true →
      resolve schema.quoteKeys = resolve schema
  | .map entries, plain => by
      have reference := Value.getText?_quoteKeys plain "$ref" (by decide)
      have type := Value.getText?_quoteKeys plain "type" (by decide)
      have format := Value.getText?_quoteKeys plain "format" (by decide)
      have items :=
        Value.get?_quoteKeys_of_isNoInteger plain "items" (by decide)
      have mapping :=
        resolveMapping_quoteEntries entries (Bool.and_eq_true_iff.1 plain).2
      rw [Value.quoteKeys] at *
      simp only [resolve, reference, type, format, items, mapping]
      rw [itemName_quoteKeys fun schema found =>
        Value.hasPlainKeys_of_get? plain found]
  | .list _, _ => rfl
  | .pair _ _, _ => rfl
  | .scalar _, _ => rfl
  | .set _, _ => rfl

private theorem resolveMapping_quoteEntries :
    ∀ entries : List (Scalar × Value),
      Value.entriesHavePlainKeys entries = true →
        resolveMapping (Value.quoteEntries entries) = resolveMapping entries
  | [], _ => rfl
  | (key, value) :: rest, plain => by
      rw [Value.entriesHavePlainKeys, Bool.and_eq_true,
        Bool.and_eq_true] at plain
      have additional :
          Scalar.text key.label = .text "additionalProperties" ↔
            key = .text "additionalProperties" := by
        constructor
        · intro same
          exact Scalar.eq_text_of_label_eq plain.1.1 (by decide)
            (Scalar.text.inj same)
        · intro same
          rw [same]
          rfl
      rw [Value.quoteEntries, resolveMapping, resolveMapping,
        resolveMapping_quoteEntries rest plain.2,
        Value.isBool_quoteKeys, resolve_quoteKeys value plain.1.2]
      simp only [additional]

end

private theorem typeText_quoteKeys
    {schema : Value} (plain : schema.hasPlainKeys = true) :
    typeText schema.quoteKeys = typeText schema := by
  rw [typeText, typeText, resolve_quoteKeys schema plain]

/-- The values of a mapping of content types, those that stand for JSON
first. -/
def medias (content : Value) : List Value :=
  jsonContentTypes.filterMap content.get? ++ content.entries.map Prod.snd

private theorem medias_quoteKeys
    {content : Value} (plain : content.hasPlainKeys = true) :
    medias content.quoteKeys = (medias content).map Value.quoteKeys := by
  have words : ∀ word ∈ jsonContentTypes, Scalar.isNoInteger word = true := by
    decide
  have preferred :
      jsonContentTypes.filterMap content.quoteKeys.get? =
        jsonContentTypes.filterMap fun word =>
          (content.get? word).map Value.quoteKeys := by
    apply List.filterMap_congr
    intro word member
    exact Value.get?_quoteKeys_of_isNoInteger plain word (words word member)
  rw [medias, medias, preferred, Value.entries_quoteKeys, List.map_append,
    List.map_filterMap, List.map_map, List.map_map]
  rfl

private theorem hasPlainKeys_of_mem_medias
    {content media : Value} (plain : content.hasPlainKeys = true)
    (member : media ∈ medias content) : media.hasPlainKeys = true := by
  rcases List.mem_append.1 member with preferred | other
  · obtain ⟨word, _, found⟩ := List.mem_filterMap.1 preferred
    exact Value.hasPlainKeys_of_get? plain found
  · obtain ⟨entry, present, rfl⟩ := List.mem_map.1 other
    exact (Value.plain_of_mem_entries plain present).2

theorem bodySchema?_eq (holder : Value) :
    bodySchema? holder =
      (holder.get? "schema").or
        ((holder.get? "content").bind fun content =>
          (medias content).findSome? fun media => media.get? "schema") := by
  rw [bodySchema?]
  cases holder.get? "schema" <;> rfl

private theorem bodySchema?_quoteKeys
    {holder : Value} (plain : holder.hasPlainKeys = true) :
    bodySchema? holder.quoteKeys =
      (bodySchema? holder).map Value.quoteKeys := by
  have schema :=
    Value.get?_quoteKeys_of_isNoInteger plain "schema" (by decide)
  have content :=
    Value.get?_quoteKeys_of_isNoInteger plain "content" (by decide)
  rw [bodySchema?_eq, bodySchema?_eq, schema, content]
  cases holder.get? "schema" with
  | some direct => rfl
  | none =>
      cases found : holder.get? "content" with
      | none => rfl
      | some media =>
          have plainContent := Value.hasPlainKeys_of_get? plain found
          simp only [Option.map_some, Option.bind_some, Option.map_none,
            Option.none_or]
          rw [medias_quoteKeys plainContent, List.findSome?_map]
          apply Related.findSome?_eq_map
          intro other member
          exact Value.get?_quoteKeys_of_isNoInteger
            (hasPlainKeys_of_mem_medias plainContent member) "schema"
            (by decide)

private theorem hasPlainKeys_of_bodySchema?
    {holder schema : Value} (plain : holder.hasPlainKeys = true)
    (found : bodySchema? holder = some schema) :
    schema.hasPlainKeys = true := by
  rw [bodySchema?_eq, Option.or_eq_some_iff] at found
  rcases found with direct | ⟨_, behind⟩
  · exact Value.hasPlainKeys_of_get? plain direct
  · obtain ⟨content, present, inside⟩ := Option.bind_eq_some_iff.1 behind
    obtain ⟨media, member, schemaFound⟩ :=
      List.exists_of_findSome?_eq_some inside
    have plainContent := Value.hasPlainKeys_of_get? plain present
    exact Value.hasPlainKeys_of_get?
      (hasPlainKeys_of_mem_medias plainContent member) schemaFound

/-- The statuses that stand for success are quoted, where they are keys. -/
def QuotesSuccess (operation : Value) : Prop :=
  ∀ responses, operation.get? "responses" = some responses →
    ∀ entry ∈ responses.entries, entry.1.label ∈ successStatuses →
      entry.1 = .text entry.1.label

private theorem successResponse?_quoteKeys
    {operation : Value} (plain : operation.hasPlainKeys = true)
    (quoted : QuotesSuccess operation) :
    successResponse? operation.quoteKeys =
      (successResponse? operation).map Value.quoteKeys := by
  have responses :=
    Value.get?_quoteKeys_of_isNoInteger plain "responses" (by decide)
  rw [successResponse?, successResponse?, responses]
  cases found : operation.get? "responses" with
  | none => rfl
  | some answers =>
      have statuses :
          ∀ status ∈ successStatuses,
            answers.quoteKeys.get? status =
              (answers.get? status).map Value.quoteKeys := by
        intro status member
        apply Value.get?_quoteKeys
        intro entry present same
        rw [← same] at member ⊢
        exact quoted answers found entry present member
      rw [Option.map_some, Option.bind_some, Option.bind_some]
      exact Related.findSome?_eq_map statuses

private theorem hasPlainKeys_of_successResponse?
    {operation response : Value} (plain : operation.hasPlainKeys = true)
    (found : successResponse? operation = some response) :
    response.hasPlainKeys = true := by
  obtain ⟨responses, present, inside⟩ := Option.bind_eq_some_iff.1 found
  obtain ⟨status, _, answered⟩ := List.exists_of_findSome?_eq_some inside
  exact Value.hasPlainKeys_of_get?
    (Value.hasPlainKeys_of_get? plain present) answered

/-- An operation whose successful statuses are quoted returns the same type
whether or not its other keys are. -/
theorem returnTypeText_quoteKeys
    {operation : Value} (plain : operation.hasPlainKeys = true)
    (quoted : QuotesSuccess operation) :
    returnTypeText operation.quoteKeys = returnTypeText operation := by
  rw [returnTypeText, returnTypeText, successResponse?_quoteKeys plain quoted]
  cases answered : successResponse? operation with
  | none => rfl
  | some response =>
      have plainResponse := hasPlainKeys_of_successResponse? plain answered
      rw [Option.map_some, Option.bind_some, Option.bind_some,
        bodySchema?_quoteKeys plainResponse]
      cases found : bodySchema? response with
      | none => rfl
      | some schema =>
          exact typeText_quoteKeys
            (hasPlainKeys_of_bodySchema? plainResponse found)

/-- A quoted status of success beside one of failure that is not, with integers
as a content type and inside of a schema. -/
def countOperation : Value :=
  .map
    [(.text "responses", .map
      [(.int 404, .map []),
       (.text "200", .map
        [(.text "content", .map
          [(.int 7, .map
            [(.text "schema", .map
              [(.int (-1), .text "note"),
               (.text "type", .text "object"),
               (.text "additionalProperties",
                .map [(.text "type", .text "integer")])])])])])])]

theorem returnTypeText_quoteKeys_count :
    countOperation.hasPlainKeys = true ∧ QuotesSuccess countOperation ∧
      returnTypeText countOperation.quoteKeys =
        returnTypeText countOperation := by
  have plain : countOperation.hasPlainKeys = true := by
    decide +kernel
  have quoted : QuotesSuccess countOperation := by
    rintro _ ⟨⟩
    decide +kernel
  exact ⟨plain, quoted, returnTypeText_quoteKeys plain quoted⟩

/-- An operation that returns a text, under a status that is an integer. -/
def unquotedOperation : Value :=
  .map
    [(.text "responses", .map
      [(.int 200, .map
        [(.text "schema", .map [(.text "type", .text "string")])])])]

theorem returnTypeText_unquoted_status :
    unquotedOperation.hasPlainKeys = true ∧
      returnTypeText unquotedOperation.quoteKeys = "string" ∧
      returnTypeText unquotedOperation = "void" := by
  decide +kernel

end OpenApiSharp.Schema
