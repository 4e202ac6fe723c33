import OpenApiSharp.Document.JsonText
import OpenApiSharp.Document.Value
import OpenApiSharp.Proofs.Keyed

namespace OpenApiSharp.Document.Value

@[simp]
theorem text?_eq_some_iff {value : Value} {content : String} :
    value.text? = some content ↔ value = .text content := by
  cases value with
  | scalar scalar =>
      cases scalar <;> simp [text?, text]
  | _ => simp [text?, text]

theorem mem_elements_iff {value element : Value} :
    element ∈ value.elements ↔
      ∃ elements, value = .list elements ∧ element ∈ elements := by
  cases value <;> simp [elements]

@[simp]
theorem isBool_iff {expected : Bool} {value : Value} :
    value.isBool expected = true ↔ value = .scalar (.bool expected) := by
  cases value with
  | scalar scalar =>
      cases scalar <;> simp [isBool]
  | _ => simp [isBool]

section Keys

variable {value : Value} {key : String}

theorem has_iff :
    value.has key = true ↔ ∃ present, value.get? key = some present := by
  rw [has, Option.isSome_iff_exists]

theorem getText?_eq_some_iff {content : String} :
    value.getText? key = some content ↔
      value.get? key = some (.text content) := by
  simp [getText?, Option.bind_eq_some_iff]

theorem isTrue_iff :
    value.isTrue key = true ↔ value.get? key = some (.scalar (.bool true)) := by
  simp [isTrue, Option.any_eq_true]

end Keys

end OpenApiSharp.Document.Value

namespace OpenApiSharp.Document

namespace Scalar

/-- A scalar that JSON has. -/
def isJson : Scalar → Bool
  | null => true
  | bool _ => true
  | int _ => true
  | float _ => true
  | text _ => true
  | bytes _ => false
  | date _ => false
  | timestamp _ => false

def isText : Scalar → Bool
  | text _ => true
  | _ => false

theorem exists_text_of_isText {key : Scalar} (textual : key.isText = true) :
    ∃ content, key = text content := by
  cases key with
  | text content => exact ⟨content, rfl⟩
  | _ => cases textual

private theorem jsonText_isOk {value : Scalar} (json : value.isJson = true) :
    ∃ content, value.jsonText = .ok content := by
  cases value with
  | bool truth => cases truth <;> exact ⟨_, rfl⟩
  | bytes _ => cases json
  | date _ => cases json
  | timestamp _ => cases json
  | _ => exact ⟨_, rfl⟩

end Scalar

namespace Value

mutual

/-- Whether a value is one of JSON, at every depth. -/
def isJson : Value → Bool
  | scalar value => value.isJson
  | list elements => areJson elements
  | map entries => entriesAreJson entries
  | pair _ _ => false
  | set _ => false

def areJson : List Value → Bool
  | [] => true
  | value :: rest => isJson value && areJson rest

/-- Whether all keys are texts and all values are values of JSON. -/
def entriesAreJson : List (Scalar × Value) → Bool
  | [] => true
  | (key, value) :: rest =>
      key.isText && isJson value && entriesAreJson rest

end

theorem areJson_iff (elements : List Value) :
    areJson elements = true ↔
      ∀ element ∈ elements, element.isJson = true := by
  induction elements with
  | nil => simp [areJson]
  | cons value rest inductionHypothesis =>
      simp [areJson, inductionHypothesis]

theorem entriesAreJson_iff (entries : List (Scalar × Value)) :
    entriesAreJson entries = true ↔
      ∀ entry ∈ entries,
        entry.1.isText = true ∧ entry.2.isJson = true := by
  induction entries with
  | nil => simp [entriesAreJson]
  | cons entry rest inductionHypothesis =>
      obtain ⟨key, value⟩ := entry
      simp [entriesAreJson, inductionHypothesis]

theorem isJson_of_mem_elements
    {value element : Value} (json : value.isJson = true)
    (member : element ∈ value.elements) : element.isJson = true := by
  cases value with
  | list elements =>
      rw [isJson, areJson_iff] at json
      exact json element member
  | _ => cases member

theorem isJson_of_mem_entries
    {value : Value} {entry : Scalar × Value} (json : value.isJson = true)
    (member : entry ∈ value.entries) :
    entry.1.isText = true ∧ entry.2.isJson = true := by
  cases value with
  | map entries =>
      rw [isJson, entriesAreJson_iff] at json
      exact json entry member
  | _ => cases member

theorem isJson_of_get?
    {value part : Value} {key : String} (json : value.isJson = true)
    (found : value.get? key = some part) : part.isJson = true := by
  obtain ⟨present, _, member⟩ := Keyed.mem_of_find?_eq_some found
  exact (isJson_of_mem_entries json member).2

mutual

private theorem jsonText_isOk :
    ∀ {value : Value}, value.isJson = true →
      ∃ content, value.jsonText = .ok content
  | .scalar value, json => by
      rw [isJson] at json
      obtain ⟨content, written⟩ := Scalar.jsonText_isOk json
      exact ⟨content, by rw [jsonText, written]⟩
  | .list elements, json => by
      rw [isJson] at json
      obtain ⟨contents, written⟩ := jsonTexts_isOk json
      exact ⟨_, by rw [jsonText, written]; rfl⟩
  | .map entries, json => by
      rw [isJson] at json
      obtain ⟨contents, written⟩ := jsonEntries_isOk json
      exact ⟨_, by rw [jsonText, written]; rfl⟩
  | .pair _ _, json => by
      simp [isJson] at json
  | .set _, json => by
      simp [isJson] at json

private theorem jsonTexts_isOk :
    ∀ {elements : List Value}, areJson elements = true →
      ∃ contents, jsonTexts elements = .ok contents
  | [], _ => ⟨[], by rw [jsonTexts]⟩
  | value :: rest, json => by
      rw [areJson, Bool.and_eq_true] at json
      obtain ⟨content, written⟩ := jsonText_isOk json.1
      obtain ⟨contents, restWritten⟩ := jsonTexts_isOk json.2
      exact
        ⟨content :: contents, by rw [jsonTexts, written, restWritten]; rfl⟩

private theorem jsonEntries_isOk :
    ∀ {entries : List (Scalar × Value)}, entriesAreJson entries = true →
      ∃ contents, jsonEntries entries = .ok contents
  | [], _ => ⟨[], by rw [jsonEntries]⟩
  | (key, value) :: rest, json => by
      rw [entriesAreJson, Bool.and_eq_true, Bool.and_eq_true] at json
      obtain ⟨name, rfl⟩ := Scalar.exists_text_of_isText json.1.1
      obtain ⟨content, written⟩ := jsonText_isOk json.1.2
      obtain ⟨contents, restWritten⟩ := jsonEntries_isOk json.2
      exact ⟨_, by rw [jsonEntries, written, restWritten]; rfl⟩

end

theorem asText_isOk {value : Value} (json : value.isJson = true) :
    ∃ content, value.asText = .ok content := by
  cases kind : value.text? with
  | none =>
      obtain ⟨content, written⟩ := jsonText_isOk json
      exact ⟨content, by rw [asText, kind]; exact written⟩
  | some content =>
      exact ⟨content, by rw [asText, kind]⟩

end Value

end OpenApiSharp.Document
