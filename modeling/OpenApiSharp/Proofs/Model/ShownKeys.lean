import OpenApiSharp.Proofs.CSharp.ShownText
import OpenApiSharp.Proofs.Model.ReadBack

namespace OpenApiSharp.Model

open CSharp Document Naming Text

/-- The texts of a definition that stand in literals of its file. -/
def Descriptor.literalTexts (descriptor : Descriptor) : List String :=
  if descriptor.kind = .record then
    (propertyEntries descriptor.node).map fun entry => entry.1.label
  else []

variable {unquoted : Prop}

private theorem shows_attributeLine (key : String) :
    Shows unquoted [attributeLine (literal key)] [key] := by
  have spelling :
      "[JsonPropertyName(\"" ++ literal key ++ "\")]" =
        "[JsonPropertyName(" ++ "\"" ++ literal key ++ "\"" ++ ")]" := by
    have front : "[JsonPropertyName(\"" = "[JsonPropertyName(" ++ "\"" := rfl
    have back : "\")]" = "\"" ++ ")]" := rfl
    rw [front, back, ← String.append_assoc]
  have shows :
      Shows unquoted ["[JsonPropertyName(\"" ++ literal key ++ "\")]"] [key] :=
    .literal spelling (by decide) (by decide) (fun _ => .of_literal key)
      (by rw [List.forall_mem_singleton, onOneLine_literal])
  exact shows.map_indented

private theorem shows_field
    {owner : String} {definition : Value} {entry : Scalar × Value}
    {field : Field} (member : field ∈ recordFields owner definition)
    (stands : field.StandsFor owner definition entry) :
    Shows unquoted field.lines [entry.1.label] := by
  have comments : Shows unquoted (field.summary.map indented) [] :=
    .comments
      (CommentLine.map_indented (commentLine_of_mem_recordFields member))
  have property :
      Shows unquoted
        [propertyLine field.declaredType field.name field.ending] [] :=
    .line
      ((markless_propertyLine (markless_typeText_of_mem_recordFields member)
        (markless_name_of_mem_recordFields member)).plain unquoted)
  rw [Field.lines_eq, Field.pair, stands.jsonName]
  exact comments.append ((shows_attributeLine entry.1.label).append property)

private theorem shows_recordFields (owner : String) (definition : Value) :
    Shows unquoted
      (separated ((recordFields owner definition).map Field.lines))
      ((propertyEntries definition).map fun entry => entry.1.label) := by
  rw [List.map_eq_flatMap (l := propertyEntries definition)]
  apply Shows.separated
  rw [List.forall₂_map_left_iff, List.forall₂_map_right_iff]
  exact
    ((List.forall₂_and_left _ _).2
      ⟨fun _ => id, (recordFields_standFor owner definition).flip⟩).imp
      fun _ _ both => shows_field both.1 both.2

private theorem markless_of_mem_enumMembers
    {owner name : String} {texts : List String}
    (member : name ∈ enumMembers owner texts) : Markless name := by
  obtain ⟨text, _, used, chosen⟩ := exists_choice_of_mem_assign member
  rw [chosen]
  exact markless_memberIdentifier _ owner used

private theorem markless_of_mem_memberLines
    {value : Nat} {names : List String}
    (named : ∀ name ∈ names, Markless name) :
    ∀ line ∈ memberLines value names, Markless line := by
  have equals : Markless " = " := by decide
  have comma : Markless "," := by decide
  induction names generalizing value with
  | nil =>
      intro line member
      cases member
  | cons name rest inductionHypothesis =>
      rw [List.forall_mem_cons] at named
      have numbered : Markless (name ++ " = " ++ toString value) :=
        (named.1.append equals).append (markless_toString value)
      cases rest with
      | nil =>
          rw [memberLines, List.forall_mem_singleton]
          exact numbered.indented
      | cons next others =>
          rw [memberLines_cons_cons, List.forall_mem_cons]
          have ended : Markless (name ++ " = " ++ toString value ++ ",") :=
            numbered.append comma
          exact ⟨ended.indented, inductionHypothesis named.2⟩

private theorem shows_file
    {front summary members texts : List String} {keywords name : String}
    (head : Shows unquoted front [])
    (documented : ∀ line ∈ summary, CommentLine line)
    (opening : Markless keywords) (named : Markless name)
    (inside : Shows unquoted members texts) :
    Shows unquoted
      (front ++ summary ++ ([keywords ++ name, "\x7b"] ++ members ++ ["\x7d"]))
      texts := by
  have brace : Markless "\x7b" := by decide
  have closing : Markless "\x7d" := by decide
  have headline : Markless (keywords ++ name) := opening.append named
  have declared : Shows unquoted [keywords ++ name, "\x7b"] [] :=
    (Shows.line (headline.plain unquoted)).append
      (.line (brace.plain unquoted))
  have closed : Shows unquoted ["\x7d"] [] := .line (closing.plain unquoted)
  have block := (declared.append inside).append_none closed
  exact (head.append (.comments documented)).append block

section Declared

variable {descriptor : Descriptor} {index : NamespaceIndex}
  {declaration : Declaration} (named : Markless descriptor.name)
  (placed : Plain unquoted descriptor.namespaceName)
  (known : ∀ name found, index.lookup? name = some found →
    Plain unquoted found)

include placed known

private theorem shows_modelHeader (types : List String) :
    Shows unquoted
      (header (usings types descriptor.namespaceName index [jsonNamespace])
        descriptor.namespaceName) [] := by
  have json : Markless jsonNamespace := by decide
  refine shows_header (fun name member => ?_) placed
  refine plain_of_mem_usings ?_ known member
  rw [List.forall_mem_singleton]
  exact json.plain unquoted

include named

/-- Of a definition, only the keys of its properties are shown. -/
theorem Descriptor.shows_declaration
    (declared : descriptor.declaration index = .ok declaration) :
    Shows unquoted declaration.lines descriptor.literalTexts := by
  have documented := (Descriptor.documented declared).summary
  have publicRecord : Markless "public record " := by decide
  obtain ⟨body, builds, rfl⟩ := Descriptor.declaration_eq_ok_iff.1 declared
  cases builds with
  | enumeration kind written =>
      have enumeration : Markless "public enum " := by decide
      have empty : Markless "" := by decide
      have head :
          Shows unquoted
            ["namespace " ++ descriptor.namespaceName ++ ";", ""] [] :=
        (Shows.line (plain_namespaceLine placed)).append
          (.line (empty.plain unquoted))
      rw [literalTexts, kind, if_neg (by decide)]
      refine shows_file head documented enumeration named (.plain ?_)
      intro line member
      exact
        (markless_of_mem_memberLines
          (fun _ => markless_of_mem_enumMembers) line member).plain unquoted
  | record kind =>
      rw [literalTexts, if_pos kind]
      exact
        shows_file (shows_modelHeader placed known _) documented publicRecord
          named (shows_recordFields descriptor.name descriptor.node)
  | wrapper kind =>
      have property :=
        markless_property (markless_typeText descriptor.node)
          (markless_memberIdentifier "Value" descriptor.name [])
      rw [literalTexts, kind, if_neg (by decide)]
      exact
        shows_file (shows_modelHeader placed known _) documented publicRecord
          named (.line (property.indented.plain unquoted))
  | fallback kind =>
      have json : Markless jsonNamespace := by decide
      have head :
          Shows unquoted
            (header [jsonNamespace] descriptor.namespaceName) [] := by
        refine shows_header ?_ placed
        rw [List.forall_mem_singleton]
        exact json.plain unquoted
      have remark :
          Plain unquoted (indented "// This is a fallback model") :=
        { oneLine := by decide +kernel
          noQuote := fun _ => by decide +kernel
          noBackslash := fun _ => by decide +kernel }
      rw [literalTexts, kind, if_neg (by decide)]
      refine shows_file head ?_ publicRecord named (.line remark)
      split
      · exact fun _ => commentLine_of_mem_fallbackSummary
      · exact documented

end Declared

end OpenApiSharp.Model
