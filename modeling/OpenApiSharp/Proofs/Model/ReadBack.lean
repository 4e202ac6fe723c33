import OpenApiSharp.Proofs.CSharp.ShownText
import OpenApiSharp.Proofs.CSharp.SourceLines
import OpenApiSharp.Proofs.Documentation.Model
import OpenApiSharp.Proofs.Model.Members

namespace OpenApiSharp.Model

open CSharp Document Naming Text

/-- Whether a line is neither blank nor documentation. -/
def isCodeLine (line : String) : Bool :=
  !allBlank line && !isDocumentation line.toList

def readLines (text : String) : List String :=
  (sourceLines text).filter isCodeLine

private theorem isCodeLine_of_commentLine
    {line : String} (comment : CommentLine line) :
    isCodeLine line = false := by
  rw [isCodeLine, comment.2, Bool.not_true, Bool.and_false]

private theorem isCodeLine_indented
    {line : String} {c : Char} {rest : List Char}
    (spelling : line.toList = c :: rest) (visible : isBlank c = false)
    (noSlash : c ≠ '/') : isCodeLine (indented line) = true := by
  have chars : (indented line).toList = "    ".toList ++ c :: rest := by
    rw [indented, String.toList_append, spelling]
  have blanks : ∀ d ∈ "    ".toList, isBlank d = true :=
    List.all_eq_true.1 (by decide)
  have shown : allBlank (indented line) = false := by
    rw [allBlank, chars, List.all_append, List.all_cons, visible,
      Bool.false_and, Bool.and_false]
  have code : isDocumentation (indented line).toList = false := by
    rw [isDocumentation, chars, List.dropWhile_append_of_pos blanks,
      List.dropWhile_cons_of_neg (by rw [visible]; decide)]
    simp [List.isPrefixOf, Ne.symm noSlash]
  rw [isCodeLine, shown, code]
  rfl

/-- The attribute with a key, which is written as it stands in a literal. -/
def attributeLine (jsonName : String) : String :=
  indented ("[JsonPropertyName(\"" ++ jsonName ++ "\")]")

/-- The declaration of a property, and what stands behind its accessors. -/
def propertyLine (declaredType name ending : String) : String :=
  indented
    ("public " ++ declaredType ++ " " ++ name ++ " \x7b get; set; \x7d" ++
      ending)

def Field.ending (field : Field) : String :=
  if field.required then " = default;" else ""

def Field.pair (field : Field) : List String :=
  [attributeLine field.jsonName,
   propertyLine field.declaredType field.name field.ending]

theorem Field.lines_eq (field : Field) :
    field.lines = field.summary.map indented ++ field.pair :=
  rfl

private theorem isCodeLine_of_mem_pair
    {field : Field} {line : String} (member : line ∈ field.pair) :
    isCodeLine line = true := by
  rw [Field.pair, List.mem_pair] at member
  rcases member with bracket | declaration
  · have visible : isBlank '[' = false := by decide
    rw [bracket]
    exact
      isCodeLine_indented (by rw [String.toList_append, String.toList_append]; rfl)
        visible (by decide)
  · have visible : isBlank 'p' = false := by decide
    rw [declaration]
    exact
      isCodeLine_indented (by simp only [String.toList_append]; rfl)
        visible (by decide)

private theorem Field.filter_lines
    {field : Field} (documented : ∀ line ∈ field.summary, CommentLine line) :
    field.lines.filter isCodeLine = field.pair := by
  have comments : (field.summary.map indented).filter isCodeLine = [] := by
    rw [List.filter_eq_nil_iff]
    intro line member
    rw [isCodeLine_of_commentLine
      (CommentLine.map_indented documented line member)]
    decide
  rw [Field.lines_eq, List.filter_append, comments, List.nil_append,
    List.filter_eq_self]
  exact fun line => isCodeLine_of_mem_pair

private theorem onOneLine_attributeLine
    {key : String} (oneLine : OnOneLine key.toList) :
    OnOneLine (attributeLine (literal key)).toList := by
  have opening : OnOneLine "[JsonPropertyName(\"".toList := by decide
  have closing : OnOneLine "\")]".toList := by decide
  rw [attributeLine, onOneLine_indented]
  exact (opening.append (onOneLine_literal.2 oneLine)).append closing

private theorem markless_declaredType
    {field : Field} (typed : Markless field.typeText) :
    Markless field.declaredType := by
  have mark : Markless "?" := by decide
  rw [Field.declaredType]
  split
  · exact typed
  · exact typed.append mark

theorem markless_property
    {declaredType name : String} (typed : Markless declaredType)
    (named : Markless name) :
    Markless ("public " ++ declaredType ++ " " ++ name ++ " \x7b get; set; \x7d") := by
  have opening : Markless "public " := by decide
  have space : Markless " " := by decide
  have accessors : Markless " \x7b get; set; \x7d" := by decide
  exact (((opening.append typed).append space).append named).append accessors

theorem markless_propertyLine
    {field : Field} (typed : Markless field.typeText)
    (named : Markless field.name) :
    Markless (propertyLine field.declaredType field.name field.ending) := by
  have ending : Markless field.ending := by
    rw [Field.ending]
    split <;> decide
  exact
    Markless.indented
      ((markless_property (markless_declaredType typed) named).append ending)

section Fields

variable {owner : String} {definition : Value} {field : Field}

theorem markless_name_of_mem_recordFields
    (member : field ∈ recordFields owner definition) : Markless field.name := by
  have named : field.name ∈ (recordFields owner definition).map Field.name :=
    List.mem_map_of_mem member
  rw [map_name_recordFields] at named
  obtain ⟨entry, _, used, chosen⟩ := exists_choice_of_mem_assign named
  rw [chosen]
  exact markless_memberIdentifier entry.1.label owner used

theorem markless_typeText_of_mem_recordFields
    (member : field ∈ recordFields owner definition) :
    Markless field.typeText := by
  obtain ⟨entry, _, stands⟩ :=
    Related.exists_left_of_mem (recordFields_standFor owner definition) member
  rw [stands.typeText]
  exact markless_typeText entry.2

private theorem readLines_recordFields
    (keys : ∀ entry ∈ propertyEntries definition,
      OnOneLine entry.1.label.toList) :
    readLines
        (textOfLines
          (separated ((recordFields owner definition).map Field.lines))) =
      (recordFields owner definition).flatMap Field.pair := by
  have oneLine :
      ∀ line ∈ separated ((recordFields owner definition).map Field.lines),
        OnOneLine line.toList := by
    rw [forall_mem_separated (by decide)]
    intro lines shown line member
    obtain ⟨field, listed, rfl⟩ := List.mem_map.1 shown
    obtain ⟨entry, present, stands⟩ :=
      Related.exists_left_of_mem (recordFields_standFor owner definition)
        listed
    rw [Field.lines_eq, List.mem_append, Field.pair, List.mem_pair] at member
    rcases member with comment | keyLine | declaration
    · have documented := commentLine_of_mem_recordFields listed
      exact onOneLine_of_unbroken
        (CommentLine.map_indented documented line comment).1
    · rw [keyLine, stands.jsonName]
      exact onOneLine_attributeLine (keys entry present)
    · rw [declaration]
      exact
        (markless_propertyLine (markless_typeText_of_mem_recordFields listed)
          (markless_name_of_mem_recordFields listed)).onOneLine
  rw [readLines, sourceLines_textOfLines oneLine,
    filter_separated (by decide), ← List.flatMap_def, List.filter_flatMap]
  exact List.flatMap_congr fun field listed =>
    Field.filter_lines (commentLine_of_mem_recordFields listed)

end Fields

/-- What is read off the lines of a field about the property that it stands
for. -/
structure Field.ReadsBack
    (definition : Value) (entry : Scalar × Value) (field : Field) : Prop where
  key :
    IsLiteral ("\"" ++ field.jsonName ++ "\"")
      (entry.1.label.toList.map .character)
  type :
    field.declaredType =
      Schema.typeText entry.2 ++
        if Schema.isRequired entry.2 entry.1.label definition then "" else "?"
  ending :
    field.ending =
      if Schema.isRequired entry.2 entry.1.label definition then " = default;"
      else ""

private theorem Field.StandsFor.readsBack
    {owner : String} {definition : Value} {entry : Scalar × Value}
    {field : Field} (stands : field.StandsFor owner definition entry)
    (oneLine : OnOneLine entry.1.label.toList) :
    field.ReadsBack definition entry where
  key := by
    have quote : OnOneLine "\"".toList := by decide
    rw [stands.jsonName]
    refine ⟨readLiteral?_plain (denotes_literal entry.1.label), ?_⟩
    exact (quote.append (onOneLine_literal.2 oneLine)).append quote
  type := by
    rw [declaredType, stands.typeText, stands.required]
    split
    · rw [String.append_empty]
    · rfl
  ending := by
    rw [Field.ending, stands.required]

/-- The key is all that an attribute depends on. -/
theorem attributeLine_injective : Function.Injective attributeLine := by
  intro left right same
  have unindented := (String.append_right_inj _).1 same
  exact TypeTree.eq_of_enclosed_eq unindented

/-- Different keys have different attributes. -/
theorem Field.ReadsBack.label_eq
    {definition : Value} {entry entry' : Scalar × Value} {field field' : Field}
    (reads : field.ReadsBack definition entry)
    (reads' : field'.ReadsBack definition entry')
    (same : attributeLine field.jsonName = attributeLine field'.jsonName) :
    entry.1.label = entry'.1.label := by
  have readings := reads.key.read
  rw [attributeLine_injective same, reads'.key.read, Option.some_inj]
    at readings
  have characters : Function.Injective Piece.character :=
    fun _ _ => Piece.character.inj
  exact String.toList_inj.1 (characters.list_map readings.symm)

private theorem nodup_labels
    {entries : List (Scalar × Value)}
    (textual : ∀ entry ∈ entries, ∃ key, entry.1 = .text key)
    (distinct : (entries.map Prod.fst).Nodup) :
    (entries.map fun entry => entry.1.label).Nodup := by
  have labels : ((entries.map Prod.fst).map Scalar.label).Nodup := by
    refine List.Nodup.map_on ?_ distinct
    intro left leftMember right rightMember same
    obtain ⟨leftEntry, leftListed, rfl⟩ := List.mem_map.1 leftMember
    obtain ⟨rightEntry, rightListed, rfl⟩ := List.mem_map.1 rightMember
    obtain ⟨leftKey, leftText⟩ := textual leftEntry leftListed
    obtain ⟨rightKey, rightText⟩ := textual rightEntry rightListed
    rw [leftText, rightText] at same ⊢
    exact congrArg Scalar.text same
  rw [List.map_map] at labels
  exact labels

/-- The lines of a record in front of its fields. -/
def Declaration.recordHead
    (declaration : Declaration) (usings : List String) : List String :=
  header usings declaration.namespaceName ++ declaration.summary ++
    ["public record " ++ declaration.name, "\x7b"]

private theorem Declaration.source_of_record
    {declaration : Declaration} {usings : List String} {fields : List Field}
    (body : declaration.body = .record usings fields) :
    declaration.source =
      textOfLines (declaration.recordHead usings) ++
        textOfLines (separated (fields.map Field.lines)) ++ "\x7d\n" := by
  have closing : textOfLines ["\x7d"] = "\x7d\n" := by decide
  rw [← closing, ← textOfLines_append, ← textOfLines_append]
  simp only [source, lines, body, recordHead, List.append_assoc]

/-- The text of a record, in front of whose closing brace stands a body, and what
is read off the body. -/
structure RecordReading
    (descriptor : Descriptor) (index : NamespaceIndex)
    (declaration : Declaration) (usings : List String) (fields : List Field)
    (body : String) : Prop where
  declared : descriptor.declaration index = .ok declaration
  record : declaration.body = .record usings fields
  source :
    declaration.source =
      textOfLines (declaration.recordHead usings) ++ body ++ "\x7d\n"
  /-- Comments and blank lines apart, there are two lines for each field. -/
  lines :
    readLines body =
      fields.flatMap fun field =>
        [attributeLine field.jsonName,
         propertyLine field.declaredType field.name field.ending]
  properties :
    List.Forall₂ (Field.ReadsBack descriptor.node)
      (propertyEntries descriptor.node) fields
  attributes :
    ((propertyEntries descriptor.node).map Prod.fst).Nodup →
      (fields.map fun field => attributeLine field.jsonName).Nodup

/-- A record whose keys are texts on one line is read back from its text, with
the key, the type, the name and the requirement of each property in order. -/
theorem Descriptor.record_reads_back
    (descriptor : Descriptor) (index : NamespaceIndex)
    (record : descriptor.kind = .record)
    (keys : ∀ entry ∈ propertyEntries descriptor.node,
      ∃ key, entry.1 = .text key ∧ OnOneLine key.toList) :
    ∃ declaration usings fields body,
      RecordReading descriptor index declaration usings fields body := by
  have textual :
      ∀ entry ∈ propertyEntries descriptor.node,
        ∃ key, entry.1 = .text key := by
    intro entry member
    obtain ⟨key, spelling, _⟩ := keys entry member
    exact ⟨key, spelling⟩
  have oneLine :
      ∀ entry ∈ propertyEntries descriptor.node,
        OnOneLine entry.1.label.toList := by
    intro entry member
    obtain ⟨key, spelling, keyOneLine⟩ := keys entry member
    rw [spelling]
    exact keyOneLine
  have readBack :
      List.Forall₂ (Field.ReadsBack descriptor.node)
        (propertyEntries descriptor.node)
        (recordFields descriptor.name descriptor.node) :=
    ((List.forall₂_and_left _ _).2
      ⟨oneLine, recordFields_standFor _ _⟩).imp
      fun _ _ both => both.2.readsBack both.1
  exact
    ⟨_, _, recordFields descriptor.name descriptor.node, _,
      { declared :=
          Descriptor.declaration_eq_ok_iff.2 ⟨_, .record record, rfl⟩
        record := rfl
        source := Declaration.source_of_record rfl
        lines := readLines_recordFields oneLine
        properties := readBack
        attributes := fun distinct =>
          Related.nodup_map_of_determined
            (fun _ _ _ _ reads reads' same => reads.label_eq reads' same)
            readBack (nodup_labels textual distinct) }⟩

/-- A record with a key that has to be escaped, and with a comment of two
lines. -/
def quotedRecord : Descriptor where
  name := "Quoted"
  kind := .record
  category := "Quoted"
  namespaceName := "Models.Quoteds"
  sourceName := "Quoted"
  node := .map
    [(.text "required", .list [.text "id"]),
     (.text "properties", .map
       [(.text "a\"\\", .map [(.text "description", .text "///\npublic")]),
        (.text "id", .map [(.text "type", .text "integer")])])]

theorem quotedRecord_reads_back :
    quotedRecord.kind = .record ∧
      (∀ entry ∈ propertyEntries quotedRecord.node,
        ∃ key, entry.1 = .text key ∧ OnOneLine key.toList) ∧
      ((propertyEntries quotedRecord.node).map Prod.fst).Nodup ∧
      ∃ declaration usings fields body,
        RecordReading quotedRecord (indexOf []) declaration usings fields
          body := by
  have keys :
      ∀ entry ∈ propertyEntries quotedRecord.node,
        ∃ key, entry.1 = .text key ∧ OnOneLine key.toList := by
    intro entry member
    have either :
        entry ∈
          [(.text "a\"\\",
              .map [(.text "description", .text "///\npublic")]),
           (.text "id", .map [(.text "type", .text "integer")])] :=
      member
    rcases List.mem_pair.1 either with rfl | rfl
    · exact ⟨_, rfl, by decide⟩
    · exact ⟨_, rfl, by decide⟩
  exact
    ⟨rfl, keys, by decide,
      quotedRecord.record_reads_back (indexOf []) rfl keys⟩

end OpenApiSharp.Model
