import OpenApiSharp.Proofs.Naming.ParameterName
import OpenApiSharp.Proofs.Service.UrlParts
import OpenApiSharp.Service.Method

/-!
# URL expressions

The expression for a URL is a plain literal if nothing is interpolated into it,
and an interpolated one otherwise.  Braces that belong to no placeholder stand in
an interpolated literal as they stand in the URL.  So it can only be read if they
are doubled there.
-/

namespace OpenApiSharp.Service

open Text Naming CSharp

/-- Characters with a meaning in a literal or a URL, and those at which a line
ends. -/
def urlMarks : List Char :=
  ['\x7b', '\x7d', '"', '\\', '?', '\n', '\r', '\x85', '\u2028', '\u2029']

private theorem areForeign_urlMarks : AreForeign (urlMarks.map Char.toNat) where
  letters := by decide +kernel
  numerals := by decide +kernel
  lowerForms := by decide +kernel
  added := by decide +kernel

/-- No identifier has one of the marks. -/
def Unmarked (bound : List Bound) : Prop :=
  ∀ entry ∈ bound, ∀ c ∈ entry.2.toList, c ∉ urlMarks

theorem Endpoint.unmarked_bound (endpoint : Endpoint) :
    Unmarked endpoint.bound := by
  rintro ⟨parameter, identifier⟩ member c inIdentifier mark
  obtain ⟨other, _, used, rfl⟩ :=
    exists_choice_of_mem_assign (List.of_mem_zip member).2
  exact
    areForeign_urlMarks.not_mem_of_mem_choice inIdentifier
      (List.mem_map_of_mem mark)

private theorem isHoleChar_of_not_mem_urlMarks
    {c : Char} (unmarked : c ∉ urlMarks) : isHoleChar c = true := by
  simp only [urlMarks, List.mem_cons, not_or] at unmarked
  simp [isHoleChar, isBrace, unmarked]

private theorem isLineEnd_of_not_mem_urlMarks
    {c : Char} (unmarked : c ∉ urlMarks) : isLineEnd c = false := by
  simp only [urlMarks, List.mem_cons, not_or] at unmarked
  simp [isLineEnd, unmarked]

def holeCode (identifier : String) : List Char :=
  '\x7b' :: (identifier.toList ++ ['\x7d'])

namespace Unmarked

variable {bound : List Bound} (unmarked : Unmarked bound)

include unmarked

private theorem denotes_holeCode {entry : Bound} (member : entry ∈ bound) :
    Denotes true (holeCode entry.2) [.hole entry.2] := by
  have hole :=
    Denotes.hole fun c inIdentifier =>
      isHoleChar_of_not_mem_urlMarks (unmarked entry member c inIdentifier)
  rw [String.ofList_toList] at hole
  exact hole

private theorem onOneLine_holeCode {entry : Bound} (member : entry ∈ bound) :
    OnOneLine (holeCode entry.2) := by
  have closing : OnOneLine ['\x7d'] := by decide
  refine
    throughout_cons.2 ⟨by decide, throughout_append.2 ⟨?_, closing⟩⟩
  exact fun c inIdentifier =>
    isLineEnd_of_not_mem_urlMarks (unmarked entry member c inIdentifier)

theorem not_mem_holeCode
    {entry : Bound} (member : entry ∈ bound) {c : Char}
    (mark : c ∈ urlMarks) (noBrace : isBrace c = false) :
    c ∉ holeCode entry.2 := by
  intro inCode
  rw [holeCode, List.mem_cons, List.mem_append, List.mem_singleton] at inCode
  rcases inCode with rfl | inIdentifier | rfl
  · cases noBrace
  · exact unmarked entry member c inIdentifier mark
  · cases noBrace

end Unmarked

private theorem exists_entry_of_pathIdentifier?
    {bound : List Bound} {name identifier : String}
    (found : pathIdentifier? bound name = some identifier) :
    ∃ entry ∈ bound, entry.2 = identifier := by
  obtain ⟨entry, last, same⟩ := Option.map_eq_some_iff.1 found
  exact ⟨entry, (List.mem_filter.1 (List.mem_of_getLast? last)).1, same⟩

section Path

variable (bound : List Bound)

/-- What a part of a URL denotes inside an interpolated literal. -/
def UrlPart.pieces (part : UrlPart) : List Piece :=
  match part.identifier? bound with
  | some identifier => [.hole identifier]
  | none => part.spelling.map .character

/-- Every stray brace among the written parts stands there twice, and the other
parts are what is left if one of the two is dropped. -/
inductive Undoubled : List UrlPart → List UrlPart → Prop
  | nil : Undoubled [] []
  | placeholder (name : String) {written parts : List UrlPart}
      (others : Undoubled written parts) :
      Undoubled (.placeholder name :: written) (.placeholder name :: parts)
  | character {c : Char} (plain : isBrace c = false)
      {written parts : List UrlPart} (others : Undoubled written parts) :
      Undoubled (.character c :: written) (.character c :: parts)
  | brace {c : Char} (brace : isBrace c = true)
      {written parts : List UrlPart} (others : Undoubled written parts) :
      Undoubled (.character c :: .character c :: written)
        (.character c :: parts)

theorem undoubled_self
    {parts : List UrlPart} (braceless : ∀ part ∈ parts, part.IsBraceless) :
    Undoubled parts parts := by
  induction parts with
  | nil => exact .nil
  | cons part rest inductionHypothesis =>
      have others := inductionHypothesis fun later member =>
        braceless later (List.mem_cons_of_mem _ member)
      cases part with
      | placeholder name => exact .placeholder name others
      | character c =>
          exact .character ((braceless _ List.mem_cons_self).2 c rfl) others

variable {bound}

theorem UrlPart.code_of_some
    {part : UrlPart} {identifier : String}
    (replaced : part.identifier? bound = some identifier) :
    ∃ entry ∈ bound, part.code bound = holeCode entry.2 ∧
      part.pieces bound = [.hole entry.2] := by
  cases part with
  | character c => cases replaced
  | placeholder name =>
      obtain ⟨entry, member, rfl⟩ := exists_entry_of_pathIdentifier? replaced
      refine ⟨entry, member, code_of_identifier bound replaced, ?_⟩
      rw [pieces, replaced]

private theorem denotes_character {c : Char} (plain : isBrace c = false) :
    Denotes true ((UrlPart.character c).code bound) [.character c] := by
  rw [UrlPart.code_of_no_identifier bound rfl, UrlPart.spelledIn,
    List.flatMap_singleton]
  exact .escapeChar fun _ => plain

private theorem denotes_placeholder
    (unmarked : Unmarked bound) {name : String}
    (plain : (UrlPart.placeholder name).HasPlainName) :
    Denotes true ((UrlPart.placeholder name).code bound)
      ((UrlPart.placeholder name).pieces bound) := by
  cases found : (UrlPart.placeholder name).identifier? bound with
  | some identifier =>
      obtain ⟨entry, member, code, pieces⟩ := UrlPart.code_of_some found
      rw [code, pieces]
      exact unmarked.denotes_holeCode member
  | none =>
      have opening : ['\x7b', '\x7b'].flatMap escapeChar = ['\x7b', '\x7b'] := by
        decide
      have closing : ['\x7d', '\x7d'].flatMap escapeChar = ['\x7d', '\x7d'] := by
        decide
      rw [UrlPart.code_of_no_identifier bound found, UrlPart.pieces, found,
        UrlPart.spelledIn, UrlPart.spelling, UrlPart.spelledIn,
        List.flatMap_append, List.flatMap_append, opening, closing,
        List.map_append, List.map_append]
      have inside :
          Denotes true (name.toList.flatMap escapeChar)
            (name.toList.map .character) :=
        .escaped fun _ => plain name rfl
      have front : Denotes true ['\x7b', '\x7b'] [.character '\x7b'] :=
        .doubledBrace (by decide)
      have back : Denotes true ['\x7d', '\x7d'] [.character '\x7d'] :=
        .doubledBrace (by decide)
      exact (front.append inside).append back

private theorem denotes_brace {c : Char} (brace : isBrace c = true) :
    Denotes true
      ((UrlPart.character c).code bound ++ (UrlPart.character c).code bound)
      [.character c] := by
  rw [UrlPart.code_of_no_identifier bound rfl, UrlPart.spelledIn,
    List.flatMap_singleton, escapeChar_of_isBrace brace]
  exact .doubledBrace brace

/-- The code of a URL whose stray braces are doubled denotes what is left without
the doubles. -/
private theorem denotes_code
    (unmarked : Unmarked bound) {written parts : List UrlPart}
    (plain : ∀ part ∈ written, part.HasPlainName)
    (undoubled : Undoubled written parts) :
    Denotes true (written.flatMap (UrlPart.code bound))
      (parts.flatMap (UrlPart.pieces bound)) := by
  induction undoubled with
  | nil => exact .nil
  | placeholder name _ inductionHypothesis =>
      rw [List.forall_mem_cons] at plain
      rw [List.flatMap_cons, List.flatMap_cons]
      exact
        (denotes_placeholder unmarked plain.1).append
          (inductionHypothesis plain.2)
  | character noBrace _ inductionHypothesis =>
      rw [List.forall_mem_cons] at plain
      rw [List.flatMap_cons, List.flatMap_cons]
      exact
        (denotes_character noBrace).append (inductionHypothesis plain.2)
  | brace isBrace_c _ inductionHypothesis =>
      rw [List.forall_mem_cons, List.forall_mem_cons] at plain
      rw [List.flatMap_cons, List.flatMap_cons, List.flatMap_cons,
        ← List.append_assoc]
      exact
        (denotes_brace isBrace_c).append (inductionHypothesis plain.2.2)

@[simp]
theorem mem_spelledIn_doubled {part : UrlPart} {c : Char} :
    c ∈ part.spelledIn ['\x7b', '\x7b'] ['\x7d', '\x7d'] ↔
      c ∈ part.spelling := by
  cases part with
  | character d => rfl
  | placeholder name => simp [UrlPart.spelling, UrlPart.spelledIn]

theorem onOneLine_code_iff (unmarked : Unmarked bound) {part : UrlPart} :
    OnOneLine (part.code bound) ↔
      (part.identifier? bound = none → OnOneLine part.spelling) := by
  cases found : part.identifier? bound with
  | some identifier =>
      obtain ⟨entry, member, code, _⟩ := UrlPart.code_of_some found
      rw [code]
      exact
        iff_of_true (unmarked.onOneLine_holeCode member)
          fun none => by cases none
  | none =>
      rw [UrlPart.code_of_no_identifier bound found, onOneLine_escaped]
      simp [Throughout]

end Path

section Query

variable (bound : List Bound)

/-- The parameters in the query with their identifiers. -/
def queryEntries : List Bound :=
  bound.filter fun entry => entry.1.location == "query"

/-- The character that begins the query behind a path. -/
def queryMark (path : String) : Char :=
  if occursIn "?" path then '&' else '?'

/-- The code of the query behind a path. -/
def querySuffix (path : String) : List Char :=
  if (queryEntries bound).isEmpty then []
  else
    queryMark path :: ['&'].intercalate
      ((queryEntries bound).map fun entry =>
        (literal entry.1.name).toList ++ '=' :: holeCode entry.2)

/-- What the query denotes, if names of parameters denote certain pieces. -/
def queryPieces (path : String) (ofName : String → List Piece) : List Piece :=
  if (queryEntries bound).isEmpty then []
  else
    .character (queryMark path) :: [Piece.character '&'].intercalate
      ((queryEntries bound).map fun entry =>
        ofName entry.1.name ++ [.character '=', .hole entry.2])

variable {bound}

private theorem denotes_querySuffix
    (unmarked : Unmarked bound) (path : String)
    {ofName : String → List Piece}
    (names : ∀ entry ∈ queryEntries bound,
      Denotes true (literal entry.1.name).toList (ofName entry.1.name)) :
    Denotes true (querySuffix bound path) (queryPieces bound path ofName) := by
  have ampersand : Denotes true ['&'] [.character '&'] :=
    .escapeChar (c := '&') fun _ => by decide
  have question : Denotes true ['?'] [.character '?'] :=
    .escapeChar (c := '?') fun _ => by decide
  have equals : Denotes true ['='] [.character '='] :=
    .escapeChar (c := '=') fun _ => by decide
  have mark : Denotes true [queryMark path] [.character (queryMark path)] := by
    rw [queryMark]
    split
    · exact ampersand
    · exact question
  rw [querySuffix, queryPieces]
  split
  · exact .nil
  · refine mark.append (ampersand.intercalate fun entry member => ?_)
    have hole :=
      unmarked.denotes_holeCode (List.mem_filter.1 member).1
    exact (names entry member).append (equals.append hole)

theorem onOneLine_querySuffix_iff (unmarked : Unmarked bound) (path : String) :
    OnOneLine (querySuffix bound path) ↔
      ∀ entry ∈ queryEntries bound, OnOneLine entry.1.name.toList := by
  have ampersand : OnOneLine ['&'] := by decide
  have mark : isLineEnd (queryMark path) = false := by
    rw [queryMark]
    split <;> decide
  rw [querySuffix]
  split
  · next empty =>
      rw [List.isEmpty_iff.1 empty]
      simp
  · simp only [throughout_cons, mark, true_and,
      throughout_intercalate ampersand, List.forall_mem_map]
    refine forall₂_congr fun entry listed => ?_
    have hole :=
      unmarked.onOneLine_holeCode (List.mem_filter.1 listed).1
    have value : OnOneLine ('=' :: holeCode entry.2) :=
      throughout_cons.2 ⟨by decide, hole⟩
    simp only [throughout_append, value, and_true, onOneLine_literal]

end Query

section Expression

variable (bound : List Bound) (url : String)

/-- Whether anything is interpolated into the literal for a URL. -/
def interpolates : Bool :=
  !(queryEntries bound).isEmpty || hasReplacedPart bound url

/-- The inside of the interpolated literal for a URL. -/
def interpolatedInside : String :=
  urlPath bound url ++ String.ofList (querySuffix bound (urlPath bound url))

@[simp]
private theorem isEmpty_queryTexts :
    (queryTexts bound).isEmpty = (queryEntries bound).isEmpty := by
  rw [queryTexts, queryEntries, List.isEmpty_map]

private theorem query_eq_querySuffix
    (filled : (queryEntries bound).isEmpty = false) (path : String) :
    (if occursIn "?" path then "&" else "?") ++
        "&".intercalate (queryTexts bound) =
      String.ofList (querySuffix bound path) := by
  have mark :
      (if occursIn "?" path then "&" else "?").toList = [queryMark path] := by
    rw [queryMark]
    split <;> rfl
  have texts :
      (queryTexts bound).map String.toList =
        (queryEntries bound).map fun entry =>
          (literal entry.1.name).toList ++ '=' :: holeCode entry.2 := by
    rw [queryTexts, queryEntries, List.map_map]
    apply List.map_congr_left
    intro entry _
    simp [holeCode]
  have suffix :
      querySuffix bound path =
        queryMark path :: ['&'].intercalate
          ((queryEntries bound).map fun entry =>
            (literal entry.1.name).toList ++ '=' :: holeCode entry.2) := by
    rw [querySuffix, filled, if_neg Bool.false_ne_true]
  apply String.toList_inj.1
  rw [suffix, String.toList_append, mark, String.toList_intercalate, texts]
  exact String.toList_ofList.symm

variable {bound url}

theorem urlExpression_of_interpolates
    (interpolated : interpolates bound url = true) :
    urlExpression url bound =
      "$\"" ++ interpolatedInside bound url ++ "\"" := by
  rw [interpolates, Bool.or_eq_true, Bool.not_eq_true'] at interpolated
  rw [urlExpression, isEmpty_queryTexts, any_isInterpolated, interpolatedInside]
  cases empty : (queryEntries bound).isEmpty with
  | true =>
      have replaced : hasReplacedPart bound url = true :=
        interpolated.resolve_left (by rw [empty]; decide)
      rw [querySuffix, empty, if_pos rfl, if_pos rfl, if_pos replaced,
        String.ofList_nil, String.append_empty]
      rfl
  | false =>
      rw [← query_eq_querySuffix bound empty, if_neg Bool.false_ne_true]
      simp only [String.append_assoc]
      rfl

theorem identifier?_eq_none
    (plain : hasReplacedPart bound url = false) {part : UrlPart}
    (member : part ∈ urlParts 0 url.toList) :
    part.identifier? bound = none := by
  have kept := List.any_eq_false.1 plain part member
  rw [Bool.not_eq_true, Option.isSome_eq_false_iff,
    Option.isNone_iff_eq_none] at kept
  exact kept

theorem toList_urlPath_of_plain (plain : hasReplacedPart bound url = false) :
    (urlPath bound url).toList =
      ((urlParts 0 url.toList).flatMap
        (UrlPart.spelledIn ['\x7b', '\x7b'] ['\x7d', '\x7d'])).flatMap
          escapeChar := by
  rw [toList_urlPath, List.flatMap_assoc]
  apply List.flatMap_congr
  intro part member
  exact UrlPart.code_of_no_identifier bound (identifier?_eq_none plain member)

theorem urlExpression_of_not_interpolates
    (plain : interpolates bound url = false) :
    urlExpression url bound =
      "\"" ++ literal (plainReading url) ++ "\"" := by
  rw [interpolates, Bool.or_eq_false_iff, Bool.not_eq_false'] at plain
  obtain ⟨noQuery, kept⟩ := plain
  have openings : ∀ text,
      (replaceAll "\x7b\x7b" "\x7b" text).toList = collapse '\x7b' text.toList :=
    fun _ => String.toList_ofList
  have closings : ∀ text,
      (replaceAll "\x7d\x7d" "\x7d" text).toList = collapse '\x7d' text.toList :=
    fun _ => String.toList_ofList
  have single :
      replaceAll "\x7d\x7d" "\x7d"
          (replaceAll "\x7b\x7b" "\x7b" (urlPath bound url)) =
        literal (plainReading url) := by
    apply String.toList_inj.1
    rw [closings, openings, toList_urlPath_of_plain kept,
      collapse_escape (by decide), collapse_escape (by decide),
      toList_literal, plainReading, String.toList_ofList]
  rw [urlExpression, isEmpty_queryTexts, any_isInterpolated, noQuery, kept, if_pos rfl,
    if_neg Bool.false_ne_true, ← single]
  rfl

theorem denotes_interpolatedInside
    (unmarked : Unmarked bound) {parts : List UrlPart}
    (undoubled : Undoubled (urlParts 0 url.toList) parts)
    {ofName : String → List Piece}
    (names : ∀ entry ∈ queryEntries bound,
      Denotes true (literal entry.1.name).toList (ofName entry.1.name)) :
    Denotes true (interpolatedInside bound url).toList
      (parts.flatMap (UrlPart.pieces bound) ++
        queryPieces bound (urlPath bound url) ofName) := by
  have path :=
    denotes_code unmarked (fun _ => hasPlainName_of_mem_urlParts) undoubled
  have query := denotes_querySuffix unmarked (urlPath bound url) names
  simpa [interpolatedInside] using path.append query

theorem onOneLine_interpolatedInside_iff (unmarked : Unmarked bound) :
    OnOneLine (interpolatedInside bound url).toList ↔
      (∀ part ∈ urlParts 0 url.toList,
        part.identifier? bound = none → OnOneLine part.spelling) ∧
        ∀ entry ∈ queryEntries bound, OnOneLine entry.1.name.toList := by
  simp only [interpolatedInside, String.toList_append, String.toList_ofList,
    throughout_append, onOneLine_querySuffix_iff unmarked, toList_urlPath,
    throughout_flatMap]
  exact
    and_congr_left fun _ =>
      forall₂_congr fun _ _ => onOneLine_code_iff unmarked

private theorem onOneLine_spelling
    (oneLine : OnOneLine url.toList) {part : UrlPart}
    (member : part ∈ urlParts 0 url.toList) : OnOneLine part.spelling := by
  refine oneLine.of_subset fun c inPart => ?_
  rw [← flatMap_spelling_urlParts url.toList]
  exact List.mem_flatMap_of_mem member inPart

/-- The plain literal has the characters of the URL, though perhaps not as
often. -/
@[simp]
theorem mem_plainReading {c : Char} :
    c ∈ (plainReading url).toList ↔ c ∈ url.toList := by
  have spelled :
      c ∈ (urlParts 0 url.toList).flatMap UrlPart.spelling ↔
        c ∈ url.toList := by
    simp
  rw [plainReading, String.toList_ofList, mem_collapse, mem_collapse,
    ← spelled, List.mem_flatMap, List.mem_flatMap]
  simp

@[simp]
theorem onOneLine_plainReading_iff :
    OnOneLine (plainReading url).toList ↔ OnOneLine url.toList := by
  simp [Throughout]

end Expression

section Holes

variable {bound : List Bound}

/-- Every hole among the pieces is that of a parameter. -/
abbrev HolesWithin (bound : List Bound) (pieces : List Piece) : Prop :=
  Throughout
    (fun piece =>
      ∀ name, piece = .hole name → ∃ entry ∈ bound, entry.2 = name)
    pieces

private theorem holesWithin_characters (cs : List Char) :
    HolesWithin bound (cs.map .character) := by
  rintro piece member name rfl
  obtain ⟨c, _, same⟩ := List.mem_map.1 member
  cases same

private theorem holesWithin_hole {entry : Bound} (member : entry ∈ bound) :
    HolesWithin bound [.hole entry.2] := by
  rintro piece here name rfl
  cases List.mem_singleton.1 here
  exact ⟨entry, member, rfl⟩

private theorem UrlPart.holesWithin_pieces (part : UrlPart) :
    HolesWithin bound (part.pieces bound) := by
  cases found : part.identifier? bound with
  | some identifier =>
      obtain ⟨entry, listed, _, pieces⟩ := code_of_some found
      rw [pieces]
      exact holesWithin_hole listed
  | none =>
      rw [UrlPart.pieces, found]
      exact holesWithin_characters part.spelling

private theorem holesWithin_flatMap_pieces (parts : List UrlPart) :
    HolesWithin bound (parts.flatMap (UrlPart.pieces bound)) :=
  throughout_flatMap.2 fun part _ => part.holesWithin_pieces

private theorem holesWithin_queryPieces
    (path : String) {ofName : String → List Piece}
    (names : ∀ name, HolesWithin bound (ofName name)) :
    HolesWithin bound (queryPieces bound path ofName) := by
  rw [queryPieces]
  split
  · exact holesWithin_characters []
  · have mark : HolesWithin bound [.character (queryMark path)] :=
      holesWithin_characters [queryMark path]
    have between : HolesWithin bound [.character '&'] :=
      holesWithin_characters ['&']
    have equals : HolesWithin bound [.character '='] :=
      holesWithin_characters ['=']
    refine throughout_append.2 ⟨mark, (throughout_intercalate between).2 ?_⟩
    intro pieces member
    obtain ⟨entry, listed, rfl⟩ := List.mem_map.1 member
    have hole := holesWithin_hole (List.mem_filter.1 listed).1
    exact
      throughout_append.2
        ⟨names entry.1.name, throughout_append.2 ⟨equals, hole⟩⟩

/-- The code of a name whose braces are doubled denotes what is left without the
doubles. -/
private theorem denotes_name
    (unmarked : Unmarked bound) {name : String} {parts : List UrlPart}
    (undoubled : Undoubled (name.toList.map .character) parts) :
    Denotes true (literal name).toList
      (parts.flatMap (UrlPart.pieces bound)) := by
  have code :
      (name.toList.map UrlPart.character).flatMap (UrlPart.code bound) =
        (literal name).toList := by
    rw [toList_literal, List.flatMap_map]
    apply List.flatMap_congr
    intro c _
    rw [UrlPart.code_of_no_identifier bound rfl, UrlPart.spelledIn,
      List.flatMap_singleton]
  rw [← code]
  refine denotes_code unmarked (fun part member => ?_) undoubled
  obtain ⟨c, _, rfl⟩ := List.mem_map.1 member
  rintro _ ⟨⟩

end Holes

/-! ## Complete literals -/

/-- Every stray brace in a text is doubled. -/
def BracesDoubled (written : List UrlPart) : Prop :=
  ∃ parts, Undoubled written parts

theorem readLiteral?_of_not_interpolates
    {bound : List Bound} {url : String}
    (plain : interpolates bound url = false) :
    readLiteral? (urlExpression url bound) =
      some ((plainReading url).toList.map .character) := by
  rw [urlExpression_of_not_interpolates plain]
  exact readLiteral?_plain (denotes_literal (plainReading url))

theorem isLiteral_of_not_interpolates
    {bound : List Bound} {url : String}
    (plain : interpolates bound url = false) (oneLine : OnOneLine url.toList) :
    IsLiteral (urlExpression url bound)
      ((plainReading url).toList.map .character) := by
  have inside : OnOneLine (literal (plainReading url)).toList := by
    rw [onOneLine_literal]
    exact onOneLine_plainReading_iff.2 oneLine
  have quote : OnOneLine "\"".toList := by decide
  refine ⟨readLiteral?_of_not_interpolates plain, ?_⟩
  rw [urlExpression_of_not_interpolates plain, String.toList_append,
    String.toList_append]
  exact throughout_append.2 ⟨throughout_append.2 ⟨quote, inside⟩, quote⟩

theorem onOneLine_of_interpolates
    {bound : List Bound} {url : String} (unmarked : Unmarked bound)
    (interpolated : interpolates bound url = true)
    (parts : ∀ part ∈ urlParts 0 url.toList,
      part.identifier? bound = none → OnOneLine part.spelling)
    (names : ∀ entry ∈ queryEntries bound, OnOneLine entry.1.name.toList) :
    OnOneLine (urlExpression url bound).toList := by
  have inside := (onOneLine_interpolatedInside_iff unmarked).2 ⟨parts, names⟩
  have opening : OnOneLine "$\"".toList := by decide
  have closing : OnOneLine "\"".toList := by decide
  rw [urlExpression_of_interpolates interpolated, String.toList_append,
    String.toList_append]
  exact
    throughout_append.2 ⟨throughout_append.2 ⟨opening, inside⟩, closing⟩

/-- Names whose braces are doubled all have a reading. -/
private theorem exists_readings
    {bound : List Bound} (unmarked : Unmarked bound)
    (names : ∀ entry ∈ queryEntries bound,
      BracesDoubled (entry.1.name.toList.map .character)) :
    ∃ ofName : String → List Piece,
      (∀ entry ∈ queryEntries bound,
        Denotes true (literal entry.1.name).toList (ofName entry.1.name)) ∧
      ∀ name, HolesWithin bound (ofName name) := by
  have chosen :
      ∀ name : String, ∃ parts,
        BracesDoubled (name.toList.map .character) →
          Undoubled (name.toList.map .character) parts := by
    intro name
    by_cases doubled : BracesDoubled (name.toList.map .character)
    · obtain ⟨parts, undoubled⟩ := doubled
      exact ⟨parts, fun _ => undoubled⟩
    · exact ⟨[], fun contradiction => absurd contradiction doubled⟩
  choose partsOf undoubled using chosen
  refine ⟨fun name => (partsOf name).flatMap (UrlPart.pieces bound), ?_, ?_⟩
  · intro entry member
    exact denotes_name unmarked (undoubled _ (names entry member))
  · exact fun name => holesWithin_flatMap_pieces (partsOf name)

private theorem exists_isLiteral_of_interpolates
    {bound : List Bound} {url : String} (unmarked : Unmarked bound)
    (interpolated : interpolates bound url = true)
    (oneLine : OnOneLine url.toList)
    (doubled : BracesDoubled (urlParts 0 url.toList))
    (namesOneLine : ∀ entry ∈ queryEntries bound,
      OnOneLine entry.1.name.toList)
    (namesDoubled : ∀ entry ∈ queryEntries bound,
      BracesDoubled (entry.1.name.toList.map .character)) :
    ∃ pieces, IsLiteral (urlExpression url bound) pieces ∧
      HolesWithin bound pieces := by
  obtain ⟨parts, undoubled⟩ := doubled
  obtain ⟨ofName, spelled, holes⟩ := exists_readings unmarked namesDoubled
  have inside := denotes_interpolatedInside unmarked undoubled spelled
  refine
    ⟨parts.flatMap (UrlPart.pieces bound) ++
      queryPieces bound (urlPath bound url) ofName, ⟨?_, ?_⟩, ?_⟩
  · rw [urlExpression_of_interpolates interpolated]
    exact readLiteral?_interpolated inside
  · exact
      onOneLine_of_interpolates unmarked interpolated
        (fun part member _ => onOneLine_spelling oneLine member) namesOneLine
  · exact
      throughout_append.2
        ⟨holesWithin_flatMap_pieces parts, holesWithin_queryPieces _ holes⟩

/-- What holds of the parameters in the query holds of their entries. -/
theorem forall_mem_queryEntries
    {endpoint : Endpoint} {P : Parameter → Prop}
    (each : ∀ parameter ∈ endpoint.parameters,
      parameter.location = "query" → P parameter) :
    ∀ entry ∈ queryEntries endpoint.bound, P entry.1 := by
  intro entry member
  obtain ⟨listed, inQuery⟩ := List.mem_filter.1 member
  exact each _ (List.of_mem_zip listed).1 (beq_iff_eq.1 inQuery)

/-- On one line, a URL into which nothing is interpolated becomes one literal
whatever its braces are, which denotes it exactly if no two alike braces stand
side by side outside of placeholders.  Any other URL becomes one literal with no
holes but those of parameters if its stray braces are doubled, and those of the
names in the query. -/
theorem urlExpression_isLiteral
    (endpoint : Endpoint) {url : String} (oneLine : OnOneLine url.toList)
    (names : ∀ parameter ∈ endpoint.parameters,
      parameter.location = "query" → OnOneLine parameter.name.toList) :
    (interpolates endpoint.bound url = false →
      IsLiteral (urlExpression url endpoint.bound)
          ((plainReading url).toList.map .character) ∧
        (plainReading url = url ↔
          NoTwins '\x7b' (urlParts 0 url.toList) ∧
            NoTwins '\x7d' (urlParts 0 url.toList))) ∧
    (interpolates endpoint.bound url = true →
      BracesDoubled (urlParts 0 url.toList) →
      (∀ parameter ∈ endpoint.parameters, parameter.location = "query" →
        BracesDoubled (parameter.name.toList.map .character)) →
      ∃ pieces, IsLiteral (urlExpression url endpoint.bound) pieces ∧
        ∀ name, .hole name ∈ pieces →
          name ∈ identifiers endpoint.parameters) := by
  constructor
  · intro plain
    exact
      ⟨isLiteral_of_not_interpolates plain oneLine,
        plainReading_eq_self_iff url⟩
  · intro interpolated doubled namesDoubled
    obtain ⟨pieces, isLiteral, holes⟩ :=
      exists_isLiteral_of_interpolates endpoint.unmarked_bound interpolated
        oneLine doubled (forall_mem_queryEntries names)
        (forall_mem_queryEntries namesDoubled)
    refine ⟨pieces, isLiteral, fun name member => ?_⟩
    obtain ⟨entry, listed, rfl⟩ := holes _ member name rfl
    exact (List.of_mem_zip listed).2

def endpointWith (parameters : List Parameter) : Endpoint where
  url := .text "/"
  httpMethod := "GET"
  operationId := "op"
  summary := ""
  parameters := parameters
  returnType := "void"
  tag := "General"

/-- The parameter of a search. -/
def searchParameter : Parameter where
  name := "q"
  location := "query"
  typeText := "string"

theorem doubled_brace_isLiteral :
    ∃ pieces,
      IsLiteral (urlExpression "/\x7b\x7b" (endpointWith [searchParameter]).bound)
          pieces ∧
        ∀ name, .hole name ∈ pieces →
          name ∈ identifiers (endpointWith [searchParameter]).parameters := by
  have parts :
      urlParts 0 "/\x7b\x7b".toList =
        [.character '/', .character '\x7b', .character '\x7b'] := by
    decide +kernel
  refine (urlExpression_isLiteral (endpointWith [searchParameter])
    (by decide +kernel) (by decide +kernel)).2 (by decide +kernel) ?_ ?_
  · rw [parts]
    exact ⟨_, .character (by decide) (.brace (by decide) .nil)⟩
  · intro parameter member _
    rw [List.mem_singleton.1 member]
    exact ⟨[.character 'q'], .character (by decide) .nil⟩

/-- A single brace that belongs to no placeholder leaves no literal.  A doubled
one in front of a placeholder makes a hole of its name.  In a plain literal it
becomes a single one.  A line break stays one. -/
theorem urlExpression_not_isLiteral :
    readLiteral?
        (urlExpression "/\x7b" (endpointWith [searchParameter]).bound) =
      none ∧
    (∃ pieces,
      readLiteral? (urlExpression "/\x7b\x7bid\x7d\x7d"
          (endpointWith [searchParameter]).bound) = some pieces ∧
        .hole "id" ∈ pieces ∧
        "id" ∉ identifiers (endpointWith [searchParameter]).parameters) ∧
    (readLiteral? (urlExpression "/\x7b\x7b" (endpointWith []).bound) =
        some ("/\x7b".toList.map .character) ∧ "/\x7b" ≠ "/\x7b\x7b") ∧
    ¬ OnOneLine (urlExpression "/\n" (endpointWith []).bound).toList := by
  refine ⟨by decide +kernel, ⟨[.character '/', .character '\x7b', .hole "id",
    .character '\x7d', .character '?', .character 'q', .character '=',
    .hole "q"], by decide +kernel, by decide +kernel, by decide +kernel⟩,
    by decide +kernel, by decide +kernel⟩

end OpenApiSharp.Service
