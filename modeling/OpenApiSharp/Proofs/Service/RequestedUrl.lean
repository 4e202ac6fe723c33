import OpenApiSharp.Proofs.Service.UrlExpression
import OpenApiSharp.Proofs.Text.Search

namespace OpenApiSharp.Service

open Text Naming CSharp

section Requested

variable (bound : List Bound)

def pathParameter? (name : String) : Option Bound :=
  bound.find? fun entry =>
    entry.1.location == "path" && entry.1.name == name

/-- A part that stands in the requested URL as it is. -/
def UrlPart.isKept : UrlPart → Bool
  | character _ => true
  | placeholder name => (pathParameter? bound name).isNone

variable (valueOf : String → String)

/-- A part of the requested URL. -/
def UrlPart.requested : UrlPart → String
  | character c => String.singleton c
  | placeholder name =>
      match pathParameter? bound name with
      | some entry => valueOf entry.2
      | none => "\x7b" ++ name ++ "\x7d"

/-- The query behind the requested parts, which may have begun one. -/
def requestedQuery (parts : List UrlPart) : String :=
  if (queryEntries bound).isEmpty then ""
  else
    (if parts.any fun part =>
        part.isKept bound && part.spelling.contains '?'
      then "&" else "?") ++
      "&".intercalate ((queryEntries bound).map fun entry =>
        entry.1.name ++ "=" ++ valueOf entry.2)

/-- The URL that is requested for a URL of certain parts. -/
def requestedUrl (parts : List UrlPart) : String :=
  String.join (parts.map (UrlPart.requested bound valueOf)) ++
    requestedQuery bound valueOf parts

end Requested

/-- A literal character is no brace, and the name of a placeholder has neither
braces nor characters that are escaped. -/
def UrlPart.isTemplatePart : UrlPart → Bool
  | character c => !isBrace c
  | placeholder name => name.toList.all isHoleChar

def urlOf (parts : List UrlPart) : String :=
  String.ofList (parts.flatMap UrlPart.spelling)

private theorem isBrace_of_isHoleChar {c : Char} (plain : isHoleChar c = true) :
    isBrace c = false := by
  simp only [isHoleChar, Bool.and_eq_true, Bool.not_eq_true'] at plain
  exact plain.1.1

theorem literal_eq_self
    {name : String} (plain : ∀ c ∈ name.toList, isHoleChar c = true) :
    literal name = name := by
  have unescaped : '"' ∉ name.toList ∧ '\\' ∉ name.toList := by
    constructor <;>
    · intro member
      have hole := plain _ member
      cases hole
  rw [← String.toList_inj, toList_literal,
    flatMap_escapeChar_eq_self unescaped.1 unescaped.2]

section Template

variable {parts : List UrlPart}
  (template : ∀ part ∈ parts, part.isTemplatePart = true)

include template

private theorem isBraceless_of_template :
    ∀ part ∈ parts, part.IsBraceless := by
  intro part member
  have plain := template part member
  cases part with
  | character c =>
      refine ⟨by rintro _ ⟨⟩, ?_⟩
      rintro _ ⟨⟩
      rw [UrlPart.isTemplatePart, Bool.not_eq_true'] at plain
      exact plain
  | placeholder name =>
      refine ⟨?_, by rintro _ ⟨⟩⟩
      rintro _ ⟨⟩ c inName
      exact isBrace_of_isHoleChar (List.all_eq_true.1 plain c inName)

private theorem urlParts_urlOf : urlParts 0 (urlOf parts).toList = parts := by
  rw [urlOf, String.toList_ofList]
  exact urlParts_flatMap_spelling (isBraceless_of_template template)

/-- No braces of a template stand side by side. -/
private theorem plainReading_urlOf :
    plainReading (urlOf parts) = urlOf parts := by
  have apart : ∀ brace, isBrace brace = true → NoTwins brace parts := by
    intro brace isBrace_brace
    refine (List.pairwise_of_forall_mem_list ?_).isChain
    rintro part member _ _ ⟨here, _⟩
    have plain := (isBraceless_of_template template part member).2 _ here
    rw [isBrace_brace] at plain
    cases plain
  rw [plainReading_eq_self_iff, urlParts_urlOf template]
  exact ⟨apart _ (by decide), apart _ (by decide)⟩

end Template

/-- Where no two elements have the same key, the last element with a key is the
first one. -/
private theorem getLast?_filter_eq_find?
    {α : Type} {key : α → String} {elements : List α}
    (distinct : (elements.map key).Nodup) (wanted : String) :
    (elements.filter fun element => key element == wanted).getLast? =
      elements.find? fun element => key element == wanted := by
  induction elements with
  | nil => rfl
  | cons element rest inductionHypothesis =>
      rw [List.map_cons, List.nodup_cons] at distinct
      by_cases here : (key element == wanted) = true
      · have others :
            rest.filter (fun other => key other == wanted) = [] := by
          rw [List.filter_eq_nil_iff]
          intro other member again
          apply distinct.1
          rw [beq_iff_eq.1 here, ← beq_iff_eq.1 again]
          exact List.mem_map_of_mem member
        simp only [List.filter_cons, List.find?_cons, here, others, if_true]
        rfl
      · rw [Bool.not_eq_true] at here
        simp only [List.filter_cons, List.find?_cons, here,
          Bool.false_eq_true, if_false]
        exact inductionHypothesis distinct.2

/-- No two path parameters have the same name. -/
def DistinctPathNames (parameters : List Parameter) : Prop :=
  ((parameters.filter fun parameter => parameter.location == "path").map
    fun parameter => parameter.name).Nodup

instance (parameters : List Parameter) :
    Decidable (DistinctPathNames parameters) :=
  inferInstanceAs (Decidable (List.Nodup _))

@[simp]
theorem Endpoint.map_fst_bound (endpoint : Endpoint) :
    endpoint.bound.map Prod.fst = endpoint.parameters :=
  List.map_fst_zip (by rw [identifiers, assign_length])

theorem pathIdentifier?_eq
    {endpoint : Endpoint} (distinct : DistinctPathNames endpoint.parameters)
    (name : String) :
    pathIdentifier? endpoint.bound name =
      (pathParameter? endpoint.bound name).map (·.2) := by
  have names :
      ((endpoint.bound.filter fun entry => entry.1.location == "path").map
        fun entry => entry.1.name).Nodup := by
    rw [DistinctPathNames, ← endpoint.map_fst_bound, List.filter_map,
      List.map_map] at distinct
    exact distinct
  have last := getLast?_filter_eq_find? names name
  simp only [List.filter_filter, List.find?_filter, Bool.decide_and,
    Bool.decide_eq_true, Bool.and_comm] at last
  simp only [pathIdentifier?, pathParameter?, Bool.and_comm]
  exact congrArg (Option.map Prod.snd) last

section Parts

variable {endpoint : Endpoint}
  (distinct : DistinctPathNames endpoint.parameters)
  {part : UrlPart} (template : part.isTemplatePart = true)

include distinct template

private theorem UrlPart.flatMap_value_pieces (valueOf : String → String) :
    (part.pieces endpoint.bound).flatMap (Piece.value valueOf) =
      (part.requested endpoint.bound valueOf).toList := by
  cases part with
  | character c =>
      simp [pieces, identifier?, requested, spelling, spelledIn, Piece.value]
  | placeholder name =>
      have plain := literal_eq_self (List.all_eq_true.1 template)
      have found := pathIdentifier?_eq distinct name
      rw [pieces, identifier?, plain, found, requested]
      cases pathParameter? endpoint.bound name with
      | some entry =>
          simp [Piece.value]
      | none =>
          rw [Option.map_none]
          simp only [flatMap_value_characters]
          simp [spelling, spelledIn]

theorem UrlPart.isKept_eq :
    part.isKept endpoint.bound =
      (part.identifier? endpoint.bound).isNone := by
  cases part with
  | character c => rfl
  | placeholder name =>
      have plain := literal_eq_self (List.all_eq_true.1 template)
      rw [isKept, identifier?, plain, pathIdentifier?_eq distinct,
        Option.isNone_map]

end Parts

theorem mem_flatMap_escapeChar
    {c : Char} (other : c ≠ '\\') {cs : List Char} :
    c ∈ cs.flatMap escapeChar ↔ c ∈ cs := by
  rw [List.mem_flatMap]
  constructor
  · rintro ⟨d, member, inImage⟩
    rw [escapeChar] at inImage
    split at inImage
    · rcases List.mem_cons.1 inImage with backslash | here
      · exact absurd backslash other
      · rw [List.mem_singleton.1 here]
        exact member
    · rw [List.mem_singleton.1 inImage]
      exact member
  · intro member
    refine ⟨c, member, ?_⟩
    rw [escapeChar]
    split <;> simp

/-- The mark of the query is in the code of a part if the part is kept and has
it. -/
theorem question_mem_code_iff
    {bound : List Bound} (unmarked : Unmarked bound) (part : UrlPart) :
    '?' ∈ part.code bound ↔
      part.identifier? bound = none ∧ '?' ∈ part.spelling := by
  cases found : part.identifier? bound with
  | some identifier =>
      obtain ⟨entry, member, code, _⟩ := UrlPart.code_of_some found
      have absent : '?' ∉ holeCode entry.2 :=
        unmarked.not_mem_holeCode member (by decide) (by decide)
      rw [code]
      simp [absent]
  | none =>
      rw [UrlPart.code_of_no_identifier bound found,
        mem_flatMap_escapeChar (by decide)]
      cases part <;> simp [UrlPart.spelling, UrlPart.spelledIn]

/-- The path has begun a query exactly if a kept part has. -/
private theorem queryMark_urlPath
    {endpoint : Endpoint} (distinct : DistinctPathNames endpoint.parameters)
    {parts : List UrlPart}
    (template : ∀ part ∈ parts, part.isTemplatePart = true) :
    queryMark (urlPath endpoint.bound (urlOf parts)) =
      if parts.any fun part =>
          part.isKept endpoint.bound && part.spelling.contains '?'
      then '&' else '?' := by
  have same :
      occursIn "?" (urlPath endpoint.bound (urlOf parts)) =
        parts.any fun part =>
          part.isKept endpoint.bound && part.spelling.contains '?' := by
    have question : "?".toList = ['?'] := rfl
    rw [Bool.eq_iff_iff, occursIn, question, isSome_indexOf?_singleton,
      toList_urlPath, urlParts_urlOf template, List.mem_flatMap,
      List.any_eq_true]
    refine exists_congr fun part => and_congr_right fun member => ?_
    rw [question_mem_code_iff endpoint.unmarked_bound, Bool.and_eq_true,
      UrlPart.isKept_eq distinct (template part member),
      Option.isNone_iff_eq_none, List.contains_iff_mem]
  rw [queryMark, same]

/-- What a name without braces denotes. -/
def namePieces (name : String) : List Piece :=
  name.toList.map .character

private theorem flatMap_value_queryPieces
    {bound : List Bound} {parts : List UrlPart} {path : String}
    (mark : queryMark path =
      if parts.any fun part =>
          part.isKept bound && part.spelling.contains '?'
      then '&' else '?')
    (valueOf : String → String) :
    (queryPieces bound path namePieces).flatMap (Piece.value valueOf) =
      (requestedQuery bound valueOf parts).toList := by
  rw [queryPieces, requestedQuery]
  split
  · rfl
  · have ampersand : "&".toList = ['&'] := rfl
    have pairs :
        (queryEntries bound).map (fun entry =>
            (namePieces entry.1.name ++
              [Piece.character '=', Piece.hole entry.2]).flatMap
                (Piece.value valueOf)) =
          ((queryEntries bound).map fun entry =>
            entry.1.name ++ "=" ++ valueOf entry.2).map String.toList := by
      rw [List.map_map]
      apply List.map_congr_left
      intro entry _
      simp [namePieces, flatMap_value_characters, Piece.value]
    rw [List.flatMap_cons, flatMap_value_intercalate, List.map_map,
      String.toList_append, String.toList_intercalate, ← pairs, mark,
      ampersand]
    split <;> rfl

theorem toList_requestedUrl
    {endpoint : Endpoint} (distinct : DistinctPathNames endpoint.parameters)
    {parts : List UrlPart}
    (template : ∀ part ∈ parts, part.isTemplatePart = true)
    (valueOf : String → String) :
    (requestedUrl endpoint.bound valueOf parts).toList =
      (parts.flatMap (UrlPart.pieces endpoint.bound) ++
        queryPieces endpoint.bound (urlPath endpoint.bound (urlOf parts))
          namePieces).flatMap (Piece.value valueOf) := by
  rw [requestedUrl, String.toList_append, String.toList_join,
    List.flatMap_append, List.flatMap_assoc, List.flatMap_map,
    flatMap_value_queryPieces (queryMark_urlPath distinct template)]
  congr 1
  apply List.flatMap_congr
  intro part member
  exact
    (UrlPart.flatMap_value_pieces distinct (template part member)
      valueOf).symm

private theorem identifier?_of_not_interpolates
    {bound : List Bound} {parts : List UrlPart}
    (template : ∀ part ∈ parts, part.isTemplatePart = true)
    (plain : interpolates bound (urlOf parts) = false) :
    ∀ part ∈ parts, part.identifier? bound = none := by
  intro part member
  rw [interpolates, Bool.or_eq_false_iff] at plain
  rw [← urlParts_urlOf template] at member
  exact identifier?_eq_none plain.2 member

/-- Without interpolation the requested URL is the URL itself. -/
private theorem requestedUrl_of_not_interpolates
    {endpoint : Endpoint} (distinct : DistinctPathNames endpoint.parameters)
    {parts : List UrlPart}
    (template : ∀ part ∈ parts, part.isTemplatePart = true)
    (plain : interpolates endpoint.bound (urlOf parts) = false)
    (valueOf : String → String) :
    requestedUrl endpoint.bound valueOf parts = urlOf parts := by
  have unreplaced := identifier?_of_not_interpolates template plain
  rw [interpolates, Bool.or_eq_false_iff, Bool.not_eq_false'] at plain
  apply String.toList_inj.1
  rw [toList_requestedUrl distinct template, queryPieces, if_pos plain.1,
    List.append_nil, List.flatMap_assoc, urlOf, String.toList_ofList]
  apply List.flatMap_congr
  intro part member
  rw [UrlPart.pieces, unreplaced part member]
  exact flatMap_value_characters valueOf part.spelling

section Expression

variable {endpoint : Endpoint} {parts : List UrlPart}
  (template : ∀ part ∈ parts, part.isTemplatePart = true)
  (distinct : DistinctPathNames endpoint.parameters)

include template distinct

private theorem read_urlExpression
    (names : ∀ entry ∈ queryEntries endpoint.bound,
      entry.1.name.toList.any isBrace = false)
    (valueOf : String → String) :
    (readLiteral? (urlExpression (urlOf parts) endpoint.bound)).map
        (denoted valueOf) =
      some (requestedUrl endpoint.bound valueOf parts) := by
  cases interpolated : interpolates endpoint.bound (urlOf parts) with
  | true =>
      have undoubled : Undoubled (urlParts 0 (urlOf parts).toList) parts := by
        rw [urlParts_urlOf template]
        exact undoubled_self (isBraceless_of_template template)
      have spelled : ∀ entry ∈ queryEntries endpoint.bound,
          Denotes true (literal entry.1.name).toList
            (namePieces entry.1.name) := by
        intro entry member
        rw [toList_literal]
        refine .escaped fun _ c inName => ?_
        rw [← Bool.not_eq_true]
        exact List.any_eq_false.1 (names entry member) c inName
      have inside :=
        denotes_interpolatedInside endpoint.unmarked_bound undoubled spelled
      rw [urlExpression_of_interpolates interpolated,
        readLiteral?_interpolated inside, Option.map_some, denoted,
        ← toList_requestedUrl distinct template, String.ofList_toList]
  | false =>
      rw [readLiteral?_of_not_interpolates interpolated, Option.map_some,
        denoted, flatMap_value_characters, String.ofList_toList,
        plainReading_urlOf template,
        requestedUrl_of_not_interpolates distinct template interpolated]

private theorem onOneLine_urlExpression
    (kept : ∀ part ∈ parts, part.isKept endpoint.bound = true →
      OnOneLine part.spelling)
    (names : ∀ entry ∈ queryEntries endpoint.bound,
      OnOneLine entry.1.name.toList) :
    OnOneLine (urlExpression (urlOf parts) endpoint.bound).toList := by
  have unreplaced : ∀ part ∈ parts,
      part.identifier? endpoint.bound = none → OnOneLine part.spelling := by
    intro part member none
    apply kept part member
    rw [UrlPart.isKept_eq distinct (template part member), none]
    rfl
  cases interpolated : interpolates endpoint.bound (urlOf parts) with
  | true =>
      refine onOneLine_of_interpolates endpoint.unmarked_bound interpolated
        ?_ names
      rw [urlParts_urlOf template]
      exact unreplaced
  | false =>
      refine (isLiteral_of_not_interpolates interpolated ?_).oneLine
      rw [urlOf, String.toList_ofList]
      exact throughout_flatMap.2 fun part member =>
        unreplaced part member
          (identifier?_of_not_interpolates template interpolated part member)

end Expression

/-- The expression for a URL denotes the URL that is requested.  It stands on one
line if what is kept of the URL does, and the names in its query do. -/
theorem urlExpression_denotes
    (endpoint : Endpoint) {parts : List UrlPart}
    (template : ∀ part ∈ parts, part.isTemplatePart = true)
    (distinct : DistinctPathNames endpoint.parameters)
    (names : ∀ parameter ∈ endpoint.parameters,
      parameter.location = "query" →
        parameter.name.toList.any isBrace = false)
    (valueOf : String → String) :
    (readLiteral? (urlExpression (urlOf parts) endpoint.bound)).map
        (denoted valueOf) =
      some (requestedUrl endpoint.bound valueOf parts) ∧
    ((∀ part ∈ parts, part.isKept endpoint.bound = true →
        OnOneLine part.spelling) →
      (∀ parameter ∈ endpoint.parameters,
        parameter.location = "query" → OnOneLine parameter.name.toList) →
      OnOneLine (urlExpression (urlOf parts) endpoint.bound).toList) := by
  constructor
  · exact
      read_urlExpression template distinct (forall_mem_queryEntries names)
        valueOf
  · intro kept namesOneLine
    exact
      onOneLine_urlExpression template distinct kept
        (forall_mem_queryEntries namesOneLine)

/-- The parameter that an item is found by. -/
def itemParameter : Parameter where
  name := "id"
  location := "path"
  typeText := "string"

/-- A quote, the item, and a placeholder that no parameter has. -/
def itemParts : List UrlPart :=
  [.character '/', .character '"', .placeholder "id", .placeholder "rest"]

theorem itemParts_denotes :
    (readLiteral? (urlExpression (urlOf itemParts)
        (endpointWith [itemParameter, searchParameter]).bound)).map
          (denoted fun identifier => "<" ++ identifier ++ ">") =
      some "/\"<id>\x7brest\x7d?q=<q>" ∧
    OnOneLine (urlExpression (urlOf itemParts)
      (endpointWith [itemParameter, searchParameter]).bound).toList := by
  have denotes :=
    urlExpression_denotes (endpointWith [itemParameter, searchParameter])
      (by decide +kernel : ∀ part ∈ itemParts, part.isTemplatePart = true)
      (by decide +kernel) (by decide +kernel)
      fun identifier => "<" ++ identifier ++ ">"
  have requested :
      requestedUrl (endpointWith [itemParameter, searchParameter]).bound
          (fun identifier => "<" ++ identifier ++ ">") itemParts =
        "/\"<id>\x7brest\x7d?q=<q>" := by
    decide +kernel
  rw [requested] at denotes
  exact ⟨denotes.1, denotes.2 (by decide +kernel) (by decide +kernel)⟩

end OpenApiSharp.Service
