import Mathlib.Data.List.Chain
import Mathlib.Data.List.TakeWhile
import OpenApiSharp.Proofs.CSharp.Literal
import OpenApiSharp.Service.Method

/-!
# The parts of a URL

A URL falls into placeholders and the characters outside of them.  Escaping a URL
escapes its parts one by one, since no brace is escaped.  In a plain literal the
doubled braces of placeholders are made single again, and so are any other two alike
braces side by side.
-/

namespace OpenApiSharp.Service

open Text CSharp

theorem isNoBrace_eq (c : Char) : isNoBrace c = !isBrace c := by
  rw [isNoBrace, isBrace, Bool.not_or, bne, bne]

/-- Whether a placeholder begins with this character. -/
def opensPlaceholder (c : Char) (rest : List Char) : Bool :=
  c == '\x7b' && (rest.dropWhile isNoBrace).head? == some '\x7d'

@[simp]
private theorem drop_length_takeWhile (cs : List Char) :
    cs.drop (cs.takeWhile isNoBrace).length = cs.dropWhile isNoBrace := by
  have parts := List.takeWhile_append_dropWhile (p := isNoBrace) (l := cs)
  calc cs.drop (cs.takeWhile isNoBrace).length
      = (cs.takeWhile isNoBrace ++ cs.dropWhile isNoBrace).drop
          (cs.takeWhile isNoBrace).length := by rw [parts]
    _ = cs.dropWhile isNoBrace := List.drop_left

@[simp]
private theorem urlParts_skip (skipped rest : List Char) :
    urlParts skipped.length (skipped ++ rest) = urlParts 0 rest := by
  induction skipped with
  | nil => rfl
  | cons c others inductionHypothesis =>
      rw [List.length_cons, List.cons_append, urlParts]
      exact inductionHypothesis

private theorem urlParts_placeholder
    {name rest : List Char} (plain : ∀ c ∈ name, isNoBrace c = true) :
    urlParts 0 ('\x7b' :: (name ++ '\x7d' :: rest)) =
      .placeholder (String.ofList name) :: urlParts 0 rest := by
  have closed : isNoBrace '\x7d' = false := by decide
  have taken :
      (name ++ '\x7d' :: rest).takeWhile isNoBrace = name := by
    rw [List.takeWhile_append_of_pos plain,
      List.takeWhile_cons_of_neg (by rw [closed]; decide), List.append_nil]
  have skipped := urlParts_skip (name ++ ['\x7d']) rest
  rw [List.length_append, List.append_assoc, List.singleton_append]
    at skipped
  rw [urlParts, taken, List.drop_left]
  exact congrArg (UrlPart.placeholder (String.ofList name) :: ·) skipped

private theorem urlParts_character
    {c : Char} {rest : List Char}
    (single : opensPlaceholder c rest = false) :
    urlParts 0 (c :: rest) = .character c :: urlParts 0 rest := by
  rw [opensPlaceholder, ← drop_length_takeWhile] at single
  rw [urlParts, single]
  rfl

private theorem exists_name_of_opensPlaceholder
    {c : Char} {rest : List Char} (opens : opensPlaceholder c rest = true) :
    ∃ name behind, (∀ d ∈ name, isNoBrace d = true) ∧
      c :: rest = '\x7b' :: (name ++ '\x7d' :: behind) := by
  rw [opensPlaceholder, Bool.and_eq_true, beq_iff_eq, beq_iff_eq] at opens
  obtain ⟨behind, dropped⟩ := List.head?_eq_some_iff.1 opens.2
  refine ⟨rest.takeWhile isNoBrace, behind, fun d => List.mem_takeWhile_imp, ?_⟩
  rw [← dropped, List.takeWhile_append_dropWhile, opens.1]

/-- A URL is empty, or begins with a placeholder, or with a character that
begins none. -/
private theorem url_induction
    {motive : List Char → Prop} (nil : motive [])
    (placeholder : ∀ name rest, (∀ c ∈ name, isNoBrace c = true) →
      motive rest → motive ('\x7b' :: (name ++ '\x7d' :: rest)))
    (character : ∀ c rest, opensPlaceholder c rest = false →
      motive rest → motive (c :: rest)) (url : List Char) : motive url := by
  induction length : url.length using Nat.strongRecOn
    generalizing url with
  | _ size inductionHypothesis =>
      cases url with
      | nil => exact nil
      | cons c rest =>
          by_cases opens : opensPlaceholder c rest = true
          · obtain ⟨name, behind, plain, parts⟩ :=
              exists_name_of_opensPlaceholder opens
            rw [parts] at length ⊢
            refine placeholder name behind plain
              (inductionHypothesis behind.length ?_ behind rfl)
            simp only [List.length_cons, List.length_append] at length
            omega
          · refine character c rest (eq_false_of_ne_true opens)
              (inductionHypothesis rest.length ?_ rest rfl)
            rw [← length, List.length_cons]
            omega

/-- A part with certain characters around the name of a placeholder. -/
def UrlPart.spelledIn (opening closing : List Char) : UrlPart → List Char
  | character c => [c]
  | placeholder name => opening ++ name.toList ++ closing

/-- A part as it stands in a URL. -/
def UrlPart.spelling : UrlPart → List Char :=
  spelledIn ['\x7b'] ['\x7d']

/-- The parts lose nothing of the URL. -/
@[simp]
theorem flatMap_spelling_urlParts (url : List Char) :
    (urlParts 0 url).flatMap UrlPart.spelling = url := by
  induction url using url_induction with
  | nil => rfl
  | placeholder name rest plain inductionHypothesis =>
      rw [urlParts_placeholder plain, List.flatMap_cons, inductionHypothesis]
      simp [UrlPart.spelling, UrlPart.spelledIn]
  | character c rest single inductionHypothesis =>
      rw [urlParts_character single, List.flatMap_cons, inductionHypothesis]
      rfl

/-- The name of a placeholder has no braces. -/
def UrlPart.HasPlainName (part : UrlPart) : Prop :=
  ∀ name, part = .placeholder name → ∀ c ∈ name.toList, isBrace c = false

theorem hasPlainName_of_mem_urlParts
    {url : List Char} {part : UrlPart} (member : part ∈ urlParts 0 url) :
    part.HasPlainName := by
  induction url using url_induction with
  | nil => cases member
  | placeholder name rest plain inductionHypothesis =>
      rw [urlParts_placeholder plain] at member
      rcases List.mem_cons.1 member with rfl | later
      · rintro _ ⟨⟩ c inName
        rw [String.toList_ofList] at inName
        have noBrace := plain c inName
        rw [isNoBrace_eq, Bool.not_eq_true'] at noBrace
        exact noBrace
      · exact inductionHypothesis later
  | character c rest single inductionHypothesis =>
      rw [urlParts_character single] at member
      rcases List.mem_cons.1 member with rfl | later
      · rintro _ ⟨⟩
      · exact inductionHypothesis later

/-- A part that is no brace by itself, and whose name has none. -/
def UrlPart.IsBraceless (part : UrlPart) : Prop :=
  part.HasPlainName ∧ ∀ c, part = .character c → isBrace c = false

/-- What is spelled by parts without stray braces falls into these parts. -/
theorem urlParts_flatMap_spelling
    {parts : List UrlPart} (braceless : ∀ part ∈ parts, part.IsBraceless) :
    urlParts 0 (parts.flatMap UrlPart.spelling) = parts := by
  induction parts with
  | nil => rfl
  | cons part rest inductionHypothesis =>
      obtain ⟨plain, noBrace⟩ := braceless part List.mem_cons_self
      have others := inductionHypothesis fun later member =>
        braceless later (List.mem_cons_of_mem _ member)
      rw [List.flatMap_cons]
      cases part with
      | character c =>
          have single :
              opensPlaceholder c (rest.flatMap UrlPart.spelling) = false := by
            have other : (c == '\x7b') = false := by
              rw [beq_eq_false_iff_ne]
              rintro rfl
              cases noBrace _ rfl
            rw [opensPlaceholder, other, Bool.false_and]
          have cut := urlParts_character single
          rw [others] at cut
          exact cut
      | placeholder name =>
          have noBraces : ∀ c ∈ name.toList, isNoBrace c = true := by
            intro c member
            rw [isNoBrace_eq, plain name rfl c member]
            rfl
          have spelled :
              (UrlPart.placeholder name).spelling ++
                  rest.flatMap UrlPart.spelling =
                '\x7b' :: (name.toList ++
                  '\x7d' :: rest.flatMap UrlPart.spelling) := by
            simp [UrlPart.spelling, UrlPart.spelledIn]
          rw [spelled, urlParts_placeholder noBraces, others,
            String.ofList_toList]

/-- A part of a URL inside a literal. -/
def UrlPart.escaped : UrlPart → List UrlPart
  | character c => (escapeChar c).map character
  | placeholder name => [placeholder (literal name)]

private theorem isNoBrace_of_mem_escapeChar
    {c d : Char} (noBrace : isNoBrace c = true) (member : d ∈ escapeChar c) :
    isNoBrace d = true := by
  rw [escapeChar] at member
  split at member
  · rcases List.mem_cons.1 member with rfl | here
    · decide
    · rw [List.mem_singleton.1 here]
      exact noBrace
  · rw [List.mem_singleton.1 member]
    exact noBrace

theorem escapeChar_of_isBrace {c : Char} (brace : isBrace c = true) :
    escapeChar c = [c] := by
  rw [escapeChar, if_neg]
  intro special
  rw [Bool.or_eq_true, beq_iff_eq, beq_iff_eq] at special
  rcases special with rfl | rfl <;> cases brace

@[simp]
private theorem head?_dropWhile_escape (cs : List Char) :
    ((cs.flatMap escapeChar).dropWhile isNoBrace).head? =
      (cs.dropWhile isNoBrace).head? := by
  induction cs with
  | nil => rfl
  | cons c rest inductionHypothesis =>
      rw [List.flatMap_cons]
      by_cases noBrace : isNoBrace c = true
      · rw [List.dropWhile_cons_of_pos noBrace, ← inductionHypothesis,
          List.dropWhile_append_of_pos fun d =>
            isNoBrace_of_mem_escapeChar noBrace]
      · have brace : isBrace c = true := by
          rw [isNoBrace_eq, Bool.not_eq_true', Bool.not_eq_false] at noBrace
          exact noBrace
        rw [escapeChar_of_isBrace brace, List.singleton_append,
          List.dropWhile_cons_of_neg noBrace,
          List.dropWhile_cons_of_neg noBrace]
        rfl

@[simp]
private theorem opensPlaceholder_escape (c : Char) (rest : List Char) :
    opensPlaceholder c (rest.flatMap escapeChar) =
      opensPlaceholder c rest := by
  simp [opensPlaceholder]

@[simp]
private theorem urlParts_escape (url : List Char) :
    urlParts 0 (url.flatMap escapeChar) =
      (urlParts 0 url).flatMap UrlPart.escaped := by
  induction url using url_induction with
  | nil => rfl
  | placeholder name rest plain inductionHypothesis =>
      have escaped :
          ∀ d ∈ name.flatMap escapeChar, isNoBrace d = true := by
        intro d member
        obtain ⟨c, inName, image⟩ := List.mem_flatMap.1 member
        exact isNoBrace_of_mem_escapeChar (plain c inName) image
      have code :
          literal (String.ofList name) =
            String.ofList (name.flatMap escapeChar) := by
        rw [← String.toList_inj, toList_literal, String.toList_ofList,
          String.toList_ofList]
      have opening : escapeChar '\x7b' = ['\x7b'] := by decide
      have closing : escapeChar '\x7d' = ['\x7d'] := by decide
      rw [List.flatMap_cons, List.flatMap_append, List.flatMap_cons, opening,
        closing, List.singleton_append, List.singleton_append,
        urlParts_placeholder escaped, inductionHypothesis,
        urlParts_placeholder plain, List.flatMap_cons, UrlPart.escaped,
        code, List.singleton_append]
  | character c rest single inductionHypothesis =>
      have alone :
          urlParts 0 (c :: rest.flatMap escapeChar) =
            .character c :: urlParts 0 (rest.flatMap escapeChar) := by
        apply urlParts_character
        simpa using single
      rw [List.flatMap_cons, urlParts_character single, List.flatMap_cons,
        UrlPart.escaped, ← inductionHypothesis, escapeChar]
      split
      · rw [List.cons_append, List.singleton_append, urlParts_character rfl,
          alone]
        rfl
      · rw [List.singleton_append, alone]
        rfl

section Code

variable (bound : List Bound)

def UrlPart.identifier? : UrlPart → Option String
  | character _ => none
  | placeholder name => pathIdentifier? bound (literal name)

/-- A part inside the literal for a URL, before braces are made single. -/
def UrlPart.code (part : UrlPart) : List Char :=
  match part.identifier? bound with
  | some identifier => '\x7b' :: (identifier.toList ++ ['\x7d'])
  | none =>
      (part.spelledIn ['\x7b', '\x7b'] ['\x7d', '\x7d']).flatMap escapeChar

theorem UrlPart.code_of_identifier
    {part : UrlPart} {identifier : String}
    (replaced : part.identifier? bound = some identifier) :
    part.code bound = '\x7b' :: (identifier.toList ++ ['\x7d']) := by
  rw [code, replaced]

theorem UrlPart.code_of_no_identifier
    {part : UrlPart} (kept : part.identifier? bound = none) :
    part.code bound =
      (part.spelledIn ['\x7b', '\x7b'] ['\x7d', '\x7d']).flatMap
        escapeChar := by
  rw [code, kept]

private theorem UrlPart.flatMap_text_escaped (part : UrlPart) :
    (part.escaped.flatMap fun piece => (piece.text bound).toList) =
      part.code bound := by
  cases part with
  | character c =>
      simp [escaped, text, code, identifier?, spelledIn, List.flatMap_map]
  | placeholder name =>
      rw [escaped, List.flatMap_singleton, text]
      cases found : pathIdentifier? bound (literal name) with
      | some identifier =>
          have replaced :
              (placeholder name).identifier? bound = some identifier :=
            found
          rw [code_of_identifier bound replaced]
          simp
      | none =>
          have opening : escapeChar '\x7b' = ['\x7b'] := by decide
          have closing : escapeChar '\x7d' = ['\x7d'] := by decide
          have kept : (placeholder name).identifier? bound = none := found
          rw [code_of_no_identifier bound kept]
          simp [spelledIn, opening, closing]

@[simp]
private theorem UrlPart.any_isInterpolated_escaped (part : UrlPart) :
    part.escaped.any (isInterpolated bound) =
      (part.identifier? bound).isSome := by
  cases part with
  | character c =>
      rw [escaped, List.any_map, List.any_eq_false.2]
      · rfl
      · intro d _ interpolated
        cases interpolated
  | placeholder name =>
      rw [escaped, List.any_cons, List.any_nil, Bool.or_false]
      rfl

/-- The code of a URL up to its query. -/
def urlPath (url : String) : String :=
  String.join ((urlParts 0 (literal url).toList).map (UrlPart.text bound))

@[simp]
private theorem urlParts_literal (url : String) :
    urlParts 0 (literal url).toList =
      (urlParts 0 url.toList).flatMap UrlPart.escaped := by
  simp

@[simp]
theorem toList_urlPath (url : String) :
    (urlPath bound url).toList =
      (urlParts 0 url.toList).flatMap (UrlPart.code bound) := by
  rw [urlPath, String.toList_join, List.flatMap_map, urlParts_literal,
    List.flatMap_assoc]
  simp only [UrlPart.flatMap_text_escaped]

/-- Whether any part of a URL is replaced by an identifier. -/
def hasReplacedPart (url : String) : Bool :=
  (urlParts 0 url.toList).any fun part => (part.identifier? bound).isSome

@[simp]
theorem any_isInterpolated (url : String) :
    (urlParts 0 (literal url).toList).any (UrlPart.isInterpolated bound) =
      hasReplacedPart bound url := by
  rw [urlParts_literal, List.any_flatMap]
  simp [hasReplacedPart]

end Code

/-! ## URLs without interpolation -/

/-- The text with each two of a brace side by side made one, from left to
right. -/
def collapse (brace : Char) (cs : List Char) : List Char :=
  replaceFrom [brace, brace] [brace] 0 cs

section Collapse

variable {brace : Char}

@[simp]
private theorem collapse_pair (rest : List Char) :
    collapse brace (brace :: brace :: rest) =
      brace :: collapse brace rest := by
  simp [collapse, replaceFrom]

private theorem collapse_single
    {c : Char} {rest : List Char}
    (single : c = brace → rest.head? ≠ some brace) :
    collapse brace (c :: rest) = c :: collapse brace rest := by
  have unmatched : [brace, brace].isPrefixOf (c :: rest) = false := by
    rw [← Bool.not_eq_true, List.isPrefixOf_iff_prefix]
    rintro ⟨behind, equal⟩
    rw [List.cons_append] at equal
    obtain ⟨here, next⟩ := List.cons.inj equal
    refine single here.symm ?_
    rw [← next]
    rfl
  rw [collapse, replaceFrom, unmatched]
  rfl

private theorem collapse_triple
    {rest : List Char} (ends : rest.head? ≠ some brace) :
    collapse brace (brace :: brace :: brace :: rest) =
      brace :: collapse brace (brace :: brace :: rest) := by
  simp [collapse_single fun _ => ends]

theorem collapse_append
    {front : List Char} (free : brace ∉ front) (rest : List Char) :
    collapse brace (front ++ rest) = front ++ collapse brace rest := by
  induction front with
  | nil => rfl
  | cons c others inductionHypothesis =>
      rw [List.mem_cons, not_or] at free
      rw [List.cons_append, collapse_single fun same =>
        absurd same.symm free.1, inductionHypothesis free.2,
        List.cons_append]

variable (brace) in
/-- A text is empty, or begins with two braces, or with a character that makes
no pair of them. -/
private theorem collapse_induction
    {motive : List Char → Prop} (nil : motive [])
    (pair : ∀ rest, motive rest → motive (brace :: brace :: rest))
    (single : ∀ c rest, (c = brace → rest.head? ≠ some brace) →
      motive rest → motive (c :: rest)) (cs : List Char) : motive cs := by
  induction length : cs.length using Nat.strongRecOn generalizing cs with
  | _ size inductionHypothesis =>
      cases cs with
      | nil => exact nil
      | cons c rest =>
          rw [List.length_cons] at length
          by_cases paired : c = brace ∧ rest.head? = some brace
          · obtain ⟨rfl, next⟩ := paired
            obtain ⟨behind, rfl⟩ := List.head?_eq_some_iff.1 next
            rw [List.length_cons] at length
            exact pair behind
              (inductionHypothesis behind.length (by omega) behind rfl)
          · exact single c rest (fun same next => paired ⟨same, next⟩)
              (inductionHypothesis rest.length (by omega) rest rfl)

private theorem head?_flatMap_escapeChar
    (isBrace_brace : isBrace brace = true) {cs : List Char}
    (first : (cs.flatMap escapeChar).head? = some brace) :
    cs.head? = some brace := by
  cases cs with
  | nil => cases first
  | cons c rest =>
      rw [List.flatMap_cons, escapeChar] at first
      split at first
      · cases first
        cases isBrace_brace
      · cases first
        rfl

private theorem not_mem_escapeChar
    (isBrace_brace : isBrace brace = true) {c : Char} (other : c ≠ brace) :
    brace ∉ escapeChar c := by
  intro member
  rw [escapeChar] at member
  split at member
  · rcases List.mem_cons.1 member with rfl | here
    · cases isBrace_brace
    · exact other (List.mem_singleton.1 here).symm
  · exact other (List.mem_singleton.1 member).symm

theorem collapse_escape
    (isBrace_brace : isBrace brace = true) (cs : List Char) :
    collapse brace (cs.flatMap escapeChar) =
      (collapse brace cs).flatMap escapeChar := by
  have plain := escapeChar_of_isBrace isBrace_brace
  induction cs using collapse_induction brace with
  | nil => rfl
  | pair rest inductionHypothesis =>
      simp [plain, inductionHypothesis]
  | single c rest alone inductionHypothesis =>
      rw [collapse_single alone, List.flatMap_cons, List.flatMap_cons,
        ← inductionHypothesis]
      by_cases here : c = brace
      · rw [here, plain, List.singleton_append, List.singleton_append]
        exact collapse_single fun _ next =>
          alone here (head?_flatMap_escapeChar isBrace_brace next)
      · exact collapse_append (not_mem_escapeChar isBrace_brace here) _

private theorem count_collapse_of_ne
    {c : Char} (other : brace ≠ c) (cs : List Char) :
    (collapse brace cs).count c = cs.count c := by
  induction cs using collapse_induction brace with
  | nil => rfl
  | pair rest inductionHypothesis =>
      rw [collapse_pair, List.count_cons_of_ne other,
        List.count_cons_of_ne other, List.count_cons_of_ne other,
        inductionHypothesis]
  | single d rest alone inductionHypothesis =>
      rw [collapse_single alone, List.count_cons, List.count_cons,
        inductionHypothesis]

@[simp]
theorem mem_collapse {c : Char} {cs : List Char} :
    c ∈ collapse brace cs ↔ c ∈ cs := by
  induction cs using collapse_induction brace with
  | nil => rfl
  | pair rest inductionHypothesis =>
      rw [collapse_pair, List.mem_cons, List.mem_cons, List.mem_cons,
        inductionHypothesis, ← or_assoc, or_self]
  | single d rest alone inductionHypothesis =>
      rw [collapse_single alone, List.mem_cons, List.mem_cons,
        inductionHypothesis]

end Collapse

/-- No two of a brace stand side by side outside of placeholders. -/
def NoTwins (brace : Char) (parts : List UrlPart) : Prop :=
  parts.IsChain fun left right =>
    ¬ (left = .character brace ∧ right = .character brace)

/-- What collapsing makes of a list of parts: two neighbouring braces become one,
and every other part is spelled by itself. -/
structure CollapsesTo
    (brace : Char) (spelled : UrlPart → List Char)
    (collapsed : List UrlPart → List Char) : Prop where
  nil : collapsed [] = []
  character : ∀ c, spelled (.character c) = [c]
  twins :
    ∀ rest,
      collapsed (.character brace :: .character brace :: rest) =
        brace :: collapsed rest
  alone :
    ∀ part rest, (∀ each ∈ part :: rest, each.HasPlainName) →
      ¬ (part = .character brace ∧
        rest.head? = some (.character brace)) →
      collapsed (part :: rest) = spelled part ++ collapsed rest

namespace CollapsesTo

variable {brace : Char} {spelled : UrlPart → List Char}
  {collapsed : List UrlPart → List Char}
  (collapses : CollapsesTo brace spelled collapsed)

include collapses

private theorem eq_flatMap
    {parts : List UrlPart} (plain : ∀ part ∈ parts, part.HasPlainName)
    (apart : NoTwins brace parts) :
    collapsed parts = parts.flatMap spelled := by
  induction parts with
  | nil => exact collapses.nil
  | cons part rest inductionHypothesis =>
      obtain ⟨next, restApart⟩ := List.isChain_cons.1 apart
      rw [List.flatMap_cons, collapses.alone part rest plain,
        inductionHypothesis ?_ restApart]
      · exact fun later member => plain later (List.mem_cons_of_mem _ member)
      · rintro ⟨here, twin⟩
        exact next _ twin ⟨here, rfl⟩

/-- Each pair of neighbouring braces costs one of them, and nothing is ever
gained. -/
private theorem count_le
    {parts : List UrlPart} (plain : ∀ part ∈ parts, part.HasPlainName) :
    (collapsed parts).count brace ≤ (parts.flatMap spelled).count brace ∧
      ((collapsed parts).count brace = (parts.flatMap spelled).count brace →
        NoTwins brace parts) := by
  induction length : parts.length using Nat.strongRecOn
    generalizing parts with
  | _ size inductionHypothesis =>
      cases parts with
      | nil =>
          rw [collapses.nil]
          exact ⟨Nat.le_refl _, fun _ => .nil⟩
      | cons part rest =>
          rw [List.length_cons] at length
          have restPlain : ∀ later ∈ rest, later.HasPlainName :=
            fun later member => plain later (List.mem_cons_of_mem _ member)
          by_cases paired :
              part = .character brace ∧
                rest.head? = some (.character brace)
          · obtain ⟨rfl, next⟩ := paired
            obtain ⟨behind, rfl⟩ := List.head?_eq_some_iff.1 next
            rw [List.length_cons] at length
            have bound :=
              (inductionHypothesis behind.length (by omega)
                (fun later member =>
                  restPlain later (List.mem_cons_of_mem _ member)) rfl).1
            rw [collapses.twins, List.flatMap_cons, List.flatMap_cons,
              collapses.character, List.singleton_append,
              List.singleton_append, List.count_cons_self,
              List.count_cons_self, List.count_cons_self]
            exact ⟨by omega, fun same => by omega⟩
          · have others :=
              inductionHypothesis rest.length (by omega) restPlain rfl
            rw [collapses.alone part rest plain paired, List.flatMap_cons,
              List.count_append, List.count_append]
            refine ⟨by omega, fun same => List.isChain_cons.2 ⟨?_, ?_⟩⟩
            · rintro twin next ⟨here, rfl⟩
              exact paired ⟨here, next⟩
            · exact others.2 (by omega)

end CollapsesTo

private theorem brace_not_mem_of_hasPlainName
    {name : String} (plain : (UrlPart.placeholder name).HasPlainName)
    {brace : Char} (isBrace_brace : isBrace brace = true) :
    brace ∉ name.toList := by
  intro member
  rw [plain name rfl brace member] at isBrace_brace
  cases isBrace_brace

/-- A brace in front of a placeholder joins with the first of the two that open
it, which leaves the second. -/
private theorem collapse_brace_placeholder
    {name : String} (free : '\x7b' ∉ name.toList) (rest : List Char) :
    collapse '\x7b' ('\x7b' ::
        ((UrlPart.placeholder name).spelledIn
          ['\x7b', '\x7b'] ['\x7d', '\x7d'] ++ rest)) =
      '\x7b' :: collapse '\x7b'
        ((UrlPart.placeholder name).spelledIn
          ['\x7b', '\x7b'] ['\x7d', '\x7d'] ++ rest) := by
  simp only [UrlPart.spelledIn, List.cons_append, List.nil_append,
    List.append_assoc]
  apply collapse_triple
  cases chars : name.toList with
  | nil => simp
  | cons first others =>
      rw [chars, List.mem_cons, not_or] at free
      rintro ⟨⟩
      exact free.1 rfl

/-- The braces with which placeholders open are made single. -/
private theorem collapsesTo_opening :
    CollapsesTo '\x7b'
      (UrlPart.spelledIn ['\x7b'] ['\x7d', '\x7d'])
      (fun parts =>
        collapse '\x7b' (parts.flatMap
          (UrlPart.spelledIn ['\x7b', '\x7b'] ['\x7d', '\x7d']))) where
  nil := rfl
  character := fun _ => rfl
  twins := fun rest => collapse_pair _
  alone := by
    intro part rest plain unpaired
    rw [List.flatMap_cons]
    cases part with
    | character c =>
        by_cases here : c = '\x7b'
        · subst here
          cases rest with
          | nil => exact collapse_single fun _ => by simp
          | cons next more =>
              rw [List.flatMap_cons]
              cases next with
              | character d =>
                  refine collapse_single fun _ same => unpaired ⟨rfl, ?_⟩
                  cases same
                  rfl
              | placeholder name =>
                  have free :=
                    brace_not_mem_of_hasPlainName
                      (plain _ (List.mem_cons_of_mem _ List.mem_cons_self))
                      (by decide : isBrace '\x7b' = true)
                  exact collapse_brace_placeholder free _
        · exact collapse_single fun same => absurd same here
    | placeholder name =>
        have free : '\x7b' ∉ name.toList ++ ['\x7d', '\x7d'] := by
          rw [List.mem_append, not_or]
          exact
            ⟨brace_not_mem_of_hasPlainName (plain _ List.mem_cons_self)
              (by decide), by decide⟩
        have behind :=
          collapse_append free (rest.flatMap
            (UrlPart.spelledIn ['\x7b', '\x7b'] ['\x7d', '\x7d']))
        simp only [UrlPart.spelledIn, List.cons_append, List.nil_append,
          List.append_assoc] at behind ⊢
        simp [behind]

/-- So are those with which placeholders close.  No brace that closes stands
directly in front of them. -/
private theorem collapsesTo_closing :
    CollapsesTo '\x7d' UrlPart.spelling
      (fun parts =>
        collapse '\x7d' (parts.flatMap
          (UrlPart.spelledIn ['\x7b'] ['\x7d', '\x7d']))) where
  nil := rfl
  character := fun _ => rfl
  twins := fun rest => collapse_pair _
  alone := by
    intro part rest plain unpaired
    rw [List.flatMap_cons]
    cases part with
    | character c =>
        refine collapse_single fun here same => unpaired ⟨by rw [here], ?_⟩
        cases rest with
        | nil => cases same
        | cons next more =>
            cases next with
            | character d =>
                cases same
                rfl
            | placeholder name => cases same
    | placeholder name =>
        have free : '\x7d' ∉ '\x7b' :: name.toList := by
          rw [List.mem_cons, not_or]
          exact
            ⟨by decide, brace_not_mem_of_hasPlainName
              (plain _ List.mem_cons_self) (by decide)⟩
        have front :=
          collapse_append free ('\x7d' :: '\x7d' :: rest.flatMap
            (UrlPart.spelledIn ['\x7b'] ['\x7d', '\x7d']))
        rw [collapse_pair] at front
        simpa [UrlPart.spelling, UrlPart.spelledIn] using front

/-- The text that a plain literal for a URL denotes. -/
def plainReading (url : String) : String :=
  String.ofList
    (collapse '\x7d' (collapse '\x7b'
      ((urlParts 0 url.toList).flatMap
        (UrlPart.spelledIn ['\x7b', '\x7b'] ['\x7d', '\x7d']))))

private theorem count_spelledIn (parts : List UrlPart) :
    (parts.flatMap
        (UrlPart.spelledIn ['\x7b'] ['\x7d', '\x7d'])).count '\x7b' =
      (parts.flatMap UrlPart.spelling).count '\x7b' := by
  rw [List.count_flatMap, List.count_flatMap]
  congr 1
  apply List.map_congr_left
  intro part _
  cases part with
  | character c => rfl
  | placeholder name =>
      simp [UrlPart.spelling, UrlPart.spelledIn]

/-- The plain literal denotes the URL exactly if no two alike braces stand side
by side outside of placeholders. -/
theorem plainReading_eq_self_iff (url : String) :
    plainReading url = url ↔
      NoTwins '\x7b' (urlParts 0 url.toList) ∧
        NoTwins '\x7d' (urlParts 0 url.toList) := by
  have plain :
      ∀ part ∈ urlParts 0 url.toList, part.HasPlainName :=
    fun _ => hasPlainName_of_mem_urlParts
  have whole := flatMap_spelling_urlParts url.toList
  constructor
  · intro same
    have chars := congrArg String.toList same
    rw [plainReading, String.toList_ofList] at chars
    have openings := congrArg (List.count '\x7b') chars
    rw [count_collapse_of_ne (by decide)] at openings
    have opening : NoTwins '\x7b' (urlParts 0 url.toList) := by
      apply (collapsesTo_opening.count_le plain).2
      rw [openings, count_spelledIn, whole]
    rw [collapsesTo_opening.eq_flatMap plain opening] at chars
    refine ⟨opening, (collapsesTo_closing.count_le plain).2 ?_⟩
    rw [chars, whole]
  · rintro ⟨opening, closing⟩
    rw [plainReading, collapsesTo_opening.eq_flatMap plain opening,
      collapsesTo_closing.eq_flatMap plain closing, whole,
      String.ofList_toList]

end OpenApiSharp.Service
