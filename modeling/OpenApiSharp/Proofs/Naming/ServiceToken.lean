import Mathlib.Data.List.TakeWhile
import OpenApiSharp.Naming.ServiceName
import OpenApiSharp.Proofs.Naming.Segment
import OpenApiSharp.Proofs.Text.LowerCase

/-!
# How names of services are cleaned

Behind its first character a name is read from left to right.  At each place the
longest token that stands there is dropped, and the reading goes on behind it;
where no token stands, the character is kept.
-/

namespace OpenApiSharp.Text

/-- Whether a character is a certain small letter in some case: its own small
letter has the capital of that letter. -/
def AgreesWith (letter c : Char) : Prop :=
  ∃ small, lowerChar c = [small] ∧ capitalChar small = capitalChar letter

instance (letter c : Char) : Decidable (AgreesWith letter c) :=
  decidable_of_iff ((lowerChar c).map capitalChar = [capitalChar letter])
    List.map_eq_singleton_iff

private theorem toNat_mem_sourceCodes_of_capitalChar
    {c d : Char} (image : capitalChar c = [d]) :
    c.toNat ∈ sourceCodes capitalRuns d.toNat := by
  rw [capitalChar] at image
  cases found : capitalSequences.lookup c.toNat with
  | some codes =>
      have several : ∀ entry ∈ capitalSequences, entry.2.length ≠ 1 := by
        decide +kernel
      rw [found] at image
      have single := congrArg List.length image
      rw [List.length_map] at single
      exact absurd single (several _ (mem_of_lookup_eq_some found))
  | none =>
      rw [found] at image
      exact
        toNat_mem_sourceCodes staysValid_of_mem_capitalRuns
          (List.singleton_inj.1 image)

end OpenApiSharp.Text

namespace OpenApiSharp.Naming

open Text

/-- The letters of the tokens in names of services. -/
def tokenLetters : List Char :=
  'v' :: "resource".toList

private theorem agreesWith_of_isLetterIgnoringCase
    {letter c : Char} (known : letter ∈ tokenLetters)
    (same : isLetterIgnoringCase letter c = true) : AgreesWith letter c := by
  have inBothCases :
      (tokenLetters.all fun letter =>
        AgreesWith letter letter ∧ AgreesWith letter letter.toUpper) = true := by
    decide +kernel
  have long : AgreesWith 's' 'ſ' := by
    decide +kernel
  have agrees := of_decide_eq_true (List.all_eq_true.1 inBothCases letter known)
  simp only [isLetterIgnoringCase, Bool.or_eq_true, Bool.and_eq_true,
    beq_iff_eq] at same
  rcases same with (rfl | rfl) | ⟨rfl, rfl⟩
  · exact agrees.1
  · exact agrees.2
  · exact long

/-- No other character agrees with a letter of a token than those that are
looked for. -/
private theorem isLetterIgnoringCase_of_agreesWith
    {letter c : Char} (known : letter ∈ tokenLetters)
    (agrees : AgreesWith letter c) : isLetterIgnoringCase letter c = true := by
  have capitals :
      tokenLetters.map capitalChar =
        tokenLetters.map fun letter => [letter.toUpper] := by
    decide +kernel
  have complete :
      (tokenLetters.all fun letter =>
        (sourceCodes capitalRuns letter.toUpper.toNat).all fun small =>
          (sourceCodes lowerRuns small).all fun code =>
            isLetterIgnoringCase letter (Char.ofNat code)) = true := by
    decide +kernel
  obtain ⟨small, lowered, capital⟩ := agrees
  rw [List.map_inj_left.1 capitals letter known] at capital
  have smalls := List.all_eq_true.1 complete letter known
  have codes :=
    List.all_eq_true.1 smalls _ (toNat_mem_sourceCodes_of_capitalChar capital)
  have found :=
    List.all_eq_true.1 codes _ (toNat_mem_sourceCodes_of_lowerChar lowered)
  rwa [Char.ofNat_toNat] at found

theorem isLetterIgnoringCase_iff
    {letter : Char} (known : letter ∈ tokenLetters) (c : Char) :
    isLetterIgnoringCase letter c = true ↔ AgreesWith letter c :=
  ⟨agreesWith_of_isLetterIgnoringCase known,
    isLetterIgnoringCase_of_agreesWith known⟩

end OpenApiSharp.Naming

namespace OpenApiSharp.Naming

open Text

/-! ## Reading a name for tokens -/

/-- The parts of a name that are dropped. -/
inductive Cleanup.IsToken (cleanup : Cleanup) : List Char → Prop
  | resource {token : List Char} (dropped : cleanup.removeResource = true)
      (word : List.Forall₂ AgreesWith "resource".toList token) :
      IsToken cleanup token
  | version {v : Char} {digits : List Char}
      (dropped : cleanup.removeVersion = true) (letter : AgreesWith 'v' v)
      (filled : digits ≠ []) (decimal : ∀ d ∈ digits, isDecimal d = true) :
      IsToken cleanup (v :: digits)

/-- The longest of the tokens at the beginning of a text. -/
structure Cleanup.LongestToken (cleanup : Cleanup) (text token : List Char) :
    Prop where
  isToken : cleanup.IsToken token
  begins : token <+: text
  longest :
    ∀ other, cleanup.IsToken other → other <+: text →
      other.length ≤ token.length

/-- What is left of a text after one reading from left to right. -/
inductive Cleanup.Reads (cleanup : Cleanup) : List Char → List Char → Prop
  | done : Reads cleanup [] []
  | keep {c : Char} {rest kept : List Char}
      (noToken : ∀ token, cleanup.IsToken token → ¬ token <+: c :: rest)
      (later : Reads cleanup rest kept) : Reads cleanup (c :: rest) (c :: kept)
  | drop {token rest kept : List Char}
      (longest : cleanup.LongestToken (token ++ rest) token)
      (later : Reads cleanup rest kept) : Reads cleanup (token ++ rest) kept

/-- A cleaned name: the first character stays, and the rest is read. -/
inductive Cleanup.Cleans (cleanup : Cleanup) : String → String → Prop
  | empty : Cleans cleanup "" ""
  | behind {c : Char} {rest kept : List Char}
      (reads : cleanup.Reads rest kept) :
      Cleans cleanup (String.ofList (c :: rest)) (String.ofList (c :: kept))

theorem Cleanup.IsToken.ne_nil
    {cleanup : Cleanup} {token : List Char} (isToken : cleanup.IsToken token) :
    token ≠ [] := by
  cases isToken with
  | resource _ word =>
      rintro rfl
      cases word
  | version => exact List.cons_ne_nil _ _

theorem beginsWithLetters_iff
    {word : List Char} (known : ∀ letter ∈ word, letter ∈ tokenLetters)
    (cs : List Char) :
    (word.length ≤ cs.length &&
        (word.zip cs).all fun (letter, c) => isLetterIgnoringCase letter c) =
        true ↔
      List.Forall₂ AgreesWith word (cs.take word.length) := by
  induction word generalizing cs with
  | nil => simp
  | cons letter rest inductionHypothesis =>
      cases cs with
      | nil => simp
      | cons c behind =>
          have later :=
            inductionHypothesis
              (fun other member => known other (List.mem_cons_of_mem _ member))
              behind
          have here :=
            isLetterIgnoringCase_iff (known letter List.mem_cons_self) c
          rw [List.length_cons, List.take_succ_cons, List.forall₂_cons, ← later,
            ← here]
          simp [and_left_comm]

/-- The word stands at the beginning of a text, or no spelling of it does. -/
private theorem resourceLength_cases (cs : List Char) :
    (∃ token, List.Forall₂ AgreesWith "resource".toList token ∧
        token <+: cs ∧ resourceLength cs = token.length) ∨
      resourceLength cs = 0 ∧
        ∀ token, List.Forall₂ AgreesWith "resource".toList token →
          ¬ token <+: cs := by
  have unfolded :
      resourceLength cs =
        if ("resource".toList.length ≤ cs.length &&
            ("resource".toList.zip cs).all fun (letter, c) =>
              isLetterIgnoringCase letter c) = true then
          "resource".toList.length
        else
          0 := rfl
  have known : ∀ letter ∈ "resource".toList, letter ∈ tokenLetters :=
    fun letter member => List.mem_cons_of_mem _ member
  rw [unfolded]
  generalize "resource".toList = word at known ⊢
  by_cases stands : List.Forall₂ AgreesWith word (cs.take word.length)
  · left
    refine ⟨_, stands, List.take_prefix _ _, ?_⟩
    rw [if_pos ((beginsWithLetters_iff known cs).2 stands), ← stands.length_eq]
  · right
    refine ⟨if_neg (mt (beginsWithLetters_iff known cs).1 stands), ?_⟩
    intro token spelled begins
    have form := List.prefix_iff_eq_take.1 begins
    rw [← spelled.length_eq] at form
    rw [form] at spelled
    exact stands spelled

/-- The digits of a version reach no further than the digits that stand
there. -/
theorem length_le_takeWhile_isDecimal {digits cs : List Char}
    (decimal : ∀ d ∈ digits, isDecimal d = true) (begins : digits <+: cs) :
    digits.length ≤ (cs.takeWhile isDecimal).length := by
  obtain ⟨rest, rfl⟩ := begins
  rw [List.takeWhile_append_of_pos decimal, List.length_append]
  exact Nat.le_add_right _ _

private theorem versionLength_cases (cs : List Char) :
    (∃ v rest, cs = v :: rest ∧ AgreesWith 'v' v ∧
        rest.takeWhile isDecimal ≠ [] ∧
          versionLength cs = (rest.takeWhile isDecimal).length + 1) ∨
      versionLength cs = 0 ∧
        ∀ v digits, AgreesWith 'v' v → digits ≠ [] →
          (∀ d ∈ digits, isDecimal d = true) → ¬ v :: digits <+: cs := by
  cases cs with
  | nil =>
      refine Or.inr ⟨rfl, fun v digits _ _ _ begins => ?_⟩
      cases List.prefix_nil.1 begins
  | cons v rest =>
      have letter :=
        isLetterIgnoringCase_iff (List.mem_cons_self : 'v' ∈ tokenLetters) v
      by_cases agrees : AgreesWith 'v' v
      · cases found : rest.takeWhile isDecimal with
        | nil =>
            refine Or.inr ⟨?_, ?_⟩
            · rw [versionLength, if_pos (letter.2 agrees), found]
            · intro other digits _ filled decimal begins
              have short :=
                length_le_takeWhile_isDecimal decimal
                  (List.cons_prefix_cons.1 begins).2
              rw [found] at short
              exact filled (List.eq_nil_of_length_eq_zero (Nat.le_zero.1 short))
        | cons d more =>
            refine Or.inl ⟨v, rest, rfl, agrees, ?_, ?_⟩
            · rw [found]
              exact List.cons_ne_nil _ _
            · rw [versionLength, if_pos (letter.2 agrees), found]
      · refine Or.inr ⟨?_, ?_⟩
        · rw [versionLength, if_neg (mt letter.1 agrees)]
        · intro other digits otherAgrees _ _ begins
          rw [(List.cons_prefix_cons.1 begins).1] at otherAgrees
          exact agrees otherAgrees

/-- The word and a version begin with different letters. -/
private theorem Cleanup.not_resource_and_version
    {v : Char} {token digits cs : List Char}
    (word : List.Forall₂ AgreesWith "resource".toList token)
    (wordBegins : token <+: cs) (letter : AgreesWith 'v' v)
    (versionBegins : v :: digits <+: cs) : False := by
  have different : capitalChar 'r' ≠ capitalChar 'v' := by
    decide +kernel
  cases word with
  | cons first _ =>
      obtain ⟨rest, rfl⟩ := versionBegins
      obtain ⟨rfl, _⟩ := List.cons_prefix_cons.1 wordBegins
      obtain ⟨small, lowered, capital⟩ := first
      obtain ⟨other, otherLowered, otherCapital⟩ := letter
      rw [lowered] at otherLowered
      obtain rfl := List.singleton_inj.1 otherLowered
      exact different (capital.symm.trans otherCapital)

private theorem Cleanup.tokenLength_of_word
    {cleanup : Cleanup} {cs : List Char}
    (dropped : cleanup.removeResource = true) (stands : resourceLength cs ≠ 0) :
    cleanup.tokenLength cs = resourceLength cs := by
  rw [Cleanup.tokenLength, if_pos dropped]
  cases length : resourceLength cs with
  | zero => exact absurd length stands
  | succ more => rfl

private theorem Cleanup.tokenLength_of_no_word
    {cleanup : Cleanup} {cs : List Char}
    (none : cleanup.removeResource = true → resourceLength cs = 0) :
    cleanup.tokenLength cs =
      if cleanup.removeVersion then versionLength cs else 0 := by
  rw [Cleanup.tokenLength]
  by_cases dropped : cleanup.removeResource = true
  · rw [if_pos dropped, none dropped]
    rfl
  · rw [if_neg dropped]
    rfl

private theorem Cleanup.longestToken_of_word
    {cleanup : Cleanup} {cs token : List Char}
    (dropped : cleanup.removeResource = true)
    (word : List.Forall₂ AgreesWith "resource".toList token)
    (begins : token <+: cs) : cleanup.LongestToken cs token where
  isToken := .resource dropped word
  begins := begins
  longest := by
    intro other isToken otherBegins
    cases isToken with
    | resource _ otherWord =>
        exact le_of_eq (otherWord.length_eq.symm.trans word.length_eq)
    | version _ letter _ _ =>
        exact (not_resource_and_version word begins letter otherBegins).elim

private theorem Cleanup.longestToken_of_version
    {cleanup : Cleanup} {v : Char} {rest : List Char}
    (dropped : cleanup.removeVersion = true) (letter : AgreesWith 'v' v)
    (filled : rest.takeWhile isDecimal ≠ []) :
    cleanup.LongestToken (v :: rest) (v :: rest.takeWhile isDecimal) where
  isToken := .version dropped letter filled fun _ => List.mem_takeWhile_imp
  begins := List.cons_prefix_cons.2 ⟨rfl, List.takeWhile_prefix _⟩
  longest := by
    intro other isToken otherBegins
    cases isToken with
    | resource _ word =>
        have begins : v :: rest.takeWhile isDecimal <+: v :: rest :=
          List.cons_prefix_cons.2 ⟨rfl, List.takeWhile_prefix _⟩
        exact (not_resource_and_version word otherBegins letter begins).elim
    | version _ _ _ decimal =>
        exact
          Nat.succ_le_succ
            (length_le_takeWhile_isDecimal decimal
              (List.cons_prefix_cons.1 otherBegins).2)

/-- The part that is dropped at a place is the longest token there, if there is
one. -/
private theorem Cleanup.tokenLength_cases (cleanup : Cleanup) (cs : List Char) :
    (∃ token, cleanup.LongestToken cs token ∧
        cleanup.tokenLength cs = token.length) ∨
      cleanup.tokenLength cs = 0 ∧
        ∀ token, cleanup.IsToken token → ¬ token <+: cs := by
  by_cases stands : cleanup.removeResource = true ∧ resourceLength cs ≠ 0
  · obtain ⟨dropped, stands⟩ := stands
    rcases resourceLength_cases cs with
      ⟨token, word, begins, length⟩ | ⟨none, _⟩
    · refine Or.inl ⟨token, longestToken_of_word dropped word begins, ?_⟩
      rw [tokenLength_of_word dropped stands, length]
    · exact absurd none stands
  · have none : cleanup.removeResource = true → resourceLength cs = 0 :=
      fun dropped => not_not.1 (not_and.1 stands dropped)
    have noWord :
        cleanup.removeResource = true →
          ∀ token, List.Forall₂ AgreesWith "resource".toList token →
            ¬ token <+: cs := by
      intro dropped token word begins
      rcases resourceLength_cases cs with
        ⟨found, spelled, _, length⟩ | ⟨_, other⟩
      · rw [none dropped] at length
        exact
          (IsToken.resource dropped spelled).ne_nil
            (List.eq_nil_of_length_eq_zero length.symm)
      · exact other token word begins
    rw [tokenLength_of_no_word none]
    by_cases dropped : cleanup.removeVersion = true
    · rw [if_pos dropped]
      rcases versionLength_cases cs with
        ⟨v, rest, rfl, letter, filled, length⟩ | ⟨length, noVersion⟩
      · exact
          Or.inl
            ⟨_, longestToken_of_version dropped letter filled,
              length.trans (List.length_cons).symm⟩
      · refine Or.inr ⟨length, fun token isToken begins => ?_⟩
        cases isToken with
        | resource wordDropped word => exact noWord wordDropped _ word begins
        | version _ letter filled decimal =>
            exact noVersion _ _ letter filled decimal begins
    · rw [if_neg dropped]
      refine Or.inr ⟨rfl, fun token isToken begins => ?_⟩
      cases isToken with
      | resource wordDropped word => exact noWord wordDropped _ word begins
      | version versionDropped => exact dropped versionDropped

private theorem Cleanup.dropTokens_eq_drop
    (cleanup : Cleanup) (skipped : Nat) (cs : List Char) :
    cleanup.dropTokens skipped cs = cleanup.dropTokens 0 (cs.drop skipped) := by
  induction cs generalizing skipped with
  | nil =>
      cases skipped <;> rfl
  | cons c rest inductionHypothesis =>
      cases skipped with
      | zero => rfl
      | succ fewer =>
          rw [dropTokens, List.drop_succ_cons]
          exact inductionHypothesis fewer

private theorem Cleanup.LongestToken.unique
    {cleanup : Cleanup} {text token other : List Char}
    (longest : cleanup.LongestToken text token)
    (otherLongest : cleanup.LongestToken text other) : token = other := by
  have lengths : token.length = other.length :=
    Nat.le_antisymm
      (otherLongest.longest token longest.isToken longest.begins)
      (longest.longest other otherLongest.isToken otherLongest.begins)
  rw [List.prefix_iff_eq_take.1 longest.begins,
    List.prefix_iff_eq_take.1 otherLongest.begins, lengths]

private theorem Cleanup.dropTokens_append_of_longest
    {cleanup : Cleanup} {token rest : List Char}
    (longest : cleanup.LongestToken (token ++ rest) token) :
    cleanup.dropTokens 0 (token ++ rest) = cleanup.dropTokens 0 rest := by
  rcases cleanup.tokenLength_cases (token ++ rest) with
    ⟨found, foundLongest, length⟩ | ⟨_, none⟩
  · obtain rfl := longest.unique foundLongest
    cases token with
    | nil => exact absurd rfl longest.isToken.ne_nil
    | cons c behind =>
        rw [List.cons_append] at length ⊢
        rw [dropTokens, length]
        exact
          (cleanup.dropTokens_eq_drop behind.length (behind ++ rest)).trans
            (by rw [List.drop_left])
  · exact absurd longest.begins (none token longest.isToken)

private theorem Cleanup.dropTokens_cons_of_none
    {cleanup : Cleanup} {c : Char} {rest : List Char}
    (noToken : ∀ token, cleanup.IsToken token → ¬ token <+: c :: rest) :
    cleanup.dropTokens 0 (c :: rest) = c :: cleanup.dropTokens 0 rest := by
  rcases cleanup.tokenLength_cases (c :: rest) with
    ⟨token, longest, _⟩ | ⟨length, _⟩
  · exact absurd longest.begins (noToken token longest.isToken)
  · rw [dropTokens, length]

private theorem Cleanup.reads_dropTokens (cleanup : Cleanup) (cs : List Char) :
    cleanup.Reads cs (cleanup.dropTokens 0 cs) := by
  induction bound : cs.length using Nat.strongRecOn generalizing cs with
  | _ length inductionHypothesis =>
      cases cs with
      | nil => exact .done
      | cons c rest =>
          rcases cleanup.tokenLength_cases (c :: rest) with
            ⟨token, longest, _⟩ | ⟨_, none⟩
          · obtain ⟨behind, form⟩ := longest.begins
            have shorter : behind.length < length := by
              have positive := List.length_pos_of_ne_nil longest.isToken.ne_nil
              have sum := congrArg List.length form
              rw [List.length_append, bound] at sum
              omega
            rw [← form] at longest ⊢
            rw [dropTokens_append_of_longest longest]
            exact .drop longest (inductionHypothesis _ shorter behind rfl)
          · have shorter : rest.length < length := by
              rw [← bound, List.length_cons]
              exact Nat.lt_succ_self _
            rw [dropTokens_cons_of_none none]
            exact .keep none (inductionHypothesis _ shorter rest rfl)

private theorem Cleanup.Reads.eq_dropTokens
    {cleanup : Cleanup} {text kept : List Char}
    (reads : cleanup.Reads text kept) : kept = cleanup.dropTokens 0 text := by
  induction reads with
  | done => rfl
  | keep noToken _ inductionHypothesis =>
      rw [dropTokens_cons_of_none noToken, inductionHypothesis]
  | drop longest _ inductionHypothesis =>
      rw [dropTokens_append_of_longest longest, inductionHypothesis]

private theorem Cleanup.Reads.sublist
    {cleanup : Cleanup} {text kept : List Char}
    (reads : cleanup.Reads text kept) : kept.Sublist text := by
  induction reads with
  | done => exact .slnil
  | keep _ _ inductionHypothesis => exact inductionHypothesis.cons_cons _
  | drop _ _ inductionHypothesis =>
      exact inductionHypothesis.trans (List.sublist_append_right _ _)

theorem Cleanup.reads_self
    {cleanup : Cleanup} {text : List Char}
    (none : ∀ token, cleanup.IsToken token → ¬ token <:+: text) :
    cleanup.Reads text text := by
  induction text with
  | nil => exact .done
  | cons c rest inductionHypothesis =>
      refine
        .keep (fun token isToken begins => none token isToken begins.isInfix) ?_
      exact
        inductionHypothesis fun token isToken inside =>
          none token isToken (inside.trans (List.suffix_cons c rest).isInfix)

@[simp]
theorem cleanInterfaceName_ofList_cons
    (c : Char) (rest : List Char) (cleanup : Cleanup) :
    cleanInterfaceName (String.ofList (c :: rest)) cleanup =
      String.ofList (c :: cleanup.dropTokens 0 rest) := by
  rw [cleanInterfaceName, String.toList_ofList]

@[simp]
theorem cleanInterfaceName_empty (cleanup : Cleanup) :
    cleanInterfaceName "" cleanup = "" :=
  rfl

theorem eq_empty_or_exists_cons (name : String) :
    name = "" ∨ ∃ c rest, name = String.ofList (c :: rest) := by
  cases chars : name.toList with
  | nil => exact Or.inl (String.toList_eq_nil_iff.1 chars)
  | cons c rest =>
      exact Or.inr ⟨c, rest, by rw [← chars, String.ofList_toList]⟩

theorem cleanInterfaceName_eq_iff
    {name result : String} {cleanup : Cleanup} :
    cleanInterfaceName name cleanup = result ↔ cleanup.Cleans name result := by
  constructor
  · rintro rfl
    rcases eq_empty_or_exists_cons name with rfl | ⟨c, rest, rfl⟩
    · exact .empty
    · rw [cleanInterfaceName_ofList_cons]
      exact .behind (cleanup.reads_dropTokens rest)
  · intro cleans
    cases cleans with
    | empty => exact cleanInterfaceName_empty cleanup
    | behind reads =>
        rw [cleanInterfaceName_ofList_cons, reads.eq_dropTokens]

private theorem cleans_cleanInterfaceName (name : String) (cleanup : Cleanup) :
    cleanup.Cleans name (cleanInterfaceName name cleanup) :=
  cleanInterfaceName_eq_iff.1 rfl

/-- A name is cleaned by one reading behind its first character, and what is
left of the name of a class names a service. -/
structure Cleanup.ReadsNames (cleanup : Cleanup) : Prop where
  cleaned :
    ∀ name result,
      cleanInterfaceName name cleanup = result ↔ cleanup.Cleans name result
  first :
    ∀ name, (cleanInterfaceName name cleanup).toList.head? = name.toList.head?
  sublist :
    ∀ name, (cleanInterfaceName name cleanup).toList.Sublist name.toList
  unchanged :
    ∀ name : String,
      (∀ token, cleanup.IsToken token → ¬ token <:+: name.toList.tail) →
        cleanInterfaceName name cleanup = name
  switchedOff :
    cleanup.removeResource = false → cleanup.removeVersion = false →
      ∀ name, cleanInterfaceName name cleanup = name
  empty_iff : ∀ name, cleanInterfaceName name cleanup = "" ↔ name = ""
  service :
    ∀ tag,
      serviceBaseName tag cleanup = cleanInterfaceName (className tag) cleanup ∧
        serviceBaseName tag cleanup ≠ ""

theorem cleanInterfaceName_eq_self
    {name : String} {cleanup : Cleanup}
    (none : ∀ token, cleanup.IsToken token → ¬ token <:+: name.toList.tail) :
    cleanInterfaceName name cleanup = name := by
  rw [cleanInterfaceName_eq_iff]
  rcases eq_empty_or_exists_cons name with rfl | ⟨c, rest, rfl⟩
  · exact .empty
  · rw [String.toList_ofList] at none
    exact .behind (Cleanup.reads_self none)

@[simp]
theorem cleanInterfaceName_eq_empty_iff
    {name : String} {cleanup : Cleanup} :
    cleanInterfaceName name cleanup = "" ↔ name = "" := by
  rcases eq_empty_or_exists_cons name with rfl | ⟨c, rest, rfl⟩
  · simp
  · rw [cleanInterfaceName_ofList_cons]
    simp [String.ofList_eq_empty_iff]

/-- What is left of the name of a class is never empty, so that the other name
of a service is never taken. -/
theorem serviceBaseName_eq (tag : String) (cleanup : Cleanup) :
    serviceBaseName tag cleanup =
      cleanInterfaceName (className tag) cleanup := by
  have filled := (isSegment_className tag).filled
  rw [serviceBaseName]
  refine if_neg fun empty => filled ?_
  exact cleanInterfaceName_eq_empty_iff.1 (String.isEmpty_iff.1 empty)

theorem services_named_by_one_reading (cleanup : Cleanup) :
    cleanup.ReadsNames where
  cleaned _ _ := cleanInterfaceName_eq_iff
  first name := by
    have cleans := cleans_cleanInterfaceName name cleanup
    generalize cleanInterfaceName name cleanup = result at cleans ⊢
    cases cleans with
    | empty => rfl
    | behind _ => rw [String.toList_ofList, String.toList_ofList]; rfl
  sublist name := by
    have cleans := cleans_cleanInterfaceName name cleanup
    generalize cleanInterfaceName name cleanup = result at cleans ⊢
    cases cleans with
    | empty => exact .slnil
    | behind reads =>
        rw [String.toList_ofList, String.toList_ofList]
        exact reads.sublist.cons_cons _
  unchanged _ := cleanInterfaceName_eq_self
  switchedOff noResource noVersion name := by
    refine cleanInterfaceName_eq_self fun token isToken _ => ?_
    cases isToken with
    | resource dropped =>
        exact Bool.false_ne_true (noResource.symm.trans dropped)
    | version dropped =>
        exact Bool.false_ne_true (noVersion.symm.trans dropped)
  empty_iff _ := cleanInterfaceName_eq_empty_iff
  service tag := by
    have filled := (isSegment_className tag).filled
    rw [serviceBaseName_eq]
    exact ⟨rfl, mt cleanInterfaceName_eq_empty_iff.1 filled⟩

example : cleanInterfaceName "UserreſourcevV2v٣x" {} = "Uservx" := by
  decide +kernel

end OpenApiSharp.Naming
