import OpenApiSharp.Proofs.Naming.Fresh
import OpenApiSharp.Proofs.Text.Lines
import OpenApiSharp.Proofs.Text.LowerCase

namespace OpenApiSharp.Naming

open Text

/-- The characters that a parameter name may have besides those of the text that
it is made from. -/
def addedChars : List Char :=
  ['@', '_', 'i', '\u0307'] ++ "param".toList ++ asciiDigits

/-- Code points that are not those of word characters, and that neither lower
case nor escaping or numbering brings in. -/
structure AreForeign (codes : List Nat) : Prop where
  letters : ∀ code ∈ codes, inRanges letterRanges code = false
  numerals : ∀ code ∈ codes, inRanges numeralRanges code = false
  lowerForms : ∀ run ∈ lowerRuns, run.avoids codes = true
  added : ∀ code ∈ addedChars.map Char.toNat, code ∉ codes

namespace AreForeign

variable {codes : List Nat} (foreign : AreForeign codes)

include foreign

theorem not_mem_of_added {c : Char} (member : c ∈ addedChars) :
    c.toNat ∉ codes :=
  foreign.added _ (List.mem_map_of_mem member)

private theorem not_mem_of_mem_parameterName
    {raw : String} {c : Char} (member : c ∈ (parameterName raw).toList) :
    c.toNat ∉ codes := by
  have words : ∀ d ∈ wordChars raw, d.toNat ∉ codes := by
    intro d present
    exact
      not_mem_of_isWordChar foreign.letters foreign.numerals
        (foreign.not_mem_of_added (by decide)) (List.mem_filter.1 present).2
  rw [parameterName] at member
  cases chars : wordChars raw with
  | nil =>
      rw [chars] at member
      apply foreign.not_mem_of_added
      exact
        List.mem_append_left _ (List.mem_append_right _ member)
  | cons first rest =>
      rw [chars] at member words
      simp only [String.toList_ofList] at member
      rcases List.mem_append.1 member with small | behind
      · refine toNat_not_mem_of_mem_lowerChar foreign.lowerForms ?_
          (words first List.mem_cons_self) small
        intro code dotted
        exact foreign.added code (List.map_subset _ (by decide) dotted)
      · exact words c (List.mem_cons_of_mem _ behind)

theorem not_mem_of_mem_escapeIdentifier
    {name : String} (free : ∀ c ∈ name.toList, c.toNat ∉ codes)
    {c : Char} (member : c ∈ (escapeIdentifier name).toList) :
    c.toNat ∉ codes := by
  rw [escapeIdentifier] at member
  split at member
  · rw [String.toList_append] at member
    rcases List.mem_append.1 member with mark | own
    · rw [List.mem_singleton.1 mark]
      exact foreign.not_mem_of_added (by decide)
    · exact free c own
  · split at member
    · rw [String.toList_append] at member
      rcases List.mem_append.1 member with mark | own
      · rw [List.mem_singleton.1 mark]
        exact foreign.not_mem_of_added (by decide)
      · exact free c own
    · exact free c member

private theorem not_mem_of_mem_uniqueName
    {name : String} (free : ∀ c ∈ name.toList, c.toNat ∉ codes)
    {used : List String} {c : Char}
    (member : c ∈ (uniqueName name used).toList) : c.toNat ∉ codes := by
  rcases firstFree_eq used.contains used.length name with same | counted
  · rw [uniqueName, same] at member
    exact free c member
  · obtain ⟨counter, _, equal⟩ := counted
    rw [uniqueName, equal, numbered, String.toList_append] at member
    rcases List.mem_append.1 member with own | digit
    · exact free c own
    · apply foreign.not_mem_of_added
      exact
        List.mem_append_right _ (mem_asciiDigits_of_mem_toString digit)

/-- None of the characters gets into a name that is chosen for a parameter. -/
theorem not_mem_of_mem_choice
    {raw : String} {used : List String} {c : Char}
    (member :
      c ∈ (uniqueName (escapeIdentifier (parameterName raw)) used).toList) :
    c.toNat ∉ codes := by
  refine foreign.not_mem_of_mem_uniqueName (fun d inName => ?_) member
  refine foreign.not_mem_of_mem_escapeIdentifier (fun e => ?_) inName
  exact foreign.not_mem_of_mem_parameterName

end AreForeign

/-- The code points at which a line ends. -/
def breakCodes : List Nat :=
  [0x0a, 0x0b, 0x0c, 0x0d, 0x1c, 0x1d, 0x1e, 0x85, 0x2028, 0x2029]

theorem mem_breakCodes_of_isBreak {c : Char} (breaks : isBreak c = true) :
    c.toNat ∈ breakCodes := by
  simp only [isBreak, breakRanges, inRanges] at breaks
  simp only [breakCodes, List.mem_cons, List.not_mem_nil, or_false]
  grind

private theorem areForeign_breakCodes : AreForeign breakCodes where
  letters := by decide +kernel
  numerals := by decide +kernel
  lowerForms := by decide +kernel
  added := by decide +kernel

theorem unbroken_choice (raw : String) (used : List String) :
    Unbroken
      (uniqueName (escapeIdentifier (parameterName raw)) used).toList := by
  intro c member
  by_contra broken
  exact
    areForeign_breakCodes.not_mem_of_mem_choice member
      (mem_breakCodes_of_isBreak (eq_true_of_ne_false broken))

/-- A parameter has a certain name if its word characters are those of the name
but for the case of the first one. -/
theorem parameterName_eq_iff
    {name : String} {c : Char} {rest : List Char}
    (spelling : name.toList = c :: rest) (own : name ≠ "param")
    (undotted : c ≠ 'i') (raw : String) :
    parameterName raw = name ↔
      ∃ first, wordChars raw = first :: rest ∧ lowerChar first = [c] := by
  rw [parameterName]
  cases words : wordChars raw with
  | nil =>
      refine iff_of_false (Ne.symm own) ?_
      rintro ⟨_, empty, _⟩
      cases empty
  | cons first others =>
      have lists :
          String.ofList (lowerChar first ++ others) = name ↔
            lowerChar first ++ others = c :: rest := by
        rw [← String.toList_inj, String.toList_ofList, spelling]
      rw [lists]
      by_cases special : first = '\u0130'
      · have dotted : lowerChar first = ['i', '\u0307'] := by
          rw [lowerChar, if_pos special]
        rw [dotted]
        constructor
        · intro same
          exact absurd (List.cons.inj same).1.symm undotted
        · rintro ⟨_, equal, image⟩
          rw [← (List.cons.inj equal).1, dotted] at image
          cases image
      · have single :
            lowerChar first =
              [Char.ofNat (shiftCode lowerRuns first.toNat)] := by
          rw [lowerChar, if_neg special]
        rw [single, List.singleton_append]
        constructor
        · intro same
          obtain ⟨image, behind⟩ := List.cons.inj same
          exact ⟨first, by rw [behind], by rw [single, image]⟩
        · rintro ⟨_, equal, image⟩
          obtain ⟨rfl, rfl⟩ := List.cons.inj equal
          rw [single] at image
          rw [List.singleton_inj.1 image]

/-- So the texts that a name is made from are known by the characters with the
lower-case form of its first one. -/
theorem parameterName_eq_iff_wordChars_mem
    {name : String} {c : Char} {rest sources : List Char}
    (spelling : name.toList = c :: rest) (own : name ≠ "param")
    (undotted : c ≠ 'i') (small : ∀ d, lowerChar d = [c] ↔ d ∈ sources)
    (raw : String) :
    parameterName raw = name ↔
      wordChars raw ∈ sources.map fun source => source :: rest := by
  rw [parameterName_eq_iff spelling own undotted, List.mem_map]
  constructor
  · rintro ⟨first, words, image⟩
    exact ⟨first, (small first).1 image, words.symm⟩
  · rintro ⟨source, member, words⟩
    exact ⟨source, words.symm, (small source).2 member⟩

end OpenApiSharp.Naming
