import Mathlib.Data.List.TakeWhile
import OpenApiSharp.Text.Utf8

namespace OpenApiSharp.Text

section CodePoints

private theorem toNat_ofNat {code : Nat} (valid : code.isValidChar) :
    (Char.ofNat code).toNat = code := by
  rw [Char.ofNat, dif_pos valid]
  rfl

@[simp]
private theorem codesOf_mark (next : Char) (rest : List Char) :
    codesOf (literalMark :: next :: rest) = next.toNat :: codesOf rest := by
  rw [codesOf, if_pos rfl]

private theorem codesOf_cons_of_ne
    {c : Char} (noMark : c ≠ literalMark) (rest : List Char) :
    codesOf (c :: rest) = codeOfChar c :: codesOf rest := by
  cases rest with
  | nil => rfl
  | cons next more => rw [codesOf, if_neg noMark]

private theorem codesOf_standIn
    {code : Nat} (half : isSurrogate code = true) (rest : List Char) :
    codesOf (Char.ofNat (code + standInOffset) :: rest) =
      code :: codesOf rest := by
  simp only [isSurrogate, Bool.and_eq_true, decide_eq_true_eq] at half
  have value :
      (Char.ofNat (code + standInOffset)).toNat = code + standInOffset := by
    apply toNat_ofNat
    unfold Nat.isValidChar standInOffset
    omega
  have noMark : Char.ofNat (code + standInOffset) ≠ literalMark := by
    intro same
    have mark : literalMark.toNat = 0xdd7ff := by decide
    rw [same, mark, standInOffset] at value
    omega
  have reserved : isReserved (Char.ofNat (code + standInOffset)) = true := by
    rw [isReserved, value, standInOffset]
    simp only [Bool.and_eq_true, decide_eq_true_eq]
    omega
  rw [codesOf_cons_of_ne noMark, codeOfChar, if_pos reserved, value,
    Nat.add_sub_cancel]

private theorem codesOf_charsOfCode_append
    {code : Nat} (valid : code < 0x110000) (rest : List Char) :
    codesOf (charsOfCode code ++ rest) = code :: codesOf rest := by
  rw [charsOfCode]
  by_cases half : isSurrogate code = true
  · rw [if_pos half, List.singleton_append, codesOf_standIn half]
  · have value : (Char.ofNat code).toNat = code := by
      apply toNat_ofNat
      simp only [isSurrogate, Bool.and_eq_true, decide_eq_true_eq] at half
      unfold Nat.isValidChar
      omega
    rw [if_neg half]
    by_cases reserved : isReserved (Char.ofNat code) = true
    · simp [reserved, value]
    · have noMark : Char.ofNat code ≠ literalMark := by
        intro same
        rw [same] at reserved
        exact reserved (by decide)
      rw [if_neg reserved, List.singleton_append, codesOf_cons_of_ne noMark,
        codeOfChar, if_neg reserved, value]

/-- A text has the code points that it was made of. -/
private theorem codesOf_textOfCodes
    {codes : List Nat} (valid : ∀ code ∈ codes, code < 0x110000) :
    codesOf (textOfCodes codes).toList = codes := by
  rw [textOfCodes, String.toList_ofList]
  induction codes with
  | nil => rfl
  | cons code rest inductionHypothesis =>
      rw [List.forall_mem_cons] at valid
      rw [List.flatMap_cons, codesOf_charsOfCode_append valid.1,
        inductionHypothesis valid.2]

end CodePoints

/-- A text of characters only. -/
def IsEncodable (text : String) : Prop :=
  ∀ code ∈ codesOf text.toList, isSurrogate code = false

instance (text : String) : Decidable (IsEncodable text) :=
  inferInstanceAs (Decidable (∀ code ∈ codesOf text.toList, _))

theorem isEncodable_textOfCodes_iff
    {codes : List Nat} (valid : ∀ code ∈ codes, code < 0x110000) :
    IsEncodable (textOfCodes codes) ↔
      ∀ code ∈ codes, isSurrogate code = false := by
  rw [IsEncodable, codesOf_textOfCodes valid]

namespace Utf8

theorem encode_of_isEncodable {text : String} (able : IsEncodable text) :
    encode text = .ok (bytesOf text) := by
  have passed :
      (codesOf text.toList).dropWhile (fun code => !isSurrogate code) = [] := by
    rw [List.dropWhile_eq_nil_iff]
    intro code member
    rw [able code member]
    rfl
  rw [encode, loneSurrogates?, passed]

theorem exists_encode_of_not_isEncodable
    {text : String} (unable : ¬ IsEncodable text) :
    ∃ fault, encode text = .error fault := by
  rw [encode, loneSurrogates?]
  cases stopped :
      (codesOf text.toList).dropWhile fun code => !isSurrogate code with
  | nil =>
      rw [List.dropWhile_eq_nil_iff] at stopped
      refine absurd ?_ unable
      intro code member
      simpa using stopped code member
  | cons first more => exact ⟨_, rfl⟩

end Utf8

end OpenApiSharp.Text
