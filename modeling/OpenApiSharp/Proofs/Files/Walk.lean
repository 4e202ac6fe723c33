import Mathlib.Data.List.Induction
import OpenApiSharp.Files
import OpenApiSharp.Proofs.Keyed
import OpenApiSharp.Proofs.Text.Search

namespace OpenApiSharp.Files

open Text

/-- A text that is one part of a path. -/
structure IsPart (part : String) : Prop where
  filled : part ≠ ""
  notPoint : part ≠ "."
  whole : '/' ∉ part.toList

private theorem isPart_of_mem_parts
    {path part : String} (member : part ∈ parts path) : IsPart part := by
  obtain ⟨split, kept⟩ := List.mem_filter.1 member
  obtain ⟨piece, present, rfl⟩ := List.mem_map.1 split
  simp only [Bool.and_eq_true, bne_iff_ne] at kept
  refine ⟨kept.1, kept.2, ?_⟩
  rw [String.toList_ofList]
  exact not_mem_of_mem_pieces present

theorem parts_intercalate
    {steps : List String} (plain : ∀ step ∈ steps, IsPart step) :
    parts ("/".intercalate steps) = steps := by
  have slash : "/".toList = ['/'] := rfl
  cases steps with
  | nil => rfl
  | cons first rest =>
      have whole : ∀ piece ∈ (first :: rest).map String.toList, '/' ∉ piece := by
        intro piece member
        obtain ⟨step, present, rfl⟩ := List.mem_map.1 member
        exact (plain step present).whole
      have split :
          pieces '/' ("/".intercalate (first :: rest)).toList =
            (first :: rest).map String.toList := by
        rw [String.toList_intercalate, slash]
        exact pieces_intercalate (by simp) whole
      have texts :
          ((first :: rest).map String.toList).map String.ofList =
            first :: rest := by
        simp [Function.comp_def]
      rw [parts, split, texts, List.filter_eq_self]
      intro step member
      simp [(plain step member).filled, (plain step member).notPoint]

@[simp]
private theorem parts_intercalate_parts (path : String) :
    parts ("/".intercalate (parts path)) = parts path :=
  parts_intercalate fun _ => isPart_of_mem_parts

@[simp]
private theorem parts_append_slash (front back : String) :
    parts (front ++ "/" ++ back) = parts front ++ parts back := by
  have slash : "/".toList = ['/'] := rfl
  rw [parts, String.toList_append, String.toList_append, slash,
    List.append_assoc, List.singleton_append, pieces_append_separator,
    List.map_append, List.filter_append]
  rfl

private theorem isEmpty_rootMark (path : String) :
    (rootMark path).isEmpty = (path.toList.head? != some '/') := by
  rw [rootMark]
  cases chars : path.toList with
  | nil => rfl
  | cons c rest =>
      by_cases slash : c = '/'
      · have taken :
            (c :: rest).takeWhile (· == '/') =
              '/' :: rest.takeWhile (· == '/') := by
          rw [slash]
          rfl
        rw [taken, slash]
        rcases rest.takeWhile (· == '/') with _ | ⟨second, _ | ⟨third, more⟩⟩ <;>
          rfl
      · have taken : (c :: rest).takeWhile (· == '/') = [] := by
          simp [slash]
        rw [taken, List.head?_cons, bne, Option.some_beq_some,
          beq_eq_false_iff_ne.2 slash]
        rfl

theorem rootMark_eq (path : String) :
    rootMark path = "" ∨ rootMark path = "/" ∨ rootMark path = "//" := by
  rw [rootMark]
  split
  · exact Or.inl rfl
  · exact Or.inr (Or.inr rfl)
  · exact Or.inr (Or.inl rfl)

theorem isEmpty_rootMark_intercalate
    {steps : List String} (plain : ∀ step ∈ steps, IsPart step) :
    (rootMark ("/".intercalate steps)).isEmpty = true := by
  rw [isEmpty_rootMark, bne_iff_ne]
  intro slash
  cases steps with
  | nil => cases slash
  | cons first rest =>
      have part := plain first List.mem_cons_self
      have filled : first.toList ≠ [] := fun empty =>
        part.filled (String.toList_eq_nil_iff.1 empty)
      cases chars : first.toList with
      | nil => exact filled chars
      | cons c others =>
          have head :
              ("/".intercalate (first :: rest)).toList.head? = some c := by
            cases rest with
            | nil => simp [chars]
            | cons next more => simp [chars]
          have whole := part.whole
          rw [head] at slash
          rw [chars, ← Option.some.inj slash] at whole
          exact whole List.mem_cons_self

@[simp]
private theorem parts_slash
    (path : String) : parts ("/" ++ path) = parts path := by
  have empty : parts "" = [] := rfl
  have split := parts_append_slash "" path
  rw [String.empty_append, empty, List.nil_append] at split
  exact split

theorem normalize_eq (path : String) :
    normalize path = "." ∧ rootMark path = "" ∧ parts path = [] ∨
      normalize path = rootMark path ++ "/".intercalate (parts path) := by
  rw [normalize]
  by_cases shown : (rootMark path ++ "/".intercalate (parts path)).isEmpty = true
  · have none := String.isEmpty_iff.1 shown
    have both :
        (rootMark path).toList = [] ∧
          ("/".intercalate (parts path)).toList = [] := by
      have lists := congrArg String.toList none
      rw [String.toList_append] at lists
      exact List.append_eq_nil_iff.1 lists
    have kept := parts_intercalate_parts path
    rw [String.toList_eq_nil_iff.1 both.2] at kept
    exact Or.inl ⟨by rw [if_pos shown], String.toList_eq_nil_iff.1 both.1,
      kept.symm⟩
  · exact Or.inr (by rw [if_neg shown])

@[simp]
private theorem parts_normalize (path : String) :
    parts (normalize path) = parts path := by
  have kept := parts_intercalate_parts path
  rcases normalize_eq path with ⟨point, _, none⟩ | shown
  · rw [point, none]
    rfl
  · have double : "//" = "/" ++ "/" := rfl
    rw [shown]
    rcases rootMark_eq path with mark | mark | mark
    · rw [mark, String.empty_append, kept]
    · simp [mark, kept]
    · rw [mark, double, String.append_assoc, parts_slash, parts_slash, kept]

@[simp]
private theorem isEmpty_rootMark_normalize (path : String) :
    (rootMark (normalize path)).isEmpty = (rootMark path).isEmpty := by
  rcases normalize_eq path with ⟨point, mark, _⟩ | shown
  · rw [point, mark]
    rfl
  · rw [shown]
    rcases rootMark_eq path with mark | mark | mark
    · have plain : ∀ part ∈ parts path, IsPart part := fun _ =>
        isPart_of_mem_parts
      rw [mark, String.empty_append, isEmpty_rootMark_intercalate plain]
      rfl
    · rw [mark, isEmpty_rootMark, String.toList_append]
      rfl
    · rw [mark, isEmpty_rootMark, String.toList_append]
      rfl

@[simp]
theorem parts_join (directory path : String) :
    parts (join directory path) = parts directory ++ parts path := by
  rw [join, parts_normalize]
  by_cases none : directory.isEmpty = true
  · rw [if_pos none, String.isEmpty_iff.1 none]
    rfl
  · rw [if_neg none, parts_append_slash]

/-- A path that leads on from a directory leads where the directory does. -/
private theorem isEmpty_rootMark_join
    (directory : String) {path : String}
    (relative : (rootMark path).isEmpty = true) :
    (rootMark (join directory path)).isEmpty =
      (rootMark directory).isEmpty := by
  rw [join, isEmpty_rootMark_normalize]
  by_cases none : directory.isEmpty = true
  · rw [if_pos none, String.isEmpty_iff.1 none, relative]
    rfl
  · rw [if_neg none, isEmpty_rootMark, isEmpty_rootMark,
      String.toList_append, String.toList_append]
    cases chars : directory.toList with
    | nil =>
        exact absurd (String.isEmpty_iff.2 (String.toList_eq_nil_iff.1 chars)) none
    | cons c rest => rfl

end OpenApiSharp.Files

namespace OpenApiSharp.Files.Tree

variable {γ : Type} {tree larger : Tree γ}

/-- The place that one more part of a path leads to. -/
def advance (location : List String) (part : String) : List String :=
  if part = ".." then location.dropLast else location ++ [part]

/-- The place that a path begins at. -/
def base (tree : Tree γ) (mark : String) : List String :=
  if mark.isEmpty then tree.current?.getD [] else []

/-- The place that the parts of a path with a mark name. -/
def placeOf (tree : Tree γ) (mark : String) (parts : List String) :
    List String :=
  parts.foldl advance (tree.base mark)

/-- The place that a path names. -/
def place (tree : Tree γ) (path : String) : List String :=
  tree.placeOf (rootMark path) (parts path)

/-- A tree of all files: its root and its current directory are directories. -/
structure IsWhole (tree : Tree γ) : Prop where
  current : tree.current?.isSome = true
  bases : ∀ mark, tree.kindAt (tree.base mark) = .directory

/-- The way to a directory is passable. -/
def LeadsToDirectory (tree : Tree γ) (mark : String) (parts : List String) :
    Prop :=
  tree.walk mark parts = .reached (tree.placeOf mark parts) ∧
    tree.kindAt (tree.placeOf mark parts) = .directory

theorem placeOf_append
    (mark : String) (front back : List String) :
    tree.placeOf mark (front ++ back) =
      back.foldl advance (tree.placeOf mark front) :=
  List.foldl_append

private theorem foldl_advance
    (location : List String) {parts : List String} (onward : ".." ∉ parts) :
    parts.foldl advance location = location ++ parts := by
  induction parts generalizing location with
  | nil => rw [List.foldl_nil, List.append_nil]
  | cons part rest inductionHypothesis =>
      rw [List.mem_cons, not_or] at onward
      rw [List.foldl_cons, inductionHypothesis _ onward.2, advance,
        if_neg (Ne.symm onward.1), List.append_assoc, List.singleton_append]

/-- What lies below a directory. -/
theorem place_join
    (tree : Tree γ) (directory : String) {path : String}
    (relative : (rootMark path).isEmpty = true)
    (onward : ".." ∉ parts path) :
    tree.place (join directory path) =
      tree.place directory ++ parts path := by
  rw [place, placeOf, base, isEmpty_rootMark_join directory relative,
    parts_join, List.foldl_append, foldl_advance _ onward]
  rfl

@[simp]
private theorem walk_concat
    (mark : String) (front : List String) (part : String) :
    tree.walk mark (front ++ [part]) = tree.step (tree.walk mark front) part := by
  rw [walk, List.foldl_append]
  rfl

section Whole

variable (whole : tree.IsWhole)

include whole

theorem IsWhole.start_eq (mark : String) :
    tree.start mark = .reached (tree.base mark) := by
  have current := whole.current
  rw [start, base]
  cases place : tree.current? with
  | none =>
      rw [place] at current
      cases current
  | some location => rfl

theorem IsWhole.walk_nil (mark : String) :
    tree.walk mark [] = .reached (tree.base mark) :=
  whole.start_eq mark

private theorem IsWhole.step_reached (location : List String) (part : String) :
    tree.step (.reached location) part =
      match tree.kindAt location with
      | .missing => .missing
      | .file => .blocked
      | .directory => .reached (advance location part) := by
  have current : tree.current?.isNone = false := by
    rw [← Option.not_isSome, whole.current]
    rfl
  rw [step]
  cases tree.kindAt location with
  | missing => rfl
  | file => rfl
  | directory =>
      simp only [current, Bool.and_false, Bool.false_eq_true, if_false]
      by_cases up : part = ".."
      · rw [advance, if_pos up, up]
        rfl
      · rw [advance, if_neg up]
        simp [up]

/-- A walk arrives if the walk before its last part arrives at a directory. -/
theorem IsWhole.walk_append_eq_reached_iff
    {mark : String} {front : List String} {part : String}
    {location : List String} :
    tree.walk mark (front ++ [part]) = .reached location ↔
      ∃ before, tree.walk mark front = .reached before ∧
        tree.kindAt before = .directory ∧
        location = advance before part := by
  rw [walk_concat]
  constructor
  · intro arrived
    cases walked : tree.walk mark front with
    | reached before =>
        rw [walked, whole.step_reached] at arrived
        cases kind : tree.kindAt before with
        | missing =>
            rw [kind] at arrived
            cases arrived
        | file =>
            rw [kind] at arrived
            cases arrived
        | directory =>
            rw [kind] at arrived
            cases arrived
            exact ⟨before, rfl, kind, rfl⟩
    | outside =>
        rw [walked] at arrived
        cases arrived
    | missing =>
        rw [walked] at arrived
        cases arrived
    | blocked =>
        rw [walked] at arrived
        cases arrived
  · rintro ⟨before, walked, kind, rfl⟩
    rw [walked, whole.step_reached, kind]

theorem IsWhole.placeOf_of_walk
    {mark : String} {parts location : List String}
    (arrived : tree.walk mark parts = .reached location) :
    location = tree.placeOf mark parts := by
  induction parts using List.reverseRecOn generalizing location with
  | nil =>
      rw [whole.walk_nil] at arrived
      cases arrived
      rfl
  | append_singleton front part inductionHypothesis =>
      obtain ⟨before, walked, _, rfl⟩ :=
        whole.walk_append_eq_reached_iff.1 arrived
      rw [inductionHypothesis walked, placeOf_append]
      rfl

theorem IsWhole.walk_ne_outside (mark : String) (parts : List String) :
    tree.walk mark parts ≠ .outside := by
  induction parts using List.reverseRecOn with
  | nil =>
      rw [whole.walk_nil]
      exact Walk.noConfusion
  | append_singleton front part inductionHypothesis =>
      rw [walk_concat]
      cases walked : tree.walk mark front with
      | reached before =>
          rw [whole.step_reached]
          cases tree.kindAt before <;> exact Walk.noConfusion
      | outside => exact absurd walked inductionHypothesis
      | missing => exact Walk.noConfusion
      | blocked => exact Walk.noConfusion

theorem IsWhole.leadsToDirectory_nil (mark : String) :
    tree.LeadsToDirectory mark [] :=
  ⟨whole.walk_nil mark, whole.bases mark⟩

theorem IsWhole.walk_append_of_leadsToDirectory
    {mark : String} {front : List String}
    (passable : tree.LeadsToDirectory mark front) (part : String) :
    tree.walk mark (front ++ [part]) =
      .reached (tree.placeOf mark (front ++ [part])) := by
  rw [placeOf_append]
  exact whole.walk_append_eq_reached_iff.2
    ⟨_, passable.1, passable.2, rfl⟩

end Whole

/-- One tree grows into another: directories stay directories. -/
structure Grows (tree larger : Tree γ) : Prop where
  current : larger.current? = tree.current?
  directories :
    ∀ location, tree.kindAt location = .directory →
      larger.kindAt location = .directory

namespace Grows

theorem refl (tree : Tree γ) : tree.Grows tree :=
  ⟨rfl, fun _ => id⟩

theorem trans
    {middle : Tree γ} (first : tree.Grows middle)
    (second : middle.Grows larger) : tree.Grows larger where
  current := second.current.trans first.current
  directories := fun location directory =>
    second.directories location (first.directories location directory)

variable (grows : tree.Grows larger)

include grows

theorem base_eq (mark : String) : larger.base mark = tree.base mark := by
  rw [base, base, grows.current]

theorem placeOf_eq (mark : String) (parts : List String) :
    larger.placeOf mark parts = tree.placeOf mark parts := by
  rw [placeOf, placeOf, grows.base_eq]

theorem isWhole (whole : tree.IsWhole) : larger.IsWhole where
  current := by
    rw [grows.current]
    exact whole.current
  bases := by
    intro mark
    rw [grows.base_eq]
    exact grows.directories _ (whole.bases mark)

theorem walk_eq
    (whole : tree.IsWhole) {mark : String} {parts location : List String}
    (arrived : tree.walk mark parts = .reached location) :
    larger.walk mark parts = .reached location := by
  induction parts using List.reverseRecOn generalizing location with
  | nil =>
      rw [whole.walk_nil] at arrived
      rw [(grows.isWhole whole).walk_nil, grows.base_eq]
      exact arrived
  | append_singleton front part inductionHypothesis =>
      obtain ⟨before, walked, directory, rfl⟩ :=
        whole.walk_append_eq_reached_iff.1 arrived
      exact (grows.isWhole whole).walk_append_eq_reached_iff.2
        ⟨before, inductionHypothesis walked,
          grows.directories before directory, rfl⟩

end Grows

end OpenApiSharp.Files.Tree
