import OpenApiSharp.Proofs.Files.Walk

namespace OpenApiSharp.Files.Tree

variable {γ : Type} {tree made written : Tree γ}

theorem kindAt_eq_file_iff {location : List String} :
    tree.kindAt location = .file ↔
      (tree.content? location).isSome = true := by
  rw [kindAt]
  by_cases held : (tree.content? location).isSome = true
  · rw [if_pos held]
    exact iff_of_true rfl held
  · rw [if_neg held]
    refine iff_of_false ?_ held
    split <;> exact Kind.noConfusion

theorem kindAt_eq_directory_iff {location : List String} :
    tree.kindAt location = .directory ↔
      tree.content? location = none ∧
        (location.isEmpty || tree.directories.contains location ||
          (tree.files.any fun file => location.isPrefixOf file.1) ||
          tree.current?.any fun current => location.isPrefixOf current) =
            true := by
  rw [kindAt]
  cases tree.content? location with
  | some content => simp
  | none =>
      rw [Option.isSome_none, if_neg Bool.false_ne_true]
      split
      · rename_i here
        exact iff_of_true rfl ⟨rfl, here⟩
      · rename_i absent
        exact iff_of_false Kind.noConfusion fun both => absent both.2

theorem kind_eq_file_iff {path : String} :
    tree.kind path = .file ↔
      (path.endsWith "/" || path.endsWith "/.") = false ∧
        ∃ location, tree.follow path = .reached location ∧
          tree.kindAt location = .file := by
  rw [kind]
  cases tree.follow path with
  | reached location =>
      cases kind : tree.kindAt location with
      | file =>
          cases behindSlash : path.endsWith "/" || path.endsWith "/." <;>
            simp [kind]
      | missing => cases path.isEmpty <;> simp [kind]
      | directory => cases path.isEmpty <;> simp [kind]
  | outside => cases (parts path).all (· == "..") <;> simp
  | missing => simp
  | blocked => simp

/-- More files and directories make a tree grow, if no file is put where a
directory is. -/
private theorem grows_of_subset
    {larger : Tree γ} (current : larger.current? = tree.current?)
    (directories : tree.directories ⊆ larger.directories)
    (files : tree.files.map Prod.fst ⊆ larger.files.map Prod.fst)
    (apart : ∀ location, tree.kindAt location = .directory →
      larger.content? location = none) :
    tree.Grows larger where
  current := current
  directories := by
    intro location directory
    refine kindAt_eq_directory_iff.2 ⟨apart location directory, ?_⟩
    have before := (kindAt_eq_directory_iff.1 directory).2
    simp only [Bool.or_eq_true, List.contains_iff_mem, List.any_eq_true]
      at before ⊢
    rw [current]
    rcases before with ((root | listed) | ⟨file, member, below⟩) | here
    · exact Or.inl (Or.inl (Or.inl root))
    · exact Or.inl (Or.inl (Or.inr (directories listed)))
    · obtain ⟨other, kept, same⟩ :=
        List.mem_map.1 (files (List.mem_map_of_mem member))
      rw [← same] at below
      exact Or.inl (Or.inr ⟨other, kept, below⟩)
    · exact Or.inr here

/-- A tree has grown by directories only. -/
structure GrowsByDirectories (tree larger : Tree γ) : Prop
    extends tree.Grows larger where
  files : larger.files = tree.files

private theorem GrowsByDirectories.refl (tree : Tree γ) :
    tree.GrowsByDirectories tree :=
  ⟨.refl tree, rfl⟩

private theorem GrowsByDirectories.trans
    {larger : Tree γ} (first : tree.GrowsByDirectories made)
    (second : made.GrowsByDirectories larger) :
    tree.GrowsByDirectories larger where
  toGrows := first.toGrows.trans second.toGrows
  files := second.files.trans first.files

theorem growsByDirectories_cons (tree : Tree γ) (location : List String) :
    tree.GrowsByDirectories
      { tree with directories := location :: tree.directories } where
  toGrows := by
    refine grows_of_subset rfl (List.subset_cons_self _ _)
      (List.Subset.refl _) ?_
    intro place directory
    exact (kindAt_eq_directory_iff.1 directory).1
  files := rfl

section Whole

variable (whole : tree.IsWhole)

include whole

private theorem IsWhole.makeDirectory_leads
    {mark : String} {parts : List String}
    (onward : tree.walk mark parts ≠ .missing)
    (done : tree.makeDirectory mark parts = .ok made) :
    tree.GrowsByDirectories made ∧ made.LeadsToDirectory mark parts := by
  rw [makeDirectory] at done
  cases walked : tree.walk mark parts with
  | reached location =>
      have named := whole.placeOf_of_walk walked
      rw [walked] at done
      cases kind : tree.kindAt location with
      | missing =>
          simp only [kind, Except.ok.injEq] at done
          have grows := growsByDirectories_cons tree location
          have free : tree.content? location = none := by
            rw [← Option.not_isSome_iff_eq_none, ← kindAt_eq_file_iff, kind]
            exact Kind.noConfusion
          rw [done] at grows
          refine ⟨grows, ?_, ?_⟩
          · rw [grows.placeOf_eq, ← named]
            exact grows.walk_eq whole walked
          · rw [grows.placeOf_eq, ← named, ← done]
            refine kindAt_eq_directory_iff.2 ⟨free, ?_⟩
            simp
      | file =>
          simp only [kind, reduceCtorEq] at done
      | directory =>
          simp only [kind, Except.ok.injEq] at done
          rw [← done]
          refine ⟨.refl tree, ?_⟩
          rw [LeadsToDirectory, ← named]
          exact ⟨walked, kind⟩
  | outside => exact absurd walked (whole.walk_ne_outside mark parts)
  | missing => exact absurd walked onward
  | blocked =>
      rw [walked] at done
      cases done

private theorem IsWhole.makeDirectories_leads
    {mark : String} {inward : List String}
    (done : tree.makeDirectories mark inward = .ok made) :
    tree.GrowsByDirectories made ∧
      made.LeadsToDirectory mark inward.reverse := by
  induction inward generalizing made with
  | nil =>
      cases done
      exact ⟨.refl tree, whole.leadsToDirectory_nil mark⟩
  | cons part outer inductionHypothesis =>
      rw [makeDirectories] at done
      split at done
      case h_1 _ lacking =>
        cases first : tree.makeDirectories mark outer with
        | error fault =>
            rw [first] at done
            cases done
        | ok inner =>
            rw [first] at done
            obtain ⟨grows, leads⟩ := inductionHypothesis first
            have innerWhole := grows.isWhole whole
            have onward :
                inner.walk mark (part :: outer).reverse ≠ .missing := by
              rw [List.reverse_cons,
                innerWhole.walk_append_of_leadsToDirectory leads]
              exact Walk.noConfusion
            obtain ⟨more, arrived⟩ :=
              innerWhole.makeDirectory_leads onward done
            exact ⟨grows.trans more, arrived⟩
      case h_2 _ onward =>
        exact whole.makeDirectory_leads onward done

omit whole in
/-- No directory is made where there is one. -/
private theorem makeDirectories_of_leadsToDirectory
    {mark : String} {inward : List String}
    (passable : tree.LeadsToDirectory mark inward.reverse) :
    tree.makeDirectories mark inward = .ok tree := by
  cases inward with
  | nil => rfl
  | cons part outer =>
      rw [makeDirectories]
      simp only [passable.1, makeDirectory, passable.2]

/-- What it means that contents were written under paths, one after the other. -/
structure Wrote (tree written : Tree γ) (entries : List (String × γ)) : Prop where
  grows : tree.Grows written
  files :
    written.files =
      (entries.map fun entry => (tree.place entry.1, entry.2)).foldl
        (fun files entry => Keyed.put (· == ·) entry.1 entry.2 files) tree.files
  arrived :
    ∀ entry ∈ entries, written.follow entry.1 = .reached (tree.place entry.1)

omit whole in
private theorem grows_put
    {location : List String} (free : tree.kindAt location ≠ .directory)
    (content : γ) :
    tree.Grows
      { tree with
        files := Keyed.put (· == ·) location content tree.files } := by
  refine grows_of_subset rfl (List.Subset.refl _)
    (fun _ => Keyed.mem_keys_put_of_mem location content) ?_
  intro place directory
  have other : place ≠ location := by
    rintro rfl
    exact free directory
  have before := (kindAt_eq_directory_iff.1 directory).1
  rw [content?, Keyed.find?_put_of_ne other]
  exact before

private theorem IsWhole.write_wrote
    {path : String} (named : parts path ≠ []) {content : γ}
    (done : tree.write path content = .ok written) :
    tree.Wrote written [(path, content)] := by
  rw [write] at done
  cases first :
      tree.makeDirectories (rootMark path) (parts path).dropLast.reverse with
  | error fault =>
      rw [first] at done
      cases done
  | ok made =>
      obtain ⟨grows, leads⟩ := whole.makeDirectories_leads first
      have madeWhole := grows.isWhole whole
      rw [List.reverse_reverse] at leads
      have arrived : made.follow path = .reached (tree.place path) := by
        have last := madeWhole.walk_append_of_leadsToDirectory leads
          ((parts path).getLast named)
        rw [List.dropLast_append_getLast, grows.placeOf_eq] at last
        exact last
      simp only [first, bind, Except.bind, arrived] at done
      by_cases directory : made.kindAt (tree.place path) = .directory
      · rw [if_pos directory] at done
        cases done
      · rw [if_neg directory] at done
        have more := grows_put directory content
        rw [Except.ok.inj done] at more
        refine ⟨grows.toGrows.trans more, ?_, ?_⟩
        · rw [← Except.ok.inj done, ← grows.files]
          rfl
        · intro entry member
          rw [List.mem_singleton.1 member]
          exact more.walk_eq madeWhole arrived

omit whole in
theorem Wrote.held
    {entries : List (String × γ)} (wrote : tree.Wrote written entries)
    (once : (entries.map fun entry => tree.place entry.1).Nodup) :
    ∀ entry ∈ entries,
      written.content? (tree.place entry.1) = some entry.2 := by
  intro entry member
  have distinct :
      ((entries.map fun entry => (tree.place entry.1, entry.2)).map
        Prod.fst).Nodup := by
    rw [List.map_map]
    exact once
  have listed :
      (tree.place entry.1, entry.2) ∈
        entries.map fun entry => (tree.place entry.1, entry.2) :=
    List.mem_map.2 ⟨entry, member, rfl⟩
  rw [content?, wrote.files]
  exact Keyed.find?_foldl_put_of_mem distinct listed _

omit whole in
/-- What has no place among the files written is as it was. -/
theorem Wrote.content?_eq
    {entries : List (String × γ)} (wrote : tree.Wrote written entries)
    {location : List String}
    (apart : ∀ entry ∈ entries, tree.place entry.1 ≠ location) :
    written.content? location = tree.content? location := by
  rw [content?, wrote.files]
  apply Keyed.find?_foldl_put_of_not_mem
  rw [List.map_map]
  intro member
  obtain ⟨entry, present, same⟩ := List.mem_map.1 member
  exact apart entry present same

private theorem Wrote.cons
    {middle : Tree γ} {entry : String × γ} {rest : List (String × γ)}
    (first : tree.Wrote middle [entry]) (later : middle.Wrote written rest) :
    tree.Wrote written (entry :: rest) where
  grows := first.grows.trans later.grows
  files := by
    have places :
        (fun entry : String × γ => (middle.place entry.1, entry.2)) =
          fun entry => (tree.place entry.1, entry.2) := by
      funext entry
      rw [place, first.grows.placeOf_eq]
      rfl
    rw [later.files, first.files, places]
    rfl
  arrived := by
    intro other member
    rcases List.mem_cons.1 member with rfl | behind
    · exact later.grows.walk_eq (first.grows.isWhole whole)
        (first.arrived other (List.mem_singleton_self _))
    · have reached := later.arrived other behind
      rw [place, first.grows.placeOf_eq] at reached
      exact reached

theorem IsWhole.writeAll_wrote
    {entries : List (String × γ)}
    (named : ∀ entry ∈ entries, parts entry.1 ≠ [])
    (done : tree.writeAll entries = (written, none)) :
    tree.Wrote written entries := by
  induction entries generalizing tree with
  | nil =>
      cases done
      exact ⟨.refl _, rfl, fun _ member => absurd member List.not_mem_nil⟩
  | cons entry rest inductionHypothesis =>
      obtain ⟨path, content⟩ := entry
      rw [List.forall_mem_cons] at named
      rw [writeAll] at done
      cases next : tree.write path content with
      | error fault =>
          rw [next] at done
          cases done
      | ok middle =>
          rw [next] at done
          have first := whole.write_wrote named.1 next
          have later :=
            inductionHypothesis (first.grows.isWhole whole) named.2 done
          exact first.cons whole later

/-- Where no file is overwritten, a file that was there is there as it was. -/
theorem Wrote.file_kept
    {entries : List (String × γ)} (wrote : tree.Wrote written entries)
    (fresh : ∀ entry ∈ entries, tree.content? (tree.place entry.1) = none)
    {path : String} (file : tree.kind path = .file) :
    written.kind path = .file ∧ written.read? path = tree.read? path := by
  obtain ⟨front, location, arrived, held⟩ := kind_eq_file_iff.1 file
  have kept : written.follow path = .reached location :=
    wrote.grows.walk_eq whole arrived
  have same : written.content? location = tree.content? location := by
    apply wrote.content?_eq
    rintro entry member rfl
    rw [kindAt_eq_file_iff, fresh entry member] at held
    cases held
  constructor
  · refine kind_eq_file_iff.2 ⟨front, location, kept, ?_⟩
    rw [kindAt_eq_file_iff, same, ← kindAt_eq_file_iff]
    exact held
  · simp only [read?, kept, arrived, same]

/-- No path away from the files written leads to a new file. -/
theorem Wrote.kind_ne_file
    {entries : List (String × γ)} (wrote : tree.Wrote written entries)
    {path : String} (free : tree.content? (tree.place path) = none)
    (apart : ∀ entry ∈ entries, tree.place entry.1 ≠ tree.place path) :
    written.kind path ≠ .file := by
  intro file
  obtain ⟨_, location, arrived, held⟩ := kind_eq_file_iff.1 file
  have reached := (wrote.grows.isWhole whole).placeOf_of_walk arrived
  rw [wrote.grows.placeOf_eq] at reached
  rw [kindAt_eq_file_iff, reached] at held
  have none : written.content? (tree.place path) = none := by
    rw [wrote.content?_eq apart, free]
  rw [place] at none
  rw [none] at held
  cases held

/-- To write a file with the content that it has changes nothing. -/
private theorem IsWhole.write_again
    {path : String} (named : parts path ≠ []) {content : γ}
    {location : List String} (arrived : tree.follow path = .reached location)
    (held : tree.content? location = some content) :
    tree.write path content = .ok tree := by
  have split := List.dropLast_append_getLast named
  have passable :
      tree.LeadsToDirectory (rootMark path) (parts path).dropLast := by
    have walked := arrived
    rw [follow, ← split] at walked
    obtain ⟨before, front, directory, _⟩ :=
      whole.walk_append_eq_reached_iff.1 walked
    rw [LeadsToDirectory, ← whole.placeOf_of_walk front]
    exact ⟨front, directory⟩
  have file : tree.kindAt location = .file := by
    rw [kindAt_eq_file_iff, held]
    rfl
  have directories :
      tree.makeDirectories (rootMark path) (parts path).dropLast.reverse =
        .ok tree := by
    apply makeDirectories_of_leadsToDirectory
    rw [List.reverse_reverse]
    exact passable
  rw [write, directories]
  simp only [bind, Except.bind, arrived, file, reduceCtorEq, if_false]
  rw [Keyed.put_of_find? held]

theorem IsWhole.writeAll_again
    {entries : List (String × γ)}
    (there : ∀ entry ∈ entries, parts entry.1 ≠ [] ∧
      ∃ location, tree.follow entry.1 = .reached location ∧
        tree.content? location = some entry.2) :
    tree.writeAll entries = (tree, none) := by
  induction entries with
  | nil => rfl
  | cons entry rest inductionHypothesis =>
      obtain ⟨path, content⟩ := entry
      rw [List.forall_mem_cons] at there
      obtain ⟨⟨named, location, arrived, held⟩, later⟩ := there
      rw [writeAll, whole.write_again named arrived held]
      exact inductionHypothesis later

end Whole

end OpenApiSharp.Files.Tree
