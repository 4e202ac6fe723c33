import Mathlib.Data.Finset.Card
import OpenApiSharp.Proofs.Document.Value
import OpenApiSharp.Proofs.Keyed.Arrival
import OpenApiSharp.Proofs.Model.Inventory

/-!
# Histories of an index

Entries are added to an index, it is frozen, and it is asked about names, in any
order.  Every answer is told by the calls before it: the first entry that was
taken for a name in any case is the one that is found, and after a freeze
nothing changes any more.
-/

namespace OpenApiSharp.Model.NamespaceIndex

open Document Text

inductive Call where
  | add (name namespaceName : String)
  | freeze
  | lookup (name : String)
  | contains (probe : Value)
  | size

inductive Answer where
  | done
  | refused (fault : IndexFault)
  | found (namespaceName : Option String)
  | truth (value : Bool)
  | count (number : Nat)
  deriving DecidableEq, Repr

/-- The index behind a call, and its answer.  A call that is refused leaves the
index as it was. -/
def step (index : NamespaceIndex) : Call → NamespaceIndex × Answer
  | .add name namespaceName =>
      match index.add name namespaceName with
      | .ok filled => (filled, .done)
      | .error fault => (index, .refused fault)
  | .freeze => (index.freeze, .done)
  | .lookup name => (index, .found (index.lookup? name))
  | .contains probe => (index, .truth (probe.text?.any index.contains))
  | .size => (index, .count index.size)

/-- The index behind some calls. -/
def behind (index : NamespaceIndex) (calls : List Call) : NamespaceIndex :=
  calls.foldl (fun index call => (index.step call).1) index

/-- The calls with their answers, in order. -/
def history (index : NamespaceIndex) : List Call → List (Call × Answer)
  | [] => []
  | call :: rest =>
      (call, (index.step call).2) :: (index.step call).1.history rest

/-- The entries that were taken in a history: those that were to be added and
not refused. -/
def taken (past : List (Call × Answer)) : List (String × String) :=
  past.filterMap fun
    | (.add name namespaceName, .done) => some (name, namespaceName)
    | _ => none

/-- Whether a freeze is among the calls of a history. -/
def Closed (past : List (Call × Answer)) : Prop :=
  Call.freeze ∈ past.map Prod.fst

/-- Whether an entry was taken for a name in any case. -/
def Known (past : List (Call × Answer)) (name : String) : Prop :=
  ∃ entry ∈ taken past, lower entry.1 = lower name

/-- The answer to a call, as the calls before it and their answers tell. -/
inductive Tells (past : List (Call × Answer)) : Call → Answer → Prop
  | added {name namespaceName : String} (notClosed : ¬ Closed past) :
      Tells past (.add name namespaceName) .done
  | refused {name namespaceName : String} (closed : Closed past) :
      Tells past (.add name namespaceName) (.refused .frozen)
  | frozen : Tells past .freeze .done
  /-- The first entry that was taken for the name is found. -/
  | found {name spelling namespaceName : String}
      {front back : List (String × String)}
      (entries : taken past = front ++ (spelling, namespaceName) :: back)
      (same : lower spelling = lower name)
      (first : ∀ earlier ∈ front, lower earlier.1 ≠ lower name) :
      Tells past (.lookup name) (.found (some namespaceName))
  | unfound {name : String} (unknown : ¬ Known past name) :
      Tells past (.lookup name) (.found none)
  | member {name : String} (known : Known past name) :
      Tells past (.contains (.text name)) (.truth true)
  | stranger {name : String} (unknown : ¬ Known past name) :
      Tells past (.contains (.text name)) (.truth false)
  | nameless {probe : Value} (noText : ∀ name, probe ≠ .text name) :
      Tells past (.contains probe) (.truth false)
  /-- Names that differ only in case count once. -/
  | counted :
      Tells past .size
        (.count
          ((taken past).map fun entry => lower entry.1).toFinset.card)

/-- What a history tells about the index behind it. -/
structure Reflects (index : NamespaceIndex) (past : List (Call × Answer)) :
    Prop where
  frozen : index.frozen = true ↔ Closed past
  entries :
    ∀ key,
      Keyed.find? (· == key) index.entries =
        Keyed.find? (fun name => lower name == key) (taken past)
  once : (index.entries.map Prod.fst).Nodup

@[simp]
theorem taken_append (past later : List (Call × Answer)) :
    taken (past ++ later) = taken past ++ taken later :=
  List.filterMap_append

theorem reflects_empty : Reflects {} [] where
  frozen := by simp [Closed]
  entries := fun _ => rfl
  once := List.nodup_nil

namespace Reflects

variable {index : NamespaceIndex} {past : List (Call × Answer)}
  (reflects : Reflects index past)

include reflects

theorem mem_keys_iff (key : String) :
    key ∈ index.entries.map Prod.fst ↔
      ∃ entry ∈ taken past, lower entry.1 = key := by
  rw [← Keyed.find?_isSome_iff, reflects.entries, ← not_iff_not,
    Bool.not_eq_true, Option.isSome_eq_false_iff, Option.isNone_iff_eq_none,
    Keyed.find?_eq_none_iff]
  simp

private theorem contains_iff_known (name : String) :
    index.contains name = true ↔ Known past name := by
  rw [contains_iff, reflects.mem_keys_iff]
  rfl

theorem size_eq :
    index.size =
      ((taken past).map fun entry => lower entry.1).toFinset.card := by
  have keys :
      (index.entries.map Prod.fst).toFinset =
        ((taken past).map fun entry => lower entry.1).toFinset := by
    ext key
    rw [List.mem_toFinset, List.mem_toFinset, reflects.mem_keys_iff,
      List.mem_map]
  rw [← keys, List.toFinset_card_of_nodup reflects.once, List.length_map,
    size]

private theorem tells_lookup (name : String) :
    Tells past (.lookup name) (.found (index.lookup? name)) := by
  rw [lookup?, reflects.entries]
  cases looked :
      Keyed.find? (fun other => lower other == lower name) (taken past) with
  | some namespaceName =>
      obtain ⟨front, spelling, back, parts, same, first⟩ :=
        Keyed.exists_first_of_find?_eq_some looked
      refine .found parts (beq_iff_eq.1 same) fun earlier member => ?_
      exact beq_eq_false_iff_ne.1 (first earlier member)
  | none =>
      refine .unfound ?_
      rintro ⟨entry, member, same⟩
      exact
        beq_eq_false_iff_ne.1 (Keyed.find?_eq_none_iff.1 looked entry member)
          same

private theorem tells_contains (probe : Value) :
    Tells past (.contains probe)
      (.truth (probe.text?.any index.contains)) := by
  cases textual : probe.text? with
  | none =>
      refine .nameless ?_
      rintro name rfl
      cases textual
  | some name =>
      rw [Value.text?_eq_some_iff.1 textual, Option.any_some]
      cases member : index.contains name with
      | true => exact .member ((reflects.contains_iff_known name).1 member)
      | false =>
          refine .stranger fun known => ?_
          rw [(reflects.contains_iff_known name).2 known] at member
          cases member

private theorem insertNew_entries (name namespaceName key : String) :
    Keyed.find? (· == key) (index.insertNew name namespaceName).entries =
      Keyed.find? (fun other => lower other == key)
        (taken past ++ [(name, namespaceName)]) := by
  rw [Keyed.find?_append, ← reflects.entries]
  by_cases present : index.contains name = true
  · rw [insertNew, if_pos present]
    by_cases same : lower name = key
    · subst same
      obtain ⟨first, found⟩ := Option.isSome_iff_exists.1 present
      rw [lookup?] at found
      rw [found, Option.some_or]
    · simp [Keyed.find?, same]
  · rw [entries_insertNew_of_not_mem (mt contains_iff.2 present),
      Keyed.find?_append]
    rfl

end Reflects

@[simp]
private theorem insertNew_frozen
    (index : NamespaceIndex) (name namespaceName : String) :
    (index.insertNew name namespaceName).frozen = index.frozen := by
  rw [insertNew]
  split <;> rfl

private theorem nodup_keys_insertNew
    {index : NamespaceIndex} (once : (index.entries.map Prod.fst).Nodup)
    (name namespaceName : String) :
    ((index.insertNew name namespaceName).entries.map Prod.fst).Nodup := by
  by_cases present : index.contains name = true
  · rw [insertNew, if_pos present]
    exact once
  · have absent := mt contains_iff.2 present
    rw [entries_insertNew_of_not_mem absent, List.map_append]
    refine List.nodup_append.2 ⟨once, List.nodup_singleton _, ?_⟩
    rintro key member last lastMember rfl
    rw [List.map_singleton, List.mem_singleton] at lastMember
    rw [lastMember] at member
    exact absent member

@[simp]
private theorem closed_concat (past : List (Call × Answer)) (call : Call)
    (answer : Answer) :
    Closed (past ++ [(call, answer)]) ↔ Closed past ∨ call = .freeze := by
  simp [Closed, eq_comm]

private theorem step_add_of_frozen
    {index : NamespaceIndex} (frozen : index.frozen = true)
    (name namespaceName : String) :
    index.step (.add name namespaceName) = (index, .refused .frozen) := by
  simp [step, add, frozen]

private theorem step_add_of_not_frozen
    {index : NamespaceIndex} (notFrozen : ¬ index.frozen = true)
    (name namespaceName : String) :
    index.step (.add name namespaceName) =
      (index.insertNew name namespaceName, .done) := by
  simp [step, add, notFrozen]

namespace Reflects

variable {index : NamespaceIndex} {past : List (Call × Answer)}
  (reflects : Reflects index past)

include reflects

/-- A call that takes no entry leaves what is found as it was. -/
private theorem concat
    {next : NamespaceIndex} {call : Call} {answer : Answer}
    (nothing : taken [(call, answer)] = [])
    (entries : next.entries = index.entries)
    (frozen : next.frozen = true ↔ index.frozen = true ∨ call = .freeze) :
    Reflects next (past ++ [(call, answer)]) where
  frozen := by rw [frozen, closed_concat, reflects.frozen]
  entries := fun key => by
    simp [entries, nothing, reflects.entries]
  once := by
    rw [entries]
    exact reflects.once

/-- Every call is answered as the calls before it tell. -/
private theorem tells (call : Call) : Tells past call (index.step call).2 := by
  cases call with
  | add name namespaceName =>
      by_cases frozen : index.frozen = true
      · rw [step_add_of_frozen frozen]
        exact .refused (reflects.frozen.1 frozen)
      · rw [step_add_of_not_frozen frozen]
        exact .added (mt reflects.frozen.2 frozen)
  | freeze => exact .frozen
  | lookup name => exact reflects.tells_lookup name
  | contains probe => exact reflects.tells_contains probe
  | size =>
      rw [step, reflects.size_eq]
      exact .counted

/-- What the history tells about an index is kept by every call. -/
private theorem step (call : Call) :
    Reflects (index.step call).1
      (past ++ [(call, (index.step call).2)]) := by
  cases call with
  | add name namespaceName =>
      by_cases frozen : index.frozen = true
      · rw [step_add_of_frozen frozen]
        exact reflects.concat rfl rfl (by simp)
      · rw [step_add_of_not_frozen frozen]
        exact
          { frozen := by
              rw [insertNew_frozen, closed_concat, reflects.frozen]
              simp
            entries := fun key => by
              rw [taken_append]
              exact reflects.insertNew_entries name namespaceName key
            once := nodup_keys_insertNew reflects.once name namespaceName }
  | freeze =>
      exact reflects.concat rfl rfl (by simp [NamespaceIndex.step, freeze])
  | lookup name => exact reflects.concat rfl rfl (by simp [NamespaceIndex.step])
  | contains probe =>
      exact reflects.concat rfl rfl (by simp [NamespaceIndex.step])
  | size => exact reflects.concat rfl rfl (by simp [NamespaceIndex.step])

end Reflects

@[simp]
theorem map_fst_history (index : NamespaceIndex) (calls : List Call) :
    (index.history calls).map Prod.fst = calls := by
  induction calls generalizing index with
  | nil => rfl
  | cons call rest inductionHypothesis =>
      rw [history, List.map_cons, inductionHypothesis]

@[simp]
theorem behind_append
    (index : NamespaceIndex) (calls later : List Call) :
    index.behind (calls ++ later) = (index.behind calls).behind later :=
  List.foldl_append

/-- Along a run every answer is told by what was called and answered before. -/
private theorem Reflects.tells_of_history
    {index : NamespaceIndex} {past : List (Call × Answer)}
    (reflects : Reflects index past) {calls : List Call}
    {front back : List (Call × Answer)} {call : Call} {answer : Answer}
    (parts : index.history calls = front ++ (call, answer) :: back) :
    Tells (past ++ front) call answer := by
  induction calls generalizing index past front with
  | nil => simp [history] at parts
  | cons next rest inductionHypothesis =>
      rw [history] at parts
      cases front with
      | nil =>
          obtain ⟨head, _⟩ := List.cons.inj parts
          obtain ⟨rfl, rfl⟩ := Prod.mk.inj head
          rw [List.append_nil]
          exact reflects.tells next
      | cons first more =>
          obtain ⟨rfl, later⟩ := List.cons.inj parts
          have told := inductionHypothesis (reflects.step next) later
          rw [List.append_assoc] at told
          exact told

private theorem frozen_step
    {index : NamespaceIndex} (frozen : index.frozen = true) (call : Call) :
    (index.step call).1 = index := by
  cases call with
  | add name namespaceName => rw [step_add_of_frozen frozen]
  | freeze =>
      obtain ⟨entries, isFrozen⟩ := index
      subst frozen
      rfl
  | _ => rfl

/-- No call changes an index that is frozen. -/
private theorem frozen_behind
    {index : NamespaceIndex} (frozen : index.frozen = true)
    (calls : List Call) : index.behind calls = index := by
  induction calls with
  | nil => rfl
  | cons call rest inductionHypothesis =>
      rw [behind, List.foldl_cons, frozen_step frozen]
      exact inductionHypothesis

private theorem Reflects.behind
    {index : NamespaceIndex} {past : List (Call × Answer)}
    (reflects : Reflects index past) (calls : List Call) :
    Reflects (index.behind calls) (past ++ index.history calls) := by
  induction calls generalizing index past with
  | nil =>
      rw [history, List.append_nil]
      exact reflects
  | cons call rest inductionHypothesis =>
      have later := inductionHypothesis (reflects.step call)
      rw [List.append_assoc] at later
      exact later

private theorem frozen_behind_of_mem
    {calls : List Call} (freezes : .freeze ∈ calls) :
    (behind {} calls).frozen = true := by
  simpa [(reflects_empty.behind calls).frozen, Closed] using freezes

/-- How a new index serves the calls of a run. -/
structure Serves (calls : List Call) : Prop where
  /-- Every call has one answer. -/
  answered : (history {} calls).map Prod.fst = calls
  told :
    ∀ front call answer back,
      history {} calls = front ++ (call, answer) :: back →
        Tells front call answer
  /-- Whatever is called next is answered in the same way. -/
  ready : ∀ call, Tells (history {} calls) call ((behind {} calls).step call).2
  refuses :
    .freeze ∈ calls → ∀ name namespaceName,
      (behind {} calls).step (.add name namespaceName) =
        (behind {} calls, .refused .frozen)
  settled :
    ∀ front back, calls = front ++ back → .freeze ∈ front → ∀ name,
      ((behind {} calls).step (.lookup name)).2 =
        ((behind {} front).step (.lookup name)).2

/-- In every run of calls on a new index, additions are refused exactly after a
freeze, and every other answer is that of the entries taken before it: the first
for a name in any case is found, and each name counts once. -/
theorem serves_every_run (calls : List Call) : Serves calls where
  answered := map_fst_history {} calls
  told := fun _ _ _ _ parts => reflects_empty.tells_of_history parts
  ready := fun call => (reflects_empty.behind calls).tells call
  refuses := fun freezes name namespaceName =>
    step_add_of_frozen (frozen_behind_of_mem freezes) name namespaceName
  settled := by
    rintro front back rfl freezes name
    simp [frozen_behind (frozen_behind_of_mem freezes)]

example :
    (history {}
        [.add "Order" "A", .add "ORDER" "B", .lookup "order", .freeze,
          .add "Pet" "C", .lookup "Pet", .size]).map Prod.snd =
      [.done, .done, .found (some "A"), .done, .refused .frozen, .found none,
        .count 1] := by
  decide

end OpenApiSharp.Model.NamespaceIndex
