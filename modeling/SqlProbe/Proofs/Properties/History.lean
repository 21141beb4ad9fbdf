import Mathlib.Data.Finset.Card
import SqlProbe.Proofs.Properties.Query

/-!
# Bags and their histories

A bag is made by setting properties one after the other, and what it holds is told by that history
alone: for each name, whatever its case, the last property that was set under it. Setting a property
drops the one of the same letters and no other, so one step keeps this up, and with it every history.
A query is such a history too: what its pairs are read as, in turn.
-/

namespace SqlProbe.Properties

open Text (SameLetters)

/-- The letters of a property's name. -/
def letters (entry : String × String) : List Char := Text.lower entry.1.toList

/-- The last of some properties whose name is a name up to case. -/
def lastSet? (sets : List (String × String)) (key : String) : Option (String × String) :=
  (sets.filter fun entry => decide (SameLetters entry.1 key)).getLast?

/-- The bag holds what a history of properties leaves. -/
structure Outcome (sets : List (String × String)) (bag : Properties) : Prop where
  /-- No two names differ in case alone. -/
  apart : bag.entries.Pairwise fun a b => ¬ SameLetters a.1 b.1
  /-- A name in any case has the value that was last set for it, and no other name has one. -/
  get?_eq : ∀ key, bag.get? key = (lastSet? sets key).map Prod.snd
  /-- The bag has as many properties as different names were set. -/
  size_eq : bag.size = (sets.map letters).toFinset.card
  /-- The properties of the bag are those that were set last, as they were spelled then. -/
  mem_iff : ∀ entry, entry ∈ bag.entries ↔ lastSet? sets entry.1 = some entry
  /-- The properties are listed in the order of the bytes of their names. -/
  ordered : bag.entries.Pairwise fun a b =>
    Text.Utf8.encode a.1.toList < Text.Utf8.encode b.1.toList

/-! ### The last property of a name -/

theorem lastSet?_congr {key other : String} (same : SameLetters key other)
    (sets : List (String × String)) : lastSet? sets key = lastSet? sets other := by
  have each (entry : String × String) : SameLetters entry.1 key ↔ SameLetters entry.1 other :=
    ⟨fun near => near.trans same, fun near => near.trans same.symm⟩
  simp only [lastSet?, each]

theorem lastSet?_concat (sets : List (String × String)) (entry : String × String) (key : String) :
    lastSet? (sets ++ [entry]) key =
      if SameLetters entry.1 key then some entry else lastSet? sets key := by
  rw [lastSet?, List.filter_append]
  by_cases same : SameLetters entry.1 key
  · simp [same]
  · simp [lastSet?, same]

theorem sameLetters_of_lastSet? {sets : List (String × String)} {key : String}
    {entry : String × String} (last : lastSet? sets key = some entry) :
    entry ∈ sets ∧ SameLetters entry.1 key := by
  obtain ⟨inside, same⟩ := List.mem_filter.mp (List.mem_of_getLast? last)
  exact ⟨inside, of_decide_eq_true same⟩

theorem exists_lastSet? {sets : List (String × String)} {entry : String × String}
    (inside : entry ∈ sets) : ∃ last, lastSet? sets entry.1 = some last := by
  apply Option.isSome_iff_exists.mp
  rw [lastSet?, List.getLast?_isSome]
  apply List.ne_nil_of_mem
  exact List.mem_filter.mpr ⟨inside, decide_eq_true rfl⟩

/-! ### One step -/

theorem mem_set_iff {bag : Properties} {key value : String} {entry : String × String} :
    entry ∈ (bag.set key value).entries ↔
      entry = (key, value) ∨ entry ∈ bag.entries ∧ ¬ SameLetters entry.1 key := by
  rw [(entries_set_perm bag key value).mem_iff]
  simp [besides]

/-- The properties of the bag are the last ones of a history. -/
def Holds (sets : List (String × String)) (bag : Properties) : Prop :=
  ∀ entry, entry ∈ bag.entries ↔ lastSet? sets entry.1 = some entry

theorem Holds.empty : Holds [] Properties.empty := by
  intro entry
  constructor
  · intro member
    cases member
  · intro last
    cases last

theorem Holds.set {sets : List (String × String)} {bag : Properties} (holds : Holds sets bag)
    (key value : String) : Holds (sets ++ [(key, value)]) (bag.set key value) := by
  intro entry
  rw [mem_set_iff, holds, lastSet?_concat]
  by_cases same : SameLetters key entry.1
  · simp [same, same.symm, eq_comm]
  · have other : entry ≠ (key, value) := by
      rintro rfl
      exact same rfl
    simp [same, other, show ¬ SameLetters entry.1 key from mt SameLetters.symm same]

/-! ### Whole histories -/

theorem Holds.foldl_set {sets : List (String × String)} {bag : Properties} (holds : Holds sets bag)
    (later : List (String × String)) :
    Holds (sets ++ later) (later.foldl (fun bag entry => bag.set entry.1 entry.2) bag) := by
  induction later generalizing sets bag with
  | nil => simpa using holds
  | cons entry later ih => simpa using ih (holds.set entry.1 entry.2)

theorem Holds.ofList (sets : List (String × String)) : Holds sets (ofList sets) :=
  Holds.empty.foldl_set sets

theorem get?_of_mem {bag : Properties} {entry : String × String} {key : String}
    (member : entry ∈ bag.entries) (same : SameLetters entry.1 key) :
    bag.get? key = some entry.2 := by
  rw [get?]
  cases found : bag.entries.find? fun entry => decide (SameLetters entry.1 key) with
  | none => exact absurd (decide_eq_true same) (List.find?_eq_none.mp found entry member)
  | some other =>
    have named : SameLetters other.1 key := by simpa using List.find?_some found
    have one := eq_of_sameLetters (List.mem_of_find?_eq_some found) member
      (named.trans same.symm)
    rw [one, Option.map_some]

theorem Holds.get?_eq {sets : List (String × String)} {bag : Properties} (holds : Holds sets bag)
    (key : String) : bag.get? key = (lastSet? sets key).map Prod.snd := by
  cases last : lastSet? sets key with
  | some entry =>
    obtain ⟨-, same⟩ := sameLetters_of_lastSet? last
    apply get?_of_mem _ same
    rw [holds, lastSet?_congr same, last]
  | none =>
    have absent : ∀ entry ∈ bag.entries, ¬ SameLetters entry.1 key := by
      intro entry member same
      rw [holds, lastSet?_congr same, last] at member
      cases member
    have found : bag.entries.find? (fun entry => decide (SameLetters entry.1 key)) = none := by
      apply List.find?_eq_none.mpr
      simpa using absent
    simp [get?, found]

theorem Holds.size_eq {sets : List (String × String)} {bag : Properties} (holds : Holds sets bag) :
    bag.size = (sets.map letters).toFinset.card := by
  have once : (bag.entries.map letters).Nodup := List.pairwise_map.mpr bag.distinct
  have same : (bag.entries.map letters).toFinset = (sets.map letters).toFinset := by
    ext name
    simp only [List.mem_toFinset, List.mem_map]
    constructor
    · rintro ⟨entry, member, rfl⟩
      obtain ⟨inside, -⟩ := sameLetters_of_lastSet? ((holds entry).mp member)
      exact ⟨entry, inside, rfl⟩
    · rintro ⟨entry, inside, rfl⟩
      obtain ⟨last, found⟩ := exists_lastSet? inside
      obtain ⟨-, named⟩ := sameLetters_of_lastSet? found
      refine ⟨last, (holds last).mpr ?_, named⟩
      rw [lastSet?_congr named, found]
  rw [← same, List.toFinset_card_of_nodup once, List.length_map]
  rfl

theorem Holds.outcome {sets : List (String × String)} {bag : Properties} (holds : Holds sets bag) :
    Outcome sets bag where
  apart := bag.distinct
  get?_eq := holds.get?_eq
  size_eq := holds.size_eq
  mem_iff := holds
  ordered := bag.map.sorted.imp Text.Utf8.encode_lt_encode

/-- A bag is the map, up to the case of letters, that its history leaves: one that was set from
nothing, and one that a query was read as, with whatever was set behind that. -/
theorem outcome_of_history :
    (∀ sets, Outcome sets (ofList sets)) ∧
    ∀ query bag, parseQuery query = .ok bag → ∃ read, List.Forall₂ Reads (pairsOf query) read ∧
      ∀ later : List (String × String),
        Outcome (read ++ later) (later.foldl (fun bag entry => bag.set entry.1 entry.2) bag) := by
  constructor
  · intro sets
    exact (Holds.ofList sets).outcome
  · intro query bag parsed
    obtain ⟨read, reads, rfl⟩ := parseQuery_eq_ok_iff.mp parsed
    refine ⟨read, reads, fun later => ?_⟩
    exact ((Holds.ofList read).foldl_set later).outcome

/-- A query that names one property in two cases, and a third spelling of another set behind it. -/
theorem outcome_of_history_respelled :
    let query := "useSSL=true&user=te%40st&USESSL=false&flag"
    let bag := ofList [("useSSL", "true"), ("user", "te@st"), ("USESSL", "false"), ("flag", "")]
    parseQuery query = .ok bag ∧ ∃ read, List.Forall₂ Reads (pairsOf query) read ∧
      Outcome (read ++ [("User", "x y")]) (bag.set "User" "x y") := by
  intro query bag
  have reads : List.Forall₂ Reads (pairsOf query)
      [("useSSL", "true"), ("user", "te@st"), ("USESSL", "false"), ("flag", "")] := by decide +kernel
  have parsed : parseQuery query = .ok bag := parseQuery_eq_ok_iff.mpr ⟨_, reads, rfl⟩
  obtain ⟨read, same, outcome⟩ := outcome_of_history.2 query bag parsed
  exact ⟨parsed, read, same, outcome [("User", "x y")]⟩

end SqlProbe.Properties
