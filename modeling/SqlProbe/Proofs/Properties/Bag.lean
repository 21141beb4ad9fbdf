import Mathlib.Data.List.Pairwise
import Mathlib.Data.List.Perm.Basic
import SqlProbe.Properties.Basic

/-!
# What a bag of properties holds

Setting a property puts its entry beside those whose names are other letters, so a bag that is set
from a list holds the list itself as long as no two of its names are the same letters. Maps are
determined by what they give for each key.
-/

namespace SqlProbe

namespace Text.SameLetters

theorem symm {a b : String} (same : SameLetters a b) : SameLetters b a := Eq.symm same

theorem trans {a b c : String} (same : SameLetters a b) (other : SameLetters b c) :
    SameLetters a c := Eq.trans same other

end Text.SameLetters

namespace SortedMap

variable {α : Type}

theorem place_perm {key : String} {l : List (String × α)} (absent : ∀ entry ∈ l, entry.1 ≠ key)
    (value : α) : (place key value l).Perm ((key, value) :: l) := by
  induction l with
  | nil => exact .refl _
  | cons head rest ih =>
    rw [place]
    split
    · exact .refl _
    split
    · next same => exact absurd same.symm (absent head List.mem_cons_self)
    · exact ((ih fun entry member => absent entry (List.mem_cons_of_mem _ member)).cons head).trans
        (.swap ..)

/-- A map is determined by its entries, in whatever order they are named. -/
theorem eq_of_perm {a b : SortedMap α} (perm : a.entries.Perm b.entries) : a = b := by
  obtain ⟨as, aSorted⟩ := a
  obtain ⟨bs, bSorted⟩ := b
  have same : as = bs := perm.eq_of_pairwise
    (fun _ _ _ _ one other => absurd (String.lt_trans one other) (String.lt_irrefl _)) aSorted bSorted
  subst same
  rfl

theorem get?_place (key : String) (value : α) (l : List (String × α)) (wanted : String) :
    ((place key value l).find? fun entry => entry.1 == wanted).map (·.2) =
      if key = wanted then some value else (l.find? fun entry => entry.1 == wanted).map (·.2) := by
  induction l with
  | nil => by_cases same : key = wanted <;> simp [place, same]
  | cons head rest ih =>
    rw [place]
    split
    · by_cases same : key = wanted <;> simp [same]
    split
    · next here => by_cases same : key = wanted <;> simp [← here, same]
    · next other =>
      by_cases found : head.1 = wanted
      · simp [found, show key ≠ wanted from found ▸ other]
      · simpa [List.find?_cons, found] using ih

theorem get?_insert (map : SortedMap α) (key : String) (value : α) (wanted : String) :
    (map.insert key value).get? wanted = if key = wanted then some value else map.get? wanted :=
  get?_place key value map.entries wanted

theorem keys_apart (map : SortedMap α) : map.entries.Pairwise fun a b => a.1 ≠ b.1 := by
  refine map.sorted.imp ?_
  intro a b before same
  rw [same] at before
  exact String.lt_irrefl _ before

theorem nodup (map : SortedMap α) : map.entries.Nodup :=
  map.keys_apart.imp fun apart same => apart (congrArg Prod.fst same)

theorem get?_eq_some_iff {map : SortedMap α} {key : String} {value : α} :
    map.get? key = some value ↔ (key, value) ∈ map.entries := by
  have : Std.Symm fun a b : String × α => a.1 ≠ b.1 := ⟨fun _ _ => Ne.symm⟩
  rw [get?, Option.map_eq_some_iff]
  constructor
  · rintro ⟨⟨found, value⟩, here, rfl⟩
    obtain rfl : found = key := by simpa using List.find?_some here
    exact List.mem_of_find?_eq_some here
  · intro member
    cases here : map.entries.find? fun entry => entry.1 == key with
    | none =>
      have missing := List.find?_eq_none.mp here _ member
      simp at missing
    | some found =>
      have same : found.1 = key := by simpa using List.find?_some here
      have inside := List.mem_of_find?_eq_some here
      refine ⟨found, rfl, ?_⟩
      by_contra different
      refine map.keys_apart.forall inside member (fun equal => different ?_) same
      rw [equal]

/-- A map is determined by what it gives for each key. -/
theorem eq_of_get? {a b : SortedMap α} (same : ∀ key, a.get? key = b.get? key) : a = b := by
  refine eq_of_perm ((List.perm_ext_iff_of_nodup a.nodup b.nodup).mpr fun entry => ?_)
  rw [← get?_eq_some_iff, ← get?_eq_some_iff, same]

end SortedMap

namespace Properties

theorem ext {a b : Properties} (same : a.entries = b.entries) : a = b := by
  obtain ⟨⟨as, _⟩, _⟩ := a
  obtain ⟨⟨bs, _⟩, _⟩ := b
  cases same
  rfl

/-- A bag holds one property for the same letters. -/
theorem eq_of_sameLetters {bag : Properties} {a b : String × String} (one : a ∈ bag.entries)
    (other : b ∈ bag.entries) (same : Text.SameLetters a.1 b.1) : a = b := by
  by_contra different
  have : Std.Symm fun a b : String × String => ¬ Text.SameLetters a.1 b.1 :=
    ⟨fun _ _ => mt Text.SameLetters.symm⟩
  exact bag.distinct.forall one other different same

/-- The properties whose names are other letters than those of some given ones. -/
def besides (others : List (String × String)) (l : List (String × String)) :
    List (String × String) :=
  l.filter fun entry => others.all fun other => !decide (Text.SameLetters entry.1 other.1)

theorem entries_set_perm (bag : Properties) (key value : String) :
    (bag.set key value).entries.Perm ((key, value) :: besides [(key, value)] bag.entries) := by
  have others : bag.entries.eraseP (fun entry => decide (Text.SameLetters entry.1 key)) =
      besides [(key, value)] bag.entries := by
    rw [entries, eraseP_eq_filter bag.distinct]
    simp [besides]
  rw [← others]
  refine SortedMap.place_perm ?_ value
  rintro entry member rfl
  have kept : entry ∈ besides [(entry.1, value)] bag.entries := by
    rw [← others]
    exact member
  simpa [besides, Text.SameLetters] using (List.mem_filter.mp kept).2

theorem besides_cons (other : String × String) (others l : List (String × String)) :
    besides (other :: others) l = besides others (besides [other] l) := by
  simp only [besides, List.filter_filter, List.all_cons, List.all_nil, Bool.and_true]
  exact List.filter_congr fun entry _ => Bool.and_comm ..

/-- Setting properties with pairwise different letters puts them in the place of those that have
their letters. -/
theorem entries_foldl_set_perm {l : List (String × String)}
    (distinct : l.Pairwise fun a b => ¬ Text.SameLetters a.1 b.1) (bag : Properties) :
    (l.foldl (fun bag entry => bag.set entry.1 entry.2) bag).entries.Perm
      (besides l bag.entries ++ l) := by
  induction l generalizing bag with
  | nil => simp [besides]
  | cons entry rest ih =>
    obtain ⟨apart, distinct⟩ := List.pairwise_cons.mp distinct
    have kept : besides rest (entry :: besides [entry] bag.entries) =
        entry :: besides (entry :: rest) bag.entries := by
      rw [besides_cons entry rest]
      refine List.filter_cons_of_pos (List.all_eq_true.mpr fun later inside => ?_)
      simpa using apart later inside
    have placed := (entries_set_perm bag entry.1 entry.2).filter fun entry =>
      rest.all fun other => !decide (Text.SameLetters entry.1 other.1)
    calc ((entry :: rest).foldl (fun bag entry => bag.set entry.1 entry.2) bag).entries
      _ |>.Perm (besides rest (bag.set entry.1 entry.2).entries ++ rest) := ih distinct _
      _ |>.Perm (besides rest (entry :: besides [entry] bag.entries) ++ rest) := placed.append_right _
      _ = entry :: besides (entry :: rest) bag.entries ++ rest := by rw [kept]
      _ |>.Perm (besides (entry :: rest) bag.entries ++ entry :: rest) := List.perm_middle.symm

theorem entries_ofList_perm {l : List (String × String)}
    (distinct : l.Pairwise fun a b => ¬ Text.SameLetters a.1 b.1) : (ofList l).entries.Perm l :=
  entries_foldl_set_perm distinct empty

theorem mem_entries_set {bag : Properties} {key value : String} {entry : String × String}
    (member : entry ∈ (bag.set key value).entries) : entry = (key, value) ∨ entry ∈ bag.entries := by
  rcases List.mem_cons.mp ((entries_set_perm bag key value).mem_iff.mp member) with same | other
  · exact .inl same
  · exact .inr (List.mem_filter.mp other).1

theorem mem_of_mem_entries_ofList {l : List (String × String)} {entry : String × String}
    (member : entry ∈ (ofList l).entries) : entry ∈ l := by
  have split (bag : Properties) (later : entry ∈ (l.foldl (fun bag entry =>
      bag.set entry.1 entry.2) bag).entries) : entry ∈ bag.entries ∨ entry ∈ l := by
    clear member
    induction l generalizing bag with
    | nil => exact .inl later
    | cons head l ih =>
      rcases ih (bag.set head.1 head.2) later with inside | inside
      · rcases mem_entries_set inside with same | inside
        · exact .inr (same ▸ List.mem_cons_self)
        · exact .inl inside
      · exact .inr (List.mem_cons_of_mem _ inside)
  exact (split empty member).resolve_left List.not_mem_nil

end Properties

end SqlProbe
