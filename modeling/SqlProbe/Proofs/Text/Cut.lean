import Mathlib.Data.List.TakeDrop
import SqlProbe.Text.Cut

/-!
# Cutting joined texts

A text cut at a mark falls into what was joined with that mark, wherever the parts are free of it,
and every part of a text that is cut stands in the text as it is. A run of characters of one kind
ends where the first character of another kind stands.
-/

namespace SqlProbe.Text

variable {mark : Char}

theorem cutAt?_append_cons {before : List Char} (free : mark ∉ before) (behind : List Char) :
    cutAt? mark (before ++ mark :: behind) = some (before, behind) := by
  induction before with
  | nil => simp [cutAt?]
  | cons c before ih =>
    obtain ⟨other, free⟩ := not_or.mp (mt List.mem_cons.mpr free)
    rw [List.cons_append, cutAt?, if_neg (Ne.symm other), ih free]
    rfl

theorem cutAt?_eq_none {cs : List Char} (free : mark ∉ cs) : cutAt? mark cs = none := by
  induction cs with
  | nil => rfl
  | cons c cs ih =>
    obtain ⟨other, free⟩ := not_or.mp (mt List.mem_cons.mpr free)
    rw [cutAt?, if_neg (Ne.symm other), ih free]
    rfl

theorem eq_append_of_cutAt? {cs before behind : List Char}
    (cut : cutAt? mark cs = some (before, behind)) : cs = before ++ mark :: behind := by
  induction cs generalizing before with
  | nil => cases cut
  | cons c cs ih =>
    rw [cutAt?] at cut
    split at cut
    · next same =>
      cases cut
      rw [same, List.nil_append]
    · obtain ⟨⟨before', behind'⟩, inner, same⟩ := Option.map_eq_some_iff.mp cut
      cases same
      rw [ih inner, List.cons_append]

theorem not_mem_of_cutAt? {cs before behind : List Char}
    (cut : cutAt? mark cs = some (before, behind)) : mark ∉ before := by
  intro member
  obtain ⟨as, bs, same, free⟩ := List.eq_append_cons_of_mem member
  rw [eq_append_of_cutAt? cut, same, List.append_assoc, List.cons_append,
    cutAt?_append_cons free] at cut
  have short : as = as ++ mark :: bs := (Prod.mk.inj (Option.some.inj cut)).1
  exact List.cons_ne_nil _ _ (List.self_eq_append_right.mp short)

theorem not_mem_of_cutAt?_eq_none {cs : List Char} (none : cutAt? mark cs = none) : mark ∉ cs := by
  intro member
  obtain ⟨before, behind, rfl, free⟩ := List.eq_append_cons_of_mem member
  rw [cutAt?_append_cons free] at none
  contradiction

theorem eq_append_of_cutAtLast? {cs before behind : List Char}
    (cut : cutAtLast? mark cs = some (before, behind)) : cs = before ++ mark :: behind := by
  obtain ⟨⟨after, head⟩, inner, same⟩ := Option.map_eq_some_iff.mp cut
  cases same
  rw [← List.reverse_reverse cs, eq_append_of_cutAt? inner]
  simp

theorem cutAtLast?_append_cons (before : List Char) {behind : List Char} (free : mark ∉ behind) :
    cutAtLast? mark (before ++ mark :: behind) = some (before, behind) := by
  have reversed : (before ++ mark :: behind).reverse = behind.reverse ++ mark :: before.reverse := by
    simp
  rw [cutAtLast?, reversed, cutAt?_append_cons (mt List.mem_reverse.mp free)]
  simp

theorem cutAtLast?_eq_none {cs : List Char} (free : mark ∉ cs) : cutAtLast? mark cs = none := by
  rw [cutAtLast?, cutAt?_eq_none (mt List.mem_reverse.mp free)]
  rfl

theorem exists_splitAtChar (mark : Char) (cs : List Char) :
    ∃ head tail, splitAtChar mark cs = head :: tail := by
  cases cs with
  | nil => exact ⟨[], [], rfl⟩
  | cons c cs =>
    rw [splitAtChar]
    split
    · exact ⟨_, _, rfl⟩
    · split <;> exact ⟨_, _, rfl⟩

theorem splitAtChar_of_not_mem {cs : List Char} (free : mark ∉ cs) : splitAtChar mark cs = [cs] := by
  induction cs with
  | nil => rfl
  | cons c cs ih =>
    obtain ⟨other, free⟩ := not_or.mp (mt List.mem_cons.mpr free)
    rw [splitAtChar, if_neg (Ne.symm other), ih free]

theorem splitAtChar_append_cons (as bs : List Char) :
    splitAtChar mark (as ++ mark :: bs) = splitAtChar mark as ++ splitAtChar mark bs := by
  induction as with
  | nil => simp [splitAtChar]
  | cons a as ih =>
    rw [List.cons_append, splitAtChar, splitAtChar, ih]
    split
    · rfl
    · obtain ⟨head, tail, parts⟩ := exists_splitAtChar mark as
      rw [parts]
      rfl

theorem splitAtChar_intercalate {texts : List (List Char)} (nonempty : texts ≠ []) :
    splitAtChar mark ([mark].intercalate texts) = texts.flatMap (splitAtChar mark) := by
  induction texts with
  | nil => contradiction
  | cons text texts ih =>
    cases texts with
    | nil => simp [List.intercalate]
    | cons next texts =>
      rw [List.intercalate_cons_cons, List.append_assoc, List.singleton_append,
        splitAtChar_append_cons, ih (List.cons_ne_nil _ _), ← List.flatMap_cons]

theorem intercalate_splitAtChar (cs : List Char) : [mark].intercalate (splitAtChar mark cs) = cs := by
  induction cs with
  | nil => rfl
  | cons c cs ih =>
    obtain ⟨head, tail, parts⟩ := exists_splitAtChar mark cs
    rw [parts] at ih
    rw [splitAtChar, parts]
    split
    · next same =>
      rw [List.intercalate_cons_cons, ih, same]
      rfl
    · cases tail with
      | nil => simpa [List.intercalate] using ih
      | cons next tail =>
        rw [List.intercalate_cons_cons] at ih ⊢
        rw [← ih, List.cons_append, List.cons_append]

/-- What stands between two texts, free of the mark, falls into one part with the last of what is
before it and the first of what is behind it. -/
theorem exists_splitAtChar_around (front behind : List Char) :
    ∃ before last first after, ∀ middle, mark ∉ middle →
      splitAtChar mark (front ++ (middle ++ behind)) =
        before ++ (last ++ (middle ++ first)) :: after := by
  induction front with
  | nil =>
    obtain ⟨first, after, parts⟩ := exists_splitAtChar mark behind
    refine ⟨[], [], first, after, fun middle free => ?_⟩
    induction middle with
    | nil => exact parts
    | cons c middle ih =>
      obtain ⟨other, free⟩ := not_or.mp (mt List.mem_cons.mpr free)
      have inner : splitAtChar mark (middle ++ behind) = (middle ++ first) :: after := ih free
      change splitAtChar mark (c :: (middle ++ behind)) = (c :: (middle ++ first)) :: after
      rw [splitAtChar, if_neg (Ne.symm other), inner]
  | cons c front ih =>
    obtain ⟨before, last, first, after, parts⟩ := ih
    by_cases same : c = mark
    · refine ⟨[] :: before, last, first, after, fun middle free => ?_⟩
      rw [List.cons_append, splitAtChar, if_pos same, parts middle free, List.cons_append]
    · cases before with
      | nil =>
        refine ⟨[], c :: last, first, after, fun middle free => ?_⟩
        rw [List.cons_append, splitAtChar, if_neg same, parts middle free]
        rfl
      | cons head before =>
        refine ⟨(c :: head) :: before, last, first, after, fun middle free => ?_⟩
        rw [List.cons_append, splitAtChar, if_neg same, parts middle free]
        rfl

/-- A part of a text stands in it and is free of the mark. -/
theorem exists_of_mem_splitAtChar {part cs : List Char} (member : part ∈ splitAtChar mark cs) :
    mark ∉ part ∧ ∃ before behind, cs = before ++ (part ++ behind) := by
  by_cases marked : mark ∈ cs
  · obtain ⟨as, bs, same, free⟩ := List.eq_append_cons_of_mem marked
    rw [same, splitAtChar_append_cons, splitAtChar_of_not_mem free] at member
    rcases List.mem_cons.mp member with rfl | member
    · exact ⟨free, [], mark :: bs, same⟩
    · obtain ⟨free, before, behind, inner⟩ := exists_of_mem_splitAtChar member
      exact ⟨free, as ++ mark :: before, behind, by simp [same, inner]⟩
  · rw [splitAtChar_of_not_mem marked] at member
    obtain rfl := List.mem_singleton.mp member
    exact ⟨marked, [], [], by simp⟩
  termination_by cs.length
  decreasing_by simp only [same, List.length_append, List.length_cons]; omega

/-- A run ends at the first character that is not of its kind. -/
theorem span_append {kind : Char → Bool} {front rest : List Char}
    (inside : ∀ c ∈ front, kind c = true) (stop : ∀ c ∈ rest.head?, kind c = false) :
    (front ++ rest).span kind = (front, rest) := by
  have behind : rest.takeWhile kind = [] ∧ rest.dropWhile kind = rest := by
    cases rest with
    | nil => exact ⟨rfl, rfl⟩
    | cons c cs =>
      have other := Bool.eq_false_iff.mp (stop c rfl)
      exact ⟨List.takeWhile_cons_of_neg other, List.dropWhile_cons_of_neg other⟩
  rw [List.span_eq_takeWhile_dropWhile, List.takeWhile_append_of_pos inside,
    List.dropWhile_append_of_pos inside, behind.1, behind.2, List.append_nil]

theorem replaceChar_of_not_mem {old new : Char} {cs : List Char} (free : old ∉ cs) :
    replaceChar old new cs = cs := by
  refine (List.map_congr_left fun c member => ?_).trans (List.map_id cs)
  exact if_neg (ne_of_mem_of_not_mem member free)

end SqlProbe.Text
