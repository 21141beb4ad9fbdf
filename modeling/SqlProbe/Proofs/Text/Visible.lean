import SqlProbe.Proofs.Text.Percent
import SqlProbe.Text.Blank

/-!
# Visible characters

The visible characters of ASCII. A text of them has no blanks to lose, and what is percent-encoded
consists of them.
-/

namespace SqlProbe.Text

/-- A character of ASCII that is neither a control character nor a blank. -/
def isVisible (c : Char) : Bool := 0x21 ≤ c.toNat && c.toNat ≤ 0x7E

theorem isVisible_iff {c : Char} : isVisible c = true ↔ 0x21 ≤ c.toNat ∧ c.toNat ≤ 0x7E := by
  simp only [isVisible, Bool.and_eq_true, decide_eq_true_eq]

theorem isAlphanum_iff {c : Char} : c.isAlphanum = true ↔ 65 ≤ c.toNat ∧ c.toNat ≤ 90 ∨
    97 ≤ c.toNat ∧ c.toNat ≤ 122 ∨ 48 ≤ c.toNat ∧ c.toNat ≤ 57 := by
  have lower : c.isLower = (decide (97 ≤ c.toNat) && decide (c.toNat ≤ 122)) := rfl
  have digit : c.isDigit = (decide (48 ≤ c.toNat) && decide (c.toNat ≤ 57)) := rfl
  have upper : c.isUpper = decide (65 ≤ c.toNat ∧ c.toNat ≤ 90) := rfl
  have alpha : c.isAlpha = (c.isUpper || c.isLower) := rfl
  simp only [Char.isAlphanum, alpha, lower, digit, upper, Bool.or_eq_true, Bool.and_eq_true,
    decide_eq_true_eq, or_assoc]

theorem isVisible_of_isAlphanum {c : Char} (alphanum : c.isAlphanum = true) : isVisible c = true := by
  rw [isAlphanum_iff] at alphanum
  rw [isVisible_iff]
  omega

theorem isBlank_of_isVisible {c : Char} (visible : isVisible c = true) : isBlank c = false := by
  rw [isVisible_iff] at visible
  simp only [isBlank, blankRanges, List.any_cons, List.any_nil, Bool.or_false,
    Bool.or_eq_false_iff, Bool.and_eq_false_iff, decide_eq_false_iff_not]
  omega

theorem dropWhile_of_forall {α : Type} {p : α → Bool} {l : List α} (none : ∀ a ∈ l, p a = false) :
    l.dropWhile p = l := by
  cases l with
  | nil => rfl
  | cons a l => rw [List.dropWhile_cons_of_neg (by simp [none a List.mem_cons_self])]

theorem trim_of_visible {cs : List Char} (visible : ∀ c ∈ cs, isVisible c = true) : trim cs = cs := by
  have blank : ∀ c ∈ cs, isBlank c = false := fun c member => isBlank_of_isVisible (visible c member)
  rw [trim, trimStart, trimEnd, dropWhile_of_forall blank,
    dropWhile_of_forall fun c member => blank c (List.mem_reverse.mp member), List.reverse_reverse]

/-- Visible characters in front of a text leave blanks only behind it. -/
theorem trim_append {cs : List Char} (nonempty : cs ≠ [])
    (visible : ∀ c ∈ cs, isVisible c = true) (rest : List Char) :
    trim (cs ++ rest) = cs ++ trimEnd rest := by
  have blank : ∀ c ∈ cs, isBlank c = false := fun c member => isBlank_of_isVisible (visible c member)
  have front : trimStart (cs ++ rest) = cs ++ rest := by
    obtain ⟨c, cs, rfl⟩ := List.exists_cons_of_ne_nil nonempty
    exact List.dropWhile_cons_of_neg (by simp [blank c List.mem_cons_self])
  have kept : cs.reverse.dropWhile isBlank = cs.reverse :=
    dropWhile_of_forall fun c member => blank c (List.mem_reverse.mp member)
  rw [trim, front, trimEnd, trimEnd, List.reverse_append, List.dropWhile_append, kept]
  split
  · next none => simp [List.isEmpty_iff.mp none]
  · simp

namespace Percent

/-- Where letters and digits are kept, nothing else than these and percent signs is written. -/
theorem isAlphanum_of_mem_encode {cs : List Char} {c : Char}
    (member : c ∈ encode Char.isAlphanum cs) : c.isAlphanum = true ∨ c = '%' := by
  rcases mem_encode member with ⟨-, kept⟩ | percent | ⟨n, small, rfl⟩
  · exact .inl kept
  · exact .inr percent
  · left
    clear member
    revert n
    decide

theorem not_mem_encode {cs : List Char} {c : Char} (special : c.isAlphanum = false)
    (other : c ≠ '%') : c ∉ encode Char.isAlphanum cs := fun member =>
  (isAlphanum_of_mem_encode member).elim (fun kept => absurd (kept.symm.trans special) (by decide)) other

end Percent

end SqlProbe.Text
