import Mathlib.Data.List.Lex
import Mathlib.Data.Prod.Lex
import Mathlib.Data.String.Basic
import SqlProbe.Proofs.Properties.Bag
import SqlProbe.Properties.Apply

/-!
# The order in which properties are applied

Properties stand in the order of rank, recognized name and key, which is linear. So the order of a
bag is the only one of its entries that keeps to it, and leaving properties out leaves the others in
their order.
-/

namespace SqlProbe.Properties

/-- The place of a property. -/
def place (entry : String × String) : ℕ ×ₗ (String ×ₗ String) :=
  toLex (rank (normalize entry.1), toLex (normalize entry.1, entry.1))

theorem place_le_iff {a b : String × String} : place a ≤ place b ↔
    rank (normalize a.1) < rank (normalize b.1) ∨ rank (normalize a.1) = rank (normalize b.1) ∧
      (normalize a.1 < normalize b.1 ∨ normalize a.1 = normalize b.1 ∧ a.1 ≤ b.1) := by
  simp only [place, Prod.Lex.le_iff, ofLex_toLex]

theorem appliedBefore_iff {a b : String × String} : appliedBefore a b = true ↔ place a ≤ place b := by
  simp only [place_le_iff, appliedBefore, Bool.or_eq_true, Bool.and_eq_true, decide_eq_true_eq,
    beq_iff_eq, Bool.not_eq_true', decide_eq_false_iff_not, String.not_lt]

theorem fst_eq_of_place_eq {a b : String × String} (same : place a = place b) : a.1 = b.1 :=
  congrArg (fun place => (ofLex (ofLex place).2).2) same

theorem ordered_perm (bag : Properties) : bag.ordered.Perm bag.entries := List.mergeSort_perm ..

theorem ordered_pairwise (bag : Properties) :
    bag.ordered.Pairwise fun a b => place a ≤ place b := by
  refine (List.pairwise_mergeSort ?_ ?_ bag.entries).imp appliedBefore_iff.mp
  · intro a b c
    simp only [appliedBefore_iff]
    exact le_trans
  · intro a b
    simp only [Bool.or_eq_true, appliedBefore_iff]
    exact le_total ..

/-- The order of a bag is the only one of its properties in which each has its place. -/
theorem ordered_eq {bag : Properties} {l : List (String × String)} (perm : l.Perm bag.entries)
    (placed : l.Pairwise fun a b => place a ≤ place b) : bag.ordered = l := by
  refine (bag.ordered_perm.trans perm.symm).eq_of_pairwise ?_ bag.ordered_pairwise placed
  intro a b one other before behind
  have key := fst_eq_of_place_eq (le_antisymm before behind)
  exact eq_of_sameLetters (bag.ordered_perm.mem_iff.mp one) (perm.mem_iff.mp other)
    (congrArg (fun key : String => Text.lower key.toList) key)

/-- Leaving properties out leaves the others in their order. -/
theorem ordered_of_filter {bag part : Properties} {keep : String × String → Bool}
    (perm : part.entries.Perm (bag.entries.filter keep)) :
    part.ordered = bag.ordered.filter keep :=
  ordered_eq ((bag.ordered_perm.filter keep).trans perm.symm)
    (bag.ordered_pairwise.sublist List.filter_sublist)

end SqlProbe.Properties
