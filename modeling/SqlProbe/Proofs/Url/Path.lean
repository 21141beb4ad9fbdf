import Mathlib.Data.List.TakeWhile
import SqlProbe.Proofs.Text.Cut
import SqlProbe.Proofs.Text.Visible
import SqlProbe.Url.Parse

/-!
# Reading paths and queries

A path without dot segments is kept as it is written, and so is a query of characters that a query
may have. A percent-encoded segment is a dot segment only if it encodes one.
-/

namespace SqlProbe.Url

/-! ### Paths -/

/-- A segment that is neither of the dot segments. -/
def IsPlainSegment (segment : List Char) : Prop :=
  isDoubleDot segment = false ∧ isSingleDot segment = false

/-- A segment without points and percent signs is no dot segment. -/
theorem isPlainSegment_of_lower {segment : List Char}
    (free : ∀ c ∈ Text.lower segment, c ≠ '.' ∧ c ≠ '%') : IsPlainSegment segment := by
  have other {text : String} (dots : text.toList.any fun c => c = '.' || c = '%') :
      String.ofList (Text.lower segment) ≠ text := by
    rintro rfl
    rw [String.toList_ofList] at dots
    obtain ⟨c, member, special⟩ := List.any_eq_true.mp dots
    obtain ⟨point, percent⟩ := free c member
    simp [point, percent] at special
  constructor
  · simp [isDoubleDot, other]
  · simp [isSingleDot, other]

theorem resolve_of_plain {segments : List (List Char)}
    (plain : ∀ segment ∈ segments, IsPlainSegment segment) (above : List (List Char)) :
    resolve above segments = above.reverse ++ segments := by
  induction segments generalizing above with
  | nil => rw [resolve, List.append_nil]
  | cons segment segments ih =>
    obtain ⟨double, single⟩ := plain segment List.mem_cons_self
    rw [resolve, double, single, if_neg Bool.false_ne_true, if_neg Bool.false_ne_true,
      ih fun other member => plain other (List.mem_cons_of_mem _ member), List.reverse_cons,
      List.append_assoc, List.singleton_append]

/-- A path without dot segments is kept as it is written. -/
theorem pathOf_of_plain {cs : List Char}
    (plain : ∀ segment ∈ Text.splitAtChar '/' cs, IsPlainSegment segment) :
    pathOf .other ('/' :: cs) = '/' :: cs := by
  have same : (cs.map fun c => if SchemeKind.other.isSlash c then '/' else c) = cs := by
    refine (List.map_congr_left fun c _ => ?_).trans (List.map_id cs)
    by_cases slash : c = '/' <;> simp [SchemeKind.isSlash, slash]
  change '/' :: ['/'].intercalate (resolve [] (Text.splitAtChar '/'
    (cs.map fun c => if SchemeKind.other.isSlash c then '/' else c))) = _
  rw [same, resolve_of_plain plain, List.reverse_nil, List.nil_append, Text.intercalate_splitAtChar]

theorem toNat_toLower (c : Char) :
    c.toLower.toNat = if 65 ≤ c.toNat ∧ c.toNat ≤ 90 then c.toNat + 32 else c.toNat := by
  have upper : (c.val ≥ 'A'.val ∧ c.val ≤ 'Z'.val) ↔ 65 ≤ c.toNat ∧ c.toNat ≤ 90 := by
    simp only [ge_iff_le, UInt32.le_iff_toNat_le]
    rfl
  unfold Char.toLower
  simp only [upper]
  split
  · change (c.val + 32).toNat = c.val.toNat + 32
    rw [UInt32.toNat_add]
    have bound : c.val.toNat ≤ 90 := by tauto
    change (c.val.toNat + 32) % 2 ^ 32 = _
    omega
  · rfl

/-- In lower case letters and digits are letters and digits. -/
theorem isAlphanum_toLower {c : Char} (alphanum : c.isAlphanum = true) :
    c.toLower.isAlphanum = true := by
  rw [Text.isAlphanum_iff] at alphanum ⊢
  have value := toNat_toLower c
  split at value <;> omega

open Text.Percent (encodeByte hexDigit written)

theorem toLower_hexDigit {n : Nat} (small : n < 16) :
    ((hexDigit n).toLower = '2' → n = 2) ∧ ((hexDigit n).toLower = 'e' → n = 14) := by
  revert n
  decide

/-- What is written and is a percent-encoded point in lower case encodes a point. -/
theorem point_of_lower {bytes : List UInt8} {rest : List Char}
    (same : Text.lower (bytes.flatMap (written Char.isAlphanum)) = '%' :: '2' :: 'e' :: rest) :
    ∃ behind, bytes = 0x2E :: behind ∧
      Text.lower (behind.flatMap (written Char.isAlphanum)) = rest := by
  cases bytes with
  | nil => cases same
  | cons b bytes =>
    rw [List.flatMap_cons, Text.lower, List.map_append, written] at same
    split at same
    · next kept =>
      have first := (List.cons.inj same).1
      have alphanum := isAlphanum_toLower kept.2
      rw [first] at alphanum
      cases alphanum
    · simp only [encodeByte, List.map_cons, List.map_nil, List.cons_append, List.nil_append,
        List.cons.injEq] at same
      obtain ⟨-, high, low, same⟩ := same
      have bound := b.toNat_lt
      have high := (toLower_hexDigit (by omega)).1 high
      have low := (toLower_hexDigit (by omega)).2 low
      refine ⟨bytes, ?_, same⟩
      rw [show b = 0x2E from UInt8.toNat_inj.mp (show b.toNat = 46 by omega)]

theorem eq_nil_of_lower {bytes : List UInt8}
    (same : Text.lower (bytes.flatMap (written Char.isAlphanum)) = []) : bytes = [] := by
  cases bytes with
  | nil => rfl
  | cons b bytes =>
    rw [Text.lower, List.map_eq_nil_iff, List.flatMap_cons, List.append_eq_nil_iff, written] at same
    split at same <;> cases same.1

variable {cs : List Char}

theorem point_not_mem_lower : '.' ∉ Text.lower (Text.Percent.encode Char.isAlphanum cs) := by
  intro member
  obtain ⟨c, inside, same⟩ := List.mem_map.mp member
  rcases Text.Percent.isAlphanum_of_mem_encode inside with alphanum | rfl
  · have alphanum := isAlphanum_toLower alphanum
    rw [same] at alphanum
    cases alphanum
  · exact absurd same (by decide)

/-- A percent-encoded text is in lower case what a dot segment is only if it encodes that. -/
theorem isPlainSegment_encode (single : cs ≠ ['.']) (double : cs ≠ ['.', '.']) :
    IsPlainSegment (Text.Percent.encode Char.isAlphanum cs) := by
  have lower {text : String}
      (same : String.ofList (Text.lower (Text.Percent.encode Char.isAlphanum cs)) = text) :
      '.' ∉ text.toList ∧
        Text.lower ((Text.Utf8.encode cs).flatMap (written Char.isAlphanum)) = text.toList := by
    rw [← same, String.toList_ofList]
    exact ⟨point_not_mem_lower, rfl⟩
  constructor
  · refine Bool.eq_false_iff.mpr fun dots => double ?_
    simp only [isDoubleDot, List.contains_eq_mem, List.mem_cons, List.not_mem_nil, or_false,
      decide_eq_true_eq] at dots
    rcases dots with same | same | same | same
    · exact absurd (lower same).1 (by decide)
    · obtain ⟨behind, first, same⟩ := point_of_lower (lower same).2
      obtain ⟨nothing, second, same⟩ := point_of_lower same
      rw [second, eq_nil_of_lower same] at first
      exact Text.Utf8.encode_injective first
    · exact absurd (lower same).1 (by decide)
    · exact absurd (lower same).1 (by decide)
  · refine Bool.eq_false_iff.mpr fun dot => single ?_
    simp only [isSingleDot, List.contains_eq_mem, List.mem_cons, List.not_mem_nil, or_false,
      decide_eq_true_eq] at dot
    rcases dot with same | same
    · exact absurd (lower same).1 (by decide)
    · obtain ⟨nothing, first, same⟩ := point_of_lower (lower same).2
      rw [eq_nil_of_lower same] at first
      exact Text.Utf8.encode_injective first

/-! ### Queries -/

/-- A query behind a path. -/
def queryText : Option (List Char) → List Char
  | none => []
  | some query => '?' :: query

/-- Path and query come apart at the question mark. -/
theorem pathAndQuery_append {kind : SchemeKind} {path : List Char} {query : Option (List Char)}
    (free : ∀ c ∈ path, c ≠ '?' ∧ c ≠ '#')
    (kept : ∀ text, query = some text → ∀ c ∈ text, c.toNat < 0x80 ∧ isQueryChar c = true) :
    pathAndQuery kind (path ++ queryText query) = (pathOf kind path, query) := by
  have inside : ∀ c ∈ path, (c != '?' && c != '#') = true := fun c member => by simp [free c member]
  have stop : ∀ c ∈ (queryText query).head?, (c != '?' && c != '#') = false := by
    cases query with
    | none => simp [queryText]
    | some => simp [queryText]
  rw [pathAndQuery, Text.span_append inside stop]
  cases query with
  | none => simp [queryText]
  | some text =>
    have whole : text.takeWhile (· != '#') = text := by
      refine List.takeWhile_eq_self_iff.mpr fun c member => ?_
      have kept := (kept text rfl c member).2
      rw [bne_iff_ne]
      rintro rfl
      exact absurd kept (by decide)
    have same := Text.Percent.encode_of_kept (kept text rfl)
    simp [queryText, whole, same]

end SqlProbe.Url
