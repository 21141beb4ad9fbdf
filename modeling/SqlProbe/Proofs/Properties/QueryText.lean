import Mathlib.Logic.Relation
import SqlProbe.Proofs.Properties.Query
import SqlProbe.Proofs.Text.Visible

/-!
# Query strings there and back

A bag is written as a query with all but letters and digits percent-encoded, so no name and no value
has a character that the reader cuts at. Reading gives the bag again, whatever the order of the pairs.
A query may be written more loosely: an ampersand more makes an empty pair, which is ignored, and a
plus sign does for an encoded blank. Neither changes what any query is read as, so no number of such
changes does.
-/

namespace SqlProbe.Properties

open Text (replaceChar splitAtChar)

/-- A name or a value with everything but ASCII letters and digits encoded. -/
def partText (s : String) : List Char := Text.Percent.encode Char.isAlphanum s.toList

/-- A property as a pair of a query. -/
def pairText (entry : String × String) : List Char :=
  partText entry.1 ++ '=' :: partText entry.2

/-- Properties as a query. -/
def queryText (entries : List (String × String)) : List Char :=
  ['&'].intercalate (entries.map pairText)

/-- The second query is the first with one empty pair put in, or with a plus sign for one encoded
blank. -/
inductive Loosens : List Char → List Char → Prop
  | leading (query : List Char) : Loosens query (['&'] ++ query)
  | trailing (query : List Char) : Loosens query (query ++ ['&'])
  | doubled (before behind : List Char) :
    Loosens (before ++ ['&'] ++ behind) (before ++ ['&', '&'] ++ behind)
  | plus (front behind : List Char) :
    Loosens (front ++ (['%', '2', '0'] ++ behind)) (front ++ (['+'] ++ behind))

/-! ### Looser queries -/

/-- The pairs of a text that are not empty. -/
def pairsIn (text : List Char) : List (List Char) := (splitAtChar '&' text).filter (· ≠ [])

theorem pairsOf_ofList (text : List Char) : pairsOf (String.ofList text) = pairsIn text := by
  rw [pairsOf, String.toList_ofList]
  rfl

theorem pairsIn_append (before behind : List Char) :
    pairsIn (before ++ '&' :: behind) = pairsIn before ++ pairsIn behind := by
  rw [pairsIn, Text.splitAtChar_append_cons, List.filter_append]
  rfl

theorem decodePart_blank (front behind : List Char) :
    decodePart (front ++ (['%', '2', '0'] ++ behind)) = decodePart (front ++ (['+'] ++ behind)) := by
  have escape : Text.Utf8.encode (replaceChar '+' ' ' (front ++ (['%', '2', '0'] ++ behind))) =
      Text.Utf8.encode (replaceChar '+' ' ' front) ++ 0x25 :: 0x32 :: 0x30 ::
        Text.Utf8.encode (replaceChar '+' ' ' behind) := by
    simp only [replaceChar, List.map_append, Text.Utf8.encode_append]
    rfl
  have plus : Text.Utf8.encode (replaceChar '+' ' ' (front ++ (['+'] ++ behind))) =
      Text.Utf8.encode (replaceChar '+' ' ' front) ++ 0x20 ::
        Text.Utf8.encode (replaceChar '+' ' ' behind) := by
    simp only [replaceChar, List.map_append, Text.Utf8.encode_append]
    rfl
  simp only [decodePart, Text.Percent.decode, escape, plus, Text.Percent.decodeBytes_blank]

/-- The equals sign that a pair is cut at stands before the blank, or behind it, or nowhere; the
blank is in one part in any case. -/
theorem reads_blank_iff (front behind : List Char) (entry : String × String) :
    Reads (front ++ (['%', '2', '0'] ++ behind)) entry ↔ Reads (front ++ (['+'] ++ behind)) entry := by
  by_cases before : '=' ∈ front
  · obtain ⟨key, value, rfl, free⟩ := List.eq_append_cons_of_mem before
    have cut (rest : List Char) : cutPair (key ++ '=' :: value ++ rest) = (key, value ++ rest) := by
      rw [cutPair, List.append_assoc, List.cons_append, Text.cutAt?_append_cons free]
      rfl
    rw [Reads, Reads, cut, cut, decodePart_blank]
  by_cases after : '=' ∈ behind
  · obtain ⟨key, value, rfl, free⟩ := List.eq_append_cons_of_mem after
    have cut (blank : List Char) (inner : '=' ∉ blank) :
        cutPair (front ++ (blank ++ (key ++ '=' :: value))) = (front ++ (blank ++ key), value) := by
      have free : '=' ∉ front ++ (blank ++ key) := by simp [before, inner, free]
      rw [cutPair, ← List.append_assoc blank, ← List.append_assoc front, Text.cutAt?_append_cons free]
      rfl
    rw [Reads, Reads, cut _ (by decide), cut _ (by decide), decodePart_blank]
  · have cut (blank : List Char) (inner : '=' ∉ blank) :
        cutPair (front ++ (blank ++ behind)) = (front ++ (blank ++ behind), []) := by
      rw [cutPair, Text.cutAt?_eq_none (by simp [before, inner, after])]
      rfl
    rw [Reads, Reads, cut _ (by decide), cut _ (by decide), decodePart_blank]

/-- A list is related to the same ones with one member in the place of another that is. -/
theorem forall₂_replace {α β : Type} {R : α → β → Prop} {one other : α}
    (same : ∀ b, R one b ↔ R other b) (before after : List α) (bs : List β) :
    List.Forall₂ R (before ++ one :: after) bs ↔ List.Forall₂ R (before ++ other :: after) bs := by
  induction before generalizing bs with
  | nil => simp only [List.nil_append, List.forall₂_cons_left_iff, same]
  | cons a before ih => simp only [List.cons_append, List.forall₂_cons_left_iff, ih]

/-- The pairs of a looser query are read as the same properties. -/
theorem Loosens.reads_iff {query looser : List Char} (step : Loosens query looser)
    (entries : List (String × String)) :
    List.Forall₂ Reads (pairsIn looser) entries ↔ List.Forall₂ Reads (pairsIn query) entries := by
  have none : pairsIn [] = [] := rfl
  cases step with
  | leading =>
    change List.Forall₂ Reads (pairsIn ([] ++ '&' :: query)) entries ↔ _
    rw [pairsIn_append, none, List.nil_append]
  | trailing => rw [pairsIn_append, none, List.append_nil]
  | doubled before behind =>
    have one : before ++ ['&'] ++ behind = before ++ '&' :: behind := by simp
    have two : before ++ ['&', '&'] ++ behind = before ++ '&' :: ([] ++ '&' :: behind) := by simp
    rw [one, two, pairsIn_append, pairsIn_append, pairsIn_append, none, List.nil_append]
  | plus front behind =>
    obtain ⟨before, last, first, after, parts⟩ := @Text.exists_splitAtChar_around '&' front behind
    have pairs (blank : List Char) (free : '&' ∉ blank) (given : blank ≠ []) :
        pairsIn (front ++ (blank ++ behind)) = before.filter (· ≠ []) ++
          (last ++ (blank ++ first)) :: after.filter (· ≠ []) := by
      rw [pairsIn, parts blank free, List.filter_append, List.filter_cons_of_pos (by simp [given])]
    rw [pairs _ (by decide) (by decide), pairs _ (by decide) (by decide)]
    exact forall₂_replace (fun entry => (reads_blank_iff last first entry).symm) ..

theorem parseQuery_of_loosens {query looser : List Char}
    (steps : Relation.ReflTransGen Loosens query looser) {bag : Properties} :
    parseQuery (String.ofList looser) = .ok bag ↔ parseQuery (String.ofList query) = .ok bag := by
  induction steps with
  | refl => rfl
  | tail _ step ih =>
    rw [← ih, parseQuery_eq_ok_iff, parseQuery_eq_ok_iff]
    simp only [pairsOf_ofList, step.reads_iff]

/-! ### What is written -/

theorem not_mem_partText {c : Char} (special : c.isAlphanum = false) (other : c ≠ '%') (s : String) :
    c ∉ partText s :=
  Text.Percent.not_mem_encode special other

theorem decodePart_partText (s : String) : decodePart (partText s) = .ok s := by
  have plus : '+' ∉ partText s := not_mem_partText (by decide) (by decide) s
  rw [decodePart, Text.replaceChar_of_not_mem plus, partText, Text.Percent.decode_encode (by decide)]
  exact congrArg Except.ok String.ofList_toList

theorem reads_pairText {entry : String × String} (named : entry.1 ≠ "") :
    Reads (pairText entry) entry := by
  have equals : '=' ∉ partText entry.1 := not_mem_partText (by decide) (by decide) entry.1
  have cut : cutPair (pairText entry) = (partText entry.1, partText entry.2) := by
    rw [cutPair, pairText, Text.cutAt?_append_cons equals]
    rfl
  rw [Reads, cut]
  exact ⟨decodePart_partText entry.1, decodePart_partText entry.2, named⟩

theorem pairsIn_queryText (entries : List (String × String)) :
    pairsIn (queryText entries) = entries.map pairText := by
  cases entries with
  | nil => rfl
  | cons entry rest =>
    have whole (entry : String × String) : splitAtChar '&' (pairText entry) = [pairText entry] := by
      apply Text.splitAtChar_of_not_mem
      have key : '&' ∉ partText entry.1 := not_mem_partText (by decide) (by decide) entry.1
      have value : '&' ∉ partText entry.2 := not_mem_partText (by decide) (by decide) entry.2
      simp [pairText, key, value]
    have given : ∀ pair ∈ (entry :: rest).map pairText, pair ≠ [] := by
      intro pair member
      obtain ⟨entry, -, rfl⟩ := List.mem_map.mp member
      simp [pairText]
    rw [pairsIn, queryText, Text.splitAtChar_intercalate (by simp), List.flatMap_map]
    simp only [whole, ← List.map_eq_flatMap]
    exact List.filter_eq_self.mpr (by simpa using given)

theorem ofList_eq_of_perm {bag : Properties} {order : List (String × String)}
    (listed : order.Perm bag.entries) : ofList order = bag := by
  have distinct : order.Pairwise fun a b => ¬ Text.SameLetters a.1 b.1 :=
    listed.symm.pairwise bag.distinct fun apart same => apart same.symm
  exact ext (congrArg SortedMap.entries (SortedMap.eq_of_perm
    ((entries_ofList_perm distinct).trans listed)))

/-- A bag without an empty name is read back from its query, whatever the order of the pairs, and
also with empty pairs put in and with plus signs for any of the encoded blanks. -/
theorem parseQuery_queryText {bag : Properties} (named : ∀ entry ∈ bag.entries, entry.1 ≠ "")
    {order : List (String × String)} (listed : order.Perm bag.entries) {query : List Char}
    (looser : Relation.ReflTransGen Loosens (queryText order) query) :
    parseQuery (String.ofList query) = .ok bag := by
  rw [parseQuery_of_loosens looser, parseQuery_eq_ok_iff, pairsOf_ofList, pairsIn_queryText]
  refine ⟨order, ?_, ofList_eq_of_perm listed⟩
  rw [List.forall₂_map_left_iff, List.forall₂_same]
  intro entry member
  exact reads_pairText (named entry (listed.mem_iff.mp member))

/-- All that a reader cuts at or decodes stands in one value; the pairs are in reverse, with an empty
one before each and a plus sign for the blank. -/
theorem parseQuery_queryText_loose :
    let bag := ofList [("a b", "c&d=+%"), ("é", "")]
    let order := [("é", ""), ("a b", "c&d=+%")]
    let query := "&%C3%A9=&&a+b=c%26d%3D%2B%25"
    ((∀ entry ∈ bag.entries, entry.1 ≠ "") ∧ order.Perm bag.entries ∧
      Relation.ReflTransGen Loosens (queryText order) query.toList) ∧
    parseQuery query = .ok bag := by
  intro bag order query
  have named : ∀ entry ∈ bag.entries, entry.1 ≠ "" := by decide
  have listed : order.Perm bag.entries := by decide
  have plus : Loosens (queryText order) "%C3%A9=&a+b=c%26d%3D%2B%25".toList := by
    convert Loosens.plus "%C3%A9=&a".toList "b=c%26d%3D%2B%25".toList using 1 <;> decide
  have doubled : Loosens "%C3%A9=&a+b=c%26d%3D%2B%25".toList "%C3%A9=&&a+b=c%26d%3D%2B%25".toList :=
    Loosens.doubled "%C3%A9=".toList "a+b=c%26d%3D%2B%25".toList
  have leading : Loosens "%C3%A9=&&a+b=c%26d%3D%2B%25".toList query.toList := by
    convert Loosens.leading "%C3%A9=&&a+b=c%26d%3D%2B%25".toList using 1
    decide
  have looser := ((Relation.ReflTransGen.single plus).tail doubled).tail leading
  refine ⟨⟨named, listed, looser⟩, ?_⟩
  rw [← String.ofList_toList (s := query)]
  exact parseQuery_queryText named listed looser

end SqlProbe.Properties
