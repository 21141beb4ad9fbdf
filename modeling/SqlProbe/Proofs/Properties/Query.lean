import Mathlib.Data.List.Forall2
import SqlProbe.Proofs.Properties.Bag
import SqlProbe.Proofs.Text.Cut
import SqlProbe.Proofs.Text.Percent
import SqlProbe.Properties.Query

/-!
# Reading query strings

A query whose pairs can be read gives the bag that their names and values set, and nothing is in a
bag that no pair has put there. A part that nobody encoded reads as it stands exactly if it has
neither a plus sign nor an escape, and reading makes no part longer.
-/

namespace SqlProbe.Properties

open Text (replaceChar)

/-- The length of a text in bytes. -/
def byteLength (cs : List Char) : Nat := (Text.Utf8.encode cs).length

@[simp] theorem byteLength_append (as bs : List Char) :
    byteLength (as ++ bs) = byteLength as + byteLength bs := by
  simp only [byteLength, Text.Utf8.encode_append, List.length_append]

theorem byteLength_cons (c : Char) (cs : List Char) :
    byteLength (c :: cs) = c.utf8Size + byteLength cs := by
  rw [byteLength, Text.Utf8.encode_cons, List.length_append, String.length_utf8EncodeChar]
  rfl

theorem byteLength_cutPair_le (pair : List Char) : byteLength (cutPair pair).2 ≤ byteLength pair := by
  rw [cutPair]
  cases cut : Text.cutAt? '=' pair with
  | none => exact Nat.zero_le _
  | some parts =>
    rw [Text.eq_append_of_cutAt? cut, byteLength_append, byteLength_cons]
    change byteLength parts.2 ≤ _
    omega

/-! ### Parts -/

theorem byteLength_replacePlus (cs : List Char) :
    byteLength (replaceChar '+' ' ' cs) = byteLength cs := by
  induction cs with
  | nil => rfl
  | cons c cs ih =>
    have first : (if c = '+' then ' ' else c).utf8Size = c.utf8Size := by
      split
      · next plus => rw [plus]; rfl
      · rfl
    rw [byteLength_cons c, ← first, ← ih, ← byteLength_cons]
    rfl

/-- A part is read as the text whose bytes are what it decodes to. -/
theorem decodePart_eq_ok_iff {cs : List Char} {text : String} : decodePart cs = .ok text ↔
    Text.Percent.decodeBytes (Text.Utf8.encode (replaceChar '+' ' ' cs)) =
      Text.Utf8.encode text.toList := by
  rw [← Text.Utf8.decode_eq_ok_iff, decodePart, Text.Percent.decode]
  cases Text.Utf8.decode (Text.Percent.decodeBytes (Text.Utf8.encode (replaceChar '+' ' ' cs))) with
  | error fault => simp
  | ok read =>
    simp only [Except.ok.injEq]
    exact ⟨fun same => by rw [← same, String.toList_ofList],
      fun same => by rw [same, String.ofList_toList]⟩

theorem byteLength_le_of_decodePart {cs : List Char} {text : String}
    (read : decodePart cs = .ok text) : byteLength text.toList ≤ byteLength cs := by
  rw [decodePart_eq_ok_iff] at read
  rw [byteLength, ← read, ← byteLength_replacePlus cs]
  exact Text.Percent.length_decodeBytes_le _

/-- A text has neither a plus sign nor an escape. -/
def IsPlain (text : String) : Prop :=
  '+' ∉ text.toList ∧ Text.Percent.hasEscape text.toList = false

instance (text : String) : Decidable (IsPlain text) := inferInstanceAs (Decidable (_ ∧ _))

/-- A text that nobody encoded is read as it stands exactly if it is plain. -/
theorem decodePart_self_iff (text : String) : decodePart text.toList = .ok text ↔ IsPlain text := by
  rw [decodePart_eq_ok_iff]
  constructor
  · intro read
    have plain : Text.Percent.hasEscape (replaceChar '+' ' ' text.toList) = false := by
      by_contra escape
      have shorter := Text.Percent.length_decodeBytes_lt (Bool.not_eq_false _ ▸ escape)
      rw [read] at shorter
      exact absurd (byteLength_replacePlus text.toList) (Nat.ne_of_gt shorter)
    rw [Text.Percent.decodeBytes_of_plain plain] at read
    have same := Text.Utf8.encode_injective read
    refine ⟨fun plus => ?_, same ▸ plain⟩
    rw [← same] at plus
    obtain ⟨c, -, replaced⟩ := List.mem_map.mp plus
    split at replaced
    · exact absurd replaced (by decide)
    · contradiction
  · rintro ⟨plus, escape⟩
    rw [Text.replaceChar_of_not_mem plus, Text.Percent.decodeBytes_of_plain escape]

/-! ### Pairs -/

theorem bind_eq_ok_iff {ε α β : Type} {first : Except ε α} {next : α → Except ε β} {result : β} :
    first >>= next = .ok result ↔ ∃ value, first = .ok value ∧ next value = .ok result := by
  cases first <;> simp [bind, Except.bind]

/-- A pair is read as a property. -/
def Reads (pair : List Char) (entry : String × String) : Prop :=
  decodePart (cutPair pair).1 = .ok entry.1 ∧ decodePart (cutPair pair).2 = .ok entry.2 ∧
    entry.1 ≠ ""

instance (pair : List Char) (entry : String × String) : Decidable (Reads pair entry) :=
  inferInstanceAs (Decidable (_ ∧ _ ∧ _))

theorem setPair_eq_ok_iff {query : String} {bag result : Properties} {pair : List Char} :
    setPair query bag pair = .ok result ↔
      ∃ entry, Reads pair entry ∧ bag.set entry.1 entry.2 = result := by
  simp only [setPair, Reads]
  cases decodePart (cutPair pair).1 with
  | error cause => simp [bind, Except.bind]
  | ok key =>
    by_cases named : key = ""
    · simp [bind, Except.bind, throw, throwThe, MonadExceptOf.throw, named]
    · cases decodePart (cutPair pair).2 with
      | error cause => simp [bind, Except.bind, named]
      | ok value => simp [bind, Except.bind, pure, Except.pure, named]

/-- Pairs are set exactly if each can be read, and then what they are read as is set in turn. -/
theorem foldlM_setPair_eq_ok_iff {query : String} {pairs : List (List Char)}
    {bag result : Properties} : pairs.foldlM (setPair query) bag = .ok result ↔
      ∃ entries, List.Forall₂ Reads pairs entries ∧
        entries.foldl (fun bag entry => bag.set entry.1 entry.2) bag = result := by
  induction pairs generalizing bag with
  | nil =>
    change Except.ok bag = Except.ok result ↔ _
    simp
  | cons pair pairs ih =>
    simp only [List.foldlM_cons, bind_eq_ok_iff, setPair_eq_ok_iff, ih]
    constructor
    · rintro ⟨_, ⟨entry, read, rfl⟩, entries, reads, same⟩
      exact ⟨entry :: entries, .cons read reads, same⟩
    · rintro ⟨_, reads, same⟩
      cases reads with
      | cons read reads => exact ⟨_, ⟨_, read, rfl⟩, _, reads, same⟩

/-- The pairs of a query that are not empty. -/
def pairsOf (query : String) : List (List Char) :=
  (Text.splitAtChar '&' query.toList).filter (· ≠ [])

/-- A query is the bag of what its pairs are read as. -/
theorem parseQuery_eq_ok_iff {query : String} {bag : Properties} : parseQuery query = .ok bag ↔
    ∃ entries, List.Forall₂ Reads (pairsOf query) entries ∧ ofList entries = bag :=
  foldlM_setPair_eq_ok_iff

/-- What a query puts into a bag is what one of its pairs is read as. -/
theorem exists_reads_of_mem {query : String} {bag : Properties} (read : parseQuery query = .ok bag)
    {entry : String × String} (member : entry ∈ bag.entries) :
    ∃ pair ∈ Text.splitAtChar '&' query.toList, Reads pair entry := by
  obtain ⟨entries, reads, rfl⟩ := parseQuery_eq_ok_iff.mp read
  obtain ⟨n, short, rfl⟩ := List.getElem_of_mem (mem_of_mem_entries_ofList member)
  rw [List.forall₂_iff_get] at reads
  have inside := List.get_mem (pairsOf query) ⟨n, reads.1 ▸ short⟩
  exact ⟨_, (List.mem_filter.mp inside).1, reads.2 n (reads.1 ▸ short) short⟩

end SqlProbe.Properties
