import SqlProbe.SortedMap
import SqlProbe.Text.Ascii
import SqlProbe.Text.Quoted
import SqlProbe.Text.Utf8

/-!
# Property bags

The properties of a connection: a map over names up to the case of ASCII letters, kept in order of
the names as they were last written. That no two names differ only in case is part of the type.
-/

namespace SqlProbe

/-- A bag of properties. -/
structure Properties where
  map : SortedMap String := ∅
  distinct : map.entries.Pairwise fun a b => ¬ Text.SameLetters a.1 b.1 := by
    exact List.Pairwise.nil

namespace Properties

/-- The bag without properties. -/
def empty : Properties := {}

/-- The properties in order of their names. -/
def entries (bag : Properties) : List (String × String) := bag.map.entries

/-- The number of properties. -/
def size (bag : Properties) : Nat := bag.map.size

/-- At most one property has a name in whatever case, so without the first there is none. -/
theorem eraseP_eq_filter {l : List (String × String)}
    (distinct : l.Pairwise fun a b => ¬ Text.SameLetters a.1 b.1) (key : String) :
    l.eraseP (fun entry => decide (Text.SameLetters entry.1 key)) =
      l.filter fun entry => !decide (Text.SameLetters entry.1 key) := by
  induction l with
  | nil => rfl
  | cons head rest ih =>
    obtain ⟨apart, distinct⟩ := List.pairwise_cons.1 distinct
    by_cases same : Text.SameLetters head.1 key
    · have others : ∀ entry ∈ rest, (!decide (Text.SameLetters entry.1 key)) = true := by
        intro entry member
        have other : ¬ Text.SameLetters entry.1 key :=
          fun also => apart entry member (Eq.trans same (Eq.symm also))
        simp [other]
      simp [same, List.filter_eq_self.2 others]
    · simp [same, ih distinct]

/-- Sets a property. Its name replaces the one that is another spelling of it. -/
def set (bag : Properties) (key value : String) : Properties where
  map := (bag.map.eraseFirst fun k => decide (Text.SameLetters k key)).insert key value
  distinct := by
    have other : ∀ entry ∈ (bag.map.eraseFirst fun k => decide (Text.SameLetters k key)).entries,
        ¬ Text.SameLetters entry.1 key := by
      intro entry member same
      have kept : entry ∈ bag.map.entries.eraseP fun entry =>
        decide (Text.SameLetters entry.1 key) := member
      rw [eraseP_eq_filter bag.distinct] at kept
      simpa [same] using (List.mem_filter.1 kept).2
    exact SortedMap.pairwise_place (bag.distinct.sublist List.eraseP_sublist)
      (fun entry hmem _ same => other entry hmem same.symm)
      (fun entry hmem _ same => other entry hmem same)
      (fun _ _ _ entry hmem _ same => other entry hmem same.symm)
      (fun _ _ _ entry hmem _ same => other entry hmem same.symm)

/-- The bag of a list of properties, each set in turn. -/
def ofList (entries : List (String × String)) : Properties :=
  entries.foldl (fun bag entry => bag.set entry.1 entry.2) empty

/-- The value of a property, whose name may be in any case. -/
def get? (bag : Properties) (key : String) : Option String :=
  (bag.entries.find? fun entry => decide (Text.SameLetters entry.1 key)).map (·.2)

/-- The value of a password, shown only by its length and that up to eight. -/
def mask (value : String) : String := String.ofList (List.replicate (min value.utf8ByteSize 8) '*')

/-- The properties as they may be shown, with the password masked. -/
def redacted (bag : Properties) : List (String × String) :=
  bag.entries.map fun (key, value) =>
    (key, if Text.SameLetters key "password" then mask value else value)

/-- The bag as one line of text. -/
def text (bag : Properties) : String :=
  "\x7b" ++ ", ".intercalate (bag.redacted.map fun (key, value) =>
    Text.quoted key ++ ": " ++ Text.quoted value) ++ "\x7d"

end Properties

end SqlProbe
