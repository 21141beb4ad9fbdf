/-!
# ASCII letter case

Case folding of the 26 ASCII letters. Other characters stand for themselves, so two texts that
agree here have equal length and agree exactly outside those letters.
-/

namespace SqlProbe.Text

/-- The text with its ASCII letters in lower case. -/
def lower (cs : List Char) : List Char := cs.map Char.toLower

/-- The text with its ASCII letters in upper case. -/
def upper (cs : List Char) : List Char := cs.map Char.toUpper

/-- Two texts are the same up to the case of ASCII letters. -/
def SameLetters (a b : String) : Prop := lower a.toList = lower b.toList

instance (a b : String) : Decidable (SameLetters a b) :=
  inferInstanceAs (Decidable (lower a.toList = lower b.toList))

/-- The text with its ASCII letters in lower case, as a string. -/
def lowerString (s : String) : String := String.ofList (lower s.toList)

end SqlProbe.Text
