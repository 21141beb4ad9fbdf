/-!
# Cutting texts

Texts cut at a character: at its first occurrence, or at every one.
-/

namespace SqlProbe.Text

/-- The text before the first occurrence of a character, and what is behind it. -/
def cutAt? (mark : Char) : List Char → Option (List Char × List Char)
  | [] => none
  | c :: cs => if c = mark then some ([], cs) else (cutAt? mark cs).map fun (a, b) => (c :: a, b)

/-- The texts between the occurrences of a character, one more than there are. -/
def splitAtChar (mark : Char) : List Char → List (List Char)
  | [] => [[]]
  | c :: cs =>
    if c = mark then [] :: splitAtChar mark cs
    else
      match splitAtChar mark cs with
      | [] => [[c]]
      | head :: tail => (c :: head) :: tail

/-- The text before the last occurrence of a character, and what is behind it. -/
def cutAtLast? (mark : Char) (cs : List Char) : Option (List Char × List Char) :=
  (cutAt? mark cs.reverse).map fun (a, b) => (b.reverse, a.reverse)

/-- The text with one character put in the place of another. -/
def replaceChar (old new : Char) (cs : List Char) : List Char :=
  cs.map fun c => if c = old then new else c

end SqlProbe.Text
