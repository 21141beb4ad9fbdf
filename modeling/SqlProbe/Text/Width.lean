import SqlProbe.Text.WidthClass

/-!
# The width of text

How many cells of a line a text takes. The width of a character can depend on what follows it: a
mark can make a picture of it or take that away, a tint belongs to the picture before it, and
pictures that are joined take the place of one. A text is therefore measured from its end.
-/

namespace SqlProbe.Text

/-- What follows a character, as far as it matters. -/
inductive Following where
  | nothing
  /-- The mark that turns a character into a picture. -/
  | pictureMark
  /-- The mark that turns a picture into text. -/
  | textMark
  /-- A picture. -/
  | picture
  /-- A joiner and a picture. -/
  | joined
  /-- The mark for pictures, a joiner and a picture. -/
  | joinedMark
  /-- The modifier of a tint. -/
  | tint
  /-- The letter Alef, which joins with a Lam before it. -/
  | alef
  deriving DecidableEq, Repr

/-- The width of a character by itself. -/
def cellsOf (c : Char) : Nat :=
  if c.toNat ≤ 0xA0 then 1
  else if inRanges flatRanges c then 0
  else if inRanges wideRanges c then 2
  else 1

/-- A digit or another character that a mark turns into a picture. -/
def canBePicture (c : Char) : Bool :=
  c.isDigit || c == '#' || c == '*' || inRanges textPictureRanges c || inRanges pictureRanges c

/-- A modifier of a tint. -/
def isTint (c : Char) : Bool := decide (0x1F3FB ≤ c.toNat ∧ c.toNat ≤ 0x1F3FF)

/-- A form of the letter Alef. -/
def isAlef (c : Char) : Bool :=
  [0x622, 0x623, 0x625, 0x627, 0x671, 0x672, 0x673, 0x675, 0x773, 0x774].contains c.toNat ||
    decide (0x870 ≤ c.toNat ∧ c.toNat ≤ 0x882)

/-- A form of the letter Lam. -/
def isLam (c : Char) : Bool :=
  [0x644, 0x6B5, 0x6B6, 0x6B7, 0x6B8, 0x76A, 0x8A6, 0x8C7].contains c.toNat

/-- The width of a character on its own account, and what it is to the one before it. -/
def cellsAlone (c : Char) : Nat × Following :=
  if c == '\uFE0F' then (0, .pictureMark)
  else if c == '\uFE0E' then (0, .textMark)
  else if isTint c then (2, .tint)
  else if isAlef c then (1, .alef)
  else (cellsOf c, if inRanges pictureRanges c then .picture else .nothing)

/-- The width of a character before what follows it, and what it is to the one before it. -/
def cellsBefore (c : Char) : Following → Nat × Following
  | .joined =>
    if c == '\uFE0F' then (0, .joinedMark)
    else if isTint c then (0, .tint)
    else if inRanges pictureRanges c then (0, .picture)
    else cellsAlone c
  | .joinedMark => if canBePicture c then (0, .picture) else cellsAlone c
  | .pictureMark => if canBePicture c then (2, .picture) else cellsAlone c
  | .textMark => if inRanges plainPictureRanges c then (1, .nothing) else cellsAlone c
  | .picture => if c == '\u200D' then (0, .joined) else cellsAlone c
  | .tint => if inRanges tintedRanges c then (0, .picture) else cellsAlone c
  | .alef =>
    if isLam c then (0, .nothing)
    else if inRanges flatRanges c then (0, .alef)
    else cellsAlone c
  | .nothing => cellsAlone c

/-- The width of a text, and what its first character is to one before it. -/
def measure : List Char → Nat × Following
  | [] => (0, .nothing)
  | c :: cs =>
    let (rest, following) := measure cs
    let (cells, this) := cellsBefore c following
    (cells + rest, this)

/-- The width of a text. -/
def width (cs : List Char) : Nat := (measure cs).1

end SqlProbe.Text
