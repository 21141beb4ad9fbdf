import SqlProbe.Text.Numeral

/-!
# Server versions

The three numbers at the front of the version that a server announces. MariaDB servers may put the
number of an old version before their own.
-/

namespace SqlProbe.Mysql

/-- The number of at most so many digits at the front of a text, and what is behind it. -/
def leadingNumber? (limit : Nat) (cs : List Char) : Option (Nat × List Char) := do
  let digits := (cs.take limit).takeWhile Char.isDigit
  pure (← Text.digits? digits, cs.drop digits.length)

/-- The three numbers at the front of a text, and what is behind them. -/
def leadingVersion? (cs : List Char) : Option ((Nat × Nat × Nat) × List Char) := do
  let (major, cs) ← leadingNumber? 2 cs
  let '.' :: cs := cs | none
  let (minor, cs) ← leadingNumber? 2 cs
  let '.' :: cs := cs | none
  let (patch, cs) ← leadingNumber? 3 cs
  pure ((major, minor, patch), cs)

/-- The version of a MariaDB server that announces an old version first. -/
def hiddenVersion? (cs : List Char) : Option (Nat × Nat × Nat) :=
  let front := "5.5.5-".toList
  if front.isPrefixOf cs then
    (leadingVersion? (cs.drop front.length)).bind fun (version, rest) =>
      if "-MariaDB".toList.isPrefixOf rest then some version else none
  else none

/-- The version of a server, from what it announces; all zeros if that is none. -/
def versionText (announced : String) : String :=
  let cs := announced.toList
  let (major, minor, patch) :=
    ((hiddenVersion? cs).orElse fun _ => (leadingVersion? cs).map (·.1)).getD (0, 0, 0)
  s!"{major}.{minor}.{patch}"

end SqlProbe.Mysql
