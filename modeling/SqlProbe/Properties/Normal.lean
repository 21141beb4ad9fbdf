import SqlProbe.Error
import SqlProbe.Text.Ascii
import SqlProbe.Text.Blank
import SqlProbe.Text.Cut
import SqlProbe.Text.Numeral

/-!
# Normal forms of property values

Values that several spellings stand for, each stored in one form: truth values, time zones,
character encodings. The stored form is itself a spelling that is stored unchanged.
-/

namespace SqlProbe.Properties

/-- A truth value, from one of its four spellings in any case, with blanks around it ignored. -/
def flag (key value : String) : Except Error Bool :=
  match String.ofList (Text.lower (Text.trim value.toList)) with
  | "true" | "yes" | "on" | "1" => .ok true
  | "false" | "no" | "off" | "0" => .ok false
  | _ => .error ⟨.configuration, s!"{key} must be true or false, got '{value}'"⟩

/-- The error for a time zone that is not one. -/
def badZone (zone : List Char) : Error :=
  ⟨.configuration, s!"invalid serverTimezone '{String.ofList zone}'"⟩

/-- A fixed distance from Coordinated Universal Time: hours of at most 14, and minutes of at most 59
or none. -/
def zoneOffset? (sign : Char) (rest : List Char) : Option (List Char) := do
  let (hours, minutes) := (Text.cutAt? ':' rest).getD (rest, ['0', '0'])
  let h ← Text.natural? 255 hours
  let m ← Text.natural? 255 minutes
  if 14 < h ∨ 59 < m then none
  else some (sign :: (Text.padded 2 h ++ ':' :: Text.padded 2 m))

/-- A character of the name of a region. -/
def isRegionChar (c : Char) : Bool :=
  c.isAlphanum || c = '/' || c = '_' || c = '-' || c = '+'

/-- The normal form of a time zone without blanks around it. -/
def zoneForm? (zone : List Char) : Option (List Char) :=
  if Text.lower zone = ['u', 't', 'c'] ∨ Text.lower zone = ['g', 'm', 't'] ∨ zone = ['Z'] then
    some ['U', 'T', 'C']
  else
    match zone with
    | '+' :: rest => zoneOffset? '+' rest
    | '-' :: rest => zoneOffset? '-' rest
    | _ => if zone.all isRegionChar then some zone else none

/-- The normal form of a time zone: the name of Coordinated Universal Time, a sign with hours and
minutes, or the name of a region. -/
def timeZone (value : String) : Except Error String :=
  let zone := Text.trim value.toList
  if zone = [] then .error ⟨.configuration, "serverTimezone cannot be empty"⟩
  else
    match zoneForm? zone with
    | some form => .ok (String.ofList form)
    | none => .error (badZone zone)

/-- The normal form of a character encoding: the server's name for it. -/
def characterEncoding (value : String) : Except Error String :=
  match String.ofList (Text.replaceChar '_' '-' (Text.lower (Text.trim value.toList))) with
  | "utf8" | "utf-8" | "utf8mb3" => .ok "utf8"
  | "utf8mb4" => .ok "utf8mb4"
  | "latin1" | "iso-8859-1" | "iso8859-1" | "cp1252" => .ok "latin1"
  | "ascii" | "us-ascii" => .ok "ascii"
  | "binary" => .ok "binary"
  | _ => .error ⟨.configuration, s!"unsupported characterEncoding '{value}'"⟩

/-- A number of milliseconds greater than zero that fits 64 bits. -/
def milliseconds (key value : String) : Except Error Nat :=
  match Text.natural? (Nat.pow 2 64 - 1) (Text.trim value.toList) with
  | none => .error ⟨.configuration, s!"{key} must be a number of milliseconds, got '{value}'"⟩
  | some 0 => .error ⟨.configuration, s!"{key} must be greater than zero"⟩
  | some n => .ok n

end SqlProbe.Properties
