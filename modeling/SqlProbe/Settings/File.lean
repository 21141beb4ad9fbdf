import SqlProbe.Settings.Basic
import SqlProbe.Text.Quoted
import SqlProbe.Text.Utf8
import SqlProbe.Toml.Document

/-!
# Settings files

Settings are read from the file that is named, which has to be there, or else from the one in the
usual place, which may be missing.
-/

namespace SqlProbe

/-- What is found at a path. -/
inductive Settings.File where
  | missing
  | unreadable (reason : String)
  | holds (bytes : List UInt8)

/-- Why there are no settings. -/
inductive Settings.LoadError where
  | unreadable (path reason : String)
  | malformed (path : String)
  deriving DecidableEq, Repr

namespace Settings

/-- The message of an error, which names the file. -/
def LoadError.message : LoadError → String
  | unreadable path _ => "Failed to read settings file: " ++ Text.quotedPath path
  | malformed path => "Failed to parse settings file: " ++ Text.quotedPath path

/-- What is behind an error. -/
def LoadError.cause : LoadError → String
  | unreadable _ reason => reason
  | malformed _ => "TOML parse error"

/-- The settings that a text says. -/
def parse? (text : List Char) : Option Settings := Toml.read? text >>= ofJson? true

/-- The settings in a file. -/
def ofFile (path : String) : File → Except LoadError Settings
  | .missing => .error (.unreadable path "No such file or directory (os error 2)")
  | .unreadable reason => .error (.unreadable path reason)
  | .holds bytes =>
    match Text.Utf8.decode? bytes with
    | none => .error (.unreadable path "stream did not contain valid UTF-8")
    | some text => ((parse? text).map .ok).getD (.error (.malformed path))

/-- The settings in the file that is named, or in the one in the usual place. -/
def load (look : String → File) (named usual : Option String) : Except LoadError Settings :=
  match named, usual with
  | some path, _ => ofFile path (look path)
  | none, none => .ok {}
  | none, some path =>
    match look path with
    | .missing => .ok {}
    | file => ofFile path file

end Settings

end SqlProbe
