import SqlProbe.Probe.Run

/-!
# Commands

What the program can be asked to do: run one probe, or all of them.
-/

namespace SqlProbe.Cli

/-- A command. -/
inductive Command where
  | all
  | one (probe : Probe)
  deriving DecidableEq, Repr

namespace Command

/-- The word for a command. -/
def word : Command → String
  | all => "all"
  | one probe => probe.name

/-- The probes that a command runs, in order. -/
def probes : Command → List Probe
  | all => Probe.all
  | one probe => [probe]

/-- The commands that need nothing but their word. -/
def plain : List Command := all :: Probe.all.map one

/-- The word of the command that runs a statement. -/
def queryWord : String := "query"

/-- The command of a word, with the statement that follows it if there is one. -/
def ofWord? (word : String) (sql : Option String) : Option Command :=
  if word = queryWord then sql.map fun sql => one (.query sql)
  else plain.find? fun command => command.word == word

end Command

end SqlProbe.Cli
