import SqlProbe.Error
import SqlProbe.Report.Table

/-!
# Reports

What a probe did: steps in order, each of which went well or failed, and perhaps a table of rows. A
failed step names the kind of its error.
-/

namespace SqlProbe

/-- How a step ended. -/
inductive Status where
  | ok
  | failed (kind : String)
  deriving DecidableEq, Repr

/-- The step failed. -/
def Status.isFailed : Status → Bool
  | ok => false
  | failed _ => true

/-- A step of a probe. -/
structure Step where
  label : String
  status : Status
  detail : Option String
  deriving DecidableEq, Repr

namespace Step

/-- A step that went well. -/
def ok (label : String) : Step := ⟨label, .ok, none⟩

/-- A step that went well, with what came of it. -/
def okWith (label detail : String) : Step := ⟨label, .ok, some detail⟩

/-- A step that failed. -/
def failWith (label kind message : String) : Step := ⟨label, .failed kind, some message⟩

/-- A step that failed with an error. -/
def fail (label : String) (cause : Error) : Step := failWith label cause.kind.name cause.message

end Step

/-- What a probe did. -/
structure Report where
  name : String
  title : String
  steps : List Step := []
  table : Option Table := none
  deriving DecidableEq, Repr

namespace Report

/-- The steps that failed. -/
def failures (report : Report) : List Step := report.steps.filter fun step => step.status.isFailed

/-- Some step failed. -/
def hasFailures (report : Report) : Bool := report.steps.any fun step => step.status.isFailed

/-- The first step with a label. -/
def step? (report : Report) (label : String) : Option Step :=
  report.steps.find? fun step => step.label == label

/-- The exit code for a list of reports: only a strict run counts failed steps. -/
def exitCode (strict : Bool) (reports : List Report) : Nat :=
  if strict && reports.any hasFailures then 1 else 0

end Report

end SqlProbe
