import SqlProbe.Json.Write
import SqlProbe.Report.Basic

/-!
# Writing reports

A report as text, where failed steps go to a stream of their own, and as JSON.
-/

namespace SqlProbe

/-- A label with what belongs to it. -/
def Step.line (step : Step) : String :=
  match step.detail with
  | some detail => step.label ++ ": " ++ detail ++ "\n"
  | none => step.label ++ "\n"

namespace Report

/-- The heading of a report, with a blank line before it and a rule below. -/
def heading (report : Report) : String :=
  "\n" ++ report.title ++ "\n" ++ String.ofList (List.replicate 50 '=') ++ "\n"

/-- The lines of the steps that went well. -/
def successText (report : Report) : String :=
  String.join ((report.steps.filter fun step => !step.status.isFailed).map fun step =>
    "✓ " ++ step.line)

/-- The lines of the steps that failed, which go to the stream for errors. -/
def failureText (report : Report) : String :=
  String.join (report.failures.map fun step => "✗ " ++ step.line)

/-- The lines of a table. -/
def tableText (table : Table) : String :=
  String.join (table.lines.map fun line => String.ofList line ++ "\n")

/-- The text of a report, without the failed steps. -/
def text (report : Report) : String :=
  report.heading ++ report.successText ++ (report.table.map tableText).getD ""

end Report

/-- The JSON form of a step; what it does not have is left out. -/
def Step.toJson (step : Step) : Json :=
  let status := match step.status with
    | .ok => "ok"
    | .failed _ => "failed"
  .object ([("label", .string step.label), ("status", .string status)] ++
    (step.detail.map fun detail => ("detail", Json.string detail)).toList ++
    match step.status with
    | .ok => []
    | .failed kind => [("error_kind", .string kind)])

/-- The JSON form of a table. -/
def Table.toJson (table : Table) : Json :=
  let texts (items : List String) : Json := .array (items.map .string)
  .object [("columns", texts table.columns), ("rows", .array (table.rows.map texts))]

namespace Report

/-- The JSON form of a report. -/
def toJson (report : Report) : Json :=
  .object ([("name", .string report.name), ("title", .string report.title),
    ("steps", .array (report.steps.map Step.toJson))] ++
    (report.table.map fun table => ("table", table.toJson)).toList)

/-- The text of the JSON form of a list of reports. -/
def jsonText (reports : List Report) : String :=
  (Json.array (reports.map toJson)).pretty 0 ++ "\n"

end Report

end SqlProbe
