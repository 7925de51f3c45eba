/-
This file gives reports a form in JSON and a summary in words.
-/
import CodeGraph.Graph.Json
import CodeGraph.Report.Basic

namespace CodeGraph

/-- The JSON form of the numbers of failures: a member for each stage that has any. -/
def StageCounts.toJson (counts : StageCounts) : Json :=
  .object (counts.map fun (stage, count) => (stage.name, .ofNat count))

namespace Report

/-- The JSON form of a report. -/
def toJson (report : Report) : Json :=
  .object [
    ("repository_id", .string report.repositoryId),
    ("files", .ofNat report.files),
    ("ignored", .ofNat report.ignored),
    ("parsed", .ofNat report.parsed),
    ("parse_failed", .ofNat report.parseFailed),
    ("entities", .ofNat report.entities),
    ("edges", .ofNat report.edges),
    ("ambiguities", .ofNat report.ambiguities),
    ("emitted", .ofNat report.emitted),
    ("failures", .array (report.failures.map Failure.toJson)),
    ("failures_by_stage", report.failuresByStage.toJson)]

/-- A text with blanks behind it up to the given number of characters. -/
def padded (width : Nat) (text : String) : String :=
  text ++ String.ofList (List.replicate (width - text.length) ' ')

/-- A line of the summary. -/
def summaryLine (title text : String) : String := "  " ++ padded 14 (title ++ ":") ++ text

/-- The lines of the summary of a report. -/
def summary (report : Report) : List String :=
  [summaryLine "Files" s!"{report.files} ({report.ignored} ignored)",
    summaryLine "Parsed" s!"{report.parsed} ({report.parseFailed} failed)",
    summaryLine "Entities" (toString report.entities),
    summaryLine "Edges" (toString report.edges),
    summaryLine "Ambiguities" (toString report.ambiguities),
    summaryLine "Records" (toString report.emitted)]
  ++ if report.failuresByStage.isEmpty then []
    else "  Failures:" :: report.failuresByStage.map fun (stage, count) =>
      s!"    {padded 10 stage.name} {count}"

end Report

end CodeGraph
