import CrossArch.Finding
import CrossArch.Json.Printer

/-!
# Reports as JSON
-/

namespace CrossArch

/-- The JSON form of lines. -/
def LineRange.toJson (range : LineRange) : Json :=
  .record [("start", .nat range.first), ("end", .nat range.last)]

/-- The JSON form of a finding. -/
def Finding.toJson (finding : Finding) : Json :=
  .record [("file", .text finding.file), ("range", (finding.range.map LineRange.toJson).getD .null),
    ("key", .text finding.key), ("suggestion", .text finding.suggestion),
    ("category", .text finding.category.name)]

/-- The JSON form of the counts of a run. -/
def Summary.toJson (summary : Summary) : Json :=
  .record [("files_scanned", .nat summary.scanned), ("files_skipped", .nat summary.skipped),
    ("findings", .nat summary.findings)]

/-- The JSON form of a report. -/
def Report.toJson (report : Report) : Json :=
  .record [("task_id", .text report.taskId), ("root", .text report.root),
    ("src_arch", .text report.srcArch), ("dest_arch", .text report.destArch),
    ("findings", .array (report.findings.map Finding.toJson)), ("summary", report.summary.toJson),
    ("warnings", .array (report.warnings.map Json.text))]

end CrossArch
