import Agenda.Calendar.Time
import Agenda.Insight.Summary

/-!
# The report

A report on a list of tasks as lines of text.
-/

namespace Agenda.Export

/-- The lines of the report. -/
def reportLines (tasks : List Task) (now : Calendar.Time) : List String :=
  let summary := Insight.summarize tasks
  let anomalies := Insight.anomalies tasks
  ["Taskly Pro — Analytics Report", "Generated: " ++ now.format, "",
    "Total tasks: " ++ toString summary.total, "Completed: " ++ toString summary.completed,
    "Completion rate: " ++ toString summary.rate ++ "%", "", "Top categories:"] ++
  (Insight.categoryCounts tasks).map (fun (category, count) =>
    "- " ++ category ++ ": " ++ toString count) ++
  ["", "Anomalies:", anomalies.missingDueLine, anomalies.duplicatesLine]

/-- The report on the tasks at the given time. -/
def report (tasks : List Task) (now : Calendar.Time) : String :=
  "\n".intercalate (reportLines tasks now)

end Agenda.Export
