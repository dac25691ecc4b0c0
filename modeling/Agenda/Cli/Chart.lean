import Agenda.Insight.Activity
import Agenda.Insight.Summary

/-!
# Charts

A chart has a row for every label with a bar for its count.  Bars have as many characters as
the counts say, or are scaled down so that the longest one has the width of the chart.
-/

namespace Agenda.Cli

/-- The greatest length of a bar. -/
def chartWidth : Nat := 30

/-- The length of the bar for a count, where `greatest` is the greatest count of the chart. -/
def barLength (count greatest : Nat) : Nat :=
  if greatest ≤ chartWidth then count else (count * chartWidth + greatest / 2) / greatest

/-- The bar of the given character. -/
def bar (glyph : Char) (count greatest : Nat) : String :=
  String.ofList (List.replicate (barLength count greatest) glyph)

/-- The label filled up with blanks to the width. -/
def padLabel (width : Nat) (label : String) : String :=
  label ++ String.ofList (List.replicate (width - label.length) ' ')

/-- The greatest of the numbers, or zero without any. -/
def greatestOf (ns : List Nat) : Nat :=
  ns.foldl max 0

/-- The row of a chart. -/
def chartRow (glyph : Char) (width greatest : Nat) (label : String) (count : Nat) : String :=
  let drawn := bar glyph count greatest
  "  " ++ padLabel width label ++ "  " ++
    (if drawn.isEmpty then toString count else drawn ++ " " ++ toString count)

/-- The rows of a chart. -/
def chart (glyph : Char) (rows : List (String × Nat)) : List String :=
  if rows.isEmpty then ["  (no data)"]
  else
    let width := greatestOf (rows.map (·.1.length))
    let greatest := greatestOf (rows.map (·.2))
    rows.map fun (label, count) => chartRow glyph width greatest label count

/-- The charts about the tasks: how many are completed, of one category if it is given, how
many are in each category, and how many were added on each of the last days. -/
def charts (glyph : Char) (tasks : List Task) (category : Option String) (today : Calendar.Date)
    (days : Nat) : List String :=
  let (completed, unfinished) := Insight.breakdown tasks category
  let activity := (Insight.activity tasks today days).map fun (d, count) => (d.format, count)
  ["Completion (" ++ category.getD "all" ++ "):"] ++
    chart glyph [("Completed", completed), ("Open", unfinished)] ++
    ["", "Categories:"] ++ chart glyph (Insight.categoryCounts tasks) ++
    ["", "Tasks added (last " ++ toString days ++ " days):"] ++ chart glyph activity

end Agenda.Cli
