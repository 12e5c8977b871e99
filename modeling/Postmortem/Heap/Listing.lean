import Postmortem.Heap.Histogram
import Postmortem.Text.Field
import Postmortem.Text.Lines
import Postmortem.Text.Scan

/-!
# Heap listings

The statistics of a heap: one row per type, and the total number of objects behind them.
-/

namespace Postmortem.HeapHistogram

open Text Scan

/-- Whether the text is a count: a digit, then digits and separators. -/
def isCountColumn : List Char → Bool
  | c :: cs => isDecimalDigit c &&
      cs.all fun d => isDecimalDigit d || [',', '.', '_', '\''].contains d
  | [] => false

/-- A row, as printed. -/
structure Row where
  methodTable : List Char
  count : List Char
  totalSize : List Char
  typeName : List Char

/-- Reads a row. -/
def row : Scan Row := do
  blanks
  let methodTable ← columnThen (isHexColumn 6 16)
  let count ← columnThen isCountColumn
  let totalSize ← columnThen isCountColumn
  return { methodTable, count, totalSize, typeName := ← lastColumn }

/-- The entry of a row whose numbers fit. -/
def Row.entry? (row : Row) : Option HeapEntry := do
  return { methodTable := Address.read? row.methodTable
           typeName := .ofList row.typeName
           count := ← readCount? row.count
           totalSize := ← readCount? row.totalSize }

/-- Reads the line with the total. -/
def total : Scan (List Char) := do
  blanks
  literal "Total"
  blanks1
  let count ← columnThen isCountColumn
  literal "objects"
  return count

/-- Reads one line. -/
def readLine (heap : HeapHistogram) (line : List Char) : HeapHistogram :=
  match front? total line with
  | some count => { heap with totalObjects := readCount? count }
  | none =>
    match (front? row line).bind Row.entry? with
    | some entry => { heap with entries := heap.entries ++ [entry] }
    | none => heap

/-- Whether a text has heap statistics: their title or the headings of their columns. -/
def isStatistics (text : String) : Bool :=
  mentions text "Statistics:" || (mentions text "TotalSize" && mentions text "Count")

/-- The statistics in a text: what stands behind the title, since objects may be listed before
it. -/
def statistics (text : String) : List Char :=
  match cutAt? "Statistics:".toList text.toList with
  | some (_, behind) => behind
  | none => text.toList

/-- The histogram in a text, which has at least one row. -/
def ofListing? (text : String) : Option HeapHistogram :=
  if isStatistics text then
    let heap := (lines (statistics text)).foldl readLine {}
    if heap.entries.isEmpty then none else some heap
  else none

end Postmortem.HeapHistogram
