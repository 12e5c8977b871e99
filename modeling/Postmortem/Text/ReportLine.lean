/-!
# Lines for people

How the lines of reports are ended and marked.
-/

namespace Postmortem

/-- The lines as one text, each ended by a line feed. -/
def linesText (lines : List String) : String := String.join (lines.map (· ++ "\n"))

/-- The mark of a warning. -/
def warningMark : String := "⚠️  "

/-- The mark of a bad finding. -/
def findingMark : String := "❌ "

end Postmortem
