import Postmortem.Text.Lines
import Postmortem.Text.Search
import Postmortem.Text.Blank

/-!
# Answers that say that there is no answer

A debugger that does not know a command, or whose extension is not loaded, says so in its output.
Only the first lines count: long listings may mention such a phrase further down. Lines that are
fields of a record do not count either, because their values are data of the program.
-/

namespace Postmortem

open Text

/-- The phrases that mean that a kind of data is not available, the first one found counts. -/
def unavailablePhrases : List String :=
  ["is not a valid command", "unrecognized command", "command not found", "not supported",
   "no export", "sos not loaded", "runtime module is not loaded", "failed to find runtime",
   "unable to find module", "no clr runtime", "not loaded"]

/-- The labels in front of messages of the debugger itself. -/
def diagnosticLabels : List String := ["error", "warning", "sos"]

/-- Whether a character can be part of the label of a field. -/
def isLabelChar (c : Char) : Bool := c.isAlphanum || [' ', '_', '(', ')'].contains c

/-- Whether a line in small letters is a field of a record: a label, a colon and a value. -/
def isRecordField (line : List Char) : Bool :=
  match cutAt? [':'] line with
  | some (before, _) =>
    let label := trim before
    !label.isEmpty && label.all isLabelChar && !diagnosticLabels.contains (.ofList label)
  | none => false

/-- How many lines are looked at. -/
def headLength : Nat := 3

/-- The first lines of an output that are not blank, trimmed and in small letters, without the
fields of records. -/
def headLines (output : List Char) : List (List Char) :=
  let nonBlank := ((lines output).map trim).filter (!·.isEmpty)
  ((nonBlank.take headLength).map asciiLower).filter (!isRecordField ·)

/-- The phrase that makes an output unavailable. -/
def unavailablePhrase? (output : String) : Option String :=
  let head := headLines output.toList
  unavailablePhrases.find? fun phrase => head.any (occursIn phrase.toList)

end Postmortem
