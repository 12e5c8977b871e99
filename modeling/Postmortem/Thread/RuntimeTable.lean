import Postmortem.Text.Lines
import Postmortem.Text.Scan
import Postmortem.Thread
import Postmortem.Thread.State

/-!
# The runtime's thread table

One row per thread that the runtime knows: index in the debugger, managed id, OS id, thread
object, state bits, GC mode, allocation context, domain, lock count, apartment, and at last tags
in parentheses and the thread's exception.
-/

namespace Postmortem.RuntimeTable

open Text Scan

/-- A row of the table, as printed. -/
structure Row where
  /-- The debugger's index, which dead threads lack. -/
  index : Option (List Char)
  managedId : List Char
  osId : List Char
  state : List Char
  lockCount : List Char
  /-- What stands behind the apartment. -/
  remarks : List Char

/-- Whether the text is the index column. -/
def isIndex (cs : List Char) : Bool := isDigits cs || cs == "XXXX".toList

/-- Whether the text is a lock count. -/
def isLockCount : List Char → Bool
  | '-' :: cs => isDigits cs
  | cs => isDigits cs

/-- Whether the text is a GC mode. -/
def isMode (cs : List Char) : Bool := cs == "Preemptive".toList || cs == "Cooperative".toList

/-- The columns behind the index. -/
def columns (index : Option (List Char)) : Scan Row := do
  let managedId ← columnThen isDigits
  let osId ← columnThen (isRunOf isHexDigit)
  let _object ← columnThen fun cs => cs.all isHexDigit && 8 ≤ cs.length && cs.length ≤ 16
  let state ← columnThen (isRunOf isHexDigit)
  let _mode ← columnThen isMode
  let _allocation ← columnThen fun _ => true
  let _domain ← columnThen fun _ => true
  let lockCount ← columnThen isLockCount
  let _apartment ← column
  let remarks ← rest
  return { index, managedId, osId, state, lockCount, remarks }

/-- Reads a row. A first column that can be an index is one if the other columns follow it. -/
def row? (line : List Char) : Option Row :=
  front? (do blanks; let index ← columnThen isIndex; columns (some index)) line <|>
    front? (do blanks; columns none) line

/-- The texts in parentheses, trimmed, and the text with a blank in the place of each. An open
parenthesis that is never closed is plain text. -/
def splitTags (cs : List Char) : List (List Char) × List Char :=
  match _h : cutAt? ['('] cs with
  | none => ([], cs)
  | some (before, behind) =>
    match _h' : cutAt? [')'] behind with
    | none => ([], cs)
    | some (inside, after) =>
      let (tags, plain) := splitTags after
      (trim inside :: tags, before ++ ' ' :: plain)
termination_by cs.length
decreasing_by
  have h₁ := eq_of_cutAt? _h
  have h₂ := eq_of_cutAt? _h'
  simp [h₁, h₂]
  omega

/-- The bits of a state column; a number that does not fit has none. -/
def Row.stateBits (row : Row) : Nat := (readUnsigned? 16 32 row.state).getD 0

/-- The exception type among the remarks: their first word, if it has a dot. -/
def exceptionIn (plain : List Char) : Option String :=
  ((words plain).head?.filter (·.contains '.')).map .ofList

/-- The thread of a row. -/
def Row.thread (row : Row) : Thread :=
  let (tags, plain) := splitTags (trim row.remarks)
  let flags := describeState row.stateBits
  let index := (row.index.filter (· != "XXXX".toList)).getD row.managedId
  let exception := exceptionIn plain
  { id := .parse (.ofList index)
    osThreadId := some (.parse (.ofList row.osId))
    managedId := readUnsigned? 10 32 row.managedId
    name := tags.head?.map .ofList
    state := ", ".intercalate (if flags.isEmpty then ["Running"] else flags)
    isFaulting := exception.isSome
    isThreadPool := isPoolState row.stateBits ||
      tags.any fun tag => occursIn "threadpool".toList (asciiLower tag)
    lockCount := ((readInt64? row.lockCount).getD 0).toNat % 2 ^ 32
    exception }

/-- The wait flag of a row. -/
def Row.threadState (row : Row) : ThreadState :=
  let thread := row.thread
  { thread := thread.osThreadId.getD thread.id
    waiting := isWaitingState row.stateBits
    description := thread.state }

/-- Whether a text is such a table: it has the two headings. -/
def isTable (text : String) : Bool := mentions text "ThreadOBJ" && mentions text "OSID"

/-- The rows of a text. -/
def rows (text : String) : List Row := (lines text.toList).filterMap row?

end Postmortem.RuntimeTable
