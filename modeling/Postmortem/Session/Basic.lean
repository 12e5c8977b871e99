import Postmortem.Session.Availability
import Postmortem.Session.Backend

/-!
# Debugger sessions

The commands of one run and what came of them. No command raises an error: a command that crashed
or timed out is noted in the crash log, and the session goes on.
-/

namespace Postmortem

/-- What came of a command. -/
inductive Outcome where
  | output (text : String)
  /-- The backend does not have this kind of data. -/
  | unavailable (phrase : String)
  /-- The backend crashed or timed out. -/
  | failed (reason : String)
deriving DecidableEq, Repr

/-- The output of a command. -/
def Outcome.output? : Outcome → Option String
  | output text => some text
  | _ => none

/-- The phrase for a command that the backend knows nothing about. -/
def notRecordedPhrase : String := "not recorded"

/-- What a reply means for the session. -/
def Reply.outcome (command : String) (timeout : Duration) : Reply → Outcome
  | output text =>
    match unavailablePhrase? text with
    | some phrase => .unavailable phrase
    | none => .output text
  | error .notRecorded => .unavailable notRecordedPhrase
  | error cause => .failed (cause.message command timeout)
  | breakdown _ => .unavailable notRecordedPhrase

/-- A command that crashed or timed out. -/
structure CrashRecord where
  command : String
  reason : String
deriving DecidableEq, Repr, Inhabited

/-- The commands of one run. -/
structure Session where
  backend : Backend
  timeout : Duration
  /-- The commands that were run, in order. -/
  executed : List String := []
  crashLog : List CrashRecord := []

namespace Session

/-- What a command gives; it is the same at any time of the session. -/
def outcome (s : Session) (command : String) : Outcome :=
  (s.backend.reply command).outcome command s.timeout

/-- Runs a command. -/
def run (command : String) : StateM Session Outcome := fun s =>
  let outcome := s.outcome command
  let crashed := match outcome with
    | .failed reason => [{ command, reason }]
    | _ => []
  (outcome, { s with executed := s.executed ++ [command], crashLog := s.crashLog ++ crashed })

/-- The message of a breakdown, if the command broke the backend down. -/
def breakdownOf? (s : Session) (command : String) : Option (Option String) :=
  match s.backend.reply command with
  | .breakdown message => some message
  | _ => none

/-- The breakdown that ended the session. -/
def breakdown? (s : Session) : Option (Option String) := s.executed.findSome? s.breakdownOf?

/-- The commands in front of a breakdown: all of them, if there was none. -/
def answered (s : Session) : List String :=
  s.executed.takeWhile fun command => (s.breakdownOf? command).isNone

end Session

end Postmortem
