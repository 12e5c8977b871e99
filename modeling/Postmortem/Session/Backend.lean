import Postmortem.Number.Duration

/-!
# Debugger backends

What answers the commands of an analysis. A backend can crash or hang while it runs a command, and
it can break down altogether; a run that meets a breakdown has no result.
-/

namespace Postmortem

/-- Why a command has no output. -/
inductive CommandError where
  | crashed (reason : String)
  | timedOut
  /-- Nothing is known about the command. -/
  | notRecorded
deriving DecidableEq, Repr

/-- The text of an error. -/
def CommandError.message (command : String) (timeout : Duration) : CommandError → String
  | crashed reason => s!"debugger backend crashed while running '{command}': {reason}"
  | timedOut => s!"command '{command}' timed out after {timeout}"
  | notRecorded => s!"no recorded output for command '{command}'"

/-- What a backend does with a command. -/
inductive Reply where
  | output (text : String)
  | error (cause : CommandError)
  /-- The backend breaks down, with or without a message. -/
  | breakdown (message : Option String)
deriving DecidableEq, Repr

/-- Answers commands. -/
structure Backend where
  reply : String → Reply

end Postmortem
