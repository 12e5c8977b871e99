import Postmortem.Config.Basic
import Postmortem.Session.Basic

/-!
# Fetching data

One kind of data can often be had from several commands. They are run in order until one gives an
output that can be read.
-/

namespace Postmortem

/-- A kind of data that the backend does not have. -/
structure UnavailableData where
  command : String
  phrase : String
deriving DecidableEq, Repr, Inhabited

/-- A session and what it could not give. -/
structure Channel where
  session : Session
  unavailable : List UnavailableData := []

/-- The channel of a new run. -/
def Config.openChannel (config : Config) (backend : Backend) : Channel :=
  { session := { backend, timeout := .ofSeconds config.commandTimeoutSecs } }

namespace Channel

variable {α : Type}

/-- Runs a command and notes that its data is unavailable. -/
def run (command : String) : StateM Channel (Option String) := fun channel =>
  let (outcome, session) := Session.run command channel.session
  match outcome with
  | .output text => (some text, { channel with session })
  | .unavailable phrase =>
    (none, { session, unavailable := channel.unavailable ++ [{ command, phrase }] })
  | .failed _ => (none, { channel with session })

/-- Runs commands until one has an output that can be read. -/
def fetchText (read? : String → Option α) : List String → StateM Channel (Option (String × α))
  | [] => return none
  | command :: commands => do
    match ← run command with
    | some text =>
      match read? text with
      | some a => return some (text, a)
      | none => fetchText read? commands
    | none => fetchText read? commands

/-- What the first output that can be read says. -/
def fetch (read? : String → Option α) (commands : List String) : StateM Channel (Option α) := do
  return (← fetchText read? commands).map Prod.snd

end Channel

end Postmortem
