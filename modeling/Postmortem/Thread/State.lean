import Postmortem.Thread.Id
import Postmortem.Text.Search

/-!
# Thread states

What a thread is doing: the flags that a runtime keeps for it, and the names of functions and
states that tell that it waits.
-/

namespace Postmortem

open Text

/-- The names of the state bits, lowest bit first. -/
def stateFlags : List String :=
  ["Abort Requested", "GC Suspend Pending", "User Suspend Pending", "Debug Suspend Pending",
   "GC On Transitions", "Legal to Join", "Yield Requested", "Hijacked by the GC",
   "Blocking GC for Stack Overflow", "Background", "Unstarted", "Dead",
   "CLR Owns", "CoInitialized", "In Single Threaded Apartment", "In Multi Threaded Apartment",
   "Reported Dead", "Fully initialized", "Task Reset", "Sync Suspended",
   "Debug Will Sync", "Stack Crawl Needed", "Suspend Unstarted", "Aborted",
   "Thread Pool Worker Thread", "Interruptible", "Interrupted", "Completion Port Thread",
   "Abort Initiated", "Finalized", "Failed to Start", "Detached"]

/-- The names of the bits that are set, lowest bit first. -/
def describeState (bits : Nat) : List String :=
  (stateFlags.zipIdx.filter fun (_, i) => bits.testBit i).map Prod.fst

/-- Whether the state is a wait, sleep or join: suspended for synchronisation or interruptible. -/
def isWaitingState (bits : Nat) : Bool := bits.testBit 19 || bits.testBit 25

/-- Whether the state belongs to a pool: worker or completion port thread. -/
def isPoolState (bits : Nat) : Bool := bits.testBit 24 || bits.testBit 27

/-- A piece of a name that starts with one of these words names a wait. -/
def waitWords : List String :=
  ["wait", "sleep", "lock", "blocked", "futex", "semaphore", "psynch", "interruptible"]

/-- A text that holds one of these phrases names a wait. `join` on its own is none of them: every
thread can be joined. -/
def waitPhrases : List String :=
  ["monitor.enter", "monitor.reliableenter", "cvwait", "thread.join", "pthread_join",
   "sync suspended"]

/-- The pieces of a name in small letters: letters and digits stay together, and a capital behind
a small letter or a digit starts a new piece. -/
def namePieces (cs : List Char) : List (List Char) :=
  go [] false cs
where
  /-- `piece` is the piece being read, last character first; `afterLower` tells whether a capital
  would end it. -/
  go (piece : List Char) (afterLower : Bool) : List Char → List (List Char)
    | [] => close piece []
    | c :: cs =>
      if !c.isAlphanum then close piece (go [] false cs)
      else
        let continues := c.isLower || c.isDigit
        if c.isUpper && afterLower then piece.reverse :: go [c.toLower] continues cs
        else go (c.toLower :: piece) continues cs
  /-- Puts a finished piece in front, unless it is empty. -/
  close (piece : List Char) (pieces : List (List Char)) : List (List Char) :=
    if piece.isEmpty then pieces else piece.reverse :: pieces

/-- Whether a text names a wait, sleep, join or lock. -/
def mentionsWait (s : String) : Bool :=
  let lower := asciiLower s.toList
  waitPhrases.any (fun phrase => occursIn phrase.toList lower) ||
    (namePieces s.toList).any fun piece => waitWords.any fun word => word.toList.isPrefixOf piece

/-- Whether a thread waits, as a thread listing tells it. -/
structure ThreadState where
  thread : ThreadId
  waiting : Bool
  description : String
deriving DecidableEq, Repr, Inhabited

end Postmortem
