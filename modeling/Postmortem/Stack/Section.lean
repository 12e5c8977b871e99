import Postmortem.Thread

/-!
# Sections of stack listings

A stack listing has one section per thread: a heading and the frames behind it. Frames in front of
the first heading form a section of their own, and a section without frames is left out.
-/

namespace Postmortem

/-- The frames of one thread, in the order in which they were printed. -/
structure ThreadStack where
  threadId : Option ThreadId := none
  osThreadId : Option ThreadId := none
  frames : List Frame := []
deriving DecidableEq, Repr, Inhabited

/-- The sections read so far. -/
structure Sections where
  finished : List ThreadStack := []
  current : Option ThreadStack := none

namespace Sections

/-- All sections that have frames. -/
def close (s : Sections) : List ThreadStack :=
  s.finished ++ (s.current.filter fun stack => !stack.frames.isEmpty).toList

/-- Starts the section of a thread. -/
def start (s : Sections) (threadId osThreadId : Option ThreadId) : Sections :=
  { finished := s.close, current := some { threadId, osThreadId } }

/-- Adds a frame to the section that is being read. -/
def addFrame (s : Sections) (frame : Frame) : Sections :=
  let stack := s.current.getD {}
  { s with current := some { stack with frames := stack.frames ++ [frame] } }

/-- Changes the frame that was read last, if the section that is being read has one. -/
def modifyLast (s : Sections) (f : Frame → Frame) : Sections :=
  { s with current := s.current.map fun stack =>
      { stack with frames := stack.frames.modify (stack.frames.length - 1) f } }

end Sections

end Postmortem
