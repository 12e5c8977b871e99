import Postmortem.Address
import Postmortem.SortedMap

/-!
# Call frames

One frame of a call stack, as a native unwinder or a runtime-aware walker reports it.
-/

namespace Postmortem

/-- A source file and a line in it. -/
structure SourceLocation where
  file : String
  line : Option Nat
deriving DecidableEq, Repr, Inhabited

namespace SourceLocation

/-- A location is printed as its file and, if known, a colon and the line. -/
def text (source : SourceLocation) : String :=
  match source.line with
  | some line => s!"{source.file}:{line}"
  | none => source.file

instance : ToString SourceLocation := ⟨text⟩

end SourceLocation

/-- A parameter or local variable. -/
structure Variable where
  name : String
  location : Option String
  value : Option String
deriving DecidableEq, Repr, Inhabited

/-- A call frame; index zero is the innermost frame of its stack. -/
structure Frame where
  index : Nat := 0
  instructionPointer : Option Address := none
  stackPointer : Option Address := none
  moduleName : Option String := none
  function : Option String := none
  source : Option SourceLocation := none
  /-- Reported by the runtime-aware walker rather than by the native unwinder. -/
  isRuntimeTracked : Bool := false
  registers : SortedMap String := ⟨[]⟩
  parameters : List Variable := []
  locals : List Variable := []
deriving DecidableEq, Repr, Inhabited

/-- A part of a frame whose text can be searched. -/
inductive FrameField where
  | function
  | moduleName
  | source
deriving DecidableEq, Repr, Inhabited

namespace Frame

/-- The name of a frame: module and function, or the instruction pointer if neither is known. -/
def displayName (frame : Frame) : String :=
  match frame.moduleName, frame.function with
  | some m, some f => s!"{m}!{f}"
  | none, some f => f
  | some m, none => s!"{m}!<unknown>"
  | none, none => (frame.instructionPointer.map Address.text).getD "<unknown>"

/-- The text of a field, if the frame has it. -/
def textOf (frame : Frame) : FrameField → Option String
  | .function => frame.function
  | .moduleName => frame.moduleName
  | .source => frame.source.map SourceLocation.file

/-- The texts of a frame with the fields they come from: function, module, source file. -/
def searchable (frame : Frame) : List (FrameField × String) :=
  [FrameField.function, .moduleName, .source].filterMap fun field =>
    (frame.textOf field).map fun text => (field, text)

end Frame

/-- Numbers the frames of a stack from zero. -/
def renumber (frames : List Frame) : List Frame :=
  frames.zipIdx.map fun (frame, i) => { frame with index := i }

end Postmortem
