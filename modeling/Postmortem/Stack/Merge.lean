import Postmortem.Config.Basic
import Postmortem.Frame

/-!
# Merged stacks

The native unwinder sees every frame and knows nothing about managed methods; the runtime-aware
walker names managed methods and skips native ones. Both report stack pointers, so frames of equal
stack pointers are one frame, and the runtime's other frames are put where their stack pointers
belong.

A frame's place is its **rank**: its stack pointer, turned round where stacks grow upward, so that
inner frames always have lower ranks. A frame without a stack pointer has an estimated rank, which
only serves to find places.
-/

namespace Postmortem

/-- How the frames of a stack were put together. -/
inductive MergeStrategy where
  /-- By their stack pointers. -/
  | correlated
  /-- One list behind the other, for lack of stack pointers. -/
  | concatenated
deriving DecidableEq, Repr, Inhabited

/-- A stack put together from two lists of frames. -/
structure MergedStack where
  frames : List Frame
  strategy : MergeStrategy
  /-- How many native frames were joined with a frame of the runtime. -/
  matched : Nat
  /-- How many frames of the runtime were put between the native ones. -/
  inserted : Nat
deriving DecidableEq, Repr, Inhabited

/-- What the order of frames depends on. -/
structure StackLayout where
  growth : StackGrowth := .downward
  /-- The distance between neighbours that is assumed where only one is known. -/
  stride : Nat := 16
deriving DecidableEq, Repr, Inhabited

/-- The layout that a configuration describes. -/
def Config.stackLayout (config : Config) : StackLayout :=
  ⟨config.stackGrowth, config.extrapolationStride⟩

/-- The greatest address. -/
def maxAddress : Nat := 2 ^ 64 - 1

/-- A frame with its rank, known or estimated. -/
structure RankedFrame where
  frame : Frame
  rank : Option Nat
deriving DecidableEq, Repr, Inhabited

namespace StackLayout

variable (layout : StackLayout)

/-- The rank of a stack pointer. -/
def rank (sp : Address) : Nat :=
  match layout.growth with
  | .downward => sp.toNat
  | .upward => maxAddress - sp.toNat

/-- The known rank of a frame. -/
def rankOf (frame : Frame) : Option Nat := frame.stackPointer.map layout.rank

/-- The positions and ranks of the frames whose rank is known. -/
def knownRanks (frames : List Frame) : List (Nat × Nat) :=
  frames.zipIdx.filterMap fun (frame, i) => (layout.rankOf frame).map fun r => (i, r)

/-- The value at a position on the straight line through two points, rounded toward the first. -/
def interpolate (i₁ r₁ i₂ r₂ i : Nat) : Nat :=
  let value := (r₁ : Int) + (((r₂ : Int) - r₁) * ((i : Int) - i₁)).tdiv ((i₂ : Int) - i₁)
  min value.toNat maxAddress

/-- The rank at a position: between known ranks it is interpolated, and beyond them extrapolated
by the stride. -/
def estimate (known : List (Nat × Nat)) (i : Nat) : Option Nat :=
  match known.reverse.find? fun p => p.1 ≤ i, known.find? fun p => i ≤ p.1 with
  | some (i₁, r₁), some (i₂, r₂) =>
    if i₁ = i₂ then some r₁ else some (interpolate i₁ r₁ i₂ r₂ i)
  | some (i₁, r₁), none => some (min (r₁ + layout.stride * (i - i₁)) maxAddress)
  | none, some (i₂, r₂) => some (r₂ - layout.stride * (i₂ - i))
  | none, none => none

/-- The frames with their ranks. -/
def withRanks (frames : List Frame) : List RankedFrame :=
  let known := layout.knownRanks frames
  frames.zipIdx.map fun (frame, i) => ⟨frame, layout.estimate known i⟩

/-- The frames from the inside out: reversed if the first known rank is above the last one. -/
def inward (frames : List Frame) : List Frame :=
  let known := frames.filterMap layout.rankOf
  match known.head?, known.getLast? with
  | some first, some last => if last < first then frames.reverse else frames
  | _, _ => frames

/-- The frames from the inside out with their ranks, sorted if every frame has one. -/
def normalize (frames : List Frame) : List RankedFrame :=
  let ranked := layout.withRanks (layout.inward frames)
  if ranked.all (·.rank.isSome) then
    ranked.mergeSort fun a b => a.rank.getD 0 ≤ b.rank.getD 0
  else ranked

end StackLayout

namespace Frame

/-- A native frame with what the runtime knows about it. The frame keeps its stack pointer and,
if it has one, its instruction pointer. -/
def overlay (native runtime : Frame) : Frame :=
  { native with
    function := runtime.function <|> native.function
    moduleName := runtime.moduleName <|> native.moduleName
    source := runtime.source <|> native.source
    registers := if runtime.registers.isEmpty then native.registers else runtime.registers
    parameters := if runtime.parameters.isEmpty then native.parameters else runtime.parameters
    locals := if runtime.locals.isEmpty then native.locals else runtime.locals
    instructionPointer := native.instructionPointer <|> runtime.instructionPointer
    isRuntimeTracked := true }

end Frame

/-- The position of the first frame with the stack pointer of a given frame. -/
def counterpart? (runtime : List RankedFrame) (frame : Frame) : Option Nat :=
  frame.stackPointer.bind fun sp => runtime.findIdx? fun r => r.frame.stackPointer == some sp

/-- Joins native frames with their counterparts, each of which is used once. The result comes with
the positions of the counterparts that were used. -/
def join (runtime : List RankedFrame) :
    (used : List Nat) → List RankedFrame → List RankedFrame × List Nat
  | used, [] => ([], used)
  | used, native :: rest =>
    match (counterpart? runtime native.frame).filter fun i => !used.contains i with
    | some i =>
      let joined := (runtime[i]?.map fun r => native.frame.overlay r.frame).getD native.frame
      let (frames, used) := join runtime (i :: used) rest
      (⟨joined, native.rank⟩ :: frames, used)
    | none =>
      let (frames, used) := join runtime used rest
      (native :: frames, used)

/-- Puts a frame in front of the first one with a greater rank, or at the end. -/
def place (merged : List RankedFrame) (orphan : RankedFrame) : List RankedFrame :=
  match orphan.rank with
  | some r =>
    let (inside, outside) := merged.span fun other => !other.rank.any (r < ·)
    inside ++ orphan :: outside
  | none => merged ++ [orphan]

namespace StackLayout

/-- Merges the native and the runtime's frames of one thread. -/
def merge (layout : StackLayout) (native runtime : List Frame) : MergedStack :=
  if ((native ++ runtime).filter (·.stackPointer.isSome)).length < 2 then
    { frames := renumber (native ++ runtime)
      strategy := .concatenated
      matched := 0
      inserted := runtime.length }
  else
    let native := layout.normalize native
    let runtime := layout.normalize runtime
    let (joined, used) := join runtime [] native
    let orphans := (runtime.zipIdx.filter fun p => !used.contains p.2).map Prod.fst
    { frames := renumber ((orphans.foldl place joined).map RankedFrame.frame)
      strategy := .correlated
      matched := used.length
      inserted := orphans.length }

end StackLayout

end Postmortem
