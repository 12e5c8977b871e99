import Postmortem.Address
import Postmortem.Text.Search

/-!
# Members of types

The methods that a type has in the process, and the way a type was found by its name.
-/

namespace Postmortem

open Text

/-- How far a method is compiled. -/
inductive CompileStatus where
  | preJit
  | jit
  | notCompiled
  | fcall
  | unknown
deriving DecidableEq, Repr, Inhabited

/-- Reads a compile status in any case. -/
def CompileStatus.parse (s : String) : CompileStatus :=
  match String.ofList ((trim s.toList).map Char.toUpper) with
  | "PREJIT" | "R2R" | "READYTORUN" => .preJit
  | "JIT" => .jit
  | "NONE" => .notCompiled
  | "FCALL" => .fcall
  | _ => .unknown

/-- One member of a type. -/
structure MemberInfo where
  name : String
  signature : String
  compileStatus : CompileStatus
deriving DecidableEq, Repr, Inhabited

/-- The members of one type. -/
structure MemberTable where
  typeName : Option String := none
  members : List MemberInfo := []
deriving DecidableEq, Repr, Inhabited

/-- Where a type was found by its name. -/
structure TypeLookup where
  methodTable : Option Address := none
  eeClass : Option Address := none
  name : Option String := none
  /-- The assembly of the type. -/
  assembly : Option String := none
deriving DecidableEq, Repr, Inhabited

/-- The name of a member in its signature: the last segment in front of the parameters and of an
instantiation in double brackets. Constructors keep their leading dot. -/
def memberName (signature : String) : String :=
  let head := trim (signature.toList.takeWhile (· != '('))
  if "..cctor".toList.isSuffixOf head then ".cctor"
  else if "..ctor".toList.isSuffixOf head then ".ctor"
  else
    let plain := match cutAt? "[[".toList head with
      | some (before, _) => before
      | none => head
    .ofList (behindLast (· == '.') plain)

end Postmortem
