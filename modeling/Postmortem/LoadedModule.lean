import Postmortem.Address
import Postmortem.Text.Search

/-!
# Loaded modules

Executables, shared libraries and assemblies in the address space of the process.
-/

namespace Postmortem

open Text

/-- Whether a character separates directories. -/
def isPathSeparator (c : Char) : Bool := c == '/' || c == '\\'

/-- The part of a path behind its last separator. -/
def fileName (path : List Char) : List Char := behindLast isPathSeparator path

/-- A module in the address space. -/
structure LoadedModule where
  name : String
  path : Option String := none
  baseAddress : Option Address := none
  endAddress : Option Address := none
  version : Option String := none
  uuid : Option String := none
deriving DecidableEq, Repr, Inhabited

/-- The file name of a module in small letters: modules of one name are the same module. -/
def moduleKey (name : String) : String := .ofList (asciiLower (trim (fileName name.toList)))

/-- The key of a module. -/
def LoadedModule.key (m : LoadedModule) : String := moduleKey m.name

end Postmortem
