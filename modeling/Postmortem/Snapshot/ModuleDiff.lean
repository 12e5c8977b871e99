import Postmortem.LoadedModule

/-!
# Changes of modules

Which modules were loaded and unloaded between two snapshots, and which of the others have another
version or base address. Modules are known by their file names.
-/

namespace Postmortem

/-- A module whose version or base address changed. -/
structure ModuleChange where
  name : String
  versionBefore : Option String
  versionAfter : Option String
  baseBefore : Option Address
  baseAfter : Option Address
deriving DecidableEq, Repr, Inhabited

/-- The changes of modules. -/
structure ModuleDiff where
  loaded : List LoadedModule := []
  unloaded : List LoadedModule := []
  changed : List ModuleChange := []
deriving DecidableEq, Repr, Inhabited

/-- Whether two values are known and differ. -/
def knownDifferent {α : Type} [BEq α] (a b : Option α) : Bool := a.isSome && b.isSome && a != b

namespace ModuleChange

/-- Whether the versions are known and differ. -/
def versionChanged (change : ModuleChange) : Bool :=
  knownDifferent change.versionBefore change.versionAfter

/-- Whether the base addresses are known and differ. -/
def rebased (change : ModuleChange) : Bool := knownDifferent change.baseBefore change.baseAfter

/-- What changed from one module to another, whether or not anything did. -/
def between (before after : LoadedModule) : ModuleChange :=
  ⟨after.name, before.version, after.version, before.baseAddress, after.baseAddress⟩

end ModuleChange

/-- The first module with a key. -/
def findModule? (modules : List LoadedModule) (key : String) : Option LoadedModule :=
  modules.find? fun m => m.key == key

/-- The modules without those whose key occurs before. -/
def distinctModules : List LoadedModule → List LoadedModule
  | [] => []
  | m :: ms => m :: (distinctModules ms).filter fun other => other.key != m.key

/-- The changes between two lists of modules. -/
def diffModules (baseline comparison : List LoadedModule) : ModuleDiff :=
  { loaded := (distinctModules comparison).filter fun m => (findModule? baseline m.key).isNone
    unloaded := (distinctModules baseline).filter fun m => (findModule? comparison m.key).isNone
    changed := ((distinctModules comparison).filterMap fun m =>
      (findModule? baseline m.key).map fun old => ModuleChange.between old m).filter fun change =>
        change.versionChanged || change.rebased }

end Postmortem
