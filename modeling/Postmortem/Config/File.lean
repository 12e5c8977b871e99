import Postmortem.Json.Settings
import Postmortem.Toml.Document

/-!
# Configuration files

A configuration is read from a settings file and has to be valid. Keys that are missing have their
defaults, and unknown ones count for nothing.
-/

namespace Postmortem

/-- Why a file is no configuration. -/
inductive ConfigFileError where
  /-- It is no settings file, or a setting has the wrong type. -/
  | unreadable
  | invalid (problem : ConfigProblem)
deriving DecidableEq, Repr

/-- A choice that is written as a table with one empty entry, as its name. -/
def choiceName : Json → Json
  | .obj [(name, .obj [])] | .obj [(name, .arr [])] => .str name
  | json => json

/-- A group of settings that is written as an array, without surplus items. -/
def withoutSurplus (size : Nat) : Json → Json
  | .arr items => .arr (items.take size)
  | json => json

/-- The settings of a file in the form of a record. -/
def settle : Json → Json
  | .obj members =>
    .obj (members.map fun (name, json) =>
      (name, match name with
        | "stack_growth" => choiceName json
        | "inspect_limits" => withoutSurplus 3 json
        | "aot" => withoutSurplus 2 json
        | "evidence_weights" => withoutSurplus 8 json
        | "leak" => withoutSurplus 5 json
        | _ => json))
  | json => json

/-- Reads a configuration file. -/
def Config.ofToml (file : String) : Except ConfigFileError Config :=
  match (Toml.parse? file).bind fun json => Config.ofJson? (settle json) with
  | some config =>
    match config.problem? with
    | some problem => .error (.invalid problem)
    | none => .ok config
  | none => .error .unreadable

end Postmortem
