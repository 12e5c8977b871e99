import Postmortem.Json.Basic
import Postmortem.Number.Decimal
import Postmortem.Text.Numeral

/-!
# Writing JSON

Texts of JSON values, on one line or indented by two spaces a level.
-/

namespace Postmortem.Json

open Text

/-- A character inside a string. -/
def escape (c : Char) : List Char :=
  match c with
  | '"' => ['\\', '"']
  | '\\' => ['\\', '\\']
  | '\x08' => ['\\', 'b']
  | '\x0c' => ['\\', 'f']
  | '\n' => ['\\', 'n']
  | '\r' => ['\\', 'r']
  | '\t' => ['\\', 't']
  | c => if c < ' ' then '\\' :: 'u' :: hexPadded 4 c.toNat else [c]

/-- A quoted string. -/
def quote (s : String) : String := .ofList ('"' :: s.toList.flatMap escape ++ ['"'])

/-- How the parts of a value are set apart. -/
structure Layout where
  /-- Between brackets and the first or last part, at a level. -/
  newline : Nat → String
  /-- Behind the colon of a member. -/
  gap : String

/-- Everything on one line. -/
def Layout.compact : Layout := ⟨fun _ => "", ""⟩

/-- A line for each part. -/
def Layout.indented : Layout :=
  ⟨fun level => "\n" ++ .ofList (List.replicate (2 * level) ' '), " "⟩

/-- Parts in brackets. -/
def Layout.enclose (layout : Layout) (level : Nat) (opening closing : String)
    (parts : List String) : String :=
  if parts.isEmpty then opening ++ closing
  else opening ++ layout.newline (level + 1) ++
    ("," ++ layout.newline (level + 1)).intercalate parts ++ layout.newline level ++ closing

mutual

/-- The text of a value at a level. -/
def render (layout : Layout) (level : Nat) : Json → String
  | .null => "null"
  | .bool b => if b then "true" else "false"
  | .int n => toString n
  | .real x => x.literal
  | .str s => quote s
  | .arr items => layout.enclose level "[" "]" (renderItems layout (level + 1) items)
  | .obj members =>
    layout.enclose level "\x7b" "\x7d" (renderMembers layout (level + 1) members)

/-- The texts of items. -/
def renderItems (layout : Layout) (level : Nat) : List Json → List String
  | [] => []
  | item :: items => render layout level item :: renderItems layout level items

/-- The texts of members. -/
def renderMembers (layout : Layout) (level : Nat) : List (String × Json) → List String
  | [] => []
  | (name, value) :: members =>
    (quote name ++ ":" ++ layout.gap ++ render layout level value) ::
      renderMembers layout level members

end

/-- The text on one line. -/
def compact (json : Json) : String := json.render .compact 0

/-- The indented text. -/
def pretty (json : Json) : String := json.render .indented 0

end Postmortem.Json
