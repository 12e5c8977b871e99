import Postmortem.Frame
import Postmortem.Text.Field
import Postmortem.Text.Scan

/-!
# Call sites

The parts of a frame's text: module, function, displacement and source location.
-/

namespace Postmortem

open Text

/-- A function name without a displacement such as `+0x14` or `+ 478`. -/
def dropDisplacement (cs : List Char) : List Char :=
  let function := trim cs
  match cutAtLast? ['+'] function with
  | some (name, behind) =>
    let tail := trim behind
    if !tail.isEmpty && ("0x".toList.isPrefixOf tail || tail.all Char.isDigit) then trimEnd name
    else function
  | none => function

/-- The module and the function in `module!function+0x14`. -/
def splitCallSite (cs : List Char) : Option String × Option String :=
  match cutAt? ['!'] (trim cs) with
  | some (m, f) => (value? m, value? (dropDisplacement f))
  | none => (none, value? (dropDisplacement cs))

/-- Whether the text is a non-empty run of ASCII digits. -/
def isNumber (cs : List Char) : Bool := isRunOf Char.isDigit cs

/-- A location whose line is given as text; a line that does not fit 32 bits is unknown. -/
def locationAt (file line : List Char) : SourceLocation :=
  ⟨.ofList file, readUnsigned? 10 32 line⟩

/-- Reads a source location: `file @ line`, `file:line`, `file:line:column` or a file alone, with
or without square brackets. The colon behind a drive letter belongs to the file. -/
def SourceLocation.read? (cs : List Char) : Option SourceLocation :=
  let text := trim (dropEndWhile (· == ']') ((trim cs).dropWhile (· == '[')))
  if text.isEmpty then none
  else
    match cutAtLast? " @ ".toList text with
    | some (file, line) => some (locationAt (trim file) (trim line))
    | none =>
      match cutAtLast? [':'] text with
      | none => some ⟨.ofList text, none⟩
      | some (front, last) =>
        if !isNumber last then some ⟨.ofList text, none⟩
        else
          match cutAtLast? [':'] front with
          | some (file, line) =>
            if isNumber line then some (locationAt file line) else some (locationAt front last)
          | none => some (locationAt front last)

/-- A row that starts with one or two pointers: stack pointer, perhaps instruction pointer, and
the call site. -/
def pointerRow? (line : List Char) : Option (List Char × Option (List Char) × List Char) :=
  Scan.front? scan line
where
  pointer : Scan (List Char) := Scan.columnThen (isHexColumn 8 16)
  scan : Scan (List Char × Option (List Char) × List Char) := do
    Scan.blanks
    let sp ← pointer
    (do let ip ← pointer; return (sp, some ip, ← Scan.lastColumn)) <|>
      (do return (sp, none, ← Scan.lastColumn))

end Postmortem
