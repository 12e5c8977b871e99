import Postmortem.LoadedModule
import Postmortem.Stack.ReturnTable
import Postmortem.Thread.Listing

/-!
# Module listings

Three forms: numbered images with build ids, start and end addresses with details on indented
lines, and base addresses with sizes. A listing is read in the first form in which it has rows.
-/

namespace Postmortem.LoadedModule

open Text Scan

/-- The version directory in a path, such as `8.0.1` in `/shared/8.0.1/a.dll`. -/
def versionInPath (path : List Char) : Option String :=
  (first? version path).map .ofList
where
  number : Scan (List Char) := span1 isDecimalDigit
  part : Scan (List Char) := do literal "."; return '.' :: (← number)
  label : Scan (List Char) := do literal "-"; return '-' :: (← span1 fun c => c.isAlphanum || c == '.')
  version : Scan (List Char) := do
    let _ ← one isPathSeparator
    let digits := (← number) ++ (← part) ++ (← part)
    let fourth := (← optional part).getD []
    let suffix := (← optional label).getD []
    let _ ← one isPathSeparator
    return digits ++ fourth ++ suffix

/-- The module at a path. -/
def atPath (path : List Char) : LoadedModule :=
  { name := .ofList (fileName path), path := some (.ofList path), version := versionInPath path }

/-! ### Numbered images -/

/-- Whether the text is a build id: digit groups joined by hyphens, or a long run of digits. -/
def isBuildId (cs : List Char) : Bool :=
  let groups := cs.splitOnP (· == '-')
  groups.all (isRunOf isHexDigit) &&
    match groups with
    | [digits] => 32 ≤ digits.length && digits.length ≤ 40
    | first :: _ => first.length == 8
    | [] => false

/-- Whether the text is an address with a prefix. -/
def isPrefixedAddress : List Char → Bool
  | '0' :: 'x' :: digits => isRunOf isHexDigit digits
  | _ => false

/-- Reads the path of an image: the rest of the line up to a remark in parentheses. An image whose
path is blank still counts if two blanks stand in its place. -/
def imagePath : Scan (List Char) := do
  let behind ← rest
  let (path, remark) := (trimStart behind).span (· != '(')
  guard (behind.head?.any isBlank)
  guard (remark.isEmpty || [')'].isSuffixOf (trimEnd remark))
  guard (!path.isEmpty || (behind.takeWhile isBlank).length ≥ 2)
  return trimEnd path

/-- Reads an image: number, build id, base address and path. -/
def image : Scan LoadedModule := do
  blanks
  literal "["
  blanks
  let _ ← span1 isDecimalDigit
  literal "]"
  blanks1
  let uuid ← optional (columnThen isBuildId)
  let base ← column
  guard (isPrefixedAddress base)
  let path ← imagePath
  return { atPath path with baseAddress := Address.read? base, uuid := uuid.map .ofList }

/-- The images of a text. -/
def images (text : String) : List LoadedModule := (lines text.toList).filterMap (front? image)

/-! ### Address ranges -/

/-- Reads a module with its address range, which starts in the first column. -/
def range : Scan LoadedModule := do
  let start ← columnThen ReturnTable.isAddressColumn
  let stop ← columnThen ReturnTable.isAddressColumn
  let name ← column
  guard (!name.contains '(')
  return { name := .ofList name
           baseAddress := Address.read? start
           endAddress := Address.read? stop }

/-- Stores a detail of a module. A product version counts where no file version is known. -/
def store (m : LoadedModule) (label : String) (value : List Char) : LoadedModule :=
  match label with
  | "Image path" => { m with path := value? value }
  | "File version" => { m with version := value? value }
  | "Product version" => if m.version.isNone then { m with version := value? value } else m
  | _ => m

/-- Reads one line: a module, or a detail of the last one. -/
def readRange (modules : List LoadedModule) (line : List Char) : List LoadedModule :=
  match front? range line with
  | some m => modules ++ [m]
  | none =>
    match labelled? line with
    | some (label, value) => modules.modify (modules.length - 1) fun m => m.store label value
    | none => modules

/-- Whether a text lists address ranges. -/
def isRangeList (text : String) : Bool := mentions text "module name" || mentions text "Image path:"

/-- The modules of a text with their address ranges. -/
def ranges (text : String) : List LoadedModule := (lines text.toList).foldl readRange []

/-! ### Bases and sizes -/

/-- Reads a module with its base address, its size and a path that has a separator. -/
def sized : Scan LoadedModule := do
  blanks
  let base ← columnThen (isHexColumn 8 16)
  let size ← columnThen (isHexColumn 8 16)
  let path ← lastColumn
  guard (path.any isPathSeparator)
  let base := Address.read? base
  let endAddress := do Address.ofNat? ((← base).toNat + (← Address.read? size).toNat)
  return { atPath path with baseAddress := base, endAddress }

/-- The modules of a text with their sizes. -/
def sizedModules (text : String) : List LoadedModule :=
  (lines text.toList).filterMap (front? sized)

/-! ### Listings of any form -/

/-- The modules of a listing. -/
def ofListing? (text : String) : Option (List LoadedModule) :=
  nonEmpty? (images text) <|>
  (if isRangeList text then nonEmpty? (ranges text) else none) <|>
  nonEmpty? (sizedModules text)

end Postmortem.LoadedModule
