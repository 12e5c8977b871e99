import Postmortem.Thread.NativeList
import Postmortem.Thread.RuntimeTable

/-!
# Thread listings

The threads in a listing of either form, and what the same listing says about who waits. A
listing is read as the runtime's table if it looks like one and has rows, and else as the native
list.
-/

namespace Postmortem

/-- The list itself, unless it is empty. -/
def nonEmpty? {α : Type} (xs : List α) : Option (List α) := if xs.isEmpty then none else some xs

namespace Thread

/-- The threads of a listing. -/
def ofListing? (text : String) : Option (List Thread) :=
  (if RuntimeTable.isTable text then
    nonEmpty? ((RuntimeTable.rows text).map RuntimeTable.Row.thread) else none) <|>
  (if NativeList.isList text then
    nonEmpty? (NativeList.threads (NativeList.entries text)) else none)

end Thread

namespace ThreadState

/-- The wait flags of a listing. -/
def ofListing? (text : String) : Option (List ThreadState) :=
  (if RuntimeTable.isTable text then
    nonEmpty? ((RuntimeTable.rows text).map RuntimeTable.Row.threadState) else none) <|>
  (if NativeList.isList text then
    nonEmpty? ((NativeList.entries text).map NativeList.Entry.threadState) else none)

end ThreadState

end Postmortem
