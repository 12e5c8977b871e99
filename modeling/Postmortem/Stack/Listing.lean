import Postmortem.Stack.Backtrace
import Postmortem.Stack.ManagedWalk
import Postmortem.Stack.ReturnTable
import Postmortem.Thread.Listing

/-!
# Stack listings

The stacks in the output of a native unwinder, of either form, and of the runtime-aware walker.
-/

namespace Postmortem.ThreadStack

/-- The stacks of a native unwinder. -/
def ofNativeListing? (text : String) : Option (List ThreadStack) :=
  (if Backtrace.isBacktrace text then nonEmpty? (Backtrace.sections text) else none) <|>
  (if ReturnTable.isTable text then nonEmpty? (ReturnTable.sections text) else none)

/-- The stacks of the runtime-aware walker. -/
def ofRuntimeListing? (text : String) : Option (List ThreadStack) :=
  if ManagedWalk.isWalk text then nonEmpty? (ManagedWalk.sections text) else none

end Postmortem.ThreadStack
