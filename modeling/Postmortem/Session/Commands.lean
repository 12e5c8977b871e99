/-!
# Commands of an analysis

For each kind of data, the commands that show it in the dialects of the debuggers. Those of the
runtime-aware debugger stand in front.
-/

namespace Postmortem.Commands

/-- Lists threads. -/
def threads : List String := ["clrthreads", "thread list"]

/-- Lists the frames that a native unwinder sees. -/
def nativeStacks : List String := ["bt all", "~*k"]

/-- Lists the frames that the runtime knows. -/
def runtimeStacks : List String := ["clrstack -a -all"]

/-- Lists modules. -/
def modules : List String := ["image list", "lm", "modules -v"]

/-- Prints the exception and those inside it. -/
def exception : List String := ["printexception -nested"]

/-- Lists the heap. -/
def heap : List String := ["dumpheap -stat"]

/-- Lists locks. -/
def locks : List String := ["syncblk", "!locks"]

end Postmortem.Commands
