/-!
Profiling modes. A profiler is enabled exactly when its mode is one of the known names; an enabled
profiler that runs writes one file, named for the kind of profile, into its directory. The memory
modes (`mem`, `heap`, `allocs`) share one file name.
-/

set_option autoImplicit false

namespace LiveArith.Profile

def files : List (String × String) :=
  [("allocs", "mem.pprof"), ("block", "block.pprof"), ("clock", "clock.pprof"),
   ("cpu", "cpu.pprof"), ("goroutine", "goroutine.pprof"), ("heap", "mem.pprof"),
   ("mem", "mem.pprof"), ("mutex", "mutex.pprof"), ("thread", "threadcreation.pprof"),
   ("trace", "trace.out")]

def modes : List String := files.map Prod.fst

def valid (mode : String) : Bool := modes.contains mode

/-- A profiler: its mode, and the directory it writes to, if one is given. -/
structure Profiler where
  mode : String := ""
  dir : Option String := none
  quiet : Bool := false
deriving Repr, Inhabited

namespace Profiler

def enabled (p : Profiler) : Bool := valid p.mode

def output (p : Profiler) : Option String :=
  if p.enabled && p.dir.isSome then files.lookup p.mode else none

end Profiler

example : modes.length = 10 := by decide
example : ({ mode := "thread", dir := some "prof" } : Profiler).output = some "threadcreation.pprof" := by
  decide

end LiveArith.Profile
