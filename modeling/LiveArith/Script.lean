import LiveArith.Module
import LiveArith.Script.Run

/-!
Routines given as script text. A program is read, checked and folded when it is defined; any failure
there refuses it, shown with its place. Running gives a number, or the name of another type, or the
failure at run time, also shown with its place.
-/

set_option autoImplicit false

namespace LiveArith.Script

/-- A compiled script: its source and its folded tree. -/
structure Program where
  source : String
  tree : Node
deriving Inhabited

def Program.compile (src : String) : Except String Program :=
  let steps : Except Failure Node := do
    let n ← parse src
    let _ ← check n
    fold n
  match steps with
  | .ok n => .ok ⟨src, n⟩
  | .error f => .error (f.render src)

def Program.run (p : Program) : Except String Outcome :=
  match Script.run p.tree with
  | .ok (.int i) => .ok (.value (.integer i))
  | .ok (.float x) => .ok (.value (.float x))
  | .ok d => .ok (.other d.typeName)
  | .error f => .error (f.render p.source)

end LiveArith.Script
