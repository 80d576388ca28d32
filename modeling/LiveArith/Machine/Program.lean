import LiveArith.Expr.Basic
import LiveArith.Value
import LiveArith.Text.Columns
import LiveArith.Expr.Print

/-!
Stack programs for expressions. An expression is lowered to code in which every operation runs in
one domain: an integer operand of a float operation is converted first (division converts both sides
itself and always gives a float). Constant folding may fold operations on two literals.
-/

set_option autoImplicit false

namespace LiveArith.Machine

/-- Lowered code. -/
inductive Code where
  | int (v : Int64)
  | float (v : Float)
  | toFloat (c : Code)
  | apply (op : Op) (l r : Code)
deriving Inhabited

/-- Why an expression could not be lowered. -/
inductive LowerFault where
  | hole
  | badOperator (op : Op)
deriving Inhabited

def lower : Expr → Except LowerFault Code
  | .hole => .error .hole
  | .int _ v => .ok (.int v)
  | .float _ v => .ok (.float (Float.ofBits v))
  | .paren _ e => lower e
  | .binary _ l op r =>
    if !op.valid then .error (.badOperator op)
    else do
      let lc ← lower l
      let rc ← lower r
      let lt := l.type
      let rt := r.type
      if Ty.promote op lt rt == .float && op != .divide then
        let lc := if lt == .integer then Code.toFloat lc else lc
        let rc := if rt == .integer then Code.toFloat rc else rc
        .ok (.apply op lc rc)
      else .ok (.apply op lc rc)

def arith (op : Op) (a b : Value) : Value :=
  match op, a, b with
  | .divide, _, _ => .float (a.toFloat / b.toFloat)
  | .add, .integer x, .integer y => .integer (x + y)
  | .subtract, .integer x, .integer y => .integer (x - y)
  | .multiply, .integer x, .integer y => .integer (x * y)
  | .add, _, _ => .float (a.toFloat + b.toFloat)
  | .subtract, _, _ => .float (a.toFloat - b.toFloat)
  | .multiply, _, _ => .float (a.toFloat * b.toFloat)
  | .unknown _, _, _ => a

def Code.eval : Code → Value
  | .int v => .integer v
  | .float v => .float v
  | .toFloat c => .float c.eval.toFloat
  | .apply op l r => arith op l.eval r.eval

def Code.fold : Code → Code
  | .apply op l r =>
    let l := l.fold
    let r := r.fold
    match l, r with
    | .int _, .int _ | .float _, .float _ | .int _, .float _ | .float _, .int _ =>
      match arith op l.eval r.eval with
      | .integer v => .int v
      | .float v => .float v
    | _, _ => .apply op l r
  | .toFloat c => .toFloat c.fold
  | c => c

/-- Stack instructions. -/
inductive Instr where
  | push (slot : Nat)
  | toFloat
  | apply (op : Op)
  | cast (t : Ty)
deriving Inhabited

/-- A program: instructions, the constant pool, and the type its result is cast to. -/
structure Program where
  instrs : List Instr
  pool : List Value
  type : Ty
deriving Inhabited

def sameConstant : Value → Value → Bool
  | .integer a, .integer b => a == b
  | .float a, .float b => a == b
  | _, _ => false

def slot (pool : List Value) (v : Value) : Nat × List Value :=
  match pool.findIdx? (sameConstant v) with
  | some k => (k, pool)
  | none => (pool.length, pool ++ [v])

def Code.emit : Code → List Value → List Instr × List Value
  | .int v, pool => let (k, pool) := slot pool (.integer v); ([.push k], pool)
  | .float v, pool => let (k, pool) := slot pool (.float v); ([.push k], pool)
  | .toFloat c, pool => let (is, pool) := c.emit pool; (is ++ [.toFloat], pool)
  | .apply op l r, pool =>
    let (li, pool) := l.emit pool
    let (ri, pool) := r.emit pool
    (li ++ ri ++ [.apply op], pool)

def Program.ofCode (c : Code) (t : Ty) (optimize : Bool) : Program :=
  let c := if optimize then c.fold else c
  let (is, pool) := c.emit []
  { instrs := is ++ [.cast t], pool, type := t }

def Instr.step (pool : List Value) (stack : List Value) : Instr → Option (List Value)
  | .push k => (pool[k]?).map (· :: stack)
  | .toFloat => match stack with
    | v :: s => some (.float v.toFloat :: s)
    | [] => none
  | .apply op => match stack with
    | b :: a :: s => some (arith op a b :: s)
    | _ => none
  | .cast t => match stack with
    | v :: s =>
      some ((match t, v with
        | .float, .integer i => Value.float i.toFloat
        | .integer, .float x => Value.integer (Int64.ofInt (x.toInt64.toInt))
        | _, v => v) :: s)
    | [] => none

def Program.run (p : Program) : Option Value :=
  match p.instrs.foldlM (Instr.step p.pool) [] with
  | some (v :: _) => some v
  | _ => none

def floatBuiltin : Nat := 22

def opName : Op → String
  | .add => "OpAdd"
  | .subtract => "OpSubtract"
  | .multiply => "OpMultiply"
  | .divide => "OpDivide"
  | .unknown _ => "OpUnknown"

def Instr.cells (pool : List Value) (addr : Nat) : Instr → List String
  | .push k =>
    let shown := match pool[k]? with
      | some (.integer x) => toString x.toInt
      | some (.float x) => Layout.short x
      | none => "out of range"
    [toString addr, "OpPush", "<" ++ toString k ++ ">", shown]
  | .toFloat => [toString addr, "OpCallBuiltin1", "<" ++ toString floatBuiltin ++ ">", "float"]
  | .apply op => [toString addr, opName op]
  | .cast t => [toString addr, "OpCast", "<" ++ (if t == .float then "2" else "0") ++ ">"]

def Program.listing (p : Program) : String :=
  Columns.align 2 (p.instrs.zipIdx.map fun (i, a) => i.cells p.pool a)

end LiveArith.Machine
