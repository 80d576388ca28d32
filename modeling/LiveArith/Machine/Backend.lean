import LiveArith.Machine.Program
import LiveArith.Module

/-!
The code generator over the expression library it hands lowered code to. The library is a parameter:
a checker that types code against the type it is expected to have, an optimizer, a compiler to
programs and a machine that runs them; `backend` is the stand-in the calculator runs with.
-/

set_option autoImplicit false

namespace LiveArith.Machine

/-- A checked type, as a reflection kind. -/
inductive Kind where
  | int
  | int64
  | float64
  | other (name : String)
deriving Repr, Inhabited, BEq, DecidableEq

namespace Kind

def ty? : Kind → Option Ty
  | .int | .int64 => some .integer
  | .float64 => some .float
  | .other _ => none

def name : Kind → String
  | .int => "int"
  | .int64 => "int64"
  | .float64 => "float64"
  | .other n => n

end Kind

def Code.kind : Code → Kind
  | .int _ => .int
  | .float _ => .float64
  | .toFloat _ => .float64
  | .apply op l r =>
    if op == .divide || l.kind == .float64 || r.kind == .float64 then .float64 else .int

def failure (x : Expr) (msg : String) : Fault :=
  (Fault.compilationError.wrap (.note msg)).withAttrs [.mk "expr" (.str x.text)]

structure Backend (P : Type) where
  check : Code → Ty → Except String Kind
  optimize : Code → Except String Code
  compile : Code → Ty → Except String P
  run : P → Except String Value

namespace Backend

variable {P : Type} (B : Backend P)

def prepare (optimize : Bool) (c : Code) : Except String Code :=
  if optimize then B.optimize c else .ok c

def exec (p : P) : Except String Outcome := (B.run p).map .value

def generate [Inhabited P] (optimize : Bool) (m : Module P) (x : Expr) :
    Except Fault (Callable P × Module P) :=
  match x with
  | .hole => .error (Fault.compilationError.withAttrs [.mk "reason" (.str "nil expression")])
  | _ =>
    let t := x.type
    match lower x with
    | .error (.badOperator op) =>
      .error (Fault.compilationError.withAttrs [.mk "op" (.str op.symbol)])
    | .error .hole =>
      .error (Fault.compilationError.withAttrs [.mk "reason" (.str "unknown expression")])
    | .ok code =>
      match B.check code t with
      | .error msg => .error (failure x msg)
      | .ok k =>
        if k.ty? != some t then
          .error (Fault.typeMismatch.withAttrs [.mk "expr" (.str x.text),
            .mk "resolved" (.str t.name), .mk "checked" (.str k.name)])
        else
          match B.prepare optimize code with
          | .error msg => .error (failure x msg)
          | .ok code =>
            match B.compile code t with
            | .error msg => .error (failure x msg)
            | .ok prog =>
              let (name, m) := m.declare t
              match m.define name (some prog) with
              | .error f => .error (Fault.jitError.wrap f)
              | .ok m =>
                match m.finalize name with
                | .error f => .error (Fault.jitError.wrap f)
                | .ok (fn, m) => .ok (fn, m)

end Backend

def backend : Backend Program where
  check c _ := .ok c.kind
  optimize c := .ok c.fold
  compile c t := .ok (Program.ofCode c t false)
  run p := match p.run with
    | some v => .ok v
    | none => .error "stack underflow"

end LiveArith.Machine
