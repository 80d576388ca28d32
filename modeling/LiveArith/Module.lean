import LiveArith.Fault
import LiveArith.Value

/-!
A module of named routines. A symbol is declared with a result type (taking the next name `calc_<n>`
from a counter that never goes back), defined with a routine, then finalized; only finalized symbols
can be called, and a symbol can be released in any state.
-/

set_option autoImplicit false

namespace LiveArith

/-- Stages of a symbol. -/
inductive SymbolState where
  | declared
  | defined
  | finalized
deriving Repr, Inhabited, BEq, DecidableEq

def SymbolState.name : SymbolState → String
  | .declared => "declared"
  | .defined => "defined"
  | .finalized => "finalized"

/-- A symbol: its declared type, its routine once defined, and its stage. -/
structure Symbol (R : Type) where
  type : Ty
  routine : Option R := none
  state : SymbolState := .declared

/-- What running a routine gave: a number, or a value of another kind (by its type name). -/
inductive Outcome where
  | value (v : Value)
  | other (typeName : String)
deriving Inhabited

/-- A finalized symbol ready to run. -/
structure Callable (R : Type) where
  symbol : String
  type : Ty
  routine : R

/-- A module of routines of type `R`, symbols in declaration order. -/
structure Module (R : Type) where
  symbols : List (String × Symbol R) := []
  counter : Nat := 0

namespace Module

variable {R : Type}

def size (m : Module R) : Nat := m.symbols.length

def find? (m : Module R) (name : String) : Option (Symbol R) := m.symbols.lookup name

def set (m : Module R) (name : String) (s : Symbol R) : Module R :=
  { m with symbols := m.symbols.map fun (n, t) => if n == name then (n, s) else (n, t) }

def declare (m : Module R) (type : Ty) : String × Module R :=
  let name := "calc_" ++ toString (m.counter + 1)
  (name, { symbols := m.symbols ++ [(name, { type })], counter := m.counter + 1 })

def expect (m : Module R) (name : String) (want : SymbolState) : Except Fault (Symbol R) :=
  match m.find? name with
  | none => .error (Fault.unknownSymbol.withAttrs [.mk "symbol" (.str name)])
  | some s =>
    if s.state != want then
      .error (Fault.symbolState.withAttrs [.mk "symbol" (.str name),
        .mk "state" (.str s.state.name), .mk "want" (.str want.name)])
    else .ok s

def define (m : Module R) (name : String) (routine : Option R) : Except Fault (Module R) := do
  let s ← m.expect name .declared
  match routine with
  | none =>
    .error (Fault.symbolState.withAttrs [.mk "symbol" (.str name),
      .mk "reason" (.str "nil program")])
  | some r => .ok (m.set name { s with routine := some r, state := .defined })

def finalize (m : Module R) (name : String) [Inhabited R] :
    Except Fault (Callable R × Module R) := do
  let s ← m.expect name .defined
  let r := s.routine.getD default
  .ok (⟨name, s.type, r⟩, m.set name { s with state := .finalized })

def lookup (m : Module R) (name : String) [Inhabited R] : Option (Callable R) :=
  match m.find? name with
  | some s => if s.state == .finalized then some ⟨name, s.type, s.routine.getD default⟩ else none
  | none => none

def release (m : Module R) (name : String) : Module R :=
  { m with symbols := m.symbols.filter (·.1 != name) }

end Module

namespace Callable

variable {R : Type}

def call (c : Callable R) (run : R → Except String Outcome) (cancelled : Bool) :
    Except Fault Value :=
  if cancelled then .error .canceled
  else match run c.routine with
    | .error msg => .error ((Fault.jitError.wrap (.note msg)).withAttrs [.mk "symbol" (.str c.symbol)])
    | .ok out =>
      let unexpected := fun (got : String) =>
        Except.error (Fault.unexpectedResult.withAttrs [.mk "symbol" (.str c.symbol),
          .mk "got" (.str got)])
      match c.type, out with
      | .integer, .value (.integer i) => .ok (.integer i)
      | .float, .value (.float x) => .ok (.float x)
      | _, .value (.integer _) => unexpected "int"
      | _, .value (.float _) => unexpected "float64"
      | _, .other t => unexpected t

end Callable

end LiveArith
