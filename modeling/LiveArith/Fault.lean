import LiveArith.Log.Attr
import LiveArith.Number.IntSyntax

/-!
Failures as causes. A failure is a bare message, a tagged failure (a message, an optional cause and
fields, in one of two families), a number that could not be read, or a cancelled request. Its
message joins a tagged message and its cause's message with `": "`.
-/

set_option autoImplicit false

namespace LiveArith

/-- The two families of tagged failures: the calculator's, and the command line's. -/
inductive Family where
  | calc
  | command
deriving Repr, Inhabited, BEq, DecidableEq

/-- A failure and its causes. -/
inductive Fault where
  | note (msg : String)
  | tagged (family : Family) (msg : String) (cause : Option Fault) (attrs : List Log.Attr)
  | number (f : NumberFault)
  | canceled
  | path (op path : String) (cause : Fault)
deriving Inhabited

namespace Fault

def message : Fault → String
  | .note m => m
  | .tagged _ m none _ => m
  | .tagged _ m (some c) _ => if m.isEmpty then message c else m ++ ": " ++ message c
  | .number f => f.message
  | .canceled => "context canceled"
  | .path op p c => op ++ " " ++ p ++ ": " ++ message c

def logValue : Fault → Log.AttrValue
  | .tagged .calc m c attrs =>
    .group ((if m.isEmpty then [] else [.mk "error" (.str m)]) ++
      (match c with
       | some c => [.mk "cause" (.str c.message)]
       | none => []) ++ attrs)
  | .tagged .command m none attrs =>
    .group ((if m.isEmpty then [] else [.mk "error" (.str m)]) ++ attrs)
  | .tagged .command m (some c) attrs =>
    .group ((if m.isEmpty then [] else [.mk "error" (.str m)]) ++ [.mk "cause" (logValue c)] ++
      attrs)
  | f => .error f.message

def sentinel (msg : String) : Fault := .tagged .calc msg none []

def wrap (s : Fault) (cause : Fault) : Fault :=
  match s with
  | .tagged fam m _ attrs => .tagged fam m (some cause) attrs
  | other => other

def withAttrs (f : Fault) (more : List Log.Attr) : Fault :=
  match f with
  | .tagged fam m c attrs => .tagged fam m c (attrs ++ more)
  | other => other

def matchesSentinel (family : Family) (msg : String) : Fault → Bool
  | .tagged fam m c _ =>
    (fam == family && !msg.isEmpty && m == msg) ||
      match c with
      | some c => matchesSentinel family msg c
      | none => false
  | .path _ _ c => matchesSentinel family msg c
  | _ => false

def cause? : Fault → Option Fault
  | .tagged _ _ c _ => c
  | .path _ _ c => some c
  | _ => none

def firstCalc? : Fault → Option Fault
  | .tagged .calc m c attrs => some (.tagged .calc m c attrs)
  | .tagged .command _ (some c) _ => firstCalc? c
  | .path _ _ c => firstCalc? c
  | _ => none

def toCalc (f : Option Fault) : Fault :=
  match f.bind firstCalc? with
  | some g => g
  | none => .tagged .calc "" f []

def parseError : Fault := sentinel "parse error"
def numberError : Fault := sentinel "number error"
def invalidOperator : Fault := sentinel "invalid operator"
def typeMismatch : Fault := sentinel "type mismatch"
def compilationError : Fault := sentinel "compilation error"
def jitError : Fault := sentinel "jit error"
def systemError : Fault := sentinel "system error"
def engineClosed : Fault := sentinel "engine closed"
def invalidOption : Fault := sentinel "invalid option"
def unknownSymbol : Fault := sentinel "unknown symbol"
def symbolState : Fault := sentinel "symbol in wrong state"
def unexpectedResult : Fault := sentinel "unexpected result type"
def readInput : Fault := sentinel "failed to read input"

end Fault

end LiveArith
