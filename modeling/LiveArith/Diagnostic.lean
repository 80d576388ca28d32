import LiveArith.Fault
import LiveArith.Text.Utf8
import LiveArith.Number.Word

/-!
Diagnostics: why an input could not be evaluated, with the span of source it concerns, a kind, a
detail, an optional hint and cause, and a rendering that shows the source line under a gutter with
carets below the span.
-/

set_option autoImplicit false

namespace LiveArith

/-- The class of a diagnostic. -/
inductive ErrorKind where
  | parse
  | number
  | invalidOperator
  | typeMismatch
  | compilation
  | jit
  | system
deriving Repr, Inhabited, BEq, DecidableEq

namespace ErrorKind

def all : List ErrorKind :=
  [.parse, .number, .invalidOperator, .typeMismatch, .compilation, .jit, .system]

def sentinel : ErrorKind → Fault
  | .parse => Fault.parseError
  | .number => Fault.numberError
  | .invalidOperator => Fault.invalidOperator
  | .typeMismatch => Fault.typeMismatch
  | .compilation => Fault.compilationError
  | .jit => Fault.jitError
  | .system => Fault.systemError

def name (k : ErrorKind) : String := k.sentinel.message

def ofCode (n : Nat) : ErrorKind := all.getD n .system

def ofFault (f : Fault) : ErrorKind :=
  (all.find? fun k => f.matchesSentinel .calc k.name).getD .system

end ErrorKind

/-- A diagnostic over the bytes `[offset, offset + length)` of `source`. -/
structure Diagnostic where
  source : ByteArray
  offset : Int
  length : Int
  kind : ErrorKind
  detail : String
  hint : String := ""
  cause : Option Fault := none
deriving Inhabited

namespace Diagnostic

def spanning (kind : ErrorKind) (src : ByteArray) (start stop : Int) (detail : String) :
    Diagnostic :=
  { source := src, offset := start, length := max (stop - start) 0, kind, detail }

def message (d : Diagnostic) : String :=
  d.kind.name ++ (if d.detail.isEmpty then "" else ": " ++ d.detail) ++
    (match d.cause with
     | some c => ": " ++ c.message
     | none => "")

def wraps (d : Diagnostic) : List Fault := d.kind.sentinel :: d.cause.toList

def matchesSentinel (d : Diagnostic) (family : Family) (msg : String) : Bool :=
  d.wraps.any (·.matchesSentinel family msg)

def lastNewline (b : ByteArray) : Nat → Option Nat
  | 0 => none
  | i + 1 => if Utf8.byteAt b i == 10 then some i else lastNewline b i

def nextNewline (b : ByteArray) (i : Nat) : Nat :=
  if h : i < b.size then
    if b[i] == 10 then i else nextNewline b (i + 1)
  else b.size
termination_by b.size - i

def newlinesBefore (b : ByteArray) (i : Nat) : Nat :=
  ((List.range (min i b.size)).filter fun k => Utf8.byteAt b k == 10).length

def snippet (d : Diagnostic) : String × String :=
  let src := d.source
  let off := (min (max d.offset 0) src.size).toNat
  let lineStart := match lastNewline src off with
    | some i => i + 1
    | none => 0
  let lineEnd := nextNewline src off
  let gutter := toString (newlinesBefore src lineStart + 1)
  let stop := (min (max (Word.wrap (d.offset + d.length)) off) lineEnd).toNat
  let col := Utf8.runeCount src lineStart off
  let width := max (Utf8.runeCount src off stop) 1
  ("  " ++ gutter ++ " | " ++ Utf8.textOf src lineStart lineEnd,
   String.ofList (List.replicate (gutter.length + 5 + col) ' ') ++
     String.ofList (List.replicate width '^'))

def render (d : Diagnostic) : String :=
  let (line, marker) := d.snippet
  d.message ++ "\n" ++ line ++ "\n" ++ marker ++
    (if d.hint.isEmpty then "" else "\n  = help: " ++ d.hint)

def logFields (d : Diagnostic) : List Log.Attr :=
  [.mk "kind" (.str d.kind.name), .mk "detail" (.str d.detail), .mk "offset" (.int d.offset),
   .mk "length" (.int d.length)] ++
  (if d.hint.isEmpty then [] else [.mk "hint" (.str d.hint)]) ++
  (match d.cause with
   | some c => [.mk "cause" (.str c.message)]
   | none => [])

end Diagnostic

/-- A failure of an evaluation: a diagnostic, or a bare failure. -/
inductive Failure where
  | diagnostic (d : Diagnostic)
  | fault (f : Fault)
deriving Inhabited

namespace Failure

def message : Failure → String
  | .diagnostic d => d.message
  | .fault f => f.message

def kind : Failure → ErrorKind
  | .diagnostic d => d.kind
  | .fault f => ErrorKind.ofFault f

end Failure

end LiveArith
