import LiveArith.Engine
import LiveArith.Buffer
import LiveArith.Edit
import LiveArith.Check
import LiveArith.Build

/-!
A calculator session: the buffer holding the current text, the syntax tree kept for incremental
parsing, and the last built expression.
-/

set_option autoImplicit false

namespace LiveArith

/-- A calculator session. -/
structure Session where
  id : Nat
  buf : Buffer := .empty
  tree : Option Syntax.Tree := none
  expr : Option Expr := none
deriving Inhabited

namespace Session

def text (s : Session) : ByteArray := s.buf.bytes

def start (e : Engine) : Session × Engine :=
  let (id, e) := e.openSession
  ({ id }, e)

def outline (s : Session) : String × Nat :=
  match s.tree with
  | some t => (Syntax.Node.sexpOf t.root, t.reused)
  | none => ("", 0)

def reset (s : Session) : Session := { s with buf := s.buf.clear, tree := none, expr := none }

def whole (kind : ErrorKind) (src : ByteArray) (detail : String) (cause : Fault) : Diagnostic :=
  { Diagnostic.spanning kind src 0 src.size detail with cause := some cause }

def evalFailure (src : ByteArray) (x : Expr) (f : Fault) : Diagnostic :=
  let kind := ErrorKind.ofFault f
  let detail := match kind with
    | .compilation => "failed to compile expression"
    | .typeMismatch => "result type disagrees with code generator"
    | .jit => "failed to run compiled expression"
    | .system => if f.matchesSentinel .calc "engine closed" then "engine closed" else "evaluation failed"
    | _ => "evaluation failed"
  let sp := x.span
  { Diagnostic.spanning kind src sp.offset (sp.offset + sp.length) detail with cause := some f }

def update (s : Session) (e : Engine) (next : ByteArray) (edit : Edit) (cancelled : Bool) :
    Except Diagnostic Value × Session × Engine :=
  if cancelled then (.error (whole .system next "update cancelled" .canceled), s, e)
  else
    let edit := edit.normalize s.text next
    -- the normalized edit always fits the buffer, which then holds `next`
    let buf := (s.buf.update next edit.start edit.oldStop edit.newStop).getD s.buf
    let src := buf.bytes
    let s := { s with buf, expr := none }
    let kept := s.tree.map (·.edit edit.toInput)
    match Syntax.parse e.options.limits src kept with
    | .error f =>
      let d := { whole .parse src "failed to parse input" (.note f.message) with
                 hint := "expressions are limited to " ++ toString e.options.maxInput ++ " bytes" }
      (.error d, { s with tree := kept }, e)
    | .ok t =>
      let s := { s with tree := some t }
      match Check.tree t.root src with
      | some d => (.error d, s, e)
      | none =>
        match Build.tree t.root src with
        | .error d => (.error d, s, e)
        | .ok x =>
          let s := { s with expr := some x }
          match e.evaluate x.hash x cancelled with
          | (.ok v, e) => (.ok v, s, e)
          | (.error f, e) => (.error (evalFailure src x f), s, e)

def eval (s : Session) (e : Engine) (text : ByteArray) (cancelled : Bool) :
    Except Diagnostic Value × Session × Engine :=
  s.update e text (Edit.replace s.text.size text.size) cancelled

end Session

end LiveArith
