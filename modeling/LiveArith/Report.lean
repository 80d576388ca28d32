import LiveArith.Session
import LiveArith.Expr.Print
import LiveArith.Expr.Hash
import LiveArith.Expr.Map
import LiveArith.Text.Blank
import LiveArith.Yaml

/-!
Evaluating a text line by line and reporting the results. A source is cut into lines at line feeds,
carriage returns at a line's end are dropped, and blank lines and lines whose first visible
character is `#` are skipped; each remaining line is evaluated in one session.
-/

set_option autoImplicit false

namespace LiveArith

/-- The outcome of one line. -/
structure Result where
  input : String
  outcome : Except Diagnostic Value
  expr : Option Expr := none

namespace Result

def ok (r : Result) : Bool := r.outcome.toBool

def errorMap (d : Diagnostic) : Doc :=
  Doc.sorted ([("kind", .str d.kind.name), ("detail", .str d.detail), ("offset", Doc.int d.offset),
    ("length", Doc.int d.length)] ++
    (if d.hint.isEmpty then [] else [("hint", .str d.hint)]) ++
    (match d.cause with
     | some c => [("cause", .str c.message)]
     | none => []))

def toMap (enc : Value → Doc) (r : Result) : Doc :=
  let main := match r.outcome with
    | .ok v => [("value", enc v), ("type", .str v.type.name)]
    | .error d => [("error", errorMap d)]
  let tree := match r.expr with
    | some x => [("ast", x.toMapWith enc), ("hash", .str (String.ofList (Nat.toDigits 16 x.hash.toNat)))]
    | none => []
  Doc.sorted ([("input", .str r.input)] ++ main ++ tree)

def text (r : Result) : String :=
  let head := match r.outcome with
    | .ok v => Blank.trim r.input ++ " = " ++ v.text ++ "\n"
    | .error d => d.render ++ "\n"
  let tail := match r.expr with
    | some x => "  ast:  " ++ x.text ++ "\n  hash: " ++ Quote.hex x.hash.toNat 16 ++ "\n"
    | none => ""
  head ++ tail

end Result

def Value.toScalar (v : Value) : Doc :=
  match v with
  | .float x =>
    if x.isNaN then .num ".nan"
    else if x.isInf then .num (if x > 0 then ".inf" else "-.inf")
    else .num v.text
  | .integer _ => .num v.text

abbrev Report := List Result

namespace Report

def failed (r : Report) : Nat := (r.filter (!·.ok)).length

def text (r : Report) : String := String.join (r.map Result.text)

def json (r : Report) (indent : Nat) : String :=
  let d := Doc.arr (r.map (Result.toMap Value.toDoc))
  (if indent > 0 then Doc.pretty true (String.ofList (List.replicate indent ' ')) 0 d
   else Doc.compact true d) ++ "\n"

def yaml (r : Report) (indent : Nat) : String :=
  Yaml.write indent (Doc.arr (r.map (Result.toMap Value.toScalar)))

end Report

namespace Source

def maxLine : Nat := 1048577

def dropReturns (s : String) : String :=
  String.ofList ((s.toList.reverse.dropWhile (· == '\r')).reverse)

def lines (src : String) : List String × Bool :=
  let rec go : List String → List String × Bool
    | [] => ([], false)
    | [last] =>
      if last.isEmpty then ([], false)
      else if last.utf8ByteSize ≥ maxLine then ([], true)
      else ([dropReturns last], false)
    | p :: ps =>
      if p.utf8ByteSize ≥ maxLine then ([], true)
      else
        let (ls, long) := go ps
        (dropReturns p :: ls, long)
  go (src.splitOn "\n")

def evaluated (line : String) : Bool :=
  let t := Blank.trim line
  !t.isEmpty && !t.startsWith "#"

/-- What reading a source gave: the results, the failure that ended the reading if any,
whether it stopped before the last line, and the session and engine after it. -/
structure Reading where
  report : Report
  failure : Option Fault := none
  stopped : Bool := false
  session : Session
  engine : Engine

def evalLines (withExpr cancelled : Bool) (limit : Option Nat) :
    List String → Session → Engine → Report → Reading
  | [], s, e, acc => { report := acc.reverse, session := s, engine := e }
  | l :: ls, s, e, acc =>
    if !evaluated l then evalLines withExpr cancelled limit ls s e acc
    else if cancelled then
      { report := acc.reverse, failure := some .canceled, stopped := true, session := s, engine := e }
    else if limit.any (· ≤ acc.length) then
      { report := acc.reverse, stopped := true, session := s, engine := e }
    else
      let (out, s, e) := s.eval e l.toUTF8 false
      let x := match out with
        | .ok _ => if withExpr then s.expr else none
        | .error _ => none
      evalLines withExpr cancelled limit ls s e ({ input := l, outcome := out, expr := x } :: acc)

def read (src : String) (withExpr cancelled : Bool) (limit : Option Nat) (s : Session)
    (e : Engine) : Reading :=
  let (ls, long) := lines src
  let r := evalLines withExpr cancelled limit ls s e []
  if long && !r.stopped then
    { r with failure := some (Fault.readInput.wrap (.note "bufio.Scanner: token too long")) }
  else r

end Source

end LiveArith
