import LiveArith.Number.IntSyntax
import LiveArith.Text.Blank
import LiveArith.Text.Quote
import LiveArith.Text.Case

/-!
Severity levels and output formats of the logger. A level is an integer; the named ones are trace
(-8), debug (-4), info (0), warn (4) and error (8), and any other prints as `Level(n)`.
-/

set_option autoImplicit false

namespace LiveArith.Log

/-- A severity level. -/
structure Level where
  severity : Int
deriving Repr, BEq, DecidableEq, Inhabited

namespace Level

def trace : Level := ⟨-8⟩
def debug : Level := ⟨-4⟩
def info : Level := ⟨0⟩
def warn : Level := ⟨4⟩
def error : Level := ⟨8⟩

def named : List (Level × String) :=
  [(trace, "trace"), (debug, "debug"), (info, "info"), (warn, "warn"), (error, "error")]

def name (l : Level) : String :=
  match named.lookup l with
  | some s => s
  | none => "Level(" ++ toString l.severity ++ ")"

def word (l : Level) : String :=
  let off := fun (base : String) (d : Int) =>
    if d == 0 then base else base ++ (if d > 0 then "+" else "") ++ toString d
  if l.severity < 0 then off "DEBUG" (l.severity + 4)
  else if l.severity < 4 then off "INFO" l.severity
  else if l.severity < 8 then off "WARN" (l.severity - 4)
  else off "ERROR" (l.severity - 8)

def ofWord (s : String) : Except String Level :=
  let fail := fun (why : String) =>
    Except.error ("slog: level string " ++ Quote.text s ++ ": " ++ why)
  let cs := s.toList
  let base := cs.takeWhile (fun c => c != '+' && c != '-')
  let rest := cs.drop base.length
  let offset : Except String Int :=
    if rest.isEmpty then .ok 0
    else match IntSyntax.readSigned (String.ofList rest) 10 64 with
      | .ok n => .ok n
      | .error f => .error { f with reader := "Atoi" }.message
  match offset with
  | .error why => fail why
  | .ok d =>
    let shifted := fun (base : Int) => Except.ok (Level.mk (Int64.ofInt (base + d)).toInt)
    match Case.upperText (String.ofList base) with
    | "DEBUG" => shifted (-4)
    | "INFO" => shifted 0
    | "WARN" => shifted 4
    | "ERROR" => shifted 8
    | _ => fail "unknown name"

def parse (s : String) : Except String Level :=
  let t := Blank.trim s
  if Case.lowerText t == "trace" then .ok trace else ofWord t

def parseOr (s : String) : Level :=
  match parse s with
  | .ok l => l
  | .error _ => info

end Level

/-- An output format: 0 is text, 1 is JSON; others write nothing. -/
structure Format where
  code : Int
deriving Repr, BEq, DecidableEq, Inhabited

namespace Format

def text : Format := ⟨0⟩
def json : Format := ⟨1⟩

def name (f : Format) : String :=
  if f.code == 0 then "text" else if f.code == 1 then "json"
  else "Format(" ++ toString f.code ++ ")"

def unknown : String := "unknown log format"

def parse (s : String) : Except String Format :=
  match Case.lowerText (Blank.trim s) with
  | "text" => .ok text
  | "json" => .ok json
  | _ => .error (unknown ++ ": " ++ Quote.text s)

def parseOr (s : String) : Format :=
  match parse s with
  | .ok f => f
  | .error _ => text

end Format

end LiveArith.Log
