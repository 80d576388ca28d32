import LiveArith.Text.Path

/-!
The program's identity and its directories.
-/

set_option autoImplicit false

namespace LiveArith.Tool

def name : String := "keycalc"
def version : String := "0.1.0"
def description : String := "Live incremental arithmetic evaluator"

def isDebugName (s : String) : Bool :=
  let cs := s.toList
  "__debug_bin".toList.isPrefixOf cs && (cs.drop 11).all Char.isDigit

def prefixOf (path : String) : String :=
  let id := Path.stem path
  let id := if isDebugName id then name else id
  let id := String.ofList (id.toList.dropWhile (· == '.'))
  if id.isEmpty then name else id

def userDir (base : Option String) (home : Option String) (fallback cwd pfx : String) :
    String :=
  let dir := match base with
    | some b => b
    | none => match home with
      | some h => Path.join [h, fallback]
      | none => cwd
  Path.join [dir, pfx]

example : prefixOf "/tmp/__debug_bin3141" = "keycalc" := by decide
example : prefixOf "über.tar.gz" = "über.tar" := by decide
example : prefixOf "..." = "keycalc" := by decide

end LiveArith.Tool
