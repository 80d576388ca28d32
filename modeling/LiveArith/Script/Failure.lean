/-!
Failures of the script language and how they are shown: the message, then the line and column
of its offset (counted from one), the line itself and a caret under the column.
-/

set_option autoImplicit false

namespace LiveArith.Script

/-- A failure at a character offset of the source. -/
structure Failure where
  msg : String
  pos : Nat
deriving Inhabited

def locate (src : Array Char) (pos : Nat) : Nat → Nat → Nat → Nat → Nat × Nat × Nat
  | 0, line, col, start => (line, col, start)
  | fuel + 1, line, col, start =>
    let i := start + col
    if i == pos then (line, col, start)
    else match src[i]? with
      | some '\n' => locate src pos fuel (line + 1) 0 (i + 1)
      | some _ => locate src pos fuel line (col + 1) start
      | none => (line, col, start)

def Failure.render (src : String) (f : Failure) : String :=
  let cs := src.toList.toArray
  let (line, col, start) := locate cs f.pos (cs.size + 1) 1 0 0
  let text := (cs.toList.drop start).takeWhile (· != '\n')
  if text.isEmpty then f.msg
  else
    let shown := text.map fun c => if c == '\t' then ' ' else c
    f.msg ++ " (" ++ toString line ++ ":" ++ toString (col + 1) ++ ")\n | " ++
      String.ofList shown ++ "\n | " ++ String.ofList (List.replicate col '.') ++ "^"

example : Failure.render "[1, 2][5]" ⟨"bad", 6⟩ = "bad (1:7)\n | [1, 2][5]\n | ......^" := by
  decide
example : Failure.render "'abc" ⟨"literal not terminated", 4⟩ =
    "literal not terminated (1:5)\n | 'abc\n | ....^" := by decide
example : Failure.render "" ⟨"unexpected token EOF", 0⟩ = "unexpected token EOF" := by decide

end LiveArith.Script
