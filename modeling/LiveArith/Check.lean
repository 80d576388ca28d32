import LiveArith.Syntax.Node
import LiveArith.Diagnostic
import LiveArith.Text.Blank

/-!
Checking a syntax tree: the first ERROR or MISSING node in pre-order becomes a parse diagnostic over
that node, with a hint for what was expected.
-/

set_option autoImplicit false

namespace LiveArith.Check

open Syntax

def grammarHint : String := "only numbers, + - * /, and parentheses are allowed"

def missingName (n : Node) : String :=
  if n.kind == .punctuation then "'" ++ n.type ++ "'" else n.type

def missingHint (n : Node) : String :=
  if n.type == ")" then "unclosed parenthesis" else "expected a number or '(' here"

def errorHint (text : String) : String :=
  let compact := String.ofList (text.toList.filter fun c => !Blank.isSpace c)
  if compact == "()" then "empty parentheses"
  else if compact.startsWith ")" then "unmatched closing parenthesis"
  else grammarHint

def tree (root : Option Node) (src : ByteArray) : Option Diagnostic :=
  match root with
  | none => some (Diagnostic.spanning .parse src 0 src.size "no syntax tree")
  | some root =>
    if !root.hasError then none
    else match root.errorNodes with
      | [] => some (Diagnostic.spanning .parse src 0 src.size "syntax error")
      | n :: _ =>
        if n.missing then
          some { Diagnostic.spanning .parse src n.start n.stop ("missing " ++ missingName n) with
                 hint := missingHint n }
        else
          let text := Utf8.toText (n.content src)
          some { Diagnostic.spanning .parse src n.start n.stop ("syntax error near '" ++ text ++ "'") with
                 hint := errorHint text }

end LiveArith.Check
