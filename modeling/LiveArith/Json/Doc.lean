import LiveArith.Text.Utf8

/-!
JSON documents and their text. Numbers keep the exact text they were written with; objects keep
their members in the order given (`sorted` orders them by key, as maps are written).
-/

set_option autoImplicit false

namespace LiveArith

/-- A JSON document. -/
inductive Doc where
  | null
  | bool (b : Bool)
  | num (text : String)
  | str (s : String)
  | arr (items : List Doc)
  | obj (members : List (String × Doc))
deriving Inhabited

namespace Doc

def int (i : Int) : Doc := .num (toString i)

def sorted (members : List (String × Doc)) : Doc :=
  .obj (members.mergeSort fun a b => a.1 ≤ b.1)

def hexDigit (n : Nat) : Char := "0123456789abcdef".toList.getD n '0'

def escapeChar (html : Bool) (c : Char) : String :=
  let n := c.toNat
  if c == '"' then "\\\""
  else if c == '\\' then "\\\\"
  else if n == 10 then "\\n"
  else if n == 13 then "\\r"
  else if n == 9 then "\\t"
  else if n == 8 then "\\b"
  else if n == 12 then "\\f"
  else if n < 0x20 || (html && (c == '<' || c == '>' || c == '&')) then
    "\\u00" ++ (hexDigit (n / 16)).toString ++ (hexDigit (n % 16)).toString
  else if n == 0x2028 then "\\u2028"
  else if n == 0x2029 then "\\u2029"
  else c.toString

def quote (html : Bool) (s : String) : String :=
  "\"" ++ String.join (s.toList.map (escapeChar html)) ++ "\""

mutual
def compact (html : Bool) : Doc → String
  | .null => "null"
  | .bool b => if b then "true" else "false"
  | .num t => t
  | .str s => quote html s
  | .arr items => "[" ++ compactItems html items ++ "]"
  | .obj ms => "\x7b" ++ compactMembers html ms ++ "\x7d"

def compactItems (html : Bool) : List Doc → String
  | [] => ""
  | [d] => compact html d
  | d :: ds => compact html d ++ "," ++ compactItems html ds

def compactMembers (html : Bool) : List (String × Doc) → String
  | [] => ""
  | [(k, d)] => quote html k ++ ":" ++ compact html d
  | (k, d) :: ms => quote html k ++ ":" ++ compact html d ++ "," ++ compactMembers html ms
end

def breakLine (unit : String) (depth : Nat) : String :=
  "\n" ++ String.join (List.replicate depth unit)

mutual
def pretty (html : Bool) (unit : String) (depth : Nat) : Doc → String
  | .arr [] => "[]"
  | .obj [] => "\x7b\x7d"
  | .arr items => "[" ++ prettyItems html unit (depth + 1) items ++ breakLine unit depth ++ "]"
  | .obj ms => "\x7b" ++ prettyMembers html unit (depth + 1) ms ++ breakLine unit depth ++ "\x7d"
  | d => compact html d

def prettyItems (html : Bool) (unit : String) (depth : Nat) : List Doc → String
  | [] => ""
  | [d] => breakLine unit depth ++ pretty html unit depth d
  | d :: ds => breakLine unit depth ++ pretty html unit depth d ++ "," ++
      prettyItems html unit depth ds

def prettyMembers (html : Bool) (unit : String) (depth : Nat) : List (String × Doc) → String
  | [] => ""
  | [(k, d)] => breakLine unit depth ++ quote html k ++ ": " ++ pretty html unit depth d
  | (k, d) :: ms => breakLine unit depth ++ quote html k ++ ": " ++ pretty html unit depth d ++
      "," ++ prettyMembers html unit depth ms
end

end Doc

end LiveArith
