import LiveArith.Json.Doc
import LiveArith.Text.Quote
import LiveArith.Number.FloatSyntax
import LiveArith.Time.Stamp

/-!
Documents written as YAML, in block style (nested mappings indented by a fixed unit, list items
introduced by `- `) or in flow style (`[a, b]` and `{k: v}` on one line).
-/

set_option autoImplicit false

namespace LiveArith.Yaml

def reserved : List String :=
  ["null", "Null", "NULL", "~", "true", "True", "TRUE", "false", "False", "FALSE",
   "y", "Y", "yes", "Yes", "YES", "n", "N", "no", "No", "NO", "on", "On", "ON", "off", "Off",
   "OFF"]

def isNumber (s : String) : Bool :=
  let cs := s.toList
  if cs.isEmpty || cs.head? == some '_' then false
  else
    let dots := (cs.filter (· == '.')).length
    if dots > 1 then false
    else
      let neg := cs.head? == some '-'
      let afterPlus := if cs.head? == some '+' then cs.drop 1 else cs
      let afterSign := if afterPlus.head? == some '-' then afterPlus.drop 1 else afterPlus
      let body := afterSign.filter (· != '_')
      let signed := fun (t : List Char) => String.ofList (if neg then '-' :: t else t)
      let fits := fun {α : Type} (r : Except NumberFault α) => match r with
        | .ok _ => true
        | .error f => f.reason == .range
      let integer := fun (t : List Char) (base : Nat) =>
        if neg then fits (IntSyntax.readSigned (signed t) base 64)
        else fits (IntSyntax.readUnsigned "ParseUint" (String.ofList t) base 64)
      let float := fun (t : List Char) => match FloatSyntax.readBits (signed t) with
        | .ok _ => true
        | .error (f, _) => f.reason == .range
      match body with
      | '0' :: 'x' :: t => integer t 16
      | '0' :: 'o' :: t => integer t 8
      | '0' :: 'b' :: t => integer t 2
      | '0' :: _ :: _ =>
        if dots == 0 then integer body 8 else float body
      | _ => if dots == 1 then float body else integer body 10

def isTimestamp (s : String) : Bool :=
  let hourMinute := (do
    let (h, r) ← Time.Stamp.field false s.toList
    let r ← Time.Stamp.expect ':' r
    let (m, r) ← Time.Stamp.field false r
    if h > 23 || m > 59 then none
    pure r) == some []
  (Time.Stamp.read false s).isSome || hourMinute

example : isTimestamp "2024-01-02T1:04:05.5+01:00" = true := by decide
example : isTimestamp "2023-02-29" = false := by decide
example : isTimestamp "9:05" = true := by decide

def indicators : List Char := ['*', '&', '[', '{', '}', ']', ',', '!', '|', '>', '%',
  Char.ofNat 39, Char.ofNat 34, '@', ' ', Char.ofNat 96]

def markBeforeSpace (marks : List Char) : List Char → Bool
  | a :: b :: r => (marks.contains a && b == ' ') || markBeforeSpace marks (b :: r)
  | _ => false

def bareColon : List Char → Bool
  | [] => false
  | [c] => c == ':'
  | c :: d :: r => (c == ':' && d != '/') || bareColon (d :: r)

def needsQuote (flow : Bool) (s : String) : Bool :=
  let cs := s.toList
  (flow && (cs.any fun c => c == ']' || c == '}' || c == ',' || c == Char.ofNat 39 || c == Char.ofNat 34)) ||
  (flow && bareColon cs) ||
  cs.isEmpty || s == "-" || reserved.contains s || isNumber s ||
  (match cs.head? with
   | some c => indicators.contains c
   | none => false) ||
  (match cs.getLast? with
   | some c => c == ':' || c == ' '
   | none => false) ||
  isTimestamp s || cs.any (fun c => c == '#' || c == '\\') || markBeforeSpace [':', '-'] cs

/-- How the lines of a text are broken: by line feeds, by carriage returns, or by the two in
pairs. -/
inductive LineBreak where
  | lf
  | cr
  | crlf
  deriving BEq

namespace LineBreak

def chars : LineBreak → List Char
  | lf => ['\n']
  | cr => ['\r']
  | crlf => ['\r', '\n']

def pairs : List Char → Nat
  | '\r' :: '\n' :: r => pairs r + 1
  | _ :: r => pairs r
  | [] => 0

def detect (cs : List Char) : LineBreak :=
  let n := cs.count '\n'
  let r := cs.count '\r'
  if n == pairs cs && r == pairs cs then crlf else if r > n then cr else lf

def splitAt (sep : Char) (acc : List Char) : List Char → List (List Char)
  | [] => [acc.reverse]
  | c :: r => if c == sep then acc.reverse :: splitAt sep [] r else splitAt sep (c :: acc) r

def splitPairs (acc : List Char) : List Char → List (List Char)
  | [] => [acc.reverse]
  | '\r' :: '\n' :: r => acc.reverse :: splitPairs [] r
  | c :: r => splitPairs (c :: acc) r

def split : LineBreak → List Char → List (List Char)
  | lf => splitAt '\n' []
  | cr => splitAt '\r' []
  | crlf => splitPairs []

example : split crlf "a\r\nb\rc".toList = ["a".toList, "b\rc".toList] := by decide

end LineBreak

def dropSuffix (suffix xs : List Char) : List Char :=
  if suffix.isSuffixOf xs then xs.take (xs.length - suffix.length) else xs

def literal (s : String) (pad : Nat) : Option String :=
  let cs := s.toList
  let b := LineBreak.detect cs
  let lb := b.chars
  match b.split cs with
  | [] | [_] => none
  | lines =>
    let header := if (lb ++ lb).isSuffixOf cs then "|+" else if lb.isSuffixOf cs then "|" else "|-"
    let sp := List.replicate pad ' '
    let block := lb.intercalate (lines.map (sp ++ ·))
    some (header ++ String.ofList lb ++ String.ofList (dropSuffix sp (dropSuffix (lb ++ sp) block)))

example : literal "a\nb\n" 2 = some "|\n  a\n  b" := by decide
example : literal "a\n\n" 2 = some "|+\n  a\n" := by decide
example : literal "a\rb" 2 = some "|-\r  a\r  b" := by decide

def text (flow : Bool) (pad shift : Nat) (s : String) : String :=
  if needsQuote flow s then Quote.text s
  else
    let lines := if LineBreak.detect s.toList == .cr then pad else pad + shift
    (literal s lines).getD s

def scalar (flow : Bool) (pad shift : Nat) : Doc → String
  | .null => "null"
  | .bool b => if b then "true" else "false"
  | .num t => t
  | .str s => text flow pad shift s
  | .arr _ => "[]"
  | .obj _ => "\x7b\x7d"

mutual
def flow (col : Nat) : Doc → String
  | .arr items => "[" ++ flowItems col items ++ "]"
  | .obj ms => "\x7b" ++ flowMembers col ms ++ "\x7d"
  | d => scalar true (col + 2) 0 d

def flowItems (col : Nat) : List Doc → String
  | [] => ""
  | [d] => flow col d
  | d :: ds => flow col d ++ ", " ++ flowItems col ds

def flowMembers (col : Nat) : List (String × Doc) → String
  | [] => ""
  | [(k, d)] => scalar true (col + 2) 0 (.str k) ++ ": " ++ flowValue col d
  | (k, d) :: ms => scalar true (col + 2) 0 (.str k) ++ ": " ++ flowValue col d ++ ", " ++
    flowMembers col ms

def flowValue (col : Nat) : Doc → String
  | .obj ms => flow (col + 2) (.obj ms)
  | d => flow col d
end

def pad (n : Nat) : String := String.ofList (List.replicate n ' ')

mutual
def blockMembers (unit col seqs : Nat) : List (String × Doc) → List String
  | [] => []
  | (k, d) :: ms => blockMember unit col seqs k d ++ blockMembers unit col seqs ms

def blockMember (unit col seqs : Nat) (k : String) : Doc → List String
  | .obj [] => [pad col ++ scalar false (col + unit - 2 * seqs) (2 * seqs) (.str k) ++ ": \x7b\x7d"]
  | .arr [] => [pad col ++ scalar false (col + unit - 2 * seqs) (2 * seqs) (.str k) ++ ": []"]
  | .obj ms => (pad col ++ scalar false (col + unit - 2 * seqs) (2 * seqs) (.str k) ++ ":") ::
    blockMembers unit (col + unit) seqs ms
  | .arr items => (pad col ++ scalar false (col + unit - 2 * seqs) (2 * seqs) (.str k) ++ ":") ::
    blockItems unit col seqs items
  | d => [pad col ++ scalar false (col + unit - 2 * seqs) (2 * seqs) (.str k) ++ ": " ++
    scalar false (col + unit - 2 * seqs) (2 * seqs) d]

def blockItems (unit col seqs : Nat) : List Doc → List String
  | [] => []
  | d :: ds => blockItem unit col seqs d ++ blockItems unit col seqs ds

def blockItem (unit col seqs : Nat) : Doc → List String
  | .obj [] => [pad col ++ "- \x7b\x7d"]
  | .arr [] => [pad col ++ "- []"]
  | .obj ms =>
    match blockMembers unit (col + 2) (seqs + 1) ms with
    | first :: rest => (pad col ++ "- " ++ String.ofList (first.toList.drop (col + 2))) :: rest
    | [] => []
  | .arr items =>
    match blockItems unit (col + 2) (seqs + 1) items with
    | first :: rest => (pad col ++ "- " ++ String.ofList (first.toList.drop (col + 2))) :: rest
    | [] => []
  | d => [pad col ++ "- " ++ scalar false (col + unit - 2 * seqs) (2 * seqs) d]
end

def write (unit : Nat) (d : Doc) : String :=
  if unit == 0 then flow 0 d ++ "\n"
  else
    match d with
    | .arr [] => "[]\n"
    | .obj [] => "\x7b\x7d\n"
    | .arr items => String.join ((blockItems unit 0 0 items).map (· ++ "\n"))
    | .obj ms => String.join ((blockMembers unit 0 0 ms).map (· ++ "\n"))
    | d => scalar false unit 0 d ++ "\n"

end LiveArith.Yaml
