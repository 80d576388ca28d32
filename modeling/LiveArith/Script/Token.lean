import LiveArith.Script.Failure
import LiveArith.Text.Blank
import LiveArith.Text.Letter
import LiveArith.Text.Printable
import LiveArith.Text.Quote

/-!
Tokens of the script language and the scanner that produces them.
-/

set_option autoImplicit false

namespace LiveArith.Script

/-- What a token is. -/
inductive Kind where
  | identifier
  | number
  | string
  | operator
  | bracket
  | eof
deriving BEq, Inhabited, Repr

def Kind.name : Kind → String
  | .identifier => "Identifier"
  | .number => "Number"
  | .string => "String"
  | .operator => "Operator"
  | .bracket => "Bracket"
  | .eof => "EOF"

/-- A token: its kind, its text (a string's value with escapes resolved) and its offset. -/
structure Token where
  kind : Kind
  value : String
  pos : Nat
deriving Inhabited

def Token.is (t : Token) (k : Kind) (v : String) : Bool := t.kind == k && t.value == v

def Token.describe (t : Token) : String :=
  if t.value.isEmpty then t.kind.name else t.kind.name ++ "(" ++ Quote.text t.value ++ ")"

/-- The text scanned into tokens, up to the first failure if there is one. -/
structure Lexed where
  tokens : Array Token
  failure : Option Failure
deriving Inhabited

def isWord (c : Char) : Bool := c == '_' || c == '$' || Letter.isLetterOrDigit c

def charIs (src : Array Char) (i : Nat) (p : Char → Bool) : Bool :=
  match src[i]? with
  | some c => p c
  | none => false

def skipFrom (src : Array Char) (p : Char → Bool) : Nat → Nat → Nat
  | 0, i => i
  | fuel + 1, i => if charIs src i p then skipFrom src p fuel (i + 1) else i

def skipWhile (src : Array Char) (p : Char → Bool) (i : Nat) : Nat :=
  skipFrom src p (src.size - i) i

def slice (src : Array Char) (a b : Nat) : String := String.ofList (src.extract a b).toList

def runeName (c : Char) : String :=
  let ds := Nat.toDigits 16 c.toNat |>.map Char.toUpper
  let code := "U+" ++ String.ofList (List.replicate (4 - ds.length) '0' ++ ds)
  if Printable.test c then code ++ " '" ++ c.toString ++ "'" else code

def decimalDigit (c : Char) : Bool := c.isDigit || c == '_'

def hexDigit (c : Char) : Bool :=
  c.isDigit || ('a' ≤ c && c ≤ 'f') || ('A' ≤ c && c ≤ 'F') || c == '_'

def octalDigit (c : Char) : Bool := ('0' ≤ c && c ≤ '7') || c == '_'

def binaryDigit (c : Char) : Bool := c == '0' || c == '1' || c == '_'

def scanNumber (src : Array Char) (i : Nat) : Nat × Bool :=
  let (i, digit) :=
    if charIs src i (· == '0') then
      if charIs src (i + 1) (fun c => c == 'x' || c == 'X') then (i + 2, hexDigit)
      else if charIs src (i + 1) (fun c => c == 'o' || c == 'O') then (i + 2, octalDigit)
      else if charIs src (i + 1) (fun c => c == 'b' || c == 'B') then (i + 2, binaryDigit)
      else (i + 1, decimalDigit)
    else (i, decimalDigit)
  let i := skipWhile src digit i
  if charIs src i (· == '.') && charIs src (i + 1) (· == '.') then (i, true)
  else
    let i := if charIs src i (· == '.') then skipWhile src digit (i + 1) else i
    let i :=
      if charIs src i (fun c => c == 'e' || c == 'E') then
        let j := if charIs src (i + 1) (fun c => c == '+' || c == '-') then i + 2 else i + 1
        skipWhile src digit j
      else i
    if charIs src i isWord then (i + 1, false) else (i, true)

def escapeDigit (c : Char) : Nat :=
  if c.isDigit then c.toNat - 48
  else
    let l := c.toLower
    if 'a' ≤ l && l ≤ 'f' then l.toNat - 87 else 16

def countDigits (src : Array Char) (base : Nat) (k : Nat) : Nat → Nat
  | 0 => 0
  | n + 1 => if charIs src k (fun c => escapeDigit c < base) then
      countDigits src base (k + 1) n + 1 else 0

def scanQuoted (src : Array Char) (q : Char) : Nat → Nat → Except Failure Nat
  | 0, j => .error ⟨"literal not terminated", j⟩
  | fuel + 1, j =>
    match src[j]? with
    | none => .error ⟨"literal not terminated", j⟩
    | some c =>
      if c == '\n' then .error ⟨"literal not terminated", j⟩
      else if c == q then .ok j
      else if c != '\\' then scanQuoted src q fuel (j + 1)
      else
        match src[j + 1]? with
        | none => .error ⟨"invalid char escape", j + 1⟩
        | some e =>
          if "abfnrtv\\".contains e || e == q then scanQuoted src q fuel (j + 2)
          else
            let shape : Option (Nat × Nat × Nat) :=
              if '0' ≤ e && e ≤ '7' then some (j + 1, 8, 3)
              else if e == 'x' then some (j + 2, 16, 2)
              else if e == 'u' then some (j + 2, 16, 4)
              else if e == 'U' then some (j + 2, 16, 8)
              else none
            match shape with
            | none => .error ⟨"invalid char escape", j + 1⟩
            | some (k, base, n) =>
              let m := countDigits src base k n
              if m < n then .error ⟨"invalid char escape", k + m⟩
              else scanQuoted src q fuel (k + n)

def hexValue : List Char → Option Nat
  | [] => some 0
  | c :: cs =>
    let d := escapeDigit c
    if d < 16 then (hexValue cs).map (d * 16 ^ cs.length + ·) else none

def codePoint (v : Nat) : Char :=
  if 0xD800 ≤ v && v ≤ 0xDFFF then Char.ofNat 0xFFFD else Char.ofNat v

def simpleEscape : Char → Option Char
  | 'a' => some (Char.ofNat 7)
  | 'b' => some (Char.ofNat 8)
  | 'f' => some (Char.ofNat 12)
  | 'n' => some '\n'
  | 'r' => some '\r'
  | 't' => some '\t'
  | 'v' => some (Char.ofNat 11)
  | '\\' => some '\\'
  | '"' => some '"'
  | '?' => some '?'
  | c => if c.toNat == 96 || c.toNat == 39 then some c else none

def unescape : Nat → List Char → Except String (List Char)
  | _, [] => .ok []
  | 0, _ => .error "unable to unescape string"
  | fuel + 1, c :: cs =>
    if c != '\\' then (unescape fuel cs).map (c :: ·)
    else match cs with
      | [] => .error "unable to unescape string, found '\\' as last character"
      | e :: rest =>
        match simpleEscape e with
        | some d => (unescape fuel rest).map (d :: ·)
        | none =>
          let width := if e == 'x' || e == 'X' then 2 else if e == 'u' then 4
            else if e == 'U' then 8 else 0
          if width > 0 then
            if rest.length < width then .error "unable to unescape string"
            else match hexValue (rest.take width) with
              | some v =>
                if v > 0x10FFFF then .error "unable to unescape string"
                else (unescape fuel (rest.drop width)).map (codePoint v :: ·)
              | none => .error "unable to unescape string"
          else if '0' ≤ e && e ≤ '3' then
            match rest with
            | a :: b :: more =>
              if '0' ≤ a && a ≤ '7' && '0' ≤ b && b ≤ '7' then
                let v := (e.toNat - 48) * 64 + (a.toNat - 48) * 8 + (b.toNat - 48)
                (unescape fuel more).map (codePoint v :: ·)
              else .error "unable to unescape octal sequence in string"
            | _ => .error "unable to unescape octal sequence in string"
          else .error "unable to unescape string"

def wordOperators : List String :=
  ["in", "or", "and", "matches", "contains", "startsWith", "endsWith", "let", "if", "else"]

def negatable : List String := ["in", "matches", "contains", "startsWith", "endsWith"]

def commentEnd (src : Array Char) : Nat → Nat → Option Nat
  | 0, _ => none
  | fuel + 1, i =>
    if charIs src i (· == '*') && charIs src (i + 1) (· == '/') then some i
    else commentEnd src fuel (i + 1)

def scanFrom (src : Array Char) : Nat → Nat → Array Token → Lexed
  | 0, i, acc => ⟨acc, some ⟨"unexpected end of input", i⟩⟩
  | fuel + 1, i, acc =>
    let op := fun (n : Nat) => scanFrom src fuel (i + n) (acc.push ⟨.operator, slice src i (i + n), i⟩)
    match src[i]? with
    | none => ⟨acc.push ⟨.eof, "", i - 1⟩, none⟩
    | some c =>
      if Blank.isSpace c then scanFrom src fuel (i + 1) acc
      else if c.toNat == 39 || c == '"' then
        match scanQuoted src c (src.size + 1) (i + 1) with
        | .error f => ⟨acc, some f⟩
        | .ok close =>
          match unescape src.size ((src.extract (i + 1) close).toList) with
          | .error m => ⟨acc, some ⟨m, close⟩⟩
          | .ok s => scanFrom src fuel (close + 1) (acc.push ⟨.string, String.ofList s, i⟩)
      else if c.toNat == 96 then
        let close := skipWhile src (fun d => d.toNat != 96) (i + 1)
        if close < src.size then
          scanFrom src fuel (close + 1) (acc.push ⟨.string, slice src (i + 1) close, i⟩)
        else ⟨acc, some ⟨"literal not terminated", src.size⟩⟩
      else if c.isDigit || (c == '.' && charIs src (i + 1) Char.isDigit) then
        let (e, ok) := scanNumber src (if c == '.' then i + 1 else i)
        if ok then scanFrom src fuel e (acc.push ⟨.number, slice src i e, i⟩)
        else ⟨acc, some ⟨"bad number syntax: " ++ Quote.text (slice src i e), e - 1⟩⟩
      else if c == '?' then op (if charIs src (i + 1) (fun d => d == '.' || d == '?') then 2 else 1)
      else if c == '/' then
        if charIs src (i + 1) (· == '/') then
          scanFrom src fuel (skipWhile src (· != '\n') (i + 2) + 1) acc
        else if charIs src (i + 1) (· == '*') then
          match commentEnd src src.size (i + 2) with
          | some e => scanFrom src fuel (e + 2) acc
          | none => ⟨acc, some ⟨"unclosed comment", src.size⟩⟩
        else op 1
      else if c == '#' then
        let n := if charIs src (i + 1) (· == '#') then 2 else 1
        let e := skipWhile src isWord (i + n)
        let acc := acc.push ⟨.operator, slice src i (i + n), i⟩
        if e == i + n then scanFrom src fuel e acc
        else scanFrom src fuel e (acc.push ⟨.identifier, slice src (i + n) e, i + n⟩)
      else if c == '|' then op (if charIs src (i + 1) (· == '|') then 2 else 1)
      else if c == ':' then op (if charIs src (i + 1) (· == ':') then 2 else 1)
      else if "([\x7b)]\x7d".contains c then
        scanFrom src fuel (i + 1) (acc.push ⟨.bracket, c.toString, i⟩)
      else if ",;%+-^".contains c then op 1
      else if "&!=*<>".contains c then op (if charIs src (i + 1) ("&=*".contains ·) then 2 else 1)
      else if c == '.' then op (if charIs src (i + 1) (· == '.') then 2 else 1)
      else if isWord c then
        let e := skipWhile src isWord i
        let w := slice src i e
        if w == "not" then
          let acc := acc.push ⟨.operator, w, i⟩
          let s := skipWhile src (· == ' ') e
          let e2 := skipWhile src isWord s
          let w2 := slice src s e2
          if negatable.contains w2 then scanFrom src fuel e2 (acc.push ⟨.operator, w2, s⟩)
          else scanFrom src fuel s acc
        else if wordOperators.contains w then scanFrom src fuel e (acc.push ⟨.operator, w, i⟩)
        else scanFrom src fuel e (acc.push ⟨.identifier, w, i⟩)
      else ⟨acc, some ⟨"unrecognized character: " ++ runeName c, i⟩⟩

def lex (s : String) : Lexed :=
  let src := s.toList.toArray
  scanFrom src (src.size + 2) 0 #[]

example : (lex "0b102").failure.map (·.pos) = some 4 := by decide +kernel
example : ((lex "1.5.5").tokens.map (·.value)).toList = ["1.5", ".5", ""] := by decide +kernel
example : runeName '@' = "U+0040 '@'" := by decide +kernel

end LiveArith.Script
