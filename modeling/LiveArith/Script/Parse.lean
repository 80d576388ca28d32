import LiveArith.Script.Token
import LiveArith.Script.Tree
import LiveArith.Number.IntSyntax
import LiveArith.Number.FloatSyntax

/-!
Reading script text into a syntax tree, by precedence climbing.
-/

set_option autoImplicit false

namespace LiveArith.Script

abbrev Reader := ReaderT Lexed (StateT Nat (Except Failure))

def current : Reader Token := do
  let l ← read
  pure (l.tokens[(← get)]?.getD ⟨.eof, "", 0⟩)

def advance : Reader Unit := do
  let l ← read
  let i ← get
  if i + 1 < l.tokens.size then set (i + 1)
  else match l.failure with
    | some f => throw f
    | none => pure ()

def unexpected (t : Token) : Failure := ⟨"unexpected token " ++ t.describe, t.pos⟩

def expect (k : Kind) (v : Option String) : Reader Unit := do
  let t ← current
  if t.kind == k && v.all (· == t.value) then advance else throw (unexpected t)

def tooDeep : Reader Node := do throw ⟨"expression too deep", (← current).pos⟩

def infixPower : String → Option (Nat × Bool)
  | "|" => some (0, false)
  | "or" | "||" => some (10, false)
  | "and" | "&&" => some (15, false)
  | "==" | "!=" | "<" | ">" | ">=" | "<=" => some (20, false)
  | "in" | "matches" | "contains" | "startsWith" | "endsWith" => some (20, false)
  | ".." => some (25, false)
  | "+" | "-" => some (30, false)
  | "*" | "/" | "%" => some (60, false)
  | "**" | "^" => some (100, true)
  | "??" => some (500, false)
  | _ => none

def prefixPower : String → Option Nat
  | "not" | "!" => some 50
  | "-" | "+" => some 90
  | _ => none

def chains (op : String) : Bool := op == "<" || op == ">" || op == ">=" || op == "<="

def builtinNames : List String :=
  ["len", "type", "abs", "ceil", "floor", "round", "int", "float", "string", "trim",
   "trimPrefix", "trimSuffix", "upper", "lower", "split", "splitAfter", "replace", "repeat",
   "join", "indexOf", "lastIndexOf", "hasPrefix", "hasSuffix", "max", "min", "sum", "mean",
   "median", "toJSON", "fromJSON", "toBase64", "fromBase64", "now", "duration", "date",
   "timezone", "first", "last", "get", "keys", "values", "toPairs", "fromPairs", "sort",
   "bitand", "bitor", "bitxor", "bitnand", "bitnot", "bitshl", "bitshr", "bitushr", "concat",
   "flatten", "uniq", "reverse", "all", "none", "any", "one", "filter", "map", "count",
   "find", "findIndex", "findLast", "findLastIndex", "groupBy", "sortBy", "reduce"]

def nameLike (s : String) : Bool :=
  match s.toList with
  | c :: cs => (c == '_' || c == '$' || (Letter.isLetterOrDigit c && !c.isDigit)) && cs.all isWord
  | [] => false

def numberLiteral (t : Token) (next : Nat) : Except Failure Node :=
  let v := String.ofList (t.value.toList.filter (· != '_'))
  let lower := v.toLower
  let integer := fun (what : String) (base : Nat) =>
    match IntSyntax.readSigned v base 64 with
    | .ok i => Except.ok (Node.int t.pos (Int64.ofInt i))
    | .error f => .error ⟨"invalid " ++ what ++ " literal: " ++ f.message, next⟩
  if lower.startsWith "0x" then integer "hex" 0
  else if lower.contains '.' || lower.contains 'e' then
    match FloatSyntax.readFloat v with
    | .ok x => .ok (.float t.pos x)
    | .error (f, _) => .error ⟨"invalid float literal: " ++ f.message, next⟩
  else if lower.startsWith "0b" then integer "binary" 0
  else if lower.startsWith "0o" then integer "octal" 0
  else integer "integer" 10

mutual

def sequence : Nat → Reader Node
  | 0 => tooDeep
  | fuel + 1 => do
    let first ← expression fuel 0
    let rest ← sequenceRest fuel []
    match rest with
    | [] => pure first
    | _ => pure (.seq first.pos (first :: rest))

def sequenceRest : Nat → List Node → Reader (List Node)
  | 0, _ => do throw ⟨"expression too deep", (← current).pos⟩
  | fuel + 1, acc => do
    if (← current).is .operator ";" then
      advance
      if (← current).kind == .eof then pure acc.reverse
      else
        let n ← expression fuel 0
        sequenceRest fuel (n :: acc)
    else pure acc.reverse

def expression : Nat → Nat → Reader Node
  | 0, _ => tooDeep
  | fuel + 1, prec => do
    let t ← current
    if prec == 0 && t.is .operator "let" then binding fuel
    else if prec == 0 && t.is .operator "if" then ifElse fuel
    else
      let left ← primary fuel
      let left ← infixes fuel prec left ""
      if prec == 0 then conditional fuel left else pure left

def infixes : Nat → Nat → Node → String → Reader Node
  | 0, _, _, _ => tooDeep
  | fuel + 1, prec, left, prev => do
    let t ← current
    if t.kind != .operator then pure left
    else if t.value == "not" then
      let save ← get
      advance
      let w ← current
      if !negatable.contains w.value then throw (unexpected w)
      else match infixPower w.value with
        | some (p, right) =>
          if p ≥ prec then applyInfix fuel prec left prev w p right (some t)
          else do set save; pure left
        | none => do set save; pure left
    else match infixPower t.value with
      | some (p, right) =>
        if p ≥ prec then applyInfix fuel prec left prev t p right none else pure left
      | none => pure left

def applyInfix : Nat → Nat → Node → String → Token → Nat → Bool → Option Token → Reader Node
  | 0, _, _, _, _, _, _, _ => tooDeep
  | fuel + 1, prec, left, prev, t, p, right, negation => do
    advance
    if t.value == "|" then
      let name ← current
      expect .identifier none
      let n ← callOf fuel name [left]
      infixes fuel prec n t.value
    else if prev == "??" && t.value != "??" then
      throw ⟨"Operator (" ++ t.value ++
        ") and coalesce expressions (??) cannot be mixed. Wrap either by parentheses.", t.pos⟩
    else if chains t.value then
      let n ← comparison fuel left t p none
      infixes fuel prec n t.value
    else
      let r ← expression fuel (if right then p else p + 1)
      let n := Node.binary t.pos t.value left r
      let n := match negation with
        | some nt => Node.unary nt.pos "not" n
        | none => n
      infixes fuel prec n t.value

def comparison : Nat → Node → Token → Nat → Option Node → Reader Node
  | 0, _, _, _, _ => tooDeep
  | fuel + 1, left, t, p, root => do
    let r ← expression fuel (p + 1)
    let cmp := Node.binary t.pos t.value left r
    let root := match root with
      | some n => Node.binary t.pos "&&" n cmp
      | none => cmp
    let u ← current
    if u.kind == .operator && chains u.value then
      advance
      comparison fuel r u p (some root)
    else pure root

def conditional : Nat → Node → Reader Node
  | 0, _ => tooDeep
  | fuel + 1, node => do
    if !(← current).is .operator "?" then pure node
    else
      advance
      let (a, b) ← if !(← current).is .operator ":" then do
          let a ← expression fuel 0
          expect .operator (some ":")
          let b ← expression fuel 0
          pure (a, b)
        else do
          advance
          let b ← expression fuel 0
          pure (node, b)
      conditional fuel (.cond (← current).pos node a b)

def primary : Nat → Reader Node
  | 0 => tooDeep
  | fuel + 1 => do
    let t ← current
    match (if t.kind == .operator then prefixPower t.value else none) with
    | some p =>
      advance
      let e ← expression fuel p
      suffixes fuel (.unary t.pos t.value e)
    | none =>
      if t.is .bracket "(" then
        advance
        let e ← sequence fuel
        expect .bracket (some ")")
        suffixes fuel e
      else if t.is .operator "::" then
        advance
        let name ← current
        expect .identifier none
        let n ← callOf fuel name []
        suffixes fuel n
      else secondary fuel

def secondary : Nat → Reader Node
  | 0 => tooDeep
  | fuel + 1 => do
    let t ← current
    match t.kind with
    | .identifier =>
      advance
      if t.value == "true" then pure (.bool t.pos true)
      else if t.value == "false" then pure (.bool t.pos false)
      else if t.value == "nil" then pure (.nil t.pos)
      else if (← current).is .bracket "(" then
        let n ← callOf fuel t []
        suffixes fuel n
      else suffixes fuel (.ident t.pos t.value)
    | .number =>
      advance
      match numberLiteral t (← current).pos with
      | .ok n => pure n
      | .error f => throw f
    | .string =>
      advance
      suffixes fuel (.str t.pos t.value)
    | _ =>
      if t.is .bracket "[" then
        let n ← listLiteral fuel t
        suffixes fuel n
      else if t.is .bracket "\x7b" then
        let n ← mapLiteral fuel t
        suffixes fuel n
      else throw (unexpected t)

def listLiteral : Nat → Token → Reader Node
  | 0, _ => tooDeep
  | fuel + 1, t => do
    expect .bracket (some "[")
    let items ← listItems fuel []
    pure (.array t.pos items)

def listItems : Nat → List Node → Reader (List Node)
  | 0, _ => do throw ⟨"expression too deep", (← current).pos⟩
  | fuel + 1, acc => do
    if (← current).is .bracket "]" then
      advance
      pure acc.reverse
    else
      if !acc.isEmpty then expect .operator (some ",")
      if !acc.isEmpty && (← current).is .bracket "]" then
        advance
        pure acc.reverse
      else
        let n ← expression fuel 0
        listItems fuel (n :: acc)

def mapLiteral : Nat → Token → Reader Node
  | 0, _ => tooDeep
  | fuel + 1, t => do
    expect .bracket (some "\x7b")
    let pairs ← mapPairs fuel []
    pure (.map t.pos pairs)

def mapPairs : Nat → List (Node × Node) → Reader (List (Node × Node))
  | 0, _ => do throw ⟨"expression too deep", (← current).pos⟩
  | fuel + 1, acc => do
    if (← current).is .bracket "\x7d" then
      advance
      pure acc.reverse
    else
      if !acc.isEmpty then expect .operator (some ",")
      let c ← current
      if !acc.isEmpty && c.is .bracket "\x7d" then
        advance
        pure acc.reverse
      else if !acc.isEmpty && c.is .operator "," then throw (unexpected c)
      else
        let key ← if c.kind == .number || c.kind == .string || c.kind == .identifier then do
            advance
            pure (Node.str c.pos c.value)
          else if c.is .bracket "(" then expression fuel 0
          else throw ⟨"a map key must be a quoted string, a number, a identifier, or an " ++
            "expression enclosed in parentheses (unclosed parenthesis?)", c.pos⟩
        expect .operator (some ":")
        let v ← expression fuel 0
        mapPairs fuel ((key, v) :: acc)

def callOf : Nat → Token → List Node → Reader Node
  | 0, _, _ => tooDeep
  | fuel + 1, t, args => do
    let all ← arguments fuel args.length args.reverse
    if builtinNames.contains t.value then pure (.builtin t.pos t.value all)
    else pure (.call t.pos (.ident t.pos t.value) all)

def arguments : Nat → Nat → List Node → Reader (List Node)
  | 0, _, _ => do throw ⟨"expression too deep", (← current).pos⟩
  | fuel + 1, given, acc => do
    expect .bracket (some "(")
    argumentItems fuel given acc

def argumentItems : Nat → Nat → List Node → Reader (List Node)
  | 0, _, _ => do throw ⟨"expression too deep", (← current).pos⟩
  | fuel + 1, given, acc => do
    if (← current).is .bracket ")" then
      advance
      pure acc.reverse
    else
      if acc.length > given then expect .operator (some ",")
      if (← current).is .bracket ")" then
        advance
        pure acc.reverse
      else
        let n ← expression fuel 0
        argumentItems fuel given (n :: acc)

def suffixes : Nat → Node → Reader Node
  | 0, _ => tooDeep
  | fuel + 1, node => do
    let t ← current
    if t.kind != .operator && t.kind != .bracket then pure node
    else if t.value == "." || t.value == "?." then
      let optional := t.value == "?."
      advance
      let p ← current
      if optional && p.is .bracket "[" then
        let n ← index fuel node p true
        suffixes fuel n
      else
        advance
        if p.kind != .identifier && (p.kind != .operator || !nameLike p.value) then
          throw ⟨"expected name", (← current).pos⟩
        let member := Node.member p.pos node (.str p.pos p.value) optional
        if (← current).is .bracket "(" then
          let args ← arguments fuel 0 []
          suffixes fuel (.call p.pos member args)
        else suffixes fuel member
    else if t.value == "[" then
      let n ← index fuel node t false
      suffixes fuel n
    else pure node

def index : Nat → Node → Token → Bool → Reader Node
  | 0, _, _, _ => tooDeep
  | fuel + 1, node, t, optional => do
    advance
    if (← current).is .operator ":" then
      advance
      let hi ← if (← current).is .bracket "]" then pure none
        else (some <$> expression fuel 0)
      expect .bracket (some "]")
      pure (.slice t.pos node none hi)
    else
      let k ← expression fuel 0
      if (← current).is .operator ":" then
        advance
        let hi ← if (← current).is .bracket "]" then pure none
          else (some <$> expression fuel 0)
        expect .bracket (some "]")
        pure (.slice t.pos node (some k) hi)
      else
        expect .bracket (some "]")
        pure (.member t.pos node k optional)

def binding : Nat → Reader Node
  | 0 => tooDeep
  | fuel + 1 => do
    expect .operator (some "let")
    let name ← current
    expect .identifier none
    expect .operator (some "=")
    let value ← expression fuel 0
    expect .operator (some ";")
    let body ← sequence fuel
    pure (.bind name.pos name.value value body)

def ifElse : Nat → Reader Node
  | 0 => tooDeep
  | fuel + 1 => do
    let t ← current
    advance
    let c ← expression fuel 0
    expect .bracket (some "\x7b")
    let a ← sequence fuel
    expect .bracket (some "\x7d")
    expect .operator (some "else")
    expect .bracket (some "\x7b")
    let b ← sequence fuel
    expect .bracket (some "\x7d")
    pure (.cond t.pos c a b)

end

def parse (src : String) : Except Failure Node :=
  let l := lex src
  if l.tokens.isEmpty then .error (l.failure.getD ⟨"unexpected end of input", 0⟩)
  else
    let whole : Reader Node := do
      let n ← sequence (8 * l.tokens.size + 64)
      let t ← current
      if t.kind != .eof then throw (unexpected t) else pure n
    (whole.run l |>.run 0).map (·.1)

end LiveArith.Script
