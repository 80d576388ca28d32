import LiveArith.Yaml
import LiveArith.Text.Blank
import LiveArith.Text.Case
import LiveArith.Number.Layout
import LiveArith.Text.Base64

/-!
Reading YAML documents: block mappings and sequences by indentation, flow mappings and sequences in
brackets (which may run over several lines), literal (`|`) and folded (`>`) block scalars, and
scalars, plain or quoted, which may continue over more deeply indented lines.
-/

set_option autoImplicit false

namespace LiveArith.Yaml

/-- A node of a document. -/
inductive Node where
  | null
  | bool (b : Bool)
  | int (i : Int)
  | float (x : Float)
  | str (s : String)
  | seq (items : List Node)
  | map (entries : List (String × Node))
deriving Inhabited

def Node.kind : Node → String
  | .null => "null"
  | .bool _ => "bool"
  | .int _ => "integer"
  | .float _ => "float"
  | .str _ => "string"
  | .seq _ => "sequence"
  | .map _ => "mapping"

/-- A failure at a line and column, both from one. -/
structure ReadError where
  line : Nat
  col : Nat
  msg : String
  span : Nat := 0
  shown : Option String := none
deriving Repr, Inhabited

def ReadError.at (line col : Nat) (msg : String) : ReadError := { line, col, msg }

def ReadError.render (e : ReadError) (src : String) : String :=
  if e.line == 0 then e.msg else
  let ls := (src.splitOn "\n").map fun l => String.ofList (l.toList.filter (· != '\r'))
  let num := fun (n : Nat) => let d := toString n
    (if d.length < 2 then " " else "") ++ d
  let text := fun (n : Nat) => if n == e.line then e.shown.getD (ls.getD (n - 1) "")
    else ls.getD (n - 1) ""
  let shown := fun (n : Nat) => (if n == e.line then ">" else " ") ++ " " ++ num n ++ " | " ++
    text n
  let before := (List.range 4).reverse.filterMap fun k =>
    if e.line > k then some (shown (e.line - k)) else none
  let spanned := ((List.range e.span).map (e.line + 1 + ·)).filter (· ≤ ls.length) |>.map shown
  let last := e.line + e.span
  let mark := String.ofList (List.replicate (7 + e.col - 1) ' ') ++ "^"
  let after := ((List.range 3).map (last + 1 + ·)).filter (· ≤ ls.length) |>.filter
    (fun n => n < ls.length || !(ls.getD (n - 1) "").isEmpty) |>.map shown
  "[" ++ toString e.line ++ ":" ++ toString e.col ++ "] " ++ e.msg ++ "\n" ++
    String.join ((before ++ spanned ++ [mark] ++ after).map (· ++ "\n"))

def number? (s : String) : Option Node :=
  if !isNumber s then none
  else
    let cs := s.toList
    let neg := cs.head? == some '-'
    let afterPlus := if cs.head? == some '+' then cs.drop 1 else cs
    let afterSign := if afterPlus.head? == some '-' then afterPlus.drop 1 else afterPlus
    let body := afterSign.filter (· != '_')
    let dots := (cs.filter (· == '.')).length
    let integer := fun (t : List Char) (base : Nat) =>
      match IntSyntax.readUnsigned "ParseUint" (String.ofList t) base 64 with
      | .ok n => some (Node.int (if neg then -(n : Int) else n))
      | .error _ => none
    match body with
    | '0' :: 'x' :: t => integer t 16
    | '0' :: 'o' :: t => integer t 8
    | '0' :: 'b' :: t => integer t 2
    | _ =>
      if dots == 1 then
        match FloatSyntax.readFloat (String.ofList (if neg then '-' :: body else body)) with
        | .ok x => some (.float x)
        | .error _ => none
      else if body.head? == some '0' && body.length > 1 then integer body 8
      else integer body 10

def plain (s : String) : Node :=
  if s.isEmpty || s == "~" || s == "null" || s == "Null" || s == "NULL" then .null
  else if s == "true" || s == "True" || s == "TRUE" then .bool true
  else if s == "false" || s == "False" || s == "FALSE" then .bool false
  else if s == ".inf" || s == ".Inf" || s == ".INF" || s == "+.inf" then .float (1.0 / 0.0)
  else if s == "-.inf" || s == "-.Inf" || s == "-.INF" then .float (-1.0 / 0.0)
  else if s == ".nan" || s == ".NaN" || s == ".NAN" then .float (0.0 / 0.0)
  else (number? s).getD (.str s)

def escape (c : Char) : Option Char :=
  match c with
  | 'n' => some '\n' | 't' => some '\t' | '\t' => some '\t' | 'r' => some '\r'
  | '0' => some (Char.ofNat 0) | '"' => some '"' | '\\' => some '\\' | '/' => some '/'
  | ' ' => some ' ' | 'a' => some (Char.ofNat 7) | 'b' => some (Char.ofNat 8)
  | 'e' => some (Char.ofNat 27) | 'f' => some (Char.ofNat 12) | 'v' => some (Char.ofNat 11)
  | 'N' => some (Char.ofNat 0x85) | '_' => some (Char.ofNat 0xA0)
  | 'L' => some (Char.ofNat 0x2028) | 'P' => some (Char.ofNat 0x2029)
  | _ => none

def hexAt (n : Nat) (cs : List Char) : Option (Nat × List Char) :=
  let ds := cs.take n
  if ds.length == n && ds.all (fun c => c.isDigit || ('a' ≤ c.toLower && c.toLower ≤ 'f')) then
    some (ds.foldl (fun v c => 16 * v + (if c.isDigit then c.toNat - 48 else c.toLower.toNat - 87)) 0,
      cs.drop n)
  else none

def quotedIn (q : Char) : Nat → List Char → List Char → Option (String × List Char)
  | 0, _, _ => none
  | _, [], _ => none
  | fuel + 1, c :: cs, acc =>
    if q == Char.ofNat 39 then
      if c == q then
        match cs with
        | c2 :: rest =>
          if c2 == q then quotedIn q fuel rest (q :: acc) else some (String.ofList acc.reverse, c2 :: rest)
        | [] => some (String.ofList acc.reverse, [])
      else quotedIn q fuel cs (c :: acc)
    else if c == q then some (String.ofList acc.reverse, cs)
    else if c == '\\' then
      match cs with
      | e :: rest =>
        match escape e with
        | some x => quotedIn q fuel rest (x :: acc)
        | none =>
          let width := if e == 'x' then 2 else if e == 'u' then 4 else if e == 'U' then 8 else 0
          match hexAt width rest with
          | some (v, rest2) => if width > 0 then quotedIn q fuel rest2 (Char.ofNat v :: acc) else none
          | none => none
      | [] => none
    else quotedIn q fuel cs (c :: acc)

def quoted (q : Char) (cs acc : List Char) : Option (String × List Char) :=
  quotedIn q (cs.length + 1) cs acc

def badEscape : Nat → List Char → Option Nat
  | _, [] => none
  | n, '\\' :: e :: rest =>
    let width := if e == 'x' then 2 else if e == 'u' then 4 else if e == 'U' then 8 else 0
    if width > 0 && (hexAt width rest).isNone then some (n + 1) else badEscape (n + 2) rest
  | n, c :: cs => if c == '"' then none else badEscape (n + 1) cs

mutual
def Node.text : Node → String
  | .null => "<nil>"
  | .bool b => if b then "true" else "false"
  | .int i => toString i
  | .float x => Layout.short x
  | .str s => s
  | .seq items => "[" ++ " ".intercalate (Node.texts items) ++ "]"
  | .map entries =>
    let latest := (Node.entryTexts entries).reverse.foldl
      (fun (acc : List (String × String)) e => if acc.any (·.1 == e.1) then acc else e :: acc) []
    "map[" ++ " ".intercalate ((latest.mergeSort fun a b => a.1 ≤ b.1).map
      fun e => e.1 ++ ":" ++ e.2) ++ "]"

def Node.texts : List Node → List String
  | [] => []
  | n :: ns => n.text :: Node.texts ns

def Node.entryTexts : List (String × Node) → List (String × String)
  | [] => []
  | (k, v) :: rest => (k, v.text) :: Node.entryTexts rest
end

/-- Why a tag does not apply to a node: a failure placed at the node, or at the tag. -/
inductive TagError where
  | placed (msg : String)
  | atTag (msg : String)

def binaryText (s : String) : String :=
  "[" ++ " ".intercalate ((Base64.decode s).bytes.map fun b => toString b.toNat) ++ "]"

def intOf (s : String) : Int :=
  match IntSyntax.readSigned s 10 64 with
  | .ok i => i
  | .error f =>
    if f.reason == .range then
      (if s.startsWith "-" then -9223372036854775808 else 9223372036854775807)
    else 0

def scalarTags : List String :=
  ["!!str", "!!int", "!!float", "!!bool", "!!null", "!!binary", "!!timestamp"]

def retag (tag : String) (n : Node) : Except TagError Node :=
  if tag == "!!str" then
    .ok (match n with
      | .null => .str ""
      | n => .str n.text)
  else if tag == "!!int" then .ok (.int (intOf n.text))
  else if tag == "!!float" then
    .ok (.float (match n with
      | .int i => Float.ofInt i
      | .float x => x
      | .str s =>
        match FloatSyntax.readFloat s with
        | .ok x => x
        | .error (_, x) => x
      | _ => 0))
  else if tag == "!!bool" then
    let t := Case.lowerText n.text
    if ["1", "t", "true", "yes"].contains t then .ok (.bool true)
    else if ["0", "f", "false", "no"].contains t then .ok (.bool false)
    else .error (.placed ("cannot convert " ++ Quote.text n.text ++ " to boolean"))
  else if tag == "!!null" then .ok .null
  else if tag == "!!binary" then
    match n with
    | .str s => .ok (.str (binaryText s))
    | n => .error (.placed ("cannot convert " ++ Quote.text n.text ++ " to string"))
  else if tag == "!!timestamp" then
    .ok (.str (match n with
      | .str s => (Time.Stamp.read true s).getD Time.Stamp.zero
      | _ => Time.Stamp.zero).text)
  else if tag == "!!map" || tag == "!!set" then
    match n with
    | .map _ | .null => .ok n
    | _ => .error (.placed "could not find map")
  else if tag == "!!seq" || tag == "!!omap" then
    match n with
    | .seq _ | .null => .ok n
    | _ => .error (.placed "value is not allowed in this context")
  else if tag.startsWith "!!" then
    .error (.atTag ("unknown secondary tag name " ++ Quote.text tag ++ " specified"))
  else .ok n

/-- A line of a document: its number, its indentation, its content without the indentation, a
comment and trailing blanks, all of its characters, and whether a line break ends it. -/
structure Line where
  no : Nat
  indent : Nat
  text : String
  chars : List Char
  broken : Bool
deriving Repr, Inhabited

def Line.blank (l : Line) : Bool := l.text.isEmpty

def Line.marker (l : Line) : Bool :=
  l.indent == 0 && (l.text == "---" || l.text == "..." || l.text.startsWith "--- " ||
    l.text.startsWith "---\t")

def Line.afterMarker (l : Line) : Line :=
  let body := l.text.toList.drop 3
  let content := body.dropWhile fun c => c == ' ' || c == '\t'
  { l with indent := l.indent + 3 + (body.length - content.length), text := String.ofList content }

def uncomment (cs : List Char) : List Char :=
  let rec go : List Char → Option Char → Bool → List Char
    | [], _, _ => []
    | c :: rest, q, afterBlank =>
      match q with
      | some qc =>
        if c == '\\' && qc == '"' then
          match rest with
          | d :: r2 => c :: d :: go r2 q false
          | [] => [c]
        else c :: go rest (if c == qc then none else q) false
      | none =>
        if c == '#' && afterBlank then []
        else if c == '"' || c == Char.ofNat 39 then c :: go rest (some c) false
        else c :: go rest none (c == ' ' || c == '\t')
  go cs none true

def lines (src : String) : List Line :=
  let pieces := src.splitOn "\n"
  let count := if src.endsWith "\n" then pieces.length - 1 else pieces.length
  (pieces.take count).zipIdx.map fun (l, i) =>
    let cs := l.toList.filter (· != '\r')
    let ind := (cs.takeWhile (· == ' ')).length
    let body := uncomment (cs.drop ind)
    let body := (body.reverse.dropWhile fun c => c == ' ' || c == '\t').reverse
    ({ no := i + 1, indent := ind, text := String.ofList body, chars := cs,
       broken := i + 1 < pieces.length } : Line)

def skipBlank (ls : List Line) : List Line := ls.dropWhile Line.blank

def isEntry (cs : List Char) : Bool := cs == ['-'] || cs.take 2 == ['-', ' ']

def keyEnd (cs : List Char) : Option Nat :=
  let rec go : List Char → Nat → Option Char → Nat → Option Nat
    | [], _, _, _ => none
    | c :: rest, i, q, depth =>
      match q with
      | some qc => go rest (i + 1) (if c == qc then none else q) depth
      | none =>
        if (c == '"' || c == Char.ofNat 39) && i == 0 then go rest (i + 1) (some c) depth
        else if c == '[' || c == '{' then go rest (i + 1) none (depth + 1)
        else if c == ']' || c == '}' then go rest (i + 1) none (depth - 1)
        else if c == ':' && depth == 0 && (rest.isEmpty || rest.head? == some ' ' || rest.head? == some '\t') then some i
        else go rest (i + 1) none depth
  go cs 0 none 0

def keyText (cs : List Char) : String :=
  let t := Blank.trim (String.ofList cs)
  match t.toList with
  | q :: rest =>
    if q == '"' || q == Char.ofNat 39 then
      match quoted q rest [] with
      | some (s, _) => s
      | none => t
    else t
  | [] => t

def document (src : String) : Except ReadError (List Line) :=
  let ls := (lines src).dropWhile fun l => l.blank || (l.indent == 0 && l.text.startsWith "%")
  match ls with
  | l :: rest =>
    if l.indent == 0 && l.text == "---" then .ok (rest.takeWhile (!·.marker))
    else if l.marker && l.text.startsWith "---" then
      let m := l.afterMarker
      if (keyEnd m.text.toList).isSome then
        .error (.at l.no (m.indent + 1) "value cannot be placed after document separator")
      else .ok (m :: rest.takeWhile (!·.marker))
    else .ok (ls.takeWhile (!·.marker))
  | [] => .ok []

def Line.tabbed (l : Line) : Bool :=
  l.chars.contains '\t' && l.chars.all fun c => c == ' ' || c == '\t'

def front (ls : List Line) : Except ReadError (List Line) :=
  let (blanks, rest) := ls.span Line.blank
  match blanks.find? Line.tabbed with
  | some l =>
    .error (.at l.no ((l.chars.takeWhile (· == ' ')).length + 1)
      "found character '\t' that cannot start any token")
  | none =>
    match rest with
    | l :: _ =>
      match l.text.toList.head?, keyEnd l.text.toList with
      | some '\t', some k =>
        .error { line := l.no, col := l.indent + k,
                 msg := "tab character cannot use as a map key directly",
                 shown := some (String.ofList (l.chars.eraseIdx (l.indent + k))) }
      | _, _ => .ok rest
    | [] => .ok rest

def isSpace (c : Char) : Bool := c == ' ' || c == '\t' || c == '\n'

def flowPlain (cs : List Char) : String × List Char :=
  let rec go : List Char → Bool → List Char → List Char × List Char
    | [], _, acc => (acc.reverse, [])
    | c :: rest, skipping, acc =>
      if skipping && isSpace c then go rest true acc
      else if c == ',' || c == ']' || c == '}' || c == '[' || c == '{' then (acc.reverse, c :: rest)
      else if c == ':' && (rest.isEmpty || rest.head? == some ' ' || rest.head? == some ',' ||
          rest.head? == some ']' || rest.head? == some '}' || rest.head? == some '\n') then
        (acc.reverse, c :: rest)
      else if c == '\n' then go rest true (' ' :: acc.dropWhile fun d => d == ' ' || d == '\t')
      else go rest false (c :: acc)
  let (t, rest) := go cs false []
  (Blank.trim (String.ofList t), rest)

def skipBlanks (cs : List Char) : List Char := cs.dropWhile isSpace

/-- The tag and anchor written before a node. -/
structure Props where
  tag : Option String := none
  tagLeft : Nat := 0
  anchor : Option String := none

def nameOf (flow : Bool) (cs : List Char) : List Char × List Char :=
  cs.span fun c => !(isSpace c || (flow && (c == ',' || c == ']' || c == '}' || c == '[' || c == '{')))

def props (flow : Bool) : Nat → Props → List Char → Props × List Char
  | 0, p, cs => (p, cs)
  | fuel + 1, p, '!' :: cs =>
    let (name, rest) := nameOf flow cs
    props flow fuel { p with tag := some (String.ofList ('!' :: name)), tagLeft := cs.length + 1 }
      (skipBlanks rest)
  | fuel + 1, p, '&' :: cs =>
    let (name, rest) := nameOf flow cs
    props flow fuel { p with anchor := some (String.ofList name) } (skipBlanks rest)
  | _ + 1, p, cs => (p, cs)

abbrev Anchors := List (String × Node)

/-- A failure inside a flow collection: its message, and how many characters of the text
were left at its place. -/
structure FlowError where
  msg : String
  left : Nat

abbrev Flowing := Except FlowError (Node × List Char)

def Node.keyText : Node → String
  | .str s => s
  | _ => ""

def unterminated (q : Char) : String :=
  "could not find end character of " ++
    (if q == '"' then "double-quoted" else "single-quoted") ++ " text"

def mapUnclosed : String := "could not find flow mapping end token '\x7d'"

mutual
def flowNode (env : Anchors) : Nat → List Char → Flowing
  | 0, cs => .error ⟨"flow collection too deep", cs.length⟩
  | fuel + 1, cs =>
    let (p, cs) := props true 4 {} (skipBlanks cs)
    let start := cs.length
    let read : Flowing := match cs with
      | '[' :: rest => flowSeq env fuel start rest []
      | '\x7b' :: rest => flowMap env fuel start rest []
      | '*' :: rest =>
        let (name, r) := nameOf true rest
        match env.lookup (String.ofList name) with
        | some n => .ok (n, r)
        | none => .error ⟨"could not find alias " ++ Quote.text (String.ofList name), rest.length⟩
      | q :: rest =>
        if q == '"' || q == Char.ofNat 39 then
          match quoted q rest [] with
          | some (s, r) => .ok (.str s, r)
          | none => .error ⟨unterminated q, start⟩
        else
          let (t, r) := flowPlain (q :: rest)
          .ok (plain t, r)
      | [] => .ok (.null, [])
    match read, p.tag with
    | .ok (n, r), some t =>
      match retag t n with
      | .ok n => .ok (n, r)
      | .error (.placed m) | .error (.atTag m) => .error ⟨m, start⟩
    | r, _ => r

def flowSeq (env : Anchors) : Nat → Nat → List Char → List Node → Flowing
  | 0, start, _, _ => .error ⟨"sequence end token ']' not found", start⟩
  | fuel + 1, start, cs, acc =>
    match skipBlanks cs with
    | ']' :: rest => .ok (.seq acc.reverse, rest)
    | [] => .error ⟨"sequence end token ']' not found", start⟩
    | ':' :: rest => .error ⟨"found an invalid key for this map", rest.length + 1⟩
    | cs => do
      let (item, r) ← flowNode env fuel cs
      let (item, r) ← match skipBlanks r with
        | ':' :: r2 => do
          let (v, r3) ← flowNode env fuel r2
          pure (Node.map [(item.keyText, v)], r3)
        | _ => pure (item, r)
      match skipBlanks r with
      | ',' :: r2 => flowSeq env fuel start r2 (item :: acc)
      | ']' :: r2 => .ok (.seq (item :: acc).reverse, r2)
      | [] => .error ⟨"sequence end token ']' not found", start⟩
      | r => .error ⟨"',' or ']' must be specified", r.length⟩

def flowMap (env : Anchors) : Nat → Nat → List Char → List (String × Node) → Flowing
  | 0, start, _, _ => .error ⟨mapUnclosed, start⟩
  | fuel + 1, start, cs, acc =>
    match skipBlanks cs with
    | '\x7d' :: rest => .ok (.map acc.reverse, rest)
    | [] => .error ⟨mapUnclosed, start⟩
    | ':' :: rest => .error ⟨"found an invalid key for this map", rest.length + 1⟩
    | cs => do
      let keyAt := cs.length
      let (k, r) ← match cs with
        | q :: rest =>
          if q == '"' || q == Char.ofNat 39 then
            match quoted q rest [] with
            | some (s, r) => .ok (s, r)
            | none => .error ⟨unterminated q, keyAt⟩
          else .ok (flowPlain cs)
        | [] => .ok ("", [])
      match skipBlanks r with
      | ':' :: r2 => do
        let (v, r3) ← flowNode env fuel r2
        match skipBlanks r3 with
        | ',' :: r4 => flowMap env fuel start r4 ((k, v) :: acc)
        | '\x7d' :: r4 => .ok (.map ((k, v) :: acc).reverse, r4)
        | [] => .error ⟨mapUnclosed, start⟩
        | r4 => .error ⟨"',' or '\x7d' must be specified", r4.length⟩
      | ',' :: r2 => flowMap env fuel start r2 ((k, .null) :: acc)
      | '\x7d' :: r2 => .ok (.map ((k, .null) :: acc).reverse, r2)
      | _ => .error ⟨"could not find flow map content", keyAt⟩
end

def flowPlace (l : Line) (col first : Nat) (more : List Line) (i : Nat) : Nat × Nat :=
  if i ≤ first then (l.no, col + i)
  else
    let rec go : List Line → Nat → Nat × Nat
      | [], _ => (l.no, col + i)
      | m :: ms, j => if j ≤ m.text.length then (m.no, m.indent + 1 + j)
        else go ms (j - m.text.length - 1)
    go more (i - first - 1)

def flowAt (env : Anchors) (l : Line) (col : Nat) (text : List Char) (more : List Line) :
    Except ReadError (Node × Nat × Option (Nat × Nat)) :=
  let joined := text ++ (String.join (more.map fun (m : Line) => "\n" ++ m.text)).toList
  let place := fun (left : Nat) => flowPlace l col text.length more (joined.length - left)
  match flowNode env (4 * joined.length + 8) joined with
  | .ok (n, r) =>
    let usedChars := joined.length - r.length
    let used := (more.foldl (fun (acc : Nat × Nat) m =>
      if acc.2 < usedChars then (acc.1 + 1, acc.2 + m.text.length + 1) else acc)
      (0, text.length)).1
    let tail := (r.takeWhile (· != '\n')).dropWhile fun c => c == ' ' || c == '\t'
    let extra := if tail.isEmpty then none
      else some (place (tail.length + (r.dropWhile (· != '\n')).length))
    .ok (n, used, extra)
  | .error e =>
    let (line, c) := place e.left
    .error (.at line c e.msg)

def dropTrailing (cs : List Char) : List Char :=
  (cs.reverse.dropWhile fun c => c == ' ' || c == '\t').reverse

def joinQuoted (q : Char) (acc : List Char) (empties : Nat) (t : List Char) : List Char :=
  if q == '"' && (acc.reverse.takeWhile (· == '\\')).length % 2 == 1 then
    acc.dropLast ++ List.replicate empties '\n' ++ t
  else dropTrailing acc ++ (if empties == 0 then [' '] else List.replicate empties '\n') ++ t

def quotedLines (q : Char) (acc : List Char) (empties : Nat) : List Line → Option (String × Nat)
  | [] => none
  | l :: ls =>
    let t := (l.chars.dropWhile fun c => c == ' ' || c == '\t')
    if (dropTrailing t).isEmpty then
      (quotedLines q acc (empties + 1) ls).map fun (s, n) => (s, n + 1)
    else
      let joined := joinQuoted q acc empties t
      match quoted q joined [] with
      | some (s, _) => some (s, 1)
      | none => (quotedLines q joined 0 ls).map fun (s, n) => (s, n + 1)

/-- How a block scalar treats its final line breaks: drops them, keeps one, or keeps all. -/
inductive Chomp where
  | strip
  | clip
  | keep
deriving BEq

def header (cs : List Char) : Option (Chomp × Option Nat) :=
  let chomp := fun (c : Char) => if c == '-' then some Chomp.strip else if c == '+' then some .keep else none
  let digit := fun (c : Char) => if '1' ≤ c && c ≤ '9' then some (c.toNat - 48) else none
  match cs with
  | [] => some (.clip, none)
  | [c] => (chomp c).map (·, none) <|> (digit c).map (.clip, some ·)
  | [c, d] =>
    (do let k ← chomp c; let n ← digit d; pure (k, some n)) <|>
    (do let n ← digit c; let k ← chomp d; pure (k, some n))
  | _ => none

def Chomp.tail (c : Chomp) (breaks : Nat) : String :=
  match c with
  | .strip => ""
  | .clip => if breaks > 0 then "\n" else ""
  | .keep => String.ofList (List.replicate breaks '\n')

def fold : List (List Char) → String
  | [] => ""
  | first :: rest =>
    let more := fun (cs : List Char) => cs.head? == some ' ' || cs.head? == some '\t'
    let rec go (prev : List Char) (empties : Nat) : List (List Char) → String
      | [] => ""
      | l :: ls =>
        if l.isEmpty then go prev (empties + 1) ls
        else
          let sep := if prev.isEmpty || more prev || more l then empties + 1
            else empties
          let sepText := if sep == 0 then " " else String.ofList (List.replicate sep '\n')
          (if prev.isEmpty && !first.isEmpty then sepText
           else if prev.isEmpty then String.ofList (List.replicate empties '\n') else sepText) ++
            String.ofList l ++ go l 0 ls
    if first.isEmpty then go [] 1 rest else String.ofList first ++ go first 0 rest

example : fold ["folded".toList, "text".toList, [], "para".toList] = "folded text\npara" := by
  decide

def blockScalar (folded : Bool) (h : Chomp × Option Nat) (min : Nat) (ls : List Line) :
    String × List Line :=
  let spaces := fun (l : Line) => (l.chars.takeWhile (· == ' ')).length
  let empty := fun (l : Line) => l.chars.all (· == ' ')
  let indent := match h.2 with
    | some d => if min == 0 then d else min - 1 + d
    | none => match ls.find? (!empty ·) with
      | some l => max (spaces l) min
      | none => min
  let taken := ls.takeWhile fun l => empty l || spaces l ≥ indent
  let contents := taken.map fun l => l.chars.drop indent
  let lastFull := (contents.zipIdx.filter (!·.1.isEmpty)).getLast?.map (·.2)
  let (body, breaks) := match lastFull with
    | some k => (contents.take (k + 1),
        ((taken.drop k).filter (·.broken)).length)
    | none => ([], (taken.filter (·.broken)).length)
  let text := if folded then fold body else "\n".intercalate (body.map String.ofList)
  (text ++ h.1.tail breaks, ls.drop taken.length)

example : (blockScalar false (.keep, none) 1
    [⟨2, 2, "x", "  x".toList, true⟩, ⟨3, 0, "", [], true⟩, ⟨4, 0, "", [], true⟩]).1 =
    "x\n\n\n" := by decide

def continuation (min : Nat) : Nat → List Line → List (Nat × Line) × List Line
  | _, [] => ([], [])
  | empties, l :: ls =>
    if l.blank && l.chars.contains '#' then ([], l :: ls)
    else if l.blank then
      let (more, rest) := continuation min (empties + 1) ls
      if more.isEmpty then ([], l :: ls) else (more, rest)
    else if l.indent ≥ min && !l.marker then
      let (more, rest) := continuation min 0 ls
      ((empties, l) :: more, rest)
    else ([], l :: ls)

/-- What a mapping under construction has seen: its entries, newest first, and where each key
was written. -/
structure Entries where
  items : List (String × Node) := []
  keys : List (String × Nat × Nat) := []

def Entries.add (e : Entries) (k : String) (v : Node) : Entries :=
  let merged := fun (n : Node) => match n with
    | .map es => es
    | _ => []
  if k == "<<" then
    match v with
    | .map es => { e with items := es.reverse ++ e.items }
    | .seq ns => { e with items := (ns.flatMap merged).reverse ++ e.items }
    | _ => { e with items := (k, v) :: e.items }
  else { e with items := (k, v) :: e.items }

abbrev Reading := StateT Anchors (Except ReadError)

def failAt {α : Type} (line col : Nat) (msg : String) : Reading α :=
  throw (ReadError.at line col msg)

mutual
def block : Nat → List Line → Nat → Reading (Node × List Line)
  | 0, ls, _ => pure (.null, ls)
  | fuel + 1, ls, min => do
    match ← front ls with
    | [] => pure (.null, [])
    | l :: rest =>
      if l.indent < min then pure (.null, l :: rest)
      else
        let cs := l.text.toList
        if isEntry cs then sequence fuel (l :: rest) l.indent []
        else
          match keyEnd cs with
          | some _ => mapping fuel (l :: rest) l.indent {}
          | none => value fuel l (l.indent + 1) cs rest min none

def nested : Nat → List Line → Nat → Option Nat → Reading (Node × List Line)
  | 0, ls, _, _ => pure (.null, ls)
  | fuel + 1, ls, min, seqAt => do
    match ← front ls with
    | n :: _ =>
      if n.indent ≥ min then block fuel ls min
      else if seqAt == some n.indent && isEntry n.text.toList then sequence fuel ls n.indent []
      else pure (.null, ls)
    | [] => pure (.null, ls)

def value : Nat → Line → Nat → List Char → List Line → Nat → Option Nat →
    Reading (Node × List Line)
  | 0, _, _, _, rest, _, _ => pure (.null, rest)
  | fuel + 1, l, col, text, rest, min, seqAt => do
    let (p, body) := props false 4 {} text
    let tagCol := col + (text.length - p.tagLeft)
    let col := col + (text.length - body.length)
    let scalarTag := p.tag.any scalarTags.contains
    let leftover := fun (r : List Char) =>
      let r := r.dropWhile fun c => c == ' ' || c == '\t'
      if r.isEmpty then pure ()
      else failAt l.no (col + (body.length - r.length)) "value is not allowed in this context"
    let (node, after) ← match body with
      | [] =>
        match (← front rest), scalarTag with
        | m :: _, true =>
          match keyEnd m.text.toList with
          | some k =>
            if m.indent < min && !(seqAt == some m.indent && isEntry m.text.toList) then
              failAt m.no (m.indent + 1 + k) "value is not allowed in this context"
            else nested fuel rest min seqAt
          | none => nested fuel rest min seqAt
        | _, _ => nested fuel rest min seqAt
      | '*' :: name =>
        let key := String.ofList (nameOf false name).1
        match (← get).lookup key with
        | some n => pure (n, rest)
        | none => failAt l.no (col + 1) ("could not find alias " ++ Quote.text key)
      | c :: h =>
        if c == '|' || c == '>' then
          match header h with
          | some hd => pure (let (s, after) := blockScalar (c == '>') hd min rest; (Node.str s, after))
          | none => failAt l.no col "invalid block scalar header"
        else if c == '[' || c == '\x7b' then
          if scalarTag then failAt l.no (col - 1) "unexpected scalar value type"
          else
            match flowAt (← get) l col body rest with
            | .ok (n, used, none) => pure (n, rest.drop used)
            | .ok (_, _, some (line, c)) => failAt line c "value is not allowed in this context"
            | .error e => throw e
        else if c == '"' || c == Char.ofNat 39 then
          match quoted c h [] with
          | some (s, r) => do leftover r; pure (.str s, rest)
          | none =>
            match quotedLines c h 0 rest with
            | some (s, used) => pure (.str s, rest.drop used)
            | none =>
              throw { line := l.no, col, msg := unterminated c,
                      shown := if c == '"' then (badEscape col h).map fun n =>
                        String.ofList (l.chars.take n) else none }
        else if c == '@' || c == Char.ofNat 96 then
          failAt l.no col ("found character " ++ Quote.text (String.singleton c) ++
            " that cannot start any token")
        else if isEntry body then
          failAt l.no col "block sequence entries are not allowed in this context"
        else
          match keyEnd body with
          | some k => failAt l.no (col + k) "mapping value is not allowed in this context"
          | none =>
            let (more, after) := continuation min 0 rest
            match more.find? (fun m => (keyEnd m.2.text.toList).isSome) with
            | some (_, m) =>
              throw { line := l.no, col, msg := "mapping value is not allowed in this context",
                      span := m.no - l.no }
            | none =>
              let joined := more.foldl (fun (acc : String) (m : Nat × Line) =>
                acc ++ (if m.1 == 0 then " " else String.ofList (List.replicate m.1 '\n')) ++
                  m.2.text) (Blank.trim (String.ofList body))
              pure (plain joined, after)
    let node ← match p.tag with
      | some t =>
        match retag t node with
        | .ok n => pure n
        | .error (.placed msg) =>
          match body, node with
          | [], .null => throw { line := l.no, col := tagCol + 1, msg, shown := some " null" }
          | _, _ => failAt l.no (col - 1) msg
        | .error (.atTag msg) => failAt l.no tagCol msg
      | none => pure node
    match p.anchor with
    | some a => modify ((a, node) :: ·)
    | none => pure ()
    pure (node, after)

def mapping : Nat → List Line → Nat → Entries → Reading (Node × List Line)
  | 0, ls, _, acc => pure (.map acc.items.reverse, ls)
  | fuel + 1, ls, ind, acc => do
    match ← front ls with
    | [] => pure (.map acc.items.reverse, [])
    | l :: rest =>
      let cs := l.text.toList
      if l.indent != ind then pure (.map acc.items.reverse, l :: rest)
      else
        match keyEnd cs with
        | none => pure (.map acc.items.reverse, l :: rest)
        | some k => do
          let key := keyText (props false 4 {} (cs.take k)).2
          match acc.keys.lookup key with
          | some (line, col) =>
            failAt l.no (l.indent + 1) ("mapping key " ++ Quote.text key ++
              " already defined at [" ++ toString line ++ ":" ++ toString col ++ "]")
          | none =>
            let after := cs.drop (k + 1)
            let text := after.dropWhile (fun c => c == ' ' || c == '\t')
            let col := l.indent + 1 + (cs.length - text.length)
            let (v, rest) ← value fuel l col text rest (ind + 1) (some ind)
            mapping fuel rest ind
              { acc.add key v with keys := (key, l.no, l.indent + 1) :: acc.keys }

def sequence : Nat → List Line → Nat → List Node → Reading (Node × List Line)
  | 0, ls, _, acc => pure (.seq acc.reverse, ls)
  | fuel + 1, ls, ind, acc => do
    match ← front ls with
    | [] => pure (.seq acc.reverse, [])
    | l :: rest =>
      let cs := l.text.toList
      if l.indent != ind || !isEntry cs then pure (.seq acc.reverse, l :: rest)
      else do
        let item := (cs.drop 1).dropWhile (· == ' ')
        let (v, rest) ← if item.isEmpty then nested fuel rest (ind + 1) none
          else
            let inner : Line := { l with indent := ind + (cs.length - item.length),
                                         text := String.ofList item }
            block fuel (inner :: rest) (ind + 1)
        sequence fuel rest ind (v :: acc)
end

def read (src : String) : Except ReadError (Option (Node × Nat × Nat)) := do
  let ls ← document src
  match skipBlank ls with
  | [] => do let _ ← front ls; pure none
  | l :: _ =>
    let (n, rest) ← (block (4 * ls.length + 8) ls 0).run' []
    match ← front rest with
    | [] => pure (some (n, l.no, l.indent + 1))
    | m :: _ =>
      .error (.at m.no (m.indent + 1) (if m.indent > l.indent then
        "value is not allowed in this context. map key-value is pre-defined"
        else "value is not allowed in this context"))

end LiveArith.Yaml
