import LiveArith.Cli.Grammar
import LiveArith.Number.IntSyntax
import LiveArith.Number.FloatSyntax
import LiveArith.Time.Duration
import LiveArith.Text.Path
import LiveArith.Text.Quote
import LiveArith.Text.Case

/-!
Reading a command line against a grammar.
-/

set_option autoImplicit false

namespace LiveArith.Cli

/-- A value handed to a reader from a configuration file: text or a truth value. -/
inductive Given where
  | text (s : String)
  | bool (b : Bool)
deriving Repr, BEq, Inhabited

def Given.show : Given → String
  | .text s => s
  | .bool b => if b then "true" else "false"

/-- A word of the command line, as far as it has been read. -/
inductive Token where
  | raw (s : String)
  | arg (s : String)
  | value (g : Given)
  | tail (s : String)
  | long (name : String)
  | short (c : String)
deriving Repr, BEq, Inhabited

namespace Token

def text : Token → String
  | .raw s | .arg s | .tail s => s
  | .value g => g.show
  | .long n => "--" ++ n
  | .short c => "-" ++ c

def kind : Token → String
  | .raw s =>
    if s.startsWith "--" then "long flag"
    else if s == "-" then "positional argument"
    else if s.startsWith "-" then "short flag"
    else "untyped"
  | .arg _ => "positional argument"
  | .value _ => "flag value"
  | .tail _ => "short flag remainder"
  | .long _ => "long flag"
  | .short _ => "short flag"

def isValue : Token → Bool
  | .raw s => s == "-" || !s.startsWith "-"
  | .arg _ | .value _ | .tail _ => true
  | _ => false

def flagLike (t : Token) : Bool := t.kind == "long flag" || t.kind == "short flag"

def retext (t : Token) (s : String) : Token :=
  match t with
  | .raw _ => .raw s
  | .arg _ => .arg s
  | .value _ => .value (.text s)
  | .tail _ => .tail s
  | .long _ => .long s
  | .short _ => .short s

end Token

/-- Why a value could not be read. -/
inductive Failure where
  | expected (context : String) (got : Option Token)
  | invalid (msg : String)
deriving Repr, Inhabited

def Failure.message : Failure → String
  | .expected ctx none => "expected " ++ ctx ++ " value but got \"EOL\" (<EOL>)"
  | .expected ctx (some t) =>
    "expected " ++ ctx ++ " value but got " ++ Quote.text t.text ++ " (" ++ t.kind ++ ")"
  | .invalid m => m

def popValue (ctx : String) : List Token → Except Failure (Token × List Token)
  | [] => .error (.expected ctx none)
  | t :: ts => if t.isValue then .ok (t, ts) else .error (.expected ctx (some t))

def popText (ctx : String) (ts : List Token) : Except Failure (String × List Token) := do
  let (t, rest) ← popValue ctx ts
  match t with
  | .value (.bool b) =>
    .error (.invalid ((if b then "true" else "false") ++
      " -> *string: json: cannot unmarshal bool into Go value of type string"))
  | _ => .ok (t.text, rest)

def splitEscaped (s : String) (sep : Char) : List String :=
  let rec go : List Char → List Char → List String
    | [], tok => if tok.isEmpty then [] else [String.ofList tok.reverse]
    | '\\' :: c :: cs, tok =>
      if c == sep then go cs (c :: tok) else go cs (c :: '\\' :: tok)
    | c :: cs, tok =>
      if c == sep then String.ofList tok.reverse :: go cs [] else go cs (c :: tok)
  go s.toList []

/-- Where relative paths are taken from. -/
structure Place where
  cwd : String
  home : String
deriving Repr, Inhabited

def Place.expand (pl : Place) (p : String) : String :=
  let p := if p == "~" then pl.home
    else if p.startsWith "~/" then Path.join [pl.home, String.ofList (p.toList.drop 2)] else p
  Path.absolute pl.cwd p

def readValue (r : Reader) (pl : Place) (prev : Option Value) (ts : List Token) :
    Except Failure (Value × List Token) :=
  let given := fun (ctx : String) => do
    let (t, rest) ← popValue ctx ts
    match t with
    | .value (.bool b) => pure (t, Given.bool b, rest)
    | _ => pure (t, Given.text t.text, rest)
  match r with
  | .switch =>
    match ts with
    | .value (.text s) :: rest =>
      let l := Case.lowerText s
      if l == "true" || l == "1" || l == "yes" then .ok (.switch true, rest)
      else if l == "false" || l == "0" || l == "no" then .ok (.switch false, rest)
      else .error (.invalid ("bool value must be true, 1, yes, false, 0 or no but got " ++
        Quote.text l))
    | .value (.bool b) :: rest => .ok (.switch b, rest)
    | _ => .ok (.switch true, ts)
  | .int => do
    let (t, g, rest) ← given "int"
    match g with
    | .bool _ => .error (.invalid ("expected an int but got " ++ Quote.text t.text ++ " (bool)"))
    | .text s =>
      match IntSyntax.readSigned s 0 64 with
      | .ok i => .ok (.int i, rest)
      | .error _ => .error (.invalid ("expected a valid 64 bit int but got " ++ Quote.text s))
  | .uint => do
    let (t, g, rest) ← given "uint"
    match g with
    | .bool _ => .error (.invalid ("expected an int but got " ++ Quote.text t.text ++ " (bool)"))
    | .text s =>
      match IntSyntax.readUnsigned "ParseUint" s 0 64 with
      | .ok n => .ok (.uint n, rest)
      | .error _ => .error (.invalid ("expected a valid 64 bit uint but got " ++ Quote.text s))
  | .float => do
    let (t, g, rest) ← given "float"
    match g with
    | .bool _ => .error (.invalid ("expected an int but got " ++ Quote.text t.text ++ " (bool)"))
    | .text s =>
      match FloatSyntax.readFloat s with
      | .ok x => .ok (.float x, rest)
      | .error _ => .error (.invalid ("expected a float but got " ++ Quote.text s ++ " (string)"))
  | .duration => do
    let (_, g, rest) ← given "duration"
    match g with
    | .bool _ => .error (.invalid ("expected duration but got %!q(bool=" ++ g.show ++ ")"))
    | .text s =>
      match Time.parseDuration s with
      | .ok ns => .ok (.duration ns, rest)
      | .error e => .error (.invalid ("expected duration but got " ++ Quote.text s ++ ": " ++ e))
  | .text => do
    let (s, rest) ← popText "string" ts
    pure (.text s, rest)
  | .path => do
    let (s, rest) ← popText "file" ts
    pure (.text (if s == "-" then s else pl.expand s), rest)
  | .level => do
    let (s, rest) ← popText "value" ts
    match Log.Level.parse s with
    | .ok l => pure (.level l, rest)
    | .error e => .error (.invalid e)
  | .format => do
    let (s, rest) ← popText "value" ts
    match Log.Format.parse s with
    | .ok f => pure (.format f, rest)
    | .error e => .error (.invalid e)
  | .list =>
    match ts with
    | [] => .error (.invalid "missing value, expecting \"<arg>,...\"")
    | t :: rest => do
      let pieces ← (splitEscaped t.text ',').mapM fun p => do
        let (s, _) ← popText "string" [t.retext p]
        pure s
      let old := match prev with
        | some (.list xs) => xs
        | _ => []
      pure (.list (old ++ pieces), rest)

def editDistance (a b : String) : Nat :=
  let bs := b.toList
  let row0 := List.range (bs.length + 1)
  let last := a.toList.foldl (fun (prev : List Nat) (ca : Char) =>
    let first := prev.headD 0 + 1
    let (row, _) := (bs.zip (prev.zip (prev.drop 1))).foldl
      (fun (acc : List Nat × Nat) (x : Char × Nat × Nat) =>
        let (cb, diag, up) := x
        let (row, left) := acc
        let v := min (min (up + 1) (left + 1)) (if cb == ca then diag else diag + 1)
        (v :: row, v)) ([first], first)
    row.reverse) row0
  last.getLastD 0

def suggest (word : String) (candidates : List String) (msg : String) : String :=
  let close := candidates.filter fun c => word.isPrefixOf c || editDistance c word ≤ 2
  match close with
  | [] => msg
  | [c] => msg ++ ", did you mean " ++ Quote.text c ++ "?"
  | cs => msg ++ ", did you mean one of " ++ ", ".intercalate (cs.map Quote.text) ++ "?"

/-- The state of reading the words. -/
structure Trace where
  tokens : List Token
  command : Option String := none
  argTaken : Bool := false
  given : List (String × Value) := []
  args : List String := []
  hooks : List String := []
  negated : List String := []
deriving Inhabited

def candidates (flags : List Flag) : List String :=
  flags.flatMap fun f => ("--" ++ f.name) :: (f.short.map fun c => ["-" ++ c.toString]).getD []

def takeFlag (g : Grammar) (pl : Place) (st : Trace) (word : String) (rest : List Token) :
    Except String Trace :=
  let flags := g.flagsAt st.command
  let hit := flags.find? fun f =>
    "--" ++ f.name == word || f.short.any (fun c => "-" ++ c.toString == word) ||
      (f.negatable && "--no-" ++ f.name == word)
  match hit with
  | none => .error (suggest word (candidates flags) ("unknown flag " ++ word))
  | some f =>
    let negated := if f.negatable && word == "--no-" ++ f.name && !st.negated.contains f.name
      then f.name :: st.negated else st.negated
    match readValue f.reader pl (st.given.lookup f.name) rest with
    | .error e =>
      let base := "--" ++ f.name ++ ": " ++ e.message
      .error (match e with
        | .expected _ (some t) =>
          if t.flagLike then base ++ "; perhaps try --" ++ f.name ++ "=" ++ Quote.text t.text ++ "?"
          else base
        | _ => base)
    | .ok (v, rest) =>
      let v := match v with
        | .switch b => if negated.contains f.name then .switch !b else v
        | _ => v
      .ok { st with tokens := rest, given := (f.name, v) :: st.given.filter (·.1 != f.name),
                    negated,
                    hooks := if f.name == "help" || f.name == "version" then st.hooks ++ [f.name]
                      else st.hooks }

def shortName : List Char → String
  | c :: _ => if c.toNat < 128 then c.toString else "\uFFFD"
  | [] => ""

def step (g : Grammar) (pl : Place) (st : Trace) : Except String (Option Trace) :=
  match st.tokens with
  | [] => .ok none
  | t :: rest =>
    match t with
    | .raw s =>
      if s == "--" then .ok (some { st with tokens := rest.map fun x => .arg x.text })
      else if s.startsWith "--" then
        let body := (s.toList.drop 2)
        let name := String.ofList (body.takeWhile (· != '='))
        let after := body.dropWhile (· != '=')
        let more := if after.isEmpty then rest else .value (.text (String.ofList (after.drop 1))) :: rest
        .ok (some { st with tokens := .long name :: more })
      else if s.startsWith "-" && s != "-" then
        let cs := s.toList.drop 1
        let more := if cs.length > 1 then .tail (String.ofList (cs.drop 1)) :: rest else rest
        .ok (some { st with tokens := .short (shortName cs) :: more })
      else .ok (some { st with tokens := .arg s :: rest })
    | .tail s =>
      let cs := s.toList
      let more := if cs.length > 1 then .tail (String.ofList (cs.drop 1)) :: rest else rest
      .ok (some { st with tokens := .short (shortName cs) :: more })
    | .long n => (takeFlag g pl st ("--" ++ n) rest).map some
    | .short c => (takeFlag g pl st ("-" ++ c) rest).map some
    | .value v => .error ("unexpected flag argument " ++ Quote.text v.show)
    | .arg a =>
      let cmd := st.command.bind g.command?
      let hasArg := cmd.any fun c => !c.args.isEmpty
      if hasArg && !st.argTaken then
        let vals := st.tokens.takeWhile Token.isValue
        .ok (some { st with tokens := st.tokens.drop vals.length, argTaken := true,
                            args := vals.map Token.text })
      else
        let names := if st.command.isNone then g.commands.map (·.name) else []
        if names.contains a then
          .ok (some { st with tokens := rest, command := some a, argTaken := false })
        else .error (suggest a names ("unexpected argument " ++ a))

def run (g : Grammar) (pl : Place) : Nat → Trace → Except String Trace
  | 0, st => .ok st
  | fuel + 1, st =>
    match step g pl st with
    | .error e => .error e
    | .ok none => .ok st
    | .ok (some st) => run g pl fuel st

def trace (g : Grammar) (pl : Place) (words : List String) : Except String Trace := do
  let fuel := 4 * (words.length + (words.map String.length).foldr (· + ·) 0) + 4
  let st ← run g pl fuel { tokens := words.map .raw }
  if st.command.isNone && !st.hooks.contains "help" then
    pure { st with command := g.defaultCommand }
  else pure st

def Value.choiceText : Value → List String
  | .text s => [s]
  | .list xs => xs
  | .level l => [l.name]
  | .format f => [f.name]
  | _ => []

def zero (r : Reader) : Value :=
  match r with
  | .switch => .switch false
  | .int => .int 0
  | .uint => .uint 0
  | .float => .float 0
  | .duration => .duration 0
  | .list => .list []
  | .level => .level .info
  | .format => .format .text
  | _ => .text ""

def defaultValue (pl : Place) (f : Flag) : Value :=
  match f.default with
  | some d =>
    match readValue f.reader pl none [.value (.text d)] with
    | .ok (v, _) => v
    | .error _ => zero f.reader
  | none => zero f.reader

def settle (g : Grammar) (pl : Place) (st : Trace) (config : List (String × Given)) :
    Except String (List (String × Value)) := do
  let applying := (g.flagsAt st.command).map (·.name)
  let vals ← g.allFlags.mapM fun f => do
    match st.given.lookup f.name with
    | some v => pure (f.name, v)
    | none =>
      match (if applying.contains f.name then config.lookup f.name else none) with
      | some c =>
        match readValue f.reader pl none [.value c] with
        | .ok (v, _) => pure (f.name, v)
        | .error e => throw ("--" ++ f.name ++ ": " ++ e.message)
      | none => pure (f.name, defaultValue pl f)
  for f in g.allFlags do
    match f.choices, vals.lookup f.name with
    | some cs, some v =>
      for x in v.choiceText do
        unless cs.contains x do
          throw ("--" ++ f.name ++ " must be one of " ++ ",".intercalate (cs.map Quote.text) ++
            " but got " ++ Quote.text x)
    | _, _ => pure ()
  pure vals

end LiveArith.Cli
