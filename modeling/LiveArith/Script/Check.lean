import LiveArith.Script.Parse

/-!
The static check of a script, before it runs. Every expression gets a nature: what is known of its
type. Literals know theirs; a list knows the nature of its items when they all have the same kind; a
name that is not a variable is unknown, as is anything read from an unknown value.
-/

set_option autoImplicit false

namespace LiveArith.Script

/-- What is known of a value's type before running. -/
inductive Nature where
  | unknown
  | nil
  | any
  | int
  | float
  | string
  | bool
  | array (item : Option Nature)
  | map
deriving Inhabited, BEq

namespace Nature

def name : Nature → String
  | .unknown | .nil => "unknown"
  | .any => "interface {}"
  | .int => "int"
  | .float => "float64"
  | .string => "string"
  | .bool => "bool"
  | .array _ => "[]interface {}"
  | .map => "map[string]interface {}"

def argName : Nature → String
  | .unknown => "interface {}"
  | .nil => "%!s(<nil>)"
  | n => n.name

def kind : Nature → Nat
  | .unknown | .nil => 0
  | .any => 1
  | .int => 2
  | .float => 3
  | .string => 4
  | .bool => 5
  | .array _ => 6
  | .map => 7

def isUnknown (n : Nature) : Bool := n == .unknown || n == .any
def isNil (n : Nature) : Bool := n == .nil
def isInteger (n : Nature) : Bool := n == .int
def isFloat (n : Nature) : Bool := n == .float
def isNumber (n : Nature) : Bool := n == .int || n == .float
def isString (n : Nature) : Bool := n == .string
def isBool (n : Nature) : Bool := n == .bool
def isArray (n : Nature) : Bool := n.kind == 6
def isMap (n : Nature) : Bool := n == .map

def assignableTo (a b : Nature) : Bool :=
  if a.isNil then b == .any
  else if a == .unknown || b == .unknown || b == .nil then false
  else b == .any || a.kind == b.kind

def item : Nature → Nature
  | .array i => i.getD .any
  | .map => .any
  | _ => .unknown

def comparable (l r : Nature) : Bool :=
  l.isUnknown || r.isUnknown || l.isNil || r.isNil || (l.isNumber && r.isNumber) ||
    (l.isArray && r.isArray) || l.assignableTo r

def either (l r : Nature) (p : Nature → Bool) : Bool :=
  (l.isUnknown && r.isUnknown) || (l.isUnknown && p r) || (r.isUnknown && p l)

def combined (l r : Nature) : Nature :=
  if l.isUnknown || r.isUnknown then .unknown
  else if l.isFloat || r.isFloat then .float
  else .int

end Nature

def infixNature (pos : Nat) (op : String) (l r : Nature) : Except Failure Nature :=
  let mismatch : Except Failure Nature :=
    .error ⟨"invalid operation: " ++ op ++ " (mismatched types " ++ l.name ++ " and " ++
      r.name ++ ")", pos⟩
  let numberOrString := fun (n : Nature) => n.isNumber || n.isString
  match op with
  | "==" | "!=" => if l.comparable r then .ok .bool else mismatch
  | "or" | "||" | "and" | "&&" =>
    if (l.isBool && r.isBool) || l.either r Nature.isBool then .ok .bool else mismatch
  | "<" | ">" | ">=" | "<=" =>
    if (l.isNumber && r.isNumber) || (l.isString && r.isString) || l.either r numberOrString
    then .ok .bool else mismatch
  | "-" | "*" =>
    if l.isNumber && r.isNumber then .ok (l.combined r)
    else if l.either r Nature.isNumber then .ok .unknown else mismatch
  | "/" | "**" | "^" =>
    if (l.isNumber && r.isNumber) || l.either r Nature.isNumber then .ok .float else mismatch
  | "%" =>
    if (l.isInteger && r.isInteger) || l.either r Nature.isInteger then .ok .int else mismatch
  | "+" =>
    if l.isNumber && r.isNumber then .ok (l.combined r)
    else if l.isString && r.isString then .ok .string
    else if l.either r numberOrString then .ok .unknown else mismatch
  | "in" =>
    if r.isMap then
      if !l.isUnknown && !l.assignableTo .string then
        .error ⟨"cannot use " ++ l.name ++ " as type string in map key", pos⟩
      else .ok .bool
    else if r.isArray then
      if !l.comparable r.item then
        .error ⟨"cannot use " ++ l.name ++ " as type " ++ r.item.name ++ " in array", pos⟩
      else .ok .bool
    else if l.isUnknown && (r.isString || r.isArray || r.isMap) then .ok .bool
    else if r.isUnknown then .ok .bool
    else mismatch
  | "matches" | "contains" | "startsWith" | "endsWith" =>
    if (l.isString && r.isString) || l.either r Nature.isString then .ok .bool else mismatch
  | ".." =>
    if (l.isInteger && r.isInteger) || l.either r Nature.isInteger then .ok (.array (some .int))
    else mismatch
  | "??" =>
    if l.isNil && !r.isNil then .ok r
    else if !l.isNil && r.isNil then .ok l
    else if l.isNil && r.isNil then .ok .nil
    else if r.assignableTo l then .ok l
    else .ok .unknown
  | _ => .error ⟨"unknown operator (" ++ op ++ ")", pos⟩

def prefixNature (pos : Nat) (op : String) (t : Nature) : Except Failure Nature :=
  let mismatch : Except Failure Nature :=
    .error ⟨"invalid operation: " ++ op ++ " (mismatched type " ++ t.name ++ ")", pos⟩
  match op with
  | "!" | "not" => if t.isBool || t.isUnknown then .ok .bool else mismatch
  | "+" | "-" =>
    if t.isNumber then .ok t else if t.isUnknown then .ok .unknown else mismatch
  | _ => .error ⟨"unknown operator (" ++ op ++ ")", pos⟩

def oneArgument (pos : Nat) (args : List Nature) : Except Failure Nature :=
  match args with
  | [a] => .ok a
  | _ => .error ⟨"invalid number of arguments (expected 1, got " ++ toString args.length ++ ")",
    pos⟩

def aggregateRefusal : List Nature → Option Nature
  | [] => none
  | a :: more =>
    if a.isUnknown || a.isArray then some .any
    else if a.isNumber then aggregateRefusal more
    else some a

def builtinNature (pos : Nat) (name : String) (args : List Nature) : Except Failure Nature :=
  let refuse := fun (a : Nature) =>
    Except.error ⟨"invalid argument for " ++ name ++ " (type " ++ a.argName ++ ")", pos⟩
  match name with
  | "int" | "float" => do
    let a ← oneArgument pos args
    if a.isNumber || a.isString || a.isUnknown then .ok (if name == "int" then .int else .float)
    else refuse a
  | "len" => do
    let a ← oneArgument pos args
    if a.isArray || a.isMap || a.isString || a.isUnknown then .ok .int else refuse a
  | "abs" => do
    let a ← oneArgument pos args
    if a.isNumber then .ok a else if a.isUnknown then .ok .any else refuse a
  | "ceil" | "floor" | "round" => do
    let a ← oneArgument pos args
    if a.isNumber || a.isUnknown then .ok .float else refuse a
  | "max" | "min" =>
    match args with
    | [] => .error ⟨"not enough arguments to call " ++ name, pos⟩
    | first :: _ =>
      match aggregateRefusal args with
      | some (.any) => .ok .any
      | some a => refuse a
      | none => .ok first
  | _ => .ok .unknown

abbrev Scope := List (String × Nature)

mutual

def natureOf : Nat → Scope → Node → Except Failure Nature
  | 0, _, n => .error ⟨"expression too deep", n.pos⟩
  | fuel + 1, scope, node =>
    match node with
    | .nil _ => .ok .nil
    | .bool _ _ => .ok .bool
    | .int _ _ => .ok .int
    | .float _ _ => .ok .float
    | .str _ _ => .ok .string
    | .ident _ name => .ok ((scope.lookup name).getD .unknown)
    | .array _ items => do
      let ns ← naturesOf fuel scope items
      match ns with
      | [] => .ok (.array (some .unknown))
      | n :: _ =>
        if ns.all (·.kind == n.kind) then .ok (.array (some (ns.getLast?.getD n)))
        else .ok (.array none)
    | .map _ pairs => do
      let _ ← pairNatures fuel scope pairs
      .ok .map
    | .member pos base key _ => do
      let b ← natureOf fuel scope base
      let k ← natureOf fuel scope key
      if b.isUnknown then .ok .unknown
      else
        let field := match key with
          | .str _ s => some s
          | _ => none
        if b.isNil && field.isSome then
          .error ⟨"type nil has no field " ++ field.getD "", pos⟩
        else if b.isMap then
          if !k.assignableTo .string && !k.isUnknown then
            .error ⟨"cannot use " ++ k.name ++ " to get an element from " ++ b.name, key.pos⟩
          else .ok b.item
        else if b.isArray then
          if !k.isInteger && !k.isUnknown then
            .error ⟨"array elements can only be selected using an integer (got " ++ k.name ++
              ")", key.pos⟩
          else .ok b.item
        else match field with
          | some s => .error ⟨"type " ++ b.name ++ " has no field " ++ s, pos⟩
          | none => .error ⟨"type " ++ b.name ++ "[" ++ k.name ++ "] is undefined", pos⟩
    | .slice pos base lo hi => do
      let b ← natureOf fuel scope base
      if b.isUnknown then .ok .unknown
      else if !(b.isString || b.isArray) then .error ⟨"cannot slice " ++ b.name, pos⟩
      else
        let bound := fun (o : Option Node) => match o with
          | some n => do
            let t ← natureOf fuel scope n
            if !t.isInteger && !t.isUnknown then
              Except.error ⟨"non-integer slice index " ++ t.name, n.pos⟩
            else .ok ()
          | none => .ok ()
        bound lo
        bound hi
        .ok b
    | .unary pos op arg => do
      let t ← natureOf fuel scope arg
      prefixNature pos op t
    | .binary pos op l r => do
      let a ← natureOf fuel scope l
      let b ← natureOf fuel scope r
      infixNature pos op a b
    | .builtin pos name args => do
      let ns ← naturesOf fuel scope args
      builtinNature pos name ns
    | .call pos callee _ => do
      let c ← natureOf fuel scope callee
      let name := match callee with
        | .ident _ s => s
        | .member _ _ (.str _ s) _ => s
        | _ => "function"
      if c.isUnknown then .ok .unknown
      else if c.isNil then .error ⟨name ++ " is nil; cannot call nil as function", pos⟩
      else .error ⟨c.name ++ " is not callable", pos⟩
    | .cond _ c a b => do
      let t ← natureOf fuel scope c
      if !t.isBool && !t.isUnknown then
        .error ⟨"non-bool expression (type " ++ t.name ++ ") used as condition", c.pos⟩
      else
        let x ← natureOf fuel scope a
        let y ← natureOf fuel scope b
        if x.isNil && !y.isNil then .ok y
        else if !x.isNil && y.isNil then .ok x
        else if x.isNil && y.isNil then .ok .nil
        else if x.assignableTo y then .ok x
        else .ok .unknown
    | .seq _ items => do
      let ns ← naturesOf fuel scope items
      .ok (ns.getLast?.getD .unknown)
    | .bind pos name value body =>
      if builtinNames.contains name then .error ⟨"cannot redeclare builtin " ++ name, pos⟩
      else if (scope.lookup name).isSome then
        .error ⟨"cannot redeclare variable " ++ name, pos⟩
      else do
        let v ← natureOf fuel scope value
        natureOf fuel ((name, v) :: scope) body

def naturesOf : Nat → Scope → List Node → Except Failure (List Nature)
  | 0, _, _ => .ok []
  | _, _, [] => .ok []
  | fuel + 1, scope, n :: ns => do
    let a ← natureOf fuel scope n
    let more ← naturesOf fuel scope ns
    .ok (a :: more)

def pairNatures : Nat → Scope → List (Node × Node) → Except Failure Unit
  | 0, _, _ => .ok ()
  | _, _, [] => .ok ()
  | fuel + 1, scope, (k, v) :: ps => do
    let _ ← natureOf fuel scope k
    let _ ← natureOf fuel scope v
    pairNatures fuel scope ps

end

def Node.depth : Node → Nat
  | .array _ items | .builtin _ _ items | .seq _ items => 1 + depthAll items
  | .map _ pairs => 1 + depthPairs pairs
  | .member _ a b _ | .binary _ _ a b | .bind _ _ a b => 1 + max a.depth b.depth
  | .slice _ a lo hi => 1 + max a.depth (max (depthOpt lo) (depthOpt hi))
  | .unary _ _ a => 1 + a.depth
  | .call _ c args => 1 + max c.depth (depthAll args)
  | .cond _ c a b => 1 + max c.depth (max a.depth b.depth)
  | _ => 1
where
  depthAll : List Node → Nat
    | [] => 0
    | n :: ns => max n.depth (depthAll ns) + 1
  depthPairs : List (Node × Node) → Nat
    | [] => 0
    | (a, b) :: ps => max (max a.depth b.depth) (depthPairs ps) + 1
  depthOpt : Option Node → Nat
    | some n => n.depth
    | none => 0

def check (n : Node) : Except Failure Nature := natureOf (2 * n.depth + 2) [] n

end LiveArith.Script
