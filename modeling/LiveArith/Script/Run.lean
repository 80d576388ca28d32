import LiveArith.Script.Fold
import LiveArith.Number.Binary64
import LiveArith.Number.Layout
import LiveArith.Text.Utf8

/-!
Running a checked script. Values are 64-bit integers (wrapping on overflow), doubles, strings,
booleans, `nil`, lists and maps from strings.
-/

set_option autoImplicit false

namespace LiveArith.Script

/-- A value while running. -/
inductive Datum where
  | int (v : Int64)
  | float (v : Float)
  | str (s : String)
  | bool (b : Bool)
  | nil
  | array (items : List Datum)
  | map (entries : List (String × Datum))
  | other (typeName : String) (text : String)
deriving Inhabited

namespace Datum

def typeName : Datum → String
  | .int _ => "int"
  | .float _ => "float64"
  | .str _ => "string"
  | .bool _ => "bool"
  | .nil => "<nil>"
  | .array _ => "[]interface {}"
  | .map _ => "map[string]interface {}"
  | .other t _ => t

def distinctKeys : List (String × Datum) → List String → List String
  | [], acc => acc.reverse
  | (k, _) :: es, acc => distinctKeys es (if acc.contains k then acc else k :: acc)

mutual
def text : Datum → String
  | .int v => toString v.toInt
  | .float x => Layout.short x
  | .str s => s
  | .bool b => if b then "true" else "false"
  | .nil => "<nil>"
  | .array xs => "[" ++ " ".intercalate (texts xs) ++ "]"
  | .map es => "map[" ++ " ".intercalate (entryTexts es) ++ "]"
  | .other _ s => s

def texts : List Datum → List String
  | [] => []
  | x :: xs => text x :: texts xs

def entryTexts : List (String × Datum) → List String
  | [] => []
  | (k, v) :: es => (k ++ ":" ++ text v) :: entryTexts es
end

def toFloat? : Datum → Option Float
  | .int v => some v.toFloat
  | .float x => some x
  | _ => none

mutual
def deepEqual : Datum → Datum → Bool
  | .int a, .int b => a == b
  | .float a, .float b => a == b
  | .str a, .str b => a == b
  | .bool a, .bool b => a == b
  | .nil, .nil => true
  | .array xs, .array ys => deepEqualAll xs ys
  | .map xs, .map ys =>
    (distinctKeys xs []).length == (distinctKeys ys []).length && mapSubset xs [] ys
  | .other t a, .other u b => t == u && a == b
  | _, _ => false
termination_by structural a => a

def deepEqualAll : List Datum → List Datum → Bool
  | [], [] => true
  | x :: xs, y :: ys => deepEqual x y && deepEqualAll xs ys
  | _, _ => false
termination_by structural xs => xs

def mapSubset : List (String × Datum) → List String → List (String × Datum) → Bool
  | [], _, _ => true
  | (k, v) :: es, seen, theirs =>
    (seen.contains k ||
      match theirs.lookup k with
      | some b => deepEqual v b
      | none => false) && mapSubset es (k :: seen) theirs
termination_by structural es => es
end

def equal (a b : Datum) : Bool :=
  match a, b with
  | .int x, .int y => x == y
  | .int _, .float _ | .float _, .int _ | .float _, .float _ =>
    a.toFloat?.getD 0 == b.toFloat?.getD 0
  | _, _ => deepEqual a b

def conversion (d : Datum) (want : String) : String :=
  let held := match d with
    | .nil => "nil"
    | _ => d.typeName
  "interface conversion: interface {} is " ++ held ++ ", not " ++ want

def asBool : Datum → Except String Bool
  | .bool b => .ok b
  | d => .error (conversion d "bool")

def asString : Datum → Except String String
  | .str s => .ok s
  | d => .error (conversion d "string")

end Datum

open Datum

def minInt : Int64 := Int64.ofInt (-9223372036854775808)

def truncate (x : Float) : Int64 :=
  match Binary64.shape x with
  | .finite neg m e =>
    let mag : Nat := if e ≥ 0 then m * Nat.pow 2 e.toNat else m / Nat.pow 2 (-e).toNat
    let v : Int := if neg then -(mag : Int) else mag
    if -9223372036854775808 ≤ v && v < 9223372036854775808 then Int64.ofInt v else minInt
  | _ => minInt

def toIndex : Datum → Except String Int
  | .int v => .ok v.toInt
  | .float x => .ok (truncate x).toInt
  | d => .error ("invalid operation: int(" ++ d.typeName ++ ")")

def order (op : String) (a b : Datum) : Except String Bool :=
  let pick := fun (lt eq : Bool) =>
    match op with
    | "<" => lt
    | ">" => !lt && !eq
    | "<=" => lt || eq
    | _ => !lt
  match a, b with
  | .int x, .int y => .ok (pick (x < y) (x == y))
  | .str x, .str y => .ok (pick (x < y) (x == y))
  | _, _ =>
    match a.toFloat?, b.toFloat? with
    | some x, some y =>
      if op == ">=" then .ok (x >= y)
      else if op == ">" then .ok (x > y)
      else if op == "<=" then .ok (x <= y)
      else .ok (x < y)
    | _, _ => .error ("invalid operation: " ++ a.typeName ++ " " ++ op ++ " " ++ b.typeName)

def arith (op : String) (a b : Datum) : Except String Datum :=
  let bad : Except String Datum :=
    .error ("invalid operation: " ++ a.typeName ++ " " ++ op ++ " " ++ b.typeName)
  match op, a, b with
  | "+", .int x, .int y => .ok (.int (x + y))
  | "-", .int x, .int y => .ok (.int (x - y))
  | "*", .int x, .int y => .ok (.int (x * y))
  | "%", .int x, .int y =>
    if y == 0 then .error "runtime error: integer divide by zero" else .ok (.int (x % y))
  | "+", .str x, .str y => .ok (.str (x ++ y))
  | "%", _, _ => bad
  | _, _, _ =>
    match a.toFloat?, b.toFloat? with
    | some x, some y =>
      match op with
      | "+" => .ok (.float (x + y))
      | "-" => .ok (.float (x - y))
      | "*" => .ok (.float (x * y))
      | "/" => .ok (.float (x / y))
      | _ => bad
    | _, _ => bad

def power (a b : Datum) : Except String Datum :=
  match a.toFloat?, b.toFloat? with
  | some x, some y => .ok (.float (Power.pow x y))
  | none, _ => .error ("invalid operation: float64(" ++ a.typeName ++ ")")
  | _, none => .error ("invalid operation: float64(" ++ b.typeName ++ ")")

def occursIn (t s : List Char) : Bool :=
  match s with
  | [] => t.isEmpty
  | c :: cs => t.isPrefixOf (c :: cs) || occursIn t cs

def member (needle hay : Datum) : Except String Bool :=
  match hay with
  | .nil => .ok false
  | .array xs => .ok (xs.any (fun x => equal x needle))
  | .map es =>
    match needle with
    | .str k => .ok (es.lookup k).isSome
    | .nil => .ok (es.lookup "").isSome
    | d => .error ("reflect.Value.MapIndex: value of type " ++ d.typeName ++
        " is not assignable to type string")
  | d => .error ("operator \"in\" not defined on " ++ d.typeName)

def fetch (base key : Datum) : Except String Datum :=
  let missing : Except String Datum :=
    .error ("cannot fetch " ++ key.text ++ " from " ++ base.typeName)
  let position := fun (len : Nat) => do
    let i ← toIndex key
    let j := if i < 0 then i + len else i
    if j < 0 || j ≥ len then
      Except.error ("index out of range: " ++ toString j ++ " (array length is " ++
        toString len ++ ")")
    else .ok j.toNat
  match base with
  | .array xs => do
    let j ← position xs.length
    .ok (xs.getD j .nil)
  | .str s => do
    let b := s.toUTF8
    let j ← position b.size
    .ok (.other "uint8" (toString (Utf8.byteAt b j).toNat))
  | .map es =>
    match key with
    | .str k => .ok ((es.lookup k).getD .nil)
    | .nil => .ok ((es.lookup "").getD .nil)
    | d => .error ("reflect.Value.MapIndex: value of type " ++ d.typeName ++
        " is not assignable to type string")
  | _ => missing

def sliceOf (base : Datum) (lo hi : Option Datum) : Except String Datum := do
  let len := match base with
    | .array xs => xs.length
    | .str s => s.utf8ByteSize
    | _ => 0
  let bound := fun (o : Option Datum) (dflt : Int) => match o with
    | some d => toIndex d
    | none => .ok dflt
  let a ← bound lo 0
  let b ← bound hi len
  let a := if a < 0 then max (a + len) 0 else a
  let b := if b < 0 then max (b + len) 0 else min b len
  let a := min a b
  match base with
  | .array xs => .ok (.array ((xs.drop a.toNat).take (b - a).toNat))
  | .str s => .ok (.str (Utf8.toText (s.toUTF8.extract a.toNat b.toNat)))
  | _ => .error ("cannot slice " ++ (lo.getD (.int 0)).text)

def range (lo hi : Datum) : Except String Datum := do
  let a ← toIndex lo
  let b ← toIndex hi
  let size := b - a + 1
  if size ≥ 1000000 then .error "memory budget exceeded"
  else .ok (.array ((List.range size.toNat).map fun (i : Nat) => Datum.int (Int64.ofInt (a + Int.ofNat i))))

def infixOp (op : String) (a b : Datum) : Except String Datum :=
  match op with
  | "==" => .ok (.bool (equal a b))
  | "!=" => .ok (.bool !(equal a b))
  | "<" | ">" | "<=" | ">=" => (order op a b).map .bool
  | "+" | "-" | "*" | "/" | "%" => arith op a b
  | "**" | "^" => power a b
  | "in" => (member a b).map .bool
  | "contains" => do .ok (.bool (occursIn (← asString b).toList (← asString a).toList))
  | "startsWith" => do .ok (.bool ((← asString a).startsWith (← asString b)))
  | "endsWith" => do .ok (.bool ((← asString a).endsWith (← asString b)))
  | ".." => range a b
  | _ => .error ("unknown operator (" ++ op ++ ")")

def negate : Datum → Except String Datum
  | .int v => .ok (.int (-v))
  | .float x => .ok (.float (-x))
  | d => .error ("invalid operation: - " ++ d.typeName)

def toInt : Datum → Except String Datum
  | .int v => .ok (.int v)
  | .float x => .ok (.int (truncate x))
  | .str s =>
    match IntSyntax.readSigned s 10 64 with
    | .ok i => .ok (.int (Int64.ofInt i))
    | .error _ => .error ("invalid operation: int(" ++ s ++ ")")
  | d => .error ("invalid operation: int(" ++ d.typeName ++ ")")

def toFloat : Datum → Except String Datum
  | .int v => .ok (.float v.toFloat)
  | .float x => .ok (.float x)
  | .str s =>
    match FloatSyntax.readFloat s with
    | .ok x => .ok (.float x)
    | .error _ => .error ("invalid operation: float(" ++ s ++ ")")
  | d => .error ("invalid operation: float(" ++ d.typeName ++ ")")

def rounding (name : String) (f : Float → Float) : Datum → Except String Datum
  | .int v => .ok (.float v.toFloat)
  | .float x => .ok (.float (f x))
  | d => .error ("invalid argument for " ++ name ++ " (type " ++ d.typeName ++ ")")

def givesWay (wantMax : Bool) (a b : Datum) : Except String Bool :=
  order (if wantMax then "<" else ">") a b

def isNumber : Datum → Bool
  | .int _ | .float _ => true
  | _ => false

def extremeItems (name : String) (wantMax : Bool) : Nat → Datum → List Datum →
    Except String Datum
  | 0, best, _ => .ok best
  | _, best, [] => .ok best
  | fuel + 1, best, x :: xs => do
    let v ← match x with
      | .array ys => extremeItems name wantMax fuel .nil ys
      | d => .ok d
    if !isNumber v then .error ("invalid argument for " ++ name ++ " (type " ++ v.typeName ++ ")")
    else
      let best ← match best with
        | .nil => .ok v
        | b => do if ← givesWay wantMax b v then .ok v else .ok b
      extremeItems name wantMax fuel best xs

def extreme (name : String) (wantMax : Bool) (args : List Datum) : Except String Datum :=
  let rec go : List Datum → Datum → Except String Datum
    | [], best => .ok best
    | a :: more, best =>
      match a with
      | .array ys => do
        let v ← extremeItems name wantMax 10000 .nil ys
        match v, best with
        | .nil, _ => go more best
        | _, .nil => go more v
        | _, b => do go more (if ← givesWay wantMax b v then v else b)
      | .int _ | .float _ =>
        match best with
        | .nil => go more a
        | b => do go more (if ← givesWay wantMax b a then a else b)
      | d =>
        if args.length == 1 then .ok d
        else .error ("invalid argument for " ++ name ++ " (type " ++ d.typeName ++ ")")
  go args .nil

def callBuiltin (name : String) (args : List Datum) : Except String Datum :=
  match name, args with
  | "len", [.array xs] => .ok (.int (Int64.ofNat xs.length))
  | "len", [.map es] => .ok (.int (Int64.ofNat (distinctKeys es []).length))
  | "len", [.str s] => .ok (.int (Int64.ofNat s.length))
  | "len", [d] => .error ("invalid argument for len (type " ++ d.typeName ++ ")")
  | "abs", [.int v] => .ok (.int (if v < 0 then -v else v))
  | "abs", [.float x] => .ok (.float (if x < 0 then -x else x))
  | "abs", [d] => .error ("invalid argument for abs (type " ++ d.typeName ++ ")")
  | "int", [d] => toInt d
  | "float", [d] => toFloat d
  | "ceil", [d] => rounding "ceil" Float.ceil d
  | "floor", [d] => rounding "floor" Float.floor d
  | "round", [d] => rounding "round" Float.round d
  | "max", _ => extreme "max" true args
  | "min", _ => extreme "min" false args
  | _, _ => .ok (.other "interface {}" name)

abbrev Frame := List (String × Datum)

def place {α : Type} (pos : Nat) : Except String α → Except Failure α
  | .ok a => .ok a
  | .error m => .error ⟨m, pos⟩

mutual

def eval : Nat → Frame → Node → Except Failure Datum
  | 0, _, n => .error ⟨"expression too deep", n.pos⟩
  | fuel + 1, frame, node =>
    match node with
    | .nil _ => .ok .nil
    | .bool _ b => .ok (.bool b)
    | .int _ v => .ok (.int v)
    | .float _ x => .ok (.float x)
    | .str _ s => .ok (.str s)
    | .ident pos name =>
      match frame.lookup name with
      | some d => .ok d
      | none => .error ⟨"cannot fetch " ++ name ++ " from <nil>", pos⟩
    | .array _ items => do .ok (.array (← evalAll fuel frame items))
    | .map _ pairs => evalPairs fuel frame pairs []
    | .member pos base key optional => do
      let b ← eval fuel frame base
      match b, optional with
      | .nil, true => .ok .nil
      | _, _ => do
        let k ← eval fuel frame key
        place pos (fetch b k)
    | .slice pos base lo hi => do
      let b ← eval fuel frame base
      let l ← evalOpt fuel frame lo
      let h ← evalOpt fuel frame hi
      place pos (sliceOf b l h)
    | .unary pos op arg => do
      let v ← eval fuel frame arg
      match op with
      | "-" => place pos (negate v)
      | "+" => .ok v
      | _ => do .ok (.bool !(← place pos (asBool v)))
    | .binary pos op l r => do
      let a ← eval fuel frame l
      if op == "&&" || op == "and" then
        if ← place pos (asBool a) then eval fuel frame r else .ok a
      else if op == "||" || op == "or" then
        if ← place pos (asBool a) then .ok a else eval fuel frame r
      else if op == "??" then
        match a with
        | .nil => eval fuel frame r
        | _ => .ok a
      else
        let b ← eval fuel frame r
        place pos (infixOp op a b)
    | .builtin pos name args => do
      let vs ← evalAll fuel frame args
      place pos (callBuiltin name vs)
    | .call pos callee args => do
      let _ ← evalAll fuel frame args
      let _ ← eval fuel frame callee
      .error ⟨"invalid call", pos⟩
    | .cond pos c a b => do
      let v ← eval fuel frame c
      if ← place pos (asBool v) then eval fuel frame a else eval fuel frame b
    | .seq _ items => do
      let vs ← evalAll fuel frame items
      .ok (vs.getLast?.getD .nil)
    | .bind _ name value body => do
      let v ← eval fuel frame value
      eval fuel ((name, v) :: frame) body

def evalAll : Nat → Frame → List Node → Except Failure (List Datum)
  | 0, _, _ => .ok []
  | _, _, [] => .ok []
  | fuel + 1, frame, n :: ns => do
    let v ← eval fuel frame n
    let vs ← evalAll fuel frame ns
    .ok (v :: vs)

def evalPairs : Nat → Frame → List (Node × Node) → List (String × Datum) →
    Except Failure Datum
  | 0, _, _, acc => .ok (.map acc.reverse)
  | _, _, [], acc => .ok (.map acc.reverse)
  | fuel + 1, frame, (k, v) :: ps, acc => do
    let kv ← eval fuel frame k
    let vv ← eval fuel frame v
    match kv with
    | .str s => evalPairs fuel frame ps ((s, vv) :: acc)
    | d => .error ⟨conversion d "string", k.pos⟩

def evalOpt : Nat → Frame → Option Node → Except Failure (Option Datum)
  | 0, _, _ => .ok none
  | _, _, none => .ok none
  | fuel + 1, frame, some n => do .ok (some (← eval fuel frame n))

end

def run (n : Node) : Except Failure Datum := eval (2 * n.depth + 2) [] n

end LiveArith.Script
