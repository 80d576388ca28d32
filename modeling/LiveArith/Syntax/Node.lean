import LiveArith.Syntax.Kind
import LiveArith.Text.Quote

/-!
Nodes of the concrete syntax tree. A node spans the bytes `[start, stop)` of its source, has a kind,
the field under which it hangs in its parent, and its children in order (anonymous tokens included).
-/

set_option autoImplicit false

namespace LiveArith.Syntax

/-- A node's own data, apart from its children. -/
structure Head where
  kind : Kind
  sym : UInt8 := 0
  start : Int
  stop : Int
  field : Field := .none
  digest : UInt64 := 0
  nest : Nat := 0
  missing : Bool := false
  changed : Bool := false
  hasError : Bool := false
deriving Inhabited, BEq

/-- A syntax node: its own data and its children in order. -/
structure Node where
  head : Head
  children : List Node := []
deriving Inhabited

namespace Node

def kind (n : Node) : Kind := n.head.kind
def sym (n : Node) : UInt8 := n.head.sym
def start (n : Node) : Int := n.head.start
def stop (n : Node) : Int := n.head.stop
def field (n : Node) : Field := n.head.field
def digest (n : Node) : UInt64 := n.head.digest
def nest (n : Node) : Nat := n.head.nest
def missing (n : Node) : Bool := n.head.missing
def changed (n : Node) : Bool := n.head.changed
def hasError (n : Node) : Bool := n.head.hasError

def leaf (kind : Kind) (start stop : Int) : Node :=
  ⟨{ kind, start, stop, hasError := kind == .error }, []⟩

def token (sym : UInt8) (start : Int) : Node :=
  let kind := if sym == 40 || sym == 41 then Kind.punctuation else Kind.operator
  ⟨{ kind, sym, start, stop := start + 1 }, []⟩

def absent (kind : Kind) (sym : UInt8) (pos : Int) : Node :=
  ⟨{ kind, sym, start := pos, stop := pos, missing := true, hasError := true }, []⟩

def push (n : Node) (field : Field) (child : Node) : Node :=
  ⟨{ n.head with hasError := n.hasError || child.hasError },
    n.children ++ [⟨{ child.head with field }, child.children⟩]⟩

def type (n : Node) : String :=
  if n.sym != 0 then (Char.ofNat n.sym.toNat).toString else n.kind.name

def named (n : Node) : Bool := n.kind.named
def isError (n : Node) : Bool := n.kind == .error
def width (n : Node) : Int := n.stop - n.start

def namedChildren (n : Node) : List Node := n.children.filter (·.named)

def child? (n : Node) (field : Field) : Option Node :=
  n.children.find? (·.field == field)

def childAt? (n : Node) (i : Int) : Option Node :=
  if i < 0 then none else n.children[i.toNat]?

def namedChild? (n : Node) (i : Nat) : Option Node := n.namedChildren[i]?

def clampedSlice (src : ByteArray) (a b : Int) : ByteArray :=
  let clamp := fun (x : Int) => (min (max x 0) src.size).toNat
  let s := clamp a
  let e := clamp b
  if s ≥ e then ByteArray.empty else src.extract s e

def content (n : Node) (src : ByteArray) : ByteArray := clampedSlice src n.start n.stop

mutual
def sexp : Node → String
  | ⟨h, cs⟩ =>
    if h.missing then
      "(MISSING " ++ (if h.sym != 0 then Quote.text (Char.ofNat h.sym.toNat).toString
        else h.kind.name) ++ ")"
    else "(" ++ h.kind.name ++ sexpChildren cs ++ ")"

def sexpChildren : List Node → String
  | [] => ""
  | c :: cs =>
    let rest := sexpChildren cs
    if !c.head.kind.named && !c.head.missing then rest
    else
      let label := if c.head.field == .none then "" else c.head.field.label ++ ": "
      " " ++ label ++ sexp c ++ rest
end

def kindOf : Option Node → Kind
  | some n => n.kind
  | none => .error

def sexpOf : Option Node → String
  | some n => n.sexp
  | none => "()"

def blank (c : UInt8) : Bool :=
  c == 32 || c == 9 || c == 10 || c == 13 || c == 11 || c == 12

mutual
def errorNodes : Node → List Node
  | ⟨h, cs⟩ =>
    if !h.hasError then []
    else if h.kind == .error || h.missing then [⟨h, cs⟩]
    else errorNodesOf cs

def errorNodesOf : List Node → List Node
  | [] => []
  | c :: cs => errorNodes c ++ errorNodesOf cs
end

end Node

end LiveArith.Syntax
