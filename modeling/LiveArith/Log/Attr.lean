/-!
Structured fields of log records and of failures: a key with a value, where a value may be a group
of further fields.
-/

set_option autoImplicit false

namespace LiveArith.Log

mutual
/-- A keyed field. -/
inductive Attr where
  | mk (key : String) (value : AttrValue)

/-- The value of a field. -/
inductive AttrValue where
  | str (s : String)
  | int (i : Int)
  | uint (n : Nat)
  | float (x : Float)
  | bool (b : Bool)
  | duration (ns : Int)
  | time (ns : Int)
  | level (n : Int)
  | error (msg : String)
  | null
  | group (attrs : List Attr)
end

instance : Inhabited AttrValue := ⟨.null⟩
instance : Inhabited Attr := ⟨.mk "" .null⟩

namespace Attr

def key : Attr → String
  | .mk k _ => k

def value : Attr → AttrValue
  | .mk _ v => v

def str (k s : String) : Attr := .mk k (.str s)
def int (k : String) (i : Int) : Attr := .mk k (.int i)

end Attr

end LiveArith.Log
