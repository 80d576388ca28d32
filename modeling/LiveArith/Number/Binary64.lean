/-!
Binary64 values as numbers. A finite double is `m · 2^e` with `m < 2^53`; this module reads that
pair off the bits, and goes back: a positive rational is rounded to the nearest double, a tie going
to the even mantissa, past the largest finite double to infinity.
-/

set_option autoImplicit false

namespace LiveArith.Binary64

/-- What a double is: not a number, an infinity, or a finite `(-1)^neg · m · 2^e`. -/
inductive Shape where
  | nan
  | inf (neg : Bool)
  | finite (neg : Bool) (m : Nat) (e : Int)
deriving Repr, Inhabited, BEq

def minExp : Int := -1074

def shape (x : Float) : Shape :=
  let b := x.toBits.toNat
  let neg := b >>> 63 == 1
  let field := (b >>> 52) % 2048
  let frac := b % Nat.pow 2 52
  if field == 2047 then (if frac == 0 then .inf neg else .nan)
  else if field == 0 then .finite neg frac minExp
  else .finite neg (frac + Nat.pow 2 52) ((field : Int) - 1075)

def cmpScaled (a : Nat) (p : Int) (b : Nat) (q : Int) : Ordering :=
  let l := a * Nat.pow 10 (max p 0).toNat * Nat.pow 2 (max (-q) 0).toNat
  let r := b * Nat.pow 2 (max q 0).toNat * Nat.pow 10 (max (-p) 0).toNat
  compare l r

def roundRatio (num den : Nat) (sticky : Bool) : Option Nat :=
  let l : Int := (Nat.log2 num : Int) - (Nat.log2 den : Int)
  -- a first exponent putting the quotient in [2^51, 2^54)
  let e0 : Int := max (l - 52) minExp
  let quot := fun (e : Int) =>
    let n := num * Nat.pow 2 (max (-e) 0).toNat
    let d := den * Nat.pow 2 (max e 0).toNat
    (n / d, n % d, d)
  let (q0, _, _) := quot e0
  let e := if q0 ≥ Nat.pow 2 53 then e0 + 1
    else if q0 < Nat.pow 2 52 && e0 > minExp then max (e0 - 1) minExp else e0
  let (q1, _, _) := quot e
  let e := if q1 ≥ Nat.pow 2 53 then e + 1 else e
  let (q, r, d) := quot e
  let up := 2 * r > d || (2 * r == d && (sticky || q % 2 == 1))
  let q := if up then q + 1 else q
  let (q, e) := if q == Nat.pow 2 53 then (Nat.pow 2 52, e + 1) else (q, e)
  let bits := ((e - minExp).toNat) * Nat.pow 2 52 + q
  if bits ≥ 2047 * Nat.pow 2 52 then none else some bits

def ofMagnitude (neg : Bool) (bits : Nat) : UInt64 :=
  UInt64.ofNat (bits + if neg then Nat.pow 2 63 else 0)

def infinity (neg : Bool) : UInt64 := ofMagnitude neg (2047 * Nat.pow 2 52)

def ofRatio (neg : Bool) (num den : Nat) (sticky : Bool) : UInt64 × Bool :=
  if num == 0 then (ofMagnitude neg 0, false)
  else match roundRatio num den sticky with
    | some bits => (ofMagnitude neg bits, false)
    | none => (infinity neg, true)

def nan : UInt64 := 0x7FF8000000000001

end LiveArith.Binary64
