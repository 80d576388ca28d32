/-!
Powers of binary64 numbers, computed the way the script language's `**` computes them, step by step,
so that the last bit agrees.
-/

set_option autoImplicit false

namespace LiveArith.Power

def inf : Float := 1.0 / 0.0

def ofBits (b : UInt64) : Float := Float.ofBits b

def twoTo (field : Nat) : Float := ofBits (UInt64.ofNat field <<< 52)

def trunc32 (x : Float) : Int :=
  if -2147483649.0 < x && x < 2147483648.0 then
    if x < 0 then -((-x).floor.toUInt64.toNat : Int) else (x.floor.toUInt64.toNat : Int)
  else -2147483648

def exp (x : Float) : Float :=
  if x.isNaN || x == inf then x
  else if x == -inf then 0
  else if x > 7.09782712893384e+02 then inf
  else
    let k := trunc32 (1.4426950408889634073599246810018920 * x)
    let kf := Float.ofInt k
    let r := x - kf * 0.69314718055966295651160180568695068359375
    let r := r - kf * 0.28235290563031577122588448175013436025525412068e-12
    let r := r * 0.0625
    let p := 2.4801587301587301587e-5 * r
    let p := (p + 1.9841269841269841270e-4) * r
    let p := (p + 1.3888888888888888889e-3) * r
    let p := (p + 8.3333333333333333333e-3) * r
    let p := (p + 4.1666666666666666667e-2) * r
    let p := (p + 1.6666666666666666667e-1) * r
    let p := (p + 0.5) * r
    let p := (p + 1.0) * r
    let p := (2.0 + p) * p
    let p := (2.0 + p) * p
    let p := (2.0 + p) * p
    let p := (2.0 + p) * p
    let p := p + 1.0
    let e := k + 0x3FF
    if e ≤ 0 then
      if e < -52 then 0
      else p * twoTo (e + 0x3FE).toNat * twoTo 1
    else if e ≥ 0x7FF then inf
    else p * twoTo e.toNat

def log (x : Float) : Float :=
  let b := x.toBits
  if b &&& 0x7FFFFFFFFFFFFFFF == 0 then -inf
  else if b >>> 63 == 1 then 0.0 / 0.0
  else if b ≥ 0x7FF0000000000000 then x
  else
    let f1 := ofBits ((b &&& 0x000FFFFFFFFFFFFF) ||| 0x3FE0000000000000)
    let k := Float.ofInt (((b >>> 52) &&& 0x7FF).toNat - 0x3FE : Int)
    let low := f1 ≤ 7.07106781186547524401e-01
    let k := if low then k - 1.0 else k
    let f := (if low then f1 * 2.0 else f1) - 1.0
    let s := f / (2.0 + f)
    let s2 := s * s
    let s4 := s2 * s2
    let t1 := s2 * ((((1.479819860511658591e-01 * s4 + 1.818357216161805012e-01) * s4 +
      2.857142874366239149e-01) * s4) + 6.666666666666735130e-01)
    let t2 := s4 * (((1.531383769920937332e-01 * s4 + 2.222219843214978396e-01) * s4) +
      3.999999999940941908e-01)
    let hfsq := 0.5 * f * f
    k * 6.93147180369123816490e-01 -
      ((hfsq - (s * (hfsq + (t1 + t2)) + k * 1.90821492927058770002e-10)) - f)

def isOddInt (y : Float) : Bool :=
  if y.abs ≥ 9007199254740992.0 then false
  else y.floor == y && y.abs.toUInt64 % 2 == 1

def negative (x : Float) : Bool := x.toBits >>> 63 == 1

def squaring : Nat → Float → Int → Float → Int → Nat → Float × Int
  | 0, a, ae, _, _, _ => (a, ae)
  | fuel + 1, a, ae, x1, xe, i =>
    if i == 0 then (a, ae)
    else if xe < -4096 || 4096 < xe then (a, ae + xe)
    else
      let (a, ae) := if i % 2 == 1 then (a * x1, ae + xe) else (a, ae)
      let x1 := x1 * x1
      let xe := 2 * xe
      let (x1, xe) := if x1 < 0.5 then (x1 + x1, xe - 1) else (x1, xe)
      squaring fuel a ae x1 xe (i / 2)

def pow (x y : Float) : Float :=
  if y == 0 || x == 1 then 1
  else if y == 1 then x
  else if x.isNaN || y.isNaN then 0.0 / 0.0
  else if x == 0 then
    if y < 0 then (if negative x && isOddInt y then -inf else inf)
    else (if negative x && isOddInt y then x else 0)
  else if y.isInf then
    if x == -1 then 1 else if (x.abs < 1) == (y > 0) then 0 else inf
  else if x.isInf then
    let odd := x < 0 && isOddInt y
    if y < 0 then (if odd then -0.0 else 0) else (if odd then -inf else inf)
  else if y == 0.5 then x.sqrt
  else if y == -0.5 then 1 / x.sqrt
  else
    let yi := y.abs.floor
    let yf := y.abs - yi
    if yf != 0 && x < 0 then 0.0 / 0.0
    else if yi ≥ 9223372036854775808.0 then
      if x == -1 then 1 else if (x.abs < 1) == (y > 0) then 0 else inf
    else
      let (yf, yi) := if yf > 0.5 then (yf - 1, yi + 1) else (yf, yi)
      let a := if yf != 0 then exp (yf * log x) else 1
      let (x1, xe) := x.frExp
      let (a, ae) := squaring 64 a 0 x1 xe yi.toUInt64.toNat
      let (a, ae) := if y < 0 then (1 / a, -ae) else (a, ae)
      a.scaleB ae

end LiveArith.Power
