import LiveArith.Number.Binary64

/-!
Shortest decimal digits of a double: the fewest significant digits whose decimal reads back as the
same double, and among those the one nearest the double's exact value, a tie going to the even last
digit.
-/

set_option autoImplicit false

namespace LiveArith

/-- Decimal digits `0.d₁d₂…dₙ × 10^point`; no digits stands for zero. -/
structure Digits where
  digits : List Nat
  point : Int
deriving Repr, Inhabited, BEq

namespace Shortest

open Binary64

def digitsOf (n : Nat) : List Nat :=
  (Nat.toDigits 10 n).map fun c => c.toNat - '0'.toNat

def trimZeros (ds : List Nat) : List Nat :=
  (ds.reverse.dropWhile (· == 0)).reverse

def decade (m : Nat) (e : Int) : Int :=
  let bits : Int := (Nat.log2 m : Int) + e
  let guess : Int := Int.fdiv (bits * 78913) 262144
  -- the guess is off by at most one either way
  let d := if cmpScaled 1 (guess + 1) m e != .gt then guess + 1 else guess
  if cmpScaled 1 d m e == .gt then d - 1 else d

def inside (m : Nat) (e : Int) (c : Nat) (p : Int) : Bool :=
  let below : Nat := if m == Nat.pow 2 52 && e > minExp then 1 else 2
  let lo := cmpScaled c p (4 * m - below) (e - 2)
  let hi := cmpScaled c p (4 * m + 2) (e - 2)
  if m % 2 == 0 then lo != .lt && hi != .gt else lo == .gt && hi == .lt

def search (m : Nat) (e : Int) (D : Int) : Nat → Nat → Option (Nat × Int)
  | 0, _ => none
  | fuel + 1, k =>
    let p := D - k + 1
    let num := m * Nat.pow 2 (max e 0).toNat * Nat.pow 10 (max (-p) 0).toNat
    let den := Nat.pow 2 (max (-e) 0).toNat * Nat.pow 10 (max p 0).toNat
    let dlo := num / den
    let okLo := inside m e dlo p
    let okHi := inside m e (dlo + 1) p
    if okLo && okHi then
      -- nearer of the two; a tie goes to the even one
      match cmpScaled (2 * dlo + 1) p (2 * m) e with
      | .lt => some (dlo + 1, p)
      | .gt => some (dlo, p)
      | .eq => some (if dlo % 2 == 0 then dlo else dlo + 1, p)
    else if okLo then some (dlo, p)
    else if okHi then some (dlo + 1, p)
    else search m e D fuel (k + 1)

def ofFinite (m : Nat) (e : Int) : Digits :=
  if m == 0 then ⟨[], 0⟩
  else
    let D := decade m e
    match search m e D 17 1 with
    | some (d, p) =>
      let ds := digitsOf d
      ⟨trimZeros ds, p + ds.length⟩
    | none =>
      -- seventeen digits always suffice; the exact value's digits are a safe answer
      let ds := digitsOf m
      ⟨trimZeros ds, ds.length⟩

end Shortest

end LiveArith
