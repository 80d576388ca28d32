/-!
A permuted congruential generator with 128 bits of state and the DXSM output function, and the
uniform draws built on it. The state steps as `state * mul + inc` modulo 2^128; an output folds the
high half onto itself, multiplies, folds again and multiplies by the low half made odd.
-/

set_option autoImplicit false

namespace LiveArith.Random

/-- The generator's state: a 128-bit number in two words. -/
structure Pcg where
  hi : UInt64
  lo : UInt64
deriving Repr, BEq, Inhabited

namespace Pcg

def mul : Nat := 2549297995355413924 * Nat.pow 2 64 + 4865540595714422341
def inc : Nat := 6364136223846793005 * Nat.pow 2 64 + 1442695040888963407

def toNat (p : Pcg) : Nat := p.hi.toNat * Nat.pow 2 64 + p.lo.toNat

def ofNat (n : Nat) : Pcg :=
  ⟨UInt64.ofNat (n / Nat.pow 2 64 % Nat.pow 2 64), UInt64.ofNat (n % Nat.pow 2 64)⟩

def step (p : Pcg) : Pcg := ofNat ((p.toNat * mul + inc) % Nat.pow 2 128)

def next (p : Pcg) : UInt64 × Pcg :=
  let p := p.step
  let cheap : UInt64 := 0xda942042e4dd58b5
  let h := p.hi
  let h := h ^^^ (h >>> 32)
  let h := h * cheap
  let h := h ^^^ (h >>> 48)
  let h := h * (p.lo ||| 1)
  (h, p)

def below (n : Nat) : Nat → Pcg → Nat × Pcg
  | tries, p =>
    let (x, p) := p.next
    let prod := x.toNat * n
    if n == 0 then (0, p)
    else if n &&& (n - 1) == 0 then (x.toNat % n, p)
    else if prod % Nat.pow 2 64 < (Nat.pow 2 64 - n) % n then
      match tries with
      | 0 => (prod / Nat.pow 2 64, p)
      | t + 1 => below n t p
    else (prod / Nat.pow 2 64, p)

def intN (p : Pcg) (n : Nat) : Nat × Pcg := below n 64 p

def float (p : Pcg) : Float × Pcg :=
  let (x, p) := p.next
  (Float.ofNat (x.toNat % Nat.pow 2 53) / Float.ofNat (Nat.pow 2 53), p)

end Pcg

end LiveArith.Random
