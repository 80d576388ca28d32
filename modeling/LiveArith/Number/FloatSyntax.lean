import LiveArith.Number.Binary64
import LiveArith.Number.IntSyntax

/-!
Reading a double from text: an optional sign, then `inf`, `infinity` or `nan` in any case, or a
decimal number with optional point and `e` exponent, or a hexadecimal one (`0x` prefix, `p` exponent
required). `_` may stand between digits.
-/

set_option autoImplicit false

namespace LiveArith.FloatSyntax

open Binary64

def commonPrefix (s word : List Char) : Nat :=
  match s, word with
  | c :: s, w :: word => if c.toLower == w then commonPrefix s word + 1 else 0
  | _, _ => 0

def special (s : List Char) : Option (UInt64 × Nat) :=
  let inf := fun (neg : Bool) (signLen : Nat) (rest : List Char) =>
    let n := commonPrefix rest "infinity".toList
    let n := if 3 < n && n < 8 then 3 else n
    if n == 3 || n == 8 then some (infinity neg, signLen + n) else none
  match s with
  | '+' :: r => inf false 1 r
  | '-' :: r => inf true 1 r
  | c :: _ =>
    if c == 'i' || c == 'I' then inf false 0 s
    else if (c == 'n' || c == 'N') && commonPrefix s "nan".toList == 3 then some (nan, 3)
    else none
  | [] => none

/-- A number read from the front of a text, before rounding: `(-1)^neg · mant · base^exp`,
where `base` is 10, or 2 when `hex`; `sticky` marks dropped nonzero digits; `used` counts the
characters read. -/
structure Reading where
  neg : Bool
  mant : Nat
  exp : Int
  hex : Bool
  sticky : Bool
  used : Nat
deriving Repr, Inhabited

def keep : Nat := 800

/-- State of the digit scan. -/
structure Scan where
  mant : Nat := 0
  kept : Nat := 0
  nd : Nat := 0
  dp : Int := 0
  sawDot : Bool := false
  sawDigits : Bool := false
  sticky : Bool := false
  underscores : Bool := false
  used : Nat := 0
deriving Repr, Inhabited

def scanDigits (base : Nat) : List Char → Scan → Scan
  | [], st => st
  | c :: cs, st =>
    if c == '_' then scanDigits base cs { st with underscores := true, used := st.used + 1 }
    else if c == '.' then
      if st.sawDot then st
      else scanDigits base cs { st with sawDot := true, dp := st.nd, used := st.used + 1 }
    else
      let v := if '0' ≤ c && c ≤ '9' then some (c.toNat - '0'.toNat)
        else if base == 16 && 'a' ≤ c.toLower && c.toLower ≤ 'f' then
          some (c.toLower.toNat - 'a'.toNat + 10)
        else none
      match v with
      | none => st
      | some d =>
        let st := { st with sawDigits := true, used := st.used + 1 }
        if d == 0 && st.nd == 0 then scanDigits base cs { st with dp := st.dp - 1 }
        else
          let st := { st with nd := st.nd + 1 }
          if st.kept < keep then
            scanDigits base cs { st with mant := st.mant * base + d, kept := st.kept + 1 }
          else scanDigits base cs { st with sticky := st.sticky || d != 0 }

def scanExponent : List Char → Nat → Nat → Bool → Nat × Nat × Bool
  | [], e, used, u => (e, used, u)
  | c :: cs, e, used, u =>
    if c == '_' then scanExponent cs e (used + 1) true
    else if '0' ≤ c && c ≤ '9' then
      scanExponent cs (if e < 10000 then e * 10 + (c.toNat - '0'.toNat) else e) (used + 1) u
    else (e, used, u)

def readNumber (s : List Char) : Option Reading :=
  let (neg, signLen, rest) := match s with
    | '+' :: r => (false, 1, r)
    | '-' :: r => (true, 1, r)
    | _ => (false, 0, s)
  let hex := match rest with
    | '0' :: x :: _ :: _ => x.toLower == 'x'
    | _ => false
  let (base, preLen, body) := if hex then (16, 2, rest.drop 2) else (10, 0, rest)
  let st := scanDigits base body {}
  if !st.sawDigits then none
  else
    let dp : Int := if st.sawDot then st.dp else st.nd
    let (dp, kept) := if hex then (dp * 4, st.kept * 4) else (dp, st.kept)
    let afterDigits := body.drop st.used
    let expChar := if hex then 'p' else 'e'
    let expPart : Option (Int × Nat × Bool) :=
      match afterDigits with
      | c :: r =>
        if c.toLower == expChar then
          let (sgn, sLen, r) := match r with
            | '+' :: r => ((1 : Int), 1, r)
            | '-' :: r => (-1, 1, r)
            | _ => (1, 0, r)
          match r with
          | d :: _ =>
            if '0' ≤ d && d ≤ '9' then
              let (e, used, u) := scanExponent r 0 0 false
              some (sgn * e, 1 + sLen + used, u)
            else none
          | [] => none
        else if hex then none else some (0, 0, false)
      | [] => if hex then none else some (0, 0, false)
    match expPart with
    | none => none
    | some (e, expLen, u) =>
      let used := signLen + preLen + st.used + expLen
      let underscores := st.underscores || u
      if underscores && !IntSyntax.underscoresOk (s.take used) then none
      else
        let exp : Int := if st.mant != 0 then dp + e - kept else 0
        some { neg, mant := st.mant, exp, hex, sticky := st.sticky, used }

def Reading.value (r : Reading) : UInt64 × Bool :=
  if r.mant == 0 then (ofMagnitude r.neg 0, false)
  else if r.hex then
    if r.exp ≥ 0 then ofRatio r.neg (r.mant * Nat.pow 2 r.exp.toNat) 1 r.sticky
    else ofRatio r.neg r.mant (Nat.pow 2 (-r.exp).toNat) r.sticky
  else
    let digits := (Nat.toDigits 10 r.mant).length
    -- far outside the double range: skip the exact arithmetic
    if r.exp + digits > 330 then (infinity r.neg, true)
    else if r.exp + digits < -400 then (ofMagnitude r.neg 0, false)
    else if r.exp ≥ 0 then ofRatio r.neg (r.mant * Nat.pow 10 r.exp.toNat) 1 r.sticky
    else ofRatio r.neg r.mant (Nat.pow 10 (-r.exp).toNat) r.sticky

def readBits (s : String) : Except (NumberFault × UInt64) UInt64 :=
  let fail := fun (r : NumberFault.Reason) (x : UInt64) =>
    Except.error (({ reader := "ParseFloat", input := s, reason := r } : NumberFault), x)
  let cs := s.toList
  match special cs with
  | some (x, n) => if n == cs.length then .ok x else fail .malformed 0
  | none =>
    match readNumber cs with
    | none => fail .malformed 0
    | some r =>
      if r.used != cs.length then fail .malformed 0
      else
        let (x, overflowed) := r.value
        if overflowed then fail .range x else .ok x

def readFloat (s : String) : Except (NumberFault × Float) Float :=
  match readBits s with
  | .ok b => .ok (Float.ofBits b)
  | .error (f, b) => .error (f, Float.ofBits b)

end LiveArith.FloatSyntax
