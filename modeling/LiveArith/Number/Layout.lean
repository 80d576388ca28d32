import LiveArith.Number.Shortest

/-!
Writing a double's shortest digits out as text. Three layouts share the digits: positional
(`123.45`), scientific (`1.2345e+02`, at least two exponent digits), and general, which is
scientific when the decimal exponent is below -4 or at least 21 (`expLimit`) and positional
otherwise.
-/

set_option autoImplicit false

namespace LiveArith.Layout

open Binary64

def chars (ds : List Nat) : String :=
  String.ofList (ds.map fun d => Char.ofNat (d + '0'.toNat))

def positional (d : Digits) (places : Nat) : String :=
  let n := d.digits.length
  let whole :=
    if d.point > 0 then
      let k := d.point.toNat
      chars (d.digits.take k) ++ String.ofList (List.replicate (k - n) '0')
    else "0"
  if places == 0 then whole
  else
    let frac := (List.range places).map fun (i : Nat) =>
      let j : Int := d.point + (i : Int)
      if 0 ≤ j && j < n then d.digits.getD j.toNat 0 else 0
    whole ++ "." ++ chars frac

def exponent (x : Nat) : String :=
  if x < 10 then "0" ++ toString x else toString x

def scientific (d : Digits) (places : Nat) : String :=
  let first := match d.digits with
    | [] => "0"
    | c :: _ => chars [c]
  let rest := (List.range places).map fun i => d.digits.getD (i + 1) 0
  let x : Int := if d.digits.isEmpty then 0 else d.point - 1
  let mantissa := if places == 0 then first else first ++ "." ++ chars rest
  mantissa ++ "e" ++ (if x < 0 then "-" else "+") ++ exponent x.natAbs

/-- How a double is laid out. -/
inductive Style where
  | fixed
  | sci
  | general (expLimit : Int)
deriving Repr, Inhabited

def digitsText (d : Digits) : Style → String
  | .fixed => positional d (d.digits.length - d.point).toNat
  | .sci => scientific d (d.digits.length - 1)
  | .general limit =>
    let x := d.point - 1
    if x < -4 || x ≥ limit then scientific d (d.digits.length - 1)
    else positional d (d.digits.length - d.point).toNat

def render (x : Float) (style : Style) : String :=
  match shape x with
  | .nan => "NaN"
  | .inf neg => if neg then "-Inf" else "+Inf"
  | .finite neg m e =>
    (if neg then "-" else "") ++ digitsText (Shortest.ofFinite m e) style

def general (x : Float) : String := render x (.general 21)

def short (x : Float) : String := render x (.general 6)

def fixed (x : Float) : String := render x .fixed

def interchange (x : Float) : String :=
  match shape x with
  | .finite neg m e =>
    let d := Shortest.ofFinite m e
    let small := m != 0 && (d.point - 1 < -6)
    let large := m != 0 && (d.point - 1 ≥ 21)
    let sign := if neg then "-" else ""
    if small || large then
      let s := scientific d (d.digits.length - 1)
      -- e-07 becomes e-7
      let cs := s.toList
      let n := cs.length
      let t := if n ≥ 4 && cs[n - 4]? == some 'e' && cs[n - 3]? == some '-' && cs[n - 2]? == some '0'
        then String.ofList (cs.take (n - 2) ++ cs.drop (n - 1)) else s
      sign ++ t
    else sign ++ digitsText d .fixed
  | _ => render x .fixed

end LiveArith.Layout
