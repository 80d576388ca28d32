/-!
Durations as text: hours, minutes and seconds with a decimal fraction (`1h2m3.5s`), and below one
second the largest of milliseconds, microseconds (`µs`) or nanoseconds that keeps the value at least
one (`1.5ms`); fractions drop trailing zeros and zero is `0s`.
-/

set_option autoImplicit false

namespace LiveArith.Time

def fraction (v : Nat) (prec : Nat) : String :=
  let unit := Nat.pow 10 prec
  let whole := v / unit
  let frac := v % unit
  if frac == 0 then toString whole
  else
    let ds := Nat.toDigits 10 frac
    let padded := List.replicate (prec - ds.length) '0' ++ ds
    let trimmed := (padded.reverse.dropWhile (· == '0')).reverse
    toString whole ++ "." ++ String.ofList trimmed

def durationText (ns : Int) : String :=
  let sign := if ns < 0 then "-" else ""
  let u := ns.natAbs
  let body :=
    if u == 0 then "0s"
    else if u < 1000 then toString u ++ "ns"
    else if u < 1000000 then fraction u 3 ++ "µs"
    else if u < 1000000000 then fraction u 6 ++ "ms"
    else
      let secs := u / 1000000000
      let s := fraction (u % 60000000000) 9 ++ "s"
      let mins := secs / 60
      if mins == 0 then s
      else
        let m := toString (mins % 60) ++ "m" ++ s
        let hours := mins / 60
        if hours == 0 then m else toString hours ++ "h" ++ m
  sign ++ body

def quoteBytes (s : String) : String :=
  let one := fun (c : Char) =>
    if c.toNat < 0x20 || c.toNat ≥ 0x80 then
      String.join ((String.singleton c).toUTF8.toList.map fun b =>
        "\\x" ++ String.ofList (let d := Nat.toDigits 16 b.toNat
          if d.length < 2 then '0' :: d else d))
    else if c == '"' || c == '\\' then "\\" ++ c.toString
    else c.toString
  "\"" ++ String.join (s.toList.map one) ++ "\""

def unitNanos : List (String × Nat) :=
  [("ns", 1), ("us", 1000), ("µs", 1000), ("μs", 1000), ("ms", 1000000), ("s", 1000000000),
   ("m", 60000000000), ("h", 3600000000000)]

def leadingInt : List Char → Nat → Option (Nat × List Char)
  | [], x => some (x, [])
  | c :: cs, x =>
    if c.isDigit then
      if x > Nat.pow 2 63 / 10 then none
      else
        let y := x * 10 + (c.toNat - 48)
        if y > Nat.pow 2 63 then none else leadingInt cs y
    else some (x, c :: cs)

def leadingFraction : List Char → Nat → Float → Bool → Nat × Float × List Char
  | [], x, scale, _ => (x, scale, [])
  | c :: cs, x, scale, overflowed =>
    if c.isDigit then
      if overflowed || x > (Nat.pow 2 63 - 1) / 10 then leadingFraction cs x scale true
      else
        let y := x * 10 + (c.toNat - 48)
        if y > Nat.pow 2 63 then leadingFraction cs x scale true
        else leadingFraction cs y (scale * 10) false
    else (x, scale, c :: cs)

def addTerms (whole : String) : Nat → List Char → Nat → Except String Nat
  | 0, _, d => .ok d
  | _, [], d => .ok d
  | fuel + 1, s, d =>
    let invalid := Except.error ("time: invalid duration " ++ quoteBytes whole)
    match s with
    | [] => .ok d
    | c :: _ =>
      if !(c == '.' || c.isDigit) then invalid
      else
        match leadingInt s 0 with
        | none => invalid
        | some (v, rest) =>
          let pre := rest.length != s.length
          let (f, scale, rest, post) := match rest with
            | '.' :: r =>
              let (f, scale, r2) := leadingFraction r 0 1 false
              (f, scale, r2, r2.length != r.length)
            | _ => (0, 1, rest, false)
          if !pre && !post then invalid
          else
            let u := rest.takeWhile fun c => !(c == '.' || c.isDigit)
            let rest := rest.drop u.length
            if u.isEmpty then .error ("time: missing unit in duration " ++ quoteBytes whole)
            else
              match unitNanos.lookup (String.ofList u) with
              | none =>
                .error ("time: unknown unit " ++ quoteBytes (String.ofList u) ++ " in duration " ++
                  quoteBytes whole)
              | some unit =>
                if v > Nat.pow 2 63 / unit then invalid
                else
                  let v := v * unit
                  let v := if f > 0 then
                      v + (Float.ofNat f * (Float.ofNat unit / scale)).toUInt64.toNat else v
                  if v > Nat.pow 2 63 then invalid
                  else if d + v > Nat.pow 2 63 then invalid
                  else addTerms whole fuel rest (d + v)

def parseDuration (whole : String) : Except String Int :=
  let cs := whole.toList
  let (neg, s) := match cs with
    | '-' :: r => (true, r)
    | '+' :: r => (false, r)
    | _ => (false, cs)
  if s == ['0'] then .ok 0
  else if s.isEmpty then .error ("time: invalid duration " ++ quoteBytes whole)
  else
    match addTerms whole (s.length + 1) s 0 with
    | .error e => .error e
    | .ok d =>
      if neg then .ok (-(d : Int))
      else if d > Nat.pow 2 63 - 1 then .error ("time: invalid duration " ++ quoteBytes whole)
      else .ok d

example : durationText 300000000000 = "5m0s" := by decide
example : durationText 1500000000 = "1.5s" := by decide
example : durationText 1500 = "1.5µs" := by decide
example : durationText 0 = "0s" := by decide
example : durationText 3723000000001 = "1h2m3.000000001s" := by decide

end LiveArith.Time
