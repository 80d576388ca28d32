import LiveArith.Time.Civil

/-!
Timestamps as YAML writes them: a date `yyyy-mm-dd`, optionally followed by `T` or `t`, a clock time
and a zone (`Z` or a signed `hh:mm`), or by blanks and a clock time.
-/

set_option autoImplicit false

namespace LiveArith.Time

/-- A calendar date and clock time with the zone they were written in. -/
structure Stamp where
  year : Int
  month : Nat
  day : Nat
  hour : Nat := 0
  minute : Nat := 0
  second : Nat := 0
  nanos : Nat := 0
  offset : Option Int := none
deriving Repr, BEq, Inhabited

namespace Stamp

def value (ds : List Char) : Nat := ds.foldl (fun n c => 10 * n + (c.toNat - 48)) 0

def field (fixed : Bool) : List Char → Option (Nat × List Char)
  | a :: b :: r =>
    if !a.isDigit then none
    else if b.isDigit then some (value [a, b], r)
    else if fixed then none
    else some (value [a], b :: r)
  | [a] => if a.isDigit && !fixed then some (value [a], []) else none
  | [] => none

def expect (c : Char) : List Char → Option (List Char)
  | d :: r => if c == d then some r else none
  | [] => none

def fraction : List Char → Nat × List Char
  | c :: d :: r =>
    if (c == '.' || c == ',') && d.isDigit then
      let ds := d :: r.takeWhile Char.isDigit
      (value ((ds.take 9) ++ List.replicate (9 - ds.length) '0'), r.dropWhile Char.isDigit)
    else (0, c :: d :: r)
  | cs => (0, cs)

def daysIn (year : Int) (month : Nat) : Nat :=
  if month == 2 then (if leap year then 29 else 28)
  else if month == 4 || month == 6 || month == 9 || month == 11 then 30
  else 31

def date (short : Bool) (cs : List Char) : Option (Stamp × List Char) := do
  let year := cs.take 4
  if year.length != 4 || !year.all Char.isDigit then none
  let r ← expect '-' (cs.drop 4)
  let (m, r) ← field (!short) r
  let r ← expect '-' r
  let (d, r) ← field (!short) r
  let y : Int := value year
  if m < 1 || m > 12 || d < 1 || d > daysIn y m then none
  pure ({ year := y, month := m, day := d }, r)

def clock (short : Bool) (s : Stamp) (cs : List Char) : Option (Stamp × List Char) := do
  let (h, r) ← field false cs
  let r ← expect ':' r
  let (m, r) ← field (!short) r
  let r ← expect ':' r
  let (sec, r) ← field (!short) r
  if h > 23 || m > 59 || sec > 59 then none
  let (ns, r) := fraction r
  pure ({ s with hour := h, minute := m, second := sec, nanos := ns }, r)

def zone (s : Stamp) : List Char → Option (Stamp × List Char)
  | 'Z' :: r => some (s, r)
  | c :: a :: b :: ':' :: d :: e :: r =>
    if (c == '+' || c == '-') && [a, b, d, e].all Char.isDigit &&
        value [a, b] ≤ 24 && value [d, e] ≤ 60 then
      let secs : Int := 3600 * value [a, b] + 60 * value [d, e]
      some ({ s with offset := some (if c == '-' then -secs else secs) }, r)
    else none
  | _ => none

def blanks : List Char → Option (List Char)
  | [] => some []
  | c :: r => if c == ' ' then some (r.dropWhile (· == ' ')) else none

def read (short : Bool) (s : String) : Option Stamp :=
  let cs := s.toList
  let whole := fun (r : Option (Stamp × List Char)) => match r with
    | some (st, []) => some st
    | _ => none
  let stamped := fun (sep : Char) => whole (do
    let (st, r) ← date short cs
    let r ← expect sep r
    let (st, r) ← clock short st r
    zone st r)
  let spaced := whole (do
    let (st, r) ← date short cs
    let r ← blanks r
    clock short st r)
  (whole (date short cs)).orElse fun _ =>
    (stamped 'T').orElse fun _ => (stamped 't').orElse fun _ => spaced

def zero : Stamp := { year := 1, month := 1, day := 1 }

def padded (width n : Nat) : String :=
  let d := toString n
  String.ofList (List.replicate (width - d.length) '0') ++ d

def offsetText (secs : Int) : String :=
  (if secs < 0 then "-" else "+") ++ padded 2 (secs.natAbs / 3600) ++
    padded 2 (secs.natAbs % 3600 / 60)

def text (s : Stamp) : String :=
  let year := (if s.year < 0 then "-" else "") ++ padded 4 s.year.natAbs
  let frac := if s.nanos == 0 then ""
    else "." ++ String.ofList ((padded 9 s.nanos).toList.reverse.dropWhile (· == '0')).reverse
  let zoneText := match s.offset with
    | some o => if o == 0 then "+0000 UTC" else offsetText o ++ " " ++ offsetText o
    | none => "+0000 UTC"
  year ++ "-" ++ padded 2 s.month ++ "-" ++ padded 2 s.day ++ " " ++ padded 2 s.hour ++ ":" ++
    padded 2 s.minute ++ ":" ++ padded 2 s.second ++ frac ++ " " ++ zoneText

example : (read true "2001-12-14t21:59:43.10-05:00").map text =
    some "2001-12-14 21:59:43.1 -0500 -0500" := by decide
example : (read false "2001-1-14").isNone = true := by decide
example : (read true "-999-1-2").isNone = true := by decide
example : (read true "2002-12-14").map text = some "2002-12-14 00:00:00 +0000 UTC" := by decide

end Stamp

end LiveArith.Time
