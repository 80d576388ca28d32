/-!
Moments as calendar dates and clock times in UTC.
-/

set_option autoImplicit false

namespace LiveArith.Time

/-- A moment broken into calendar fields, in UTC. -/
structure Civil where
  year : Int
  month : Nat
  day : Nat
  hour : Nat
  minute : Nat
  second : Nat
  nanos : Nat
  weekday : Nat
  yearDay : Nat
deriving Repr, DecidableEq

def leap (y : Int) : Bool := y % 4 == 0 && (y % 100 != 0 || y % 400 == 0)

def daysBefore (y : Int) (month : Nat) : Nat :=
  let table := [0, 31, 59, 90, 120, 151, 181, 212, 243, 273, 304, 334]
  table.getD (month - 1) 0 + (if month > 2 && leap y then 1 else 0)

def dateOfDays (days : Int) : Int × Nat × Nat :=
  let z := days + 719468
  let era := z / 146097
  let doe := z - era * 146097
  let yoe := (doe - doe / 1460 + doe / 36524 - doe / 146096) / 365
  let doy := doe - (365 * yoe + yoe / 4 - yoe / 100)
  let mp := (5 * doy + 2) / 153
  let d := doy - (153 * mp + 2) / 5 + 1
  let m := if mp < 10 then mp + 3 else mp - 9
  let y := yoe + era * 400 + (if m ≤ 2 then 1 else 0)
  (y, m.toNat, d.toNat)

def civil (ns : Int) : Civil :=
  let secs := ns / 1000000000
  let nanos := (ns % 1000000000).toNat
  let days := secs / 86400
  let tod := (secs % 86400).toNat
  let (y, m, d) := dateOfDays days
  { year := y, month := m, day := d, hour := tod / 3600, minute := tod / 60 % 60,
    second := tod % 60, nanos, weekday := ((days + 4) % 7).toNat,
    yearDay := daysBefore y m + d }

example : civil 1700000000123456789 =
    { year := 2023, month := 11, day := 14, hour := 22, minute := 13, second := 20,
      nanos := 123456789, weekday := 2, yearDay := 318 } := by decide

example : (civil (-6795364578871345152)).year = 1754 := by decide

def monthNames : List String :=
  ["January", "February", "March", "April", "May", "June", "July", "August", "September",
   "October", "November", "December"]

def dayNames : List String :=
  ["Sunday", "Monday", "Tuesday", "Wednesday", "Thursday", "Friday", "Saturday"]

end LiveArith.Time
