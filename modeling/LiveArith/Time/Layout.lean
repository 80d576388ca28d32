import LiveArith.Time.Civil

/-!
Layouts that spell the reference moment `Mon Jan 2 15:04:05 MST 2006`: each way of writing a part of
that moment in a layout stands for the same part of the moment being formatted, and all other text
stands for itself.
-/

set_option autoImplicit false

namespace LiveArith.Time

/-- The parts of a moment a layout can name. -/
inductive Field where
  | longMonth | month | numMonth | zeroMonth
  | longWeekDay | weekDay
  | day | underDay | zeroDay | underYearDay | zeroYearDay
  | hour | hour12 | zeroHour12
  | minute | zeroMinute | second | zeroSecond
  | longYear | year
  | pm (upper : Bool)
  | zoneName
  | offset (isoZ colon seconds short : Bool)
  | fraction (sep : Char) (digits : Nat) (trim : Bool)
deriving Repr, BEq

/-- A piece of a layout: a literal character or a field. -/
inductive Piece where
  | lit (c : Char)
  | field (f : Field)
deriving Repr, BEq

def startsLower : List Char → Bool
  | c :: _ => 'a' ≤ c && c ≤ 'z'
  | [] => false

def offsetForms : List (List Char × Bool × Bool × Bool) :=
  [("070000".toList, false, true, false), ("07:00:00".toList, true, true, false),
   ("0700".toList, false, false, false), ("07:00".toList, true, false, false),
   ("07".toList, false, false, true)]

def offsetAt (cs : List Char) : Option ((Bool × Bool × Bool) × List Char) :=
  offsetForms.findSome? fun (sp, colon, secs, short) =>
    if sp.isPrefixOf cs then some ((colon, secs, short), cs.drop sp.length) else none

def lead (c : Char) (cs : List Char) : List Piece × Nat :=
  let one := fun (f : Field) (k : Nat) => ([Piece.field f], k)
  match c with
  | 'J' =>
    if "anuary".toList.isPrefixOf cs then one .longMonth 6
    else if "an".toList.isPrefixOf cs && !startsLower (cs.drop 2) then one .month 2
    else ([.lit c], 0)
  | 'M' =>
    if "onday".toList.isPrefixOf cs then one .longWeekDay 5
    else if "on".toList.isPrefixOf cs && !startsLower (cs.drop 2) then one .weekDay 2
    else if "ST".toList.isPrefixOf cs then one .zoneName 2
    else ([.lit c], 0)
  | '0' =>
    match cs with
    | '1' :: _ => one .zeroMonth 1
    | '2' :: _ => one .zeroDay 1
    | '3' :: _ => one .zeroHour12 1
    | '4' :: _ => one .zeroMinute 1
    | '5' :: _ => one .zeroSecond 1
    | '6' :: _ => one .year 1
    | '0' :: '2' :: _ => one .zeroYearDay 2
    | _ => ([.lit c], 0)
  | '1' =>
    match cs with
    | '5' :: _ => one .hour 1
    | _ => one .numMonth 0
  | '2' => if "006".toList.isPrefixOf cs then one .longYear 3 else one .day 0
  | '_' =>
    match cs with
    | '2' :: r =>
      if "006".toList.isPrefixOf r then ([.lit '_', .field .longYear], 4)
      else one .underDay 1
    | '_' :: '2' :: _ => one .underYearDay 2
    | _ => ([.lit c], 0)
  | '3' => one .hour12 0
  | '4' => one .minute 0
  | '5' => one .second 0
  | 'P' => if cs.head? == some 'M' then one (.pm true) 1 else ([.lit c], 0)
  | 'p' => if cs.head? == some 'm' then one (.pm false) 1 else ([.lit c], 0)
  | '-' | 'Z' =>
    match offsetAt cs with
    | some ((colon, secs, short), r) => one (.offset (c == 'Z') colon secs short) (cs.length - r.length)
    | none => ([.lit c], 0)
  | '.' | ',' =>
    match cs with
    | d :: _ =>
      let run := cs.takeWhile (· == d)
      let digitAfter := match cs.drop run.length with
        | n :: _ => n.isDigit
        | [] => false
      if (d == '0' || d == '9') && !digitAfter then one (.fraction c run.length (d == '9')) run.length
      else ([.lit c], 0)
    | [] => ([.lit c], 0)
  | _ => ([.lit c], 0)

def pieces : List Char → List Piece
  | [] => []
  | c :: cs =>
    let (ps, k) := lead c cs
    ps ++ pieces (cs.drop k)
termination_by l => l.length
decreasing_by simp only [List.length_drop, List.length_cons]; omega

def padded (x : Int) (width : Nat) : String :=
  let ds := Nat.toDigits 10 x.natAbs
  (if x < 0 then "-" else "") ++ String.ofList (List.replicate (width - ds.length) '0' ++ ds)

def Field.render (t : Civil) : Field → String
  | .longMonth => monthNames.getD (t.month - 1) ""
  | .month => String.ofList ((monthNames.getD (t.month - 1) "").toList.take 3)
  | .numMonth => padded t.month 0
  | .zeroMonth => padded t.month 2
  | .longWeekDay => dayNames.getD t.weekday ""
  | .weekDay => String.ofList ((dayNames.getD t.weekday "").toList.take 3)
  | .day => padded t.day 0
  | .underDay => (if t.day < 10 then " " else "") ++ padded t.day 0
  | .zeroDay => padded t.day 2
  | .underYearDay =>
    (if t.yearDay < 100 then " " else "") ++ (if t.yearDay < 10 then " " else "") ++
      padded t.yearDay 0
  | .zeroYearDay => padded t.yearDay 3
  | .hour => padded t.hour 2
  | .hour12 => padded (if t.hour % 12 == 0 then 12 else t.hour % 12) 0
  | .zeroHour12 => padded (if t.hour % 12 == 0 then 12 else t.hour % 12) 2
  | .minute => padded t.minute 0
  | .zeroMinute => padded t.minute 2
  | .second => padded t.second 0
  | .zeroSecond => padded t.second 2
  | .longYear => padded t.year 4
  | .year => padded (t.year.natAbs % 100) 2
  | .pm upper =>
    if t.hour ≥ 12 then (if upper then "PM" else "pm") else (if upper then "AM" else "am")
  | .zoneName => "UTC"
  | .offset isoZ colon seconds short =>
    if isoZ then "Z"
    else
      "+00" ++ (if colon then ":" else "") ++ (if short then "" else "00") ++
        (if seconds then (if colon then ":" else "") ++ "00" else "")
  | .fraction sep digits trim =>
    if trim && (digits == 0 || t.nanos == 0) then ""
    else
      let all := (padded t.nanos 9).toList.take digits
      let kept := if trim then (all.reverse.dropWhile (· == '0')).reverse else all
      if kept.isEmpty then "" else String.ofList (sep :: kept)

def format (layout : String) (ns : Int) : String :=
  let t := civil ns
  String.join ((pieces layout.toList).map fun
    | .lit c => c.toString
    | .field f => f.render t)

def rfc3339 : String := "2006-01-02T15:04:05Z07:00"

def rfc3339Nano : String := "2006-01-02T15:04:05.999999999Z07:00"

end LiveArith.Time
