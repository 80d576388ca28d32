import LiveArith.Text.Blank

/-!
Filling a paragraph into lines of a given width by least total weight rather than greedily.
-/

set_option autoImplicit false

namespace LiveArith.Wrap

def words (s : String) : List String :=
  let rec go : List Char → List Char → List String
    | [], [] => []
    | [], w => [String.ofList w.reverse]
    | c :: cs, w =>
      if Blank.isSpace c then (if w.isEmpty then go cs [] else String.ofList w.reverse :: go cs [])
      else go cs (c :: w)
  go s.toList []

def penalty (w : String) : Nat :=
  match w.toList.getLast? with
  | some c => if c == '.' || c == ',' || c == ':' || c == ';' then 0 else 64
  | none => 64

abbrev Score := Nat × Nat

def Score.le (a b : Score) : Bool := a.1 < b.1 || (a.1 == b.1 && a.2 ≤ b.2)

def Score.add (a b : Score) : Score := (a.1 + b.1, a.2 + b.2)

def weight (ws : Array String) (total : Array Nat) (width : Int) (i j : Nat) : Score :=
  let n : Int := (total.getD j 0 : Int) - 1 - total.getD i 0
  if j == ws.size && n ≤ width then (0, 0)
  else
    let p := penalty (ws.getD (j - 1) "")
    let v := ((width - n) * (width - n)).toNat
    if n > width then (v, p) else (0, v + p)

def best (ws : Array String) (total : Array Nat) (width : Int) : Array (Score × Nat) :=
  (List.range ws.size).foldl (fun f j' =>
    let j := j' + 1
    let pick := (List.range j).foldl (fun (acc : Option (Score × Nat)) i =>
      let s := Score.add (f.getD i ((0, 0), 0)).1 (weight ws total width i j)
      match acc with
      | some (b, _) => if s.le b then some (s, i) else acc
      | none => some (s, i)) none
    f.push (pick.getD ((0, 0), 0))) #[((0, 0), 0)]

def starts (f : Array (Score × Nat)) : Nat → Nat → List Nat → List Nat
  | 0, _, acc => acc
  | _, 0, acc => acc
  | fuel + 1, j, acc =>
    let i := (f.getD j ((0, 0), 0)).2
    starts f fuel i (i :: acc)

def lines (text : String) (width : Int) : List String :=
  let ws := (words text).toArray
  if ws.isEmpty then []
  else
    let total := ws.foldl (fun (t : Array Nat) w => t.push (t.back?.getD 0 + w.length + 1)) #[0]
    let f := best ws total width
    let ss := starts f (ws.size + 1) ws.size []
    let bounds := ss.zip (ss.drop 1 ++ [ws.size])
    bounds.map fun (i, j) => " ".intercalate ((ws.extract i j).toList)

end LiveArith.Wrap
