/-!
Ranking names against a typed fragment, the way command completion does.
-/

set_option autoImplicit false

namespace LiveArith.Prompt

/-- A name that matched: its text, its place in the list, the positions of the matched
characters, and its score. -/
structure Match where
  str : String
  index : Nat
  positions : List Nat := []
  score : Int := 0
deriving Repr, Inhabited

namespace Match

def sameLetter (a b : Char) : Bool :=
  let fold := fun (c : Char) =>
    if c.toNat == 0x17F then 's' else if c.toNat == 0x212A then 'k' else c.toLower
  a == b || fold a == fold b

def isSeparator (c : Char) : Bool := "/-_ .\\".toList.contains c

/-- The matching run's state: the positions taken, the score, the fragment left, the best
candidate for the current fragment character and its score, the growing adjacency bonus, and
the previous character and its position. -/
structure Scan where
  positions : List Nat := []
  score : Int := 0
  pattern : List Char
  best : Int := -1
  bestAt : Option Nat := none
  adjacent : Int := 0
  last : Char := Char.ofNat 0
  lastAt : Nat := 0

def scan : List Char → Nat → Scan → Scan
  | [], _, s => s
  | c :: rest, j, s =>
    match s.pattern with
    | [] => s
    | p :: ps =>
      let s := if sameLetter c p then
          let bonus := if s.positions.getLast? == some s.lastAt && !s.positions.isEmpty then
              s.adjacent * 2 + 5 else 0
          let sc : Int := (if j == 0 then 10 else 0) +
            (if s.last.isLower && c.isUpper then 20 else 0) +
            (if j != 0 && isSeparator s.last then 20 else 0) + bonus
          let s := if s.positions.isEmpty then s else { s with adjacent := s.adjacent + bonus }
          if sc > s.best then { s with best := sc, bestAt := some j } else s
        else s
      let nextp := ps.head?
      let nextc := rest.head?
      let s := if nextc.isNone || (match nextp, nextc with
          | some a, some b => sameLetter a b
          | _, _ => false) then
          match s.bestAt with
          | some at_ =>
            let best := if s.positions.isEmpty then s.best + max (-5 * (at_ : Int)) (-15) else s.best
            { s with score := s.score + best, positions := s.positions ++ [at_], best := -1,
                     pattern := ps }
          | none => s
        else s
      scan rest (j + 1) { s with last := c, lastAt := j }

def find (pattern : List Char) (name : String) (index : Nat) : Option Match :=
  let s := scan name.toList 0 { pattern }
  if s.positions.length == pattern.length then
    some { str := name, index, positions := s.positions,
           score := s.score + s.positions.length - name.length }
  else none

def insertRanked (m : Match) : List Match → List Match
  | [] => [m]
  | x :: xs => if m.score ≥ x.score then m :: x :: xs else x :: insertRanked m xs

end Match

def rank (pattern : String) (names : List String) : List Match :=
  if pattern.isEmpty then []
  else
    let found := (names.zip (List.range names.length)).filterMap fun (n, i) =>
      Match.find pattern.toList n i
    found.foldl (fun acc m => Match.insertRanked m acc) []

end LiveArith.Prompt
