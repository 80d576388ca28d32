/-!
Tables of code point ranges. A table lists disjoint ranges in increasing order, each with what it
stands for, and is searched by halving the part of it that can still hold a code point.
-/

set_option autoImplicit false

namespace LiveArith.Ranges

def search {β : Type} (table : Array β) (span : β → Nat × Nat) (n : Nat) :
    Nat → Nat → Nat → Option β
  | 0, _, _ => none
  | fuel + 1, lo, hi =>
    if lo < hi then
      let mid := (lo + hi) / 2
      match table[mid]? with
      | none => none
      | some e =>
        if n < (span e).1 then search table span n fuel lo mid
        else if (span e).2 < n then search table span n fuel (mid + 1) hi
        else some e
    else none

def find? {β : Type} (table : Array β) (span : β → Nat × Nat) (n : Nat) : Option β :=
  search table span n (table.size + 1) 0 table.size

def covers (table : Array (Nat × Nat)) (n : Nat) : Bool := (find? table id n).isSome

example : covers #[(1, 3), (7, 9)] 8 = true := by decide
example : covers #[(1, 3), (7, 9)] 5 = false := by decide

end LiveArith.Ranges
