import LiveArith.Syntax.Tree

/-!
Edits between two versions of a text: the bytes `[start, oldStop)` of the old text became `[start,
newStop)` of the new one. `diff` finds the edit with the longest common prefix and then the longest
common suffix in what is left, each backed off to a character boundary of both texts.
-/

set_option autoImplicit false

namespace LiveArith

/-- A text edit in byte offsets. -/
structure Edit where
  start : Int
  oldStop : Int
  newStop : Int
deriving Repr, Inhabited, BEq, DecidableEq

namespace Edit

def replace (oldLen newLen : Nat) : Edit := ⟨0, oldLen, newLen⟩

def empty (e : Edit) : Bool := e.oldStop == e.start && e.newStop == e.start

def toInput (e : Edit) : Syntax.InputEdit := ⟨e.start, e.oldStop, e.newStop⟩

def commonPrefix (a b : ByteArray) (n i : Nat) : Nat :=
  if h : i < n then
    if Utf8.byteAt a i == Utf8.byteAt b i then commonPrefix a b n (i + 1) else i
  else i
termination_by n - i

def commonSuffix (a b : ByteArray) (n k : Nat) : Nat :=
  if h : k < n then
    if Utf8.byteAt a (a.size - 1 - k) == Utf8.byteAt b (b.size - 1 - k) then
      commonSuffix a b n (k + 1)
    else k
  else k
termination_by n - k

def backOff (ok : Nat → Bool) : Nat → Nat
  | 0 => 0
  | k + 1 => if ok (k + 1) then k + 1 else backOff ok k

def diff (prev next : ByteArray) : Edit :=
  let n := min prev.size next.size
  let pre := commonPrefix prev next n 0
  let pre := backOff (fun i => Utf8.boundary prev i && Utf8.boundary next i) pre
  let suf := commonSuffix prev next (n - pre) 0
  let suf := backOff (fun k => Utf8.boundary prev (prev.size - k) &&
    Utf8.boundary next (next.size - k)) suf
  ⟨pre, prev.size - suf, next.size - suf⟩

def toBoundary (b : ByteArray) : Nat → Nat
  | 0 => 0
  | s + 1 =>
    if s + 1 < b.size && !Utf8.startsChar (Utf8.byteAt b (s + 1)) then toBoundary b s else s + 1

def sameRange (a b : ByteArray) (i j n : Nat) : Bool :=
  (List.range n).all fun k => Utf8.byteAt a (i + k) == Utf8.byteAt b (j + k)

def normalize (e : Edit) (prev next : ByteArray) : Edit :=
  let start := min (max e.start 0) (min prev.size next.size)
  let oldStop := min (max e.oldStop start) prev.size
  let newStop := min (max e.newStop start) next.size
  let s := toBoundary next start.toNat
  let o := oldStop.toNat
  let n := newStop.toNat
  if prev.size - o != next.size - n || !sameRange prev next 0 0 s ||
      !sameRange prev next o n (prev.size - o) then
    replace prev.size next.size
  else ⟨s, o, n⟩

end Edit

end LiveArith
