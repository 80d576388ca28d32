import LiveArith.Syntax.Node
import LiveArith.Number.Word
import Std.Data.HashMap

/-!
A parsed tree with the length of the text it describes, and what a text edit does to it. An edit
says the bytes `[start, oldStop)` became `[start, newStop)`.
-/

set_option autoImplicit false

namespace LiveArith.Syntax

/-- A text edit in byte offsets. -/
structure InputEdit where
  start : Int
  oldStop : Int
  newStop : Int
deriving Repr, Inhabited, BEq

def InputEdit.valid (e : InputEdit) : Bool :=
  0 ≤ e.start && e.start ≤ e.oldStop && e.start ≤ e.newStop

namespace Node

def shift (d : Int) : Node → Node
  | ⟨h, cs⟩ =>
    ⟨{ h with start := Word.wrap (h.start + d), stop := Word.wrap (h.stop + d) },
      cs.attach.map fun ⟨c, _⟩ => shift d c⟩

mutual
def edit (e : InputEdit) : Node → Node × Nat
  | ⟨h, cs⟩ =>
    if h.stop < e.start then (⟨h, cs⟩, 0)
    else if h.start > e.oldStop then (shift (e.newStop - e.oldStop) ⟨h, cs⟩, 0)
    else
      let stop := if h.stop ≥ e.oldStop then Word.wrap (h.stop + (e.newStop - e.oldStop))
        else e.newStop
      let start := if h.start > e.start then e.start else h.start
      let (cs', k) := editAll e cs
      (⟨{ h with start, stop := max stop start, changed := true }, cs'⟩, k + 1)

def editAll (e : InputEdit) : List Node → List Node × Nat
  | [] => ([], 0)
  | c :: cs =>
    let (c', k) := edit e c
    let (cs', k') := editAll e cs
    (c' :: cs', k + k')
end

def operand (n : Node) : Bool :=
  n.kind == .expression && n.digest != 0 && !n.hasError &&
    match n.children with
    | c :: _ => c.kind == .number || c.kind == .float || c.kind == .parenthesized
    | [] => false

abbrev ReuseIndex := Std.HashMap Int Node

mutual
def collect (idx : ReuseIndex) : Node → ReuseIndex
  | ⟨h, cs⟩ =>
    if h.changed then collectAll idx cs
    else if operand ⟨h, cs⟩ then idx.insert h.start ⟨h, cs⟩
    else collectAll idx cs

def collectAll (idx : ReuseIndex) : List Node → ReuseIndex
  | [] => idx
  | c :: cs => collectAll (collect idx c) cs
end

end Node

/-- A parse result: its root (absent only in a tree built by hand), the length of the text it
describes, how many operands its parse reused, and how many nodes edits have touched. -/
structure Tree where
  root : Option Node
  length : Nat
  reused : Nat := 0
  changed : Nat := 0
deriving Inhabited

namespace Tree

def edit (t : Tree) (e : InputEdit) : Tree :=
  match t.root with
  | none => t
  | some r =>
    if !e.valid then t
    else
      let (r', k) := r.edit e
      { t with root := some r', changed := t.changed + k,
               length := (max (Word.wrap ((t.length : Int) + e.newStop - e.oldStop)) 0).toNat }

def reusable (t : Tree) : Node.ReuseIndex :=
  match t.root with
  | none => {}
  | some r => Node.collect {} r

end Tree

end LiveArith.Syntax
