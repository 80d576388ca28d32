import LiveArith.Text.Width
import LiveArith.Text.Cells
import LiveArith.Text.Blank

/-!
A one-line text field: its characters, a cursor between them, and the window of the text it shows
when the text is wider than the field.
-/

set_option autoImplicit false

namespace LiveArith.Prompt

/-- A one-line text field. -/
structure Field where
  chars : List Char := []
  pos : Nat := 0
  offset : Nat := 0
  offsetRight : Nat := 0
  width : Int := 76
  limit : Nat := 4096
deriving Inhabited

namespace Field

def text (f : Field) : String := String.ofList f.chars

def size (f : Field) : Nat := f.chars.length

def charAt (f : Field) (i : Nat) : Char := f.chars.getD i 'x'

def clean (cs : List Char) : List Char :=
  cs.filterMap fun c =>
    let n := c.toNat
    if c == '\r' || c == '\n' || c == '\t' then some ' '
    else if n == 0xFFFD || n < 0x20 || (0x7F ≤ n && n ≤ 0x9F) then none
    else some c

def countFrom (limit : Nat) : List Char → Nat → Nat
  | [], _ => 0
  | c :: cs, w =>
    if w > limit then 0
    else
      let w := w + Width.ofChar c
      if w ≤ limit + 1 then 1 + countFrom limit cs w else 0

def countBack (limit : Nat) : List Char → Nat → Nat
  | [], _ => 0
  | [_], _ => 0
  | c :: cs, w =>
    if w ≥ limit then 0
    else
      let w := w + Width.ofChar c
      if w ≤ limit then 1 + countBack limit cs w else 0

def fit (f : Field) : Field :=
  let n := f.size
  if f.width ≤ 0 || (Width.ofString f.text : Int) ≤ f.width then
    { f with offset := 0, offsetRight := n }
  else
    let right := min f.offsetRight n
    if f.pos < f.offset then
      { f with offset := f.pos,
               offsetRight := f.pos + countFrom f.width.toNat (f.chars.drop f.pos) 0 }
    else if f.pos ≥ right then
      { f with offsetRight := f.pos,
               offset := f.pos - countBack f.width.toNat (f.chars.take f.pos).reverse 0 }
    else { f with offsetRight := right }

def setCursor (f : Field) (p : Nat) : Field := ({ f with pos := min p f.size }).fit

def replace (f : Field) (cs : List Char) : Field :=
  let empty := f.chars.isEmpty
  let cs := if f.limit > 0 then cs.take f.limit else cs
  let f := { f with chars := cs }
  let f := if (f.pos == 0 && empty) || f.pos > cs.length then f.setCursor cs.length else f
  f.fit

def setText (f : Field) (s : String) : Field := f.replace (clean s.toList)

def insert (f : Field) (cs : List Char) : Field :=
  let typed := clean cs
  if f.limit > 0 && f.limit ≤ f.size then f
  else
    let typed := if f.limit > 0 then typed.take (f.limit - f.size) else typed
    ({ f with pos := f.pos + typed.length }).replace
      (f.chars.take f.pos ++ typed ++ f.chars.drop f.pos)

def deleteBack (f : Field) : Field :=
  if f.chars.isEmpty then f
  else
    let f := { f with chars := f.chars.take (f.pos - 1) ++ f.chars.drop f.pos }
    if f.pos > 0 then f.setCursor (f.pos - 1) else f

def deleteForward (f : Field) : Field :=
  if !f.chars.isEmpty && f.pos < f.size then
    { f with chars := f.chars.take f.pos ++ f.chars.drop (f.pos + 1) }
  else f

def deleteToEnd (f : Field) : Field := ({ f with chars := f.chars.take f.pos }).setCursor f.pos

def deleteToStart (f : Field) : Field :=
  ({ f with chars := f.chars.drop f.pos, offset := 0 }).setCursor 0

def backOverBlanks : Nat → Field → Field
  | 0, f => f
  | n + 1, f =>
    if Blank.isSpace (f.charAt f.pos) && f.pos > 0 then backOverBlanks n (f.setCursor (f.pos - 1))
    else f

def backOverWord : Nat → Field → Field
  | 0, f => f
  | n + 1, f =>
    if f.pos == 0 then f
    else if !Blank.isSpace (f.charAt f.pos) then backOverWord n (f.setCursor (f.pos - 1))
    else f.setCursor (f.pos + 1)

def deleteWordBack (f : Field) : Field :=
  if f.pos == 0 || f.chars.isEmpty then f
  else
    let old := f.pos
    let g := backOverWord (f.size + 1) (backOverBlanks (f.size + 1) (f.setCursor (f.pos - 1)))
    { g with chars := if old > g.size then g.chars.take g.pos
                      else g.chars.take g.pos ++ g.chars.drop old }

def leftWhile (blank : Bool) : Nat → Field → Field
  | 0, f => f
  | n + 1, f =>
    if f.pos > 0 && Blank.isSpace (f.charAt (f.pos - 1)) == blank then
      leftWhile blank n (f.setCursor (f.pos - 1))
    else f

def rightWhile (blank : Bool) : Nat → Field → Field
  | 0, f => f
  | n + 1, f =>
    if f.pos < f.size && Blank.isSpace (f.charAt f.pos) == blank then
      rightWhile blank n (f.setCursor (f.pos + 1))
    else f

def wordBack (f : Field) : Field :=
  leftWhile false (f.size + 1) (leftWhile true (f.size + 1) f)

def wordForward (f : Field) : Field :=
  rightWhile false (f.size + 1) (rightWhile true (f.size + 1) f)

def forwardOverBlanks : Nat → Field → Field
  | 0, f => f
  | n + 1, f =>
    if f.pos < f.size && Blank.isSpace (f.charAt f.pos) then
      forwardOverBlanks n (f.setCursor (f.pos + 1))
    else f

def deleteWordForward (f : Field) : Field :=
  if f.pos ≥ f.size || f.chars.isEmpty then f
  else
    let old := f.pos
    let g := rightWhile false (f.size + 1) (forwardOverBlanks (f.size + 1) (f.setCursor (f.pos + 1)))
    ({ g with chars := g.chars.take old ++ g.chars.drop g.pos }).setCursor old

def press (f : Field) (name : String) (runes : List Char) : Field :=
  let f :=
    if name == "alt+backspace" || name == "ctrl+w" then f.deleteWordBack
    else if name == "backspace" || name == "ctrl+h" then f.deleteBack
    else if ["alt+left", "ctrl+left", "alt+b"].contains name then f.wordBack
    else if name == "left" || name == "ctrl+b" then
      if f.pos > 0 then f.setCursor (f.pos - 1) else f
    else if ["alt+right", "ctrl+right", "alt+f"].contains name then f.wordForward
    else if name == "right" || name == "ctrl+f" then
      if f.pos < f.size then f.setCursor (f.pos + 1) else f
    else if name == "home" || name == "ctrl+a" then f.setCursor 0
    else if name == "delete" || name == "ctrl+d" then f.deleteForward
    else if name == "end" || name == "ctrl+e" then f.setCursor f.size
    else if name == "ctrl+k" then f.deleteToEnd
    else if name == "ctrl+u" then f.deleteToStart
    else if ["ctrl+v", "alt+delete", "alt+d", "down", "ctrl+n", "up", "ctrl+p"].contains name then
      if name == "alt+delete" || name == "alt+d" then f.deleteWordForward else f
    else f.insert runes
  f.fit

def view (f : Field) (prompt : String) : String :=
  let shown := (f.chars.drop f.offset).take (f.offsetRight - f.offset)
  let p := f.pos - f.offset
  let w : Int := Width.ofString (String.ofList shown)
  let pad := if f.width > 0 && w ≤ f.width then
      (f.width - w).toNat + (if p < shown.length then 1 else 0)
    else 0
  prompt ++ String.ofList (if p < shown.length then shown else shown ++ [' ']) ++ Cells.spaces pad

end Field

end LiveArith.Prompt
