import LiveArith.Text.Utf8

/-!
Aligning tab-separated cells into columns (elastic tabstops). A line's cells are separated by tabs;
its last cell ends the line and is never padded.
-/

set_option autoImplicit false

namespace LiveArith.Columns

def width (s : String) : Nat := s.length

def hasCell (line : List String) (c : Nat) : Bool := c + 1 < line.length

def writeLine (widths : List Nat) (line : List String) : String :=
  let n := line.length
  String.join (line.zipIdx.map fun (cell, j) =>
    if j + 1 < n then
      match widths[j]? with
      | some w => cell ++ String.ofList (List.replicate (w - width cell) ' ')
      | none => cell
    else cell)

def blockLength (c : Nat) : List (List String) → Nat
  | [] => 0
  | l :: ls => if hasCell l c then blockLength c ls + 1 else 0

def format (padding : Nat) : Nat → List Nat → List (List String) → List String
  | 0, widths, lines => lines.map (writeLine widths)
  | fuel + 1, widths, lines =>
    let c := widths.length
    let rec go : Nat → List (List String) → List String
      | 0, ls => ls.map (writeLine widths)
      | _ + 1, [] => []
      | k + 1, l :: ls =>
        if hasCell l c then
          let n := blockLength c (l :: ls)
          let block := (l :: ls).take n
          let w := block.foldl (fun m line => max m (width (line.getD c "") + padding)) 0
          format padding fuel (widths ++ [w]) block ++ go k ((l :: ls).drop n)
        else writeLine widths l :: go k ls
    go (lines.length + 1) lines

def align (padding : Nat) (lines : List (List String)) : String :=
  let deepest := lines.foldl (fun m l => max m l.length) 0
  String.join ((format padding deepest [] lines).map (· ++ "\n"))

end LiveArith.Columns
