import LiveArith.Files
import LiveArith.Text.Blank

/-!
The history of submitted lines: distinct lines, oldest first, at most a thousand, kept in a file one
per line or in memory only. Loading reads the file's lines, trimmed, skipping blank ones and keeping
the newest thousand; a missing file loads nothing.
-/

set_option autoImplicit false

namespace LiveArith

/-- Why a history operation failed. -/
inductive HistoryError where
  | file (e : PathError)
  | longLine
  | outOfRange
deriving Repr, BEq, Inhabited

def HistoryError.message : HistoryError → String
  | .file e => e.message
  | .longLine => "bufio.Scanner: token too long"
  | .outOfRange => "index out of range"

/-- A history. -/
structure History where
  path : Option String := none
  limit : Nat := 1000
  entries : List String := []
deriving Repr, Inhabited

namespace History

def maxLine : Nat := 65536

def size (h : History) : Nat := h.entries.length

def get (h : History) (i : Int) : Except HistoryError String :=
  if i < 0 then .error .outOfRange
  else match h.entries[i.toNat]? with
    | some s => .ok s
    | none => .error .outOfRange

def trim (h : History) : History × Bool :=
  if h.limit == 0 || h.entries.length ≤ h.limit then (h, false)
  else ({ h with entries := h.entries.drop (h.entries.length - h.limit) }, true)

def fileLines (text : String) : List String × Bool :=
  let rec go : List String → List String × Bool
    | [] => ([], false)
    | [last] =>
      if last.isEmpty then ([], false)
      else if last.utf8ByteSize ≥ maxLine then ([], true)
      else ([last], false)
    | l :: ls =>
      if l.utf8ByteSize + 1 > maxLine then ([], true)
      else
        let (rest, long) := go ls
        (l :: rest, long)
  go ((text.toList.splitOn '\n').map String.ofList)

def load (h : History) (fs : Files) : Except HistoryError Unit × History :=
  match h.path with
  | none => (.ok (), h)
  | some p =>
    match fs.stat "open" p with
    | .error e => if e.reason == .notExist then (.ok (), h) else (.error (.file e), h)
    | .ok _ =>
      let (text, failure) := match fs.read p with
        | .ok t => (t, none)
        | .error e => ("", some (HistoryError.file e))
      let (ls, long) := fileLines text
      let h := (({ h with entries := (ls.map Blank.trim).filter (!·.isEmpty) } : History).trim).1
      match failure with
      | some f => (.error f, h)
      | none => (if long then .error .longLine else .ok (), h)

def save (h : History) (p : String) (fs : Files) : Except HistoryError Files :=
  (fs.write p (String.join (h.entries.map (· ++ "\n"))) false).mapError .file

def add (h : History) (line : String) (fs : Files) : Except HistoryError Unit × History × Files :=
  let line := Blank.trim line
  if line.isEmpty || h.entries.getLast? == some line then (.ok (), h, fs)
  else
    let moved := h.entries.contains line
    let (h, dropped) := ({ h with entries := h.entries.erase line ++ [line] } : History).trim
    match h.path with
    | none => (.ok (), h, fs)
    | some p =>
      let written := if moved || dropped then h.save p fs
        else (fs.write p (line ++ "\n") true).mapError .file
      match written with
      | .ok fs => (.ok (), h, fs)
      | .error e => (.error e, h, fs)

end History

end LiveArith
