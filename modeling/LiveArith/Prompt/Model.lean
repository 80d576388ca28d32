import LiveArith.Prompt.Field
import LiveArith.Prompt.Match
import LiveArith.History
import LiveArith.Session
import LiveArith.Edit
import LiveArith.Time.Duration
import LiveArith.Text.Quote

/-!
The live prompt: a text field whose every change is evaluated as an edit of the previous text, with
the result, or the diagnostic pointing into the line, shown below it.
-/

set_option autoImplicit false

namespace LiveArith.Prompt

/-- The text input the line is edited in, by the operations the prompt calls on it: setting the
text, putting the cursor, handling a key by its binding's name, and moving the window to the
cursor. The field is the input's state, whose characters the prompt reads and whose width it
sets. -/
structure Input where
  setText : Field → String → Field
  setCursor : Field → Nat → Field
  press : Field → String → List Char → Field
  fit : Field → Field

def Field.input : Input := ⟨Field.setText, Field.setCursor, Field.press, Field.fit⟩

/-- A key. -/
inductive Key where
  | runes (cs : List Char) (paste : Bool)
  | enter
  | backspace
  | tab
  | backtab
  | up
  | down
  | left
  | right
  | escape
  | home
  | lineEnd
  | delete
  | space
  | ctrl (c : Char)
deriving Repr, BEq, Inhabited

/-- A key press, with Alt or without. -/
structure Press where
  key : Key
  alt : Bool := false
deriving Repr, Inhabited

def Press.name (p : Press) : String :=
  (if p.alt then "alt+" else "") ++
    match p.key with
    | .runes cs paste => if paste then "[" ++ String.ofList cs ++ "]" else String.ofList cs
    | .enter => "enter"
    | .backspace => "backspace"
    | .tab => "tab"
    | .backtab => "shift+tab"
    | .up => "up"
    | .down => "down"
    | .left => "left"
    | .right => "right"
    | .escape => "esc"
    | .home => "home"
    | .lineEnd => "end"
    | .delete => "delete"
    | .space => " "
    | .ctrl c => "ctrl+" ++ c.toString

def Key.ofName? (name : String) : Option Key :=
  let named : List (String × Key) := [("enter", .enter), ("backspace", .backspace), ("tab", .tab),
    ("shift+tab", .backtab), ("up", .up), ("down", .down), ("left", .left), ("right", .right),
    ("esc", .escape), ("home", .home), ("end", .lineEnd), ("delete", .delete), ("space", .space)]
  match named.lookup name, name.toList with
  | some k, _ => some k
  | none, ['c', 't', 'r', 'l', '+', c] => some (.ctrl c)
  | none, _ => none

def Press.ofName? (name : String) : Option Press :=
  let alt := name.startsWith "alt+"
  (Key.ofName? (String.ofList (if alt then name.toList.drop 4 else name.toList))).map
    fun key => { key, alt }

/-- What the prompt receives. -/
inductive Event where
  | press (p : Press)
  | resize (width height : Int)
  | other
deriving Repr, Inhabited

/-- What a key asks to be done besides changing the prompt. -/
inductive Effect where
  | print (line : String)
  | clear
  | quit
deriving Repr, BEq, Inhabited

/-- A prompt command. -/
structure Command where
  name : String
  short : String
  help : String

def commands : List Command :=
  [⟨"help", "h", "Show this help"⟩, ⟨"stats", "s", "Show cache and compiler counters"⟩,
   ⟨"tree", "t", "Show the syntax tree and parsed expression"⟩, ⟨"clear", "c", "Clear the screen"⟩,
   ⟨"quit", "q", "Exit"⟩]

def sign : String := "➜ "

def isCommand (line : String) : Bool :=
  (line.toList.dropWhile fun c => c == ' ' || c == '\t').head? == some ':'

def commandWord (line : String) : Option (String × Nat × Nat) :=
  if !isCommand line then none
  else
    let cs := line.toList
    let start := (cs.takeWhile (· != ':')).length + 1
    let word := (cs.drop start).takeWhile fun c => c != ' ' && c != '\t'
    some (String.ofList word, start, start + word.length)

def lookupCommand (word : String) : Option Command :=
  commands.find? fun c => word == c.name || word == c.short

def completions (word : String) : List Match :=
  if word.isEmpty then
    (commands.zip (List.range commands.length)).map fun (c, i) => { str := c.name, index := i }
  else rank word (commands.map Command.name)

def candidateBar (ms : List Match) (width : Int) : String :=
  let rec go : List Match → Nat → Int → String
    | [], _, _ => ""
    | m :: rest, i, used =>
      let w : Int := m.str.length + (if i > 0 then 2 else 0)
      let reserve : Int := if rest.isEmpty then 0 else 3
      if i > 0 && used + w + reserve > width then "  ..."
      else (if i > 0 then "  " else "") ++ m.str ++ go rest (i + 1) (used + w)
  if ms.isEmpty || width ≤ 0 then "" else go ms 0 0

def helpText : String :=
  "Type an arithmetic expression; the result updates on every keystroke.\n" ++
  "Numbers, + - * /, and parentheses are supported.\n\nCommands:\n" ++
  String.join (commands.map fun c =>
    "  :" ++ c.name ++ Cells.spaces (8 - c.name.length) ++ "(:" ++ c.short ++ ")  " ++ c.help ++
      "\n") ++
  "\nKeys:\n" ++
  "  Enter        commit the line to history\n" ++
  "  Up/Down      browse history\n" ++
  "  Tab          complete or cycle commands\n" ++
  "  Esc          cancel completion\n" ++
  "  Ctrl+C       clear the line, or exit on an empty line\n" ++
  "  Ctrl+D       exit on an empty line"

/-- The live prompt's state. -/
structure Model where
  field : Field
  engine : Engine
  session : Session
  history : History
  files : Files
  text : String := ""
  outcome : Except Diagnostic Value := .ok (.integer 0)
  historyIdx : Nat
  candidates : List Match := []
  wordStart : Nat := 0
  wordEnd : Nat := 0
  chosen : Option Nat := none
  stepping : Bool := false
  typed : String := ""
  width : Int := 80
  quitting : Bool := false

def noEngine : String := "no engine"

namespace Model

def start (e : Engine) (h : History) (fs : Files) : Model :=
  let (s, e) := Session.start e
  { field := { width := 80 - 2 - 2 }, engine := e, session := s, history := h, files := fs,
    historyIdx := h.size }

def refresh (m : Model) : Model :=
  let text := m.field.text
  match commandWord text with
  | some (word, start, stop) =>
    { m with candidates := completions word, wordStart := start, wordEnd := stop }
  | none =>
    let m := { m with candidates := [] }
    if text == m.text then m
    else
      let (out, s, e) := m.session.update m.engine text.toUTF8
        (Edit.diff m.text.toUTF8 text.toUTF8) false
      { m with outcome := out, session := s, engine := e, text }

section

variable (I : Input)

def setInput (m : Model) (text : String) : Model :=
  ({ m with field := I.setCursor (I.setText m.field text) (I.setText m.field text).size }).refresh

def byteAt (cs : List Char) (k : Nat) : Nat :=
  (String.ofList (cs.take k)).utf8ByteSize + (k - cs.length)

def sliceError (cs : List Char) (start stop : Nat) : String :=
  let len := toString (String.ofList cs).utf8ByteSize
  if cs.length < start then
    "runtime error: slice bounds out of range [:" ++ toString (byteAt cs start) ++
      "] with length " ++ len
  else "runtime error: slice bounds out of range [" ++ toString (byteAt cs stop) ++ ":" ++ len ++ "]"

def replaceWord (m : Model) (word : String) : Except String Model :=
  let cs := m.field.chars
  if cs.length < m.wordStart ∨ cs.length < m.wordEnd then .error (sliceError cs m.wordStart m.wordEnd)
  else
    let next := cs.take m.wordStart ++ word.toList ++ cs.drop m.wordEnd
    let f := I.setCursor (I.setText m.field (String.ofList next)) (m.wordStart + word.length)
    .ok { m with field := f, wordEnd := m.wordStart + word.length }

def cycle (m : Model) (forward : Bool) : Except String Model :=
  match m.candidates with
  | [] => .ok m
  | [c] => (m.replaceWord I c.str).map fun m => { m with stepping := false, chosen := none }
  | cs =>
    let n := cs.length
    let (m, i) :=
      if !m.stepping then
        ({ m with stepping := true, typed := m.field.text }, if forward then 0 else n - 1)
      else
        let i := (m.chosen.getD 0 + (if forward then 1 else n - 1)) % n
        (m, i)
    (m.replaceWord I (cs.getD i default).str).map fun m => { m with chosen := some i }

def showHistory (m : Model) (i : Nat) : Model :=
  match m.history.get i with
  | .error _ => m
  | .ok line => { m with historyIdx := i, stepping := false, chosen := none }.setInput I line

def historyPrev (m : Model) : Model :=
  if m.historyIdx == 0 then m else m.showHistory I (m.historyIdx - 1)

def historyNext (m : Model) : Model :=
  if m.historyIdx + 1 ≥ m.history.size then
    { m with historyIdx := m.history.size }.setInput I ""
  else m.showHistory I (m.historyIdx + 1)

def statsText (m : Model) : String :=
  let s := m.engine.stats
  let rows := [("cached", toString s.cache.size), ("hits", toString s.cache.hits),
    ("misses", toString s.cache.misses), ("compiles", toString s.compiles),
    ("evictions", toString s.cache.evictions), ("sweeps", toString s.cache.sweeps),
    ("symbols", toString s.symbols), ("collisions", toString s.collisions),
    ("retention", Time.durationText m.engine.options.retention)]
  "\n".intercalate (rows.map fun (k, v) => "  " ++ k ++ Cells.spaces (11 - k.length) ++ " " ++ v)

def treeText (m : Model) : String :=
  let (sexp, reused) := m.session.outline
  if sexp.isEmpty then "  (no input)"
  else
    "  syntax: " ++ sexp ++ "\n  reused: " ++ toString reused ++
      match m.session.expr with
      | some x => "\n  expr:   " ++ x.text ++ "\n  type:   " ++ x.type.name ++
          "\n  hash:   " ++ Quote.hex x.hash.toNat 16
      | none => ""

def execute (m : Model) (line : String) : Model × Option (List Effect) :=
  let word := match commandWord line with
    | some (w, _, _) => w
    | none => ""
  let echo := Effect.print (sign ++ line)
  let cmd := match lookupCommand word with
    | some c => some c
    | none => match rank word (commands.map Command.name) with
      | [x] => commands[x.index]?
      | _ => none
  match cmd with
  | none => (m, some [echo, .print ("unknown command: " ++ word ++ " (try :help)")])
  | some c =>
    if c.name == "quit" then ({ m with quitting := true }, some [echo, .quit])
    else if c.name == "clear" then (m, some [.clear])
    else if c.name == "help" then (m, some [echo, .print helpText])
    else if c.name == "stats" then (m, some [echo, .print m.statsText])
    else (m, some [echo, .print m.treeText])

def submit (m : Model) : Model × Option (List Effect) :=
  let line := Blank.trim m.field.text
  if line.isEmpty then (m, none)
  else
    let (_, h, fs) := m.history.add line m.files
    let m := { m with history := h, files := fs, historyIdx := h.size }
    if isCommand line then (m.setInput I "").execute line
    else
      let out := match m.outcome with
        | .ok v => v.text
        | .error d => Cells.block d.render
      (m.setInput I "", some [.print (sign ++ line), .print out])

def press (m : Model) (p : Press) : Except String (Model × Option (List Effect)) :=
  match p.key with
  | .ctrl 'c' =>
    if m.field.chars.isEmpty then pure ({ m with quitting := true }, some [.quit])
    else pure ({ m with stepping := false, historyIdx := m.history.size }.setInput I "", none)
  | .ctrl 'd' =>
    if m.field.chars.isEmpty then pure ({ m with quitting := true }, some [.quit])
    else pure (m, none)
  | .enter =>
    if m.stepping then pure ({ m with stepping := false, chosen := none }, none)
    else pure (m.submit I)
  | .tab => (m.cycle I true).map (·, none)
  | .backtab => (m.cycle I false).map (·, none)
  | .up => pure (m.historyPrev I, none)
  | .down => pure (m.historyNext I, none)
  | .escape =>
    if m.stepping then pure ({ m with stepping := false, chosen := none }.setInput I m.typed, none)
    else pure (m, none)
  | key =>
    let runes := match key with
      | .runes cs _ => cs
      | _ => []
    let m := { m with stepping := false, chosen := none, historyIdx := m.history.size,
                      field := I.press m.field p.name runes }
    pure (m.refresh, none)

def handle (m : Model) (ev : Event) : Except String (Model × Option (List Effect)) :=
  match ev with
  | .press p => m.press I p
  | .resize w _ => pure ({ m with width := w, field := { m.field with width := w - 2 - 2 } }, none)
  | .other => pure ({ m with field := I.fit m.field }, none)

end

def update (m : Model) (ev : Event) : Except String (Model × Option (List Effect)) :=
  m.handle Field.input ev

def diagnosticLines (m : Model) (d : Diagnostic) : String :=
  let bytes := m.field.text.toUTF8
  let off := (min (max d.offset 0) bytes.size).toNat
  let stop := (min (max (d.offset + d.length) off) bytes.size).toNat
  let col := 2 + Utf8.runeCount bytes 0 off
  let width := max (Utf8.runeCount bytes off stop) 1
  Cells.spaces col ++ String.ofList (List.replicate width '^') ++ "\n" ++ d.kind.name ++ ": " ++
    d.detail ++ (if d.hint.isEmpty then "" else "\nhelp: " ++ d.hint)

def status (m : Model) (elapsed : String) : String :=
  let input := m.field.text
  if m.historyIdx < m.history.size then
    toString (m.historyIdx + 1) ++ "/" ++ toString m.history.size
  else if (Blank.trim input).isEmpty then "Type an expression, or :help for commands"
  else if isCommand input then
    if m.candidates.isEmpty then "unknown command (try :help)"
    else candidateBar m.candidates m.width
  else match m.outcome with
    | .error d => m.diagnosticLines d
    | .ok v => "= " ++ v.text ++ " " ++ v.type.name ++ " " ++ elapsed

def view (m : Model) (elapsed : String) : String :=
  if m.quitting then "" else m.field.view sign ++ "\n" ++ m.status elapsed ++ "\n"

end Model

end LiveArith.Prompt
