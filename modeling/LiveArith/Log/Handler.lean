import LiveArith.Log.Attr
import LiveArith.Log.Level
import LiveArith.Number.Layout
import LiveArith.Time.Layout
import LiveArith.Time.Duration
import LiveArith.Text.Quote
import LiveArith.Text.Blank
import LiveArith.Text.Cells

/-!
Writing log records. A record has an optional time, a level, a message, an optional caller
location and fields, and is written on one line as plain pairs, quoted pairs or a JSON object.
-/

set_option autoImplicit false

namespace LiveArith.Log

/-- A log record. -/
structure Record where
  time : Option Int
  level : Level
  msg : String
  source : Option String := none
  attrs : List Attr := []

/-- How records are written. -/
inductive Style where
  | pretty
  | text
  | json
deriving Repr, BEq, DecidableEq, Inhabited

def namedLayouts : List (String × String) :=
  [("rfc3339", Time.rfc3339), ("rfc3339nano", Time.rfc3339Nano),
   ("ansic", "Mon Jan _2 15:04:05 2006"), ("unixdate", "Mon Jan _2 15:04:05 MST 2006"),
   ("rfc822", "02 Jan 06 15:04 MST"), ("kitchen", "3:04PM"), ("stamp", "Jan _2 15:04:05"),
   ("stampmilli", "Jan _2 15:04:05.000"), ("ms", "Jan _2 15:04:05.000"),
   ("stampmicro", "Jan _2 15:04:05.000000"), ("us", "Jan _2 15:04:05.000000"),
   ("stampnano", "Jan _2 15:04:05.000000000"), ("ns", "Jan _2 15:04:05.000000000"),
   ("none", "")]

def resolveLayout (layout : String) : String :=
  let key := String.ofList ((Case.lowerText layout).toList.filter fun c =>
    ('a' ≤ c && c ≤ 'z') || ('0' ≤ c && c ≤ '9'))
  (namedLayouts.lookup key).getD layout

def stamp (layout : String) (ns : Int) : String :=
  if (Blank.trim layout).isEmpty then "" else Time.format layout ns

def present (layout : String) (a : Attr) : Option Attr :=
  match a with
  | .mk "time" (.time ns) =>
    let s := stamp layout ns
    if s.isEmpty then none else some (.mk "time" (.str s))
  | .mk "level" (.level n) => some (.mk "level" (.str (Level.name ⟨n⟩).toUpper))
  | a => some a

def Attr.isEmpty : Attr → Bool
  | .mk "" .null => true
  | _ => false

def Attr.isEmptyGroup : Attr → Bool
  | .mk _ (.group []) => true
  | _ => false

def needsQuote (s : String) : Bool :=
  s.isEmpty || s.toList.any fun c =>
    let n := c.toNat
    if n < 0x80 then c == ' ' || c == '=' || c == '"' || n < 0x20
    else c == '�' || Blank.isSpace c || !Printable.test c

def quoted (s : String) : String := if needsQuote s then Quote.text s else s

def jsonChar (c : Char) : String :=
  let n := c.toNat
  if c == '"' then "\\\""
  else if c == '\\' then "\\\\"
  else if n == 10 then "\\n"
  else if n == 13 then "\\r"
  else if n == 9 then "\\t"
  else if n < 0x20 then "\\u00" ++ Quote.hex n 2
  else if n == 0x2028 || n == 0x2029 then "\\u" ++ Quote.hex n 4
  else c.toString

def jsonString (s : String) : String := "\"" ++ String.join (s.toList.map jsonChar) ++ "\""

def jsonFloat (x : Float) : String :=
  if x.isNaN || x.isInf then
    jsonString ("!ERROR:json: unsupported value: " ++ Layout.short x)
  else Layout.interchange x

def plain (s : String) : String := Cells.block s

def plainValue : AttrValue → String
  | .str s => s
  | .int i => toString i
  | .uint n => toString n
  | .float x => Layout.short x
  | .bool b => if b then "true" else "false"
  | .duration ns => Time.durationText ns
  | .time ns => Time.format Time.rfc3339 ns
  | .level n => (Level.name ⟨n⟩).toUpper
  | .error msg => msg
  | .null => "<nil>"
  | .group _ => ""

def textValue : AttrValue → String
  | .str s => quoted s
  | .int i => toString i
  | .uint n => toString n
  | .float x => Layout.short x
  | .bool b => if b then "true" else "false"
  | .duration ns => Time.durationText ns
  | .time ns =>
    Time.format "2006-01-02T15:04:05.000Z07:00" (ns - ns % 1000000)
  | .level n => quoted (Level.word ⟨n⟩)
  | .error msg => quoted msg
  | .null => "<nil>"
  | .group _ => ""

def jsonValue : AttrValue → String
  | .str s => jsonString s
  | .int i => toString i
  | .uint n => toString n
  | .float x => jsonFloat x
  | .bool b => if b then "true" else "false"
  | .duration ns => toString ns
  | .time ns => jsonString (Time.format Time.rfc3339Nano ns)
  | .level n => jsonString (Level.word ⟨n⟩)
  | .error msg => jsonString msg
  | .null => "null"
  | .group _ => "\x7b\x7d"

mutual
def pairs (style : Style) (layout : String) (path : List String) : Attr → List String
  | .mk k (.group as) =>
    pairsAll style layout (if k.isEmpty then path else path ++ [k]) as
  | a =>
    match present layout a with
    | none => []
    | some a =>
      if a.isEmpty then []
      else
        let key := ".".intercalate (path ++ [a.key])
        match style with
        | .pretty => [plain key ++ "=" ++ plain (plainValue a.value)]
        | _ => [quoted key ++ "=" ++ textValue a.value]

def pairsAll (style : Style) (layout : String) (path : List String) : List Attr → List String
  | [] => []
  | a :: as => pairs style layout path a ++ pairsAll style layout path as
end

mutual
def member (layout : String) : Attr → Option String
  | .mk k (.group as) =>
    match members layout as with
    | [] => none
    | ms => if k.isEmpty then some (",".intercalate ms)
      else some (jsonString k ++ ":\x7b" ++ ",".intercalate ms ++ "\x7d")
  | a =>
    match present layout a with
    | none => none
    | some a => if a.isEmpty then none else some (jsonString a.key ++ ":" ++ jsonValue a.value)

def members (layout : String) : List Attr → List String
  | [] => []
  | a :: as =>
    match member layout a with
    | some m => m :: members layout as
    | none => members layout as
end

def objectOf (key : String) (v : AttrValue) : String :=
  "\x7b" ++ (member "" (.mk key v)).getD "" ++ "\x7d"

/-- A handler: where records go, which it writes, and what it has been given. -/
structure Handler where
  style : Style
  discard : Bool := false
  minLevel : Level
  caller : Bool := false
  layout : String := Time.rfc3339
  given : String := ""
  groups : List String := []
  opened : Nat := 0

namespace Handler

def enabled (h : Handler) (l : Level) : Bool := !h.discard && l.severity ≥ h.minLevel.severity

def withAttrs (h : Handler) (as : List Attr) : Handler :=
  if as.all Attr.isEmptyGroup then h
  else
    match h.style with
    | .pretty =>
      let more := pairsAll .pretty h.layout h.groups as
      { h with given := " ".intercalate ((if h.given.isEmpty then [] else [h.given]) ++ more) }
    | .text =>
      match pairsAll .text h.layout h.groups as with
      | [] => h
      | more => { h with given := " ".intercalate ((if h.given.isEmpty then [] else [h.given]) ++ more) }
    | .json =>
      match members h.layout as with
      | [] => h
      | ms =>
        let opening := String.join ((h.groups.drop h.opened).map fun g => jsonString g ++ ":\x7b")
        let sep := if h.given.isEmpty || h.given.endsWith "\x7b" then "" else ","
        let body := if opening.isEmpty then ",".intercalate ms
          else opening ++ ",".intercalate ms
        { h with given := h.given ++ sep ++ body, opened := h.groups.length }

def withGroup (h : Handler) (name : String) : Handler :=
  if name.isEmpty then h else { h with groups := h.groups ++ [name] }

def line (h : Handler) (r : Record) : String :=
  match h.style with
  | .pretty =>
    let time := match r.time with
      | some ns => pairs .pretty h.layout [] (.mk "time" (.time ns))
      | none => []
    let level := pairs .pretty h.layout [] (.mk "level" (.level r.level.severity))
    let source := match r.source with
      | some s => if h.caller && !s.isEmpty then ["source=" ++ plain s] else []
      | none => []
    let msg := ["msg=" ++ plain r.msg]
    let given := if h.given.isEmpty then [] else [h.given]
    " ".intercalate (time ++ level ++ source ++ msg ++ given ++
      pairsAll .pretty h.layout h.groups r.attrs) ++ "\n"
  | .text =>
    let time := match r.time with
      | some ns => pairs .text h.layout [] (.mk "time" (.time ns))
      | none => []
    let level := pairs .text h.layout [] (.mk "level" (.level r.level.severity))
    let source := if h.caller then ["source=" ++ quoted (r.source.getD ":0")] else []
    let msg := ["msg=" ++ quoted r.msg]
    let given := if h.given.isEmpty then [] else [h.given]
    " ".intercalate (time ++ level ++ source ++ msg ++ given ++
      pairsAll .text h.layout h.groups r.attrs) ++ "\n"
  | .json =>
    let time := match r.time with
      | some ns => (member h.layout (.mk "time" (.time ns))).toList
      | none => []
    let level := (member h.layout (.mk "level" (.level r.level.severity))).toList
    let source := match r.source with
      | some s => if h.caller then [jsonString "source" ++ ":" ++ jsonString s] else []
      | none => []
    let msg := [jsonString "msg" ++ ":" ++ jsonString r.msg]
    let head := ",".intercalate (time ++ level ++ source ++ msg)
    let head := if h.given.isEmpty then head else head ++ "," ++ h.given
    let (body, closes) := match members h.layout r.attrs with
      | [] => ("", h.opened)
      | ms =>
        let opening := String.join ((h.groups.drop h.opened).map fun g => jsonString g ++ ":\x7b")
        let sep := if head.endsWith "\x7b" then "" else ","
        (sep ++ opening ++ ",".intercalate ms, h.groups.length)
    "\x7b" ++ head ++ body ++ String.ofList (List.replicate closes '\x7d') ++ "\x7d\n"

def handle (h : Handler) (r : Record) : String :=
  if h.enabled r.level then h.line r else ""

end Handler

end LiveArith.Log
