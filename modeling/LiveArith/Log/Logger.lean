import LiveArith.Log.Handler

/-!
Loggers. A logger is built from settings applied in order over the defaults (kept output, RFC 3339
times, info level, text format, no caller, plain pairs); it writes a record when its level is
enabled.
-/

set_option autoImplicit false

namespace LiveArith.Log

/-- Where a logger's lines go. -/
inductive Sink where
  | kept
  | dropped
deriving Repr, BEq, DecidableEq, Inhabited

/-- A logger's settings. -/
structure Config where
  sink : Sink := .kept
  layout : String := Time.rfc3339
  attrs : List Attr := []
  level : Level := .info
  format : Format := .text
  caller : Bool := false
  pretty : Bool := true

/-- One change to the settings. -/
inductive Setting where
  | defaults (sink : Sink)
  | output (sink : Sink)
  | level (l : Level)
  | format (f : Format)
  | timeLayout (layout : String)
  | caller (on : Bool)
  | pretty (on : Bool)
  | attrs (as : List Attr)

namespace Config

def apply (c : Config) : Setting → Config
  | .defaults s => { sink := s }
  | .output s => { c with sink := s }
  | .level l => { c with level := l }
  | .format f => { c with format := f }
  | .timeLayout s => { c with layout := resolveLayout s }
  | .caller b => { c with caller := b }
  | .pretty b => { c with pretty := b }
  | .attrs as => { c with attrs := c.attrs ++ as }

def handler (c : Config) : Handler :=
  let style : Style :=
    if c.format == .json then .json else if c.pretty then .pretty else .text
  let h : Handler := { style, discard := c.format != .json && c.format != .text,
                       minLevel := c.level, caller := c.caller, layout := c.layout }
  if c.attrs.isEmpty then h else h.withAttrs c.attrs

end Config

/-- A logger, or the absent one. -/
inductive Logger where
  | absent
  | live (config : Config) (handler : Handler)

namespace Logger

def make (sink : Sink) (settings : List Setting) : Logger :=
  let c := settings.foldl Config.apply (({} : Config).apply (.defaults sink))
  .live c c.handler

def wrap (l : Logger) (settings : List Setting) : Logger :=
  match l with
  | .absent => make .dropped settings
  | .live c _ =>
    let c := settings.foldl Config.apply c
    .live c c.handler

def withAttrs (l : Logger) (as : List Attr) : Logger :=
  match l with
  | .live c h => if as.isEmpty then l else .live c (h.withAttrs as)
  | .absent => .absent

def withGroup (l : Logger) (name : String) : Logger :=
  match l with
  | .live c h => .live c (h.withGroup name)
  | .absent => .absent

def level (l : Logger) : Level :=
  match l with
  | .live c _ => c.level
  | .absent => .info

def format (l : Logger) : Format :=
  match l with
  | .live c _ => c.format
  | .absent => .text

def enabled (l : Logger) (lv : Level) : Bool :=
  match l with
  | .live _ h => h.enabled lv
  | .absent => false

def handle (l : Logger) (r : Record) : String :=
  match l with
  | .live c h => if c.sink == .kept then h.handle r else ""
  | .absent => ""

def log (l : Logger) (lv : Level) (msg : String) (attrs : List Attr) (now : Int)
    (site : String) : String :=
  match l with
  | .live c _ => l.handle { time := some now, level := lv, msg, attrs,
                            source := if c.caller then some site else none }
  | .absent => ""

end Logger

end LiveArith.Log
