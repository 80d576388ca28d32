import LiveArith.Cache
import LiveArith.Machine.Backend
import LiveArith.Expr.Hash
import LiveArith.Diagnostic
import LiveArith.Syntax.Parser
import LiveArith.Log.Event
import LiveArith.Expr.Print

/-!
The engine shared by calculator sessions: options, a module of compiled programs, the compile
counter, the cache, and a clock.
-/

set_option autoImplicit false

namespace LiveArith

/-- A deterministic clock. -/
structure Clock where
  offset : Int := 0
  readings : Nat := 0
deriving Repr, Inhabited

namespace Clock

def origin : Int := 1700000000000000000

def read (c : Clock) : Int × Clock :=
  (origin + c.offset + c.readings, { c with readings := c.readings + 1 })

def advance (c : Clock) (ns : Int) : Clock := { c with offset := c.offset + ns }

end Clock

/-- Engine options. -/
structure Options where
  retention : Int := 300000000000
  sweepInterval : Int := 30000000000
  maxEntries : Int := 0
  maxInput : Int := 1048576
  maxDepth : Int := 512
  optimize : Bool := true
  clocked : Bool := true
deriving Repr, Inhabited

namespace Options

def check (o : Options) : Option Fault :=
  let invalid := fun (name : String) (v : Log.AttrValue) =>
    some (Fault.invalidOption.withAttrs [.mk name v])
  if o.retention ≤ 0 then invalid "retention" (.duration o.retention)
  else if o.sweepInterval ≤ 0 then invalid "sweep_interval" (.duration o.sweepInterval)
  else if o.maxEntries < 0 then invalid "max_entries" (.int o.maxEntries)
  else if o.maxInput ≤ 0 then invalid "max_input" (.int o.maxInput)
  else if o.maxDepth ≤ 0 then invalid "max_depth" (.int o.maxDepth)
  else if !o.clocked then invalid "clock" .null
  else none

def limits (o : Options) : Syntax.Limits := Syntax.Limits.ofRequest o.maxInput o.maxDepth

end Options

abbrev Code := Machine.Program

def runCode (p : Code) : Except String Outcome := Machine.backend.exec p

/-- Counters of an engine. -/
structure EngineStats where
  cache : CacheStats
  compiles : Nat
  symbols : Nat
  sessions : Nat
  collisions : Nat
deriving Repr, Inhabited

/-- The engine's state. -/
structure Engine where
  options : Options
  module : Module Code := {}
  compiles : Nat := 0
  cache : Cache Code
  clock : Clock := {}
  sessions : Nat := 0
  collisions : Nat := 0
  closed : Bool := false
  journal : List Log.Event := []

namespace Engine

def note (e : Engine) (level : Log.Level) (msg : String) (attrs : List Log.Attr) : Engine :=
  { e with journal := ⟨level, msg, attrs⟩ :: e.journal }

def drain (e : Engine) : List Log.Event × Engine := (e.journal.reverse, { e with journal := [] })

def keyText (key : UInt64) : String := String.ofList (Nat.toDigits 16 key.toNat)

def stats (e : Engine) : EngineStats :=
  ⟨e.cache.stats, e.compiles, e.module.size, e.sessions, e.collisions⟩

def now (e : Engine) : Int × Engine :=
  let (t, c) := e.clock.read
  (t, { e with clock := c })

def compile (e : Engine) (x : Expr) : Except Fault (Callable Code × Engine) :=
  match Machine.backend.generate e.options.optimize e.module x with
  | .error f => .error f
  | .ok (fn, m) =>
    .ok (fn, ({ e with module := m, compiles := e.compiles + 1 } : Engine).note .debug
      "compiled expression" [.str "symbol" fn.symbol, .str "type" x.type.name, .str "expr" x.text])

def release (e : Engine) (gone : List (Entry Code)) : Engine :=
  { e with module := gone.foldl (fun m x => m.release x.callable.symbol) e.module }

def sweep (e : Engine) : Nat × Engine :=
  let (t, e) := e.now
  let (gone, c) := e.cache.sweep t
  (gone.length, (release { e with cache := c } gone))

def empty (o : Options) : Except Fault Engine :=
  match o.check with
  | some f => .error f
  | none => .ok { options := o, cache := { retention := o.retention, maxEntries := o.maxEntries.toNat } }

def create (o : Options) : Except Diagnostic Engine :=
  match empty o with
  | .error f => .error { source := ByteArray.empty, offset := 0, length := 0, kind := .system,
                         detail := "invalid engine options", cause := some f }
  | .ok e =>
    let one := Expr.int {} 1
    match e.compile (.binary {} one .add one) with
    | .error f => .error { source := ByteArray.empty, offset := 0, length := 0, kind := .system,
                           detail := "code generator unavailable", cause := some f }
    | .ok (fn, e) =>
      let e := { e with module := e.module.release fn.symbol }
      match fn.call runCode false with
      | .error f => .error { source := ByteArray.empty, offset := 0, length := 0,
                             kind := .system, detail := "code generator unavailable",
                             cause := some f }
      | .ok v =>
        if v.equal (.integer 2) then
          .ok (e.note .debug "engine started" [.mk "retention" (.duration o.retention),
            .mk "sweep_interval" (.duration o.sweepInterval), .int "max_entries" o.maxEntries])
        else .error { source := ByteArray.empty, offset := 0, length := 0, kind := .system,
                      detail := "code generator unavailable",
                      cause := some (Fault.unexpectedResult.withAttrs [.mk "got" (.str v.text)]) }

def openSession (e : Engine) : Nat × Engine :=
  (e.sessions + 1, { e with sessions := e.sessions + 1 })

def close (e : Engine) : Engine := { e with closed := true }

def runOnce (e : Engine) (x : Expr) (cancelled : Bool) : Except Fault Value × Engine :=
  match e.compile x with
  | .error f => (.error f, e)
  | .ok (fn, e) =>
    let r := fn.call runCode cancelled
    (r, { e with module := e.module.release fn.symbol })

def lookup (e : Engine) (key : UInt64) : Option (Entry Code) × Engine :=
  match e.cache.peek? key with
  | some _ =>
    let (t, e) := e.now
    let (found, c) := e.cache.lookup key t
    (found, { e with cache := c })
  | none =>
    let (_, c) := e.cache.lookup key 0
    (none, { e with cache := c })

def store (e : Engine) (key : UInt64) (fn : Callable Code) (x : Expr) :
    (Entry Code × Bool) × Engine :=
  let (t, e) := e.now
  let ((entry, stored), c) := e.cache.insert key fn x t
  let e := { e with cache := c }
  let e := if entry.callable.symbol != fn.symbol then
      { e with module := e.module.release fn.symbol } else e
  ((entry, stored), if stored then e.sweep.2 else e)

def evaluate (e : Engine) (key : UInt64) (x : Expr) (cancelled : Bool) :
    Except Fault Value × Engine :=
  if e.closed then (.error Fault.engineClosed, e)
  else
    match e.lookup key with
    | (some entry, e) =>
      if entry.expr.same x then
        (entry.callable.call runCode cancelled,
         e.note .trace "cache hit" [.str "key" (keyText key), .str "symbol" entry.callable.symbol])
      else
        let e := e.note .warn "hash collision"
          [.str "key" (keyText key), .str "cached" entry.expr.text, .str "expr" x.text]
        runOnce { e with collisions := e.collisions + 1 } x cancelled
    | (none, e) =>
      match e.compile x with
      | .error f => (.error f, e.note .warn "compile failed" [.str "expr" x.text, .mk "error" f.logValue])
      | .ok (fn, e) =>
        match fn.call runCode cancelled with
        | .error f => (.error f, { e with module := e.module.release fn.symbol })
        | .ok v =>
          let ((entry, _), e) := e.store key fn x
          (.ok v, e.note .debug "cache miss"
            [.str "key" (keyText key), .str "symbol" entry.callable.symbol, .mk "shared" (.bool false)])

end Engine

end LiveArith
