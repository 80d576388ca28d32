import LiveArith.Cli.Config
import LiveArith.Cli.Help
import LiveArith.Log.Logger
import LiveArith.History
import LiveArith.Profile
import LiveArith.Report
import LiveArith.Stress

/-!
One run of the command line, from its words to what it prints, logs and leaves on disk.
-/

set_option autoImplicit false

namespace LiveArith.Cli

def cutAssign (w : String) : String × String × Bool :=
  let cs := w.toList
  match cs.findIdx? (· == '=') with
  | some i => (String.ofList (cs.take i), String.ofList (cs.drop (i + 1)), true)
  | none => (w, "", false)

def truth? (s : String) : Option Bool :=
  if ["1", "t", "T", "true", "TRUE", "True"].contains s then some true
  else if ["0", "f", "F", "false", "FALSE", "False"].contains s then some false
  else none

def valuedLogFlags : List String := ["--log-level", "--log-format", "--log-time-layout"]

def valueSetting (name value : String) : Option Log.Setting :=
  if name == "--log-level" then (Log.Level.parse value).toOption.map .level
  else if name == "--log-format" then (Log.Format.parse value).toOption.map .format
  else if name == "--log-time-layout" then some (.timeLayout value)
  else none

def switchSetting (name value : String) (assigned : Bool) : Option Log.Setting :=
  let negate := name.startsWith "--no-log-"
  match (if assigned then truth? value else some true) with
  | none => none
  | some b =>
    if name == "--log-pretty" || name == "--no-log-pretty" then some (.pretty (b != negate))
    else if name == "--log-caller" || name == "--no-log-caller" then some (.caller (b != negate))
    else none

def scanLog (words : List String) : List Log.Setting :=
  match words with
  | [] => []
  | w :: ws =>
    if w == "--" then []
    else
      let (name, value, assigned) := cutAssign w
      if !(name.startsWith "--log-" || name.startsWith "--no-log-") then scanLog ws
      else if valuedLogFlags.contains name then
        match ws with
        | x :: xs =>
          if !assigned && !x.startsWith "-" then (valueSetting name x).toList ++ scanLog xs
          else (valueSetting name value).toList ++ scanLog (x :: xs)
        | [] => (valueSetting name value).toList
      else (switchSetting name value assigned).toList ++ scanLog ws
termination_by words.length
decreasing_by all_goals (simp; try omega)

/-- Where a run happens. -/
structure World where
  files : Files
  stdin : String := ""
  configDir : String
  cacheDir : String
  place : Place
  now : Int := Clock.origin
  site : String := ""
  entropy : Nat := 0

namespace World

def configFile (w : World) : String := Path.join [w.configDir, "config.yaml"]

def historyFile (w : World) : String := Path.join [w.cacheDir, "history.utf8"]

end World

/-- Why a run failed. -/
inductive RunError where
  | command (f : Fault)
  | diagnostic (d : Diagnostic)
  | usage (msg : String)
  | other (msg : String)

namespace RunError

def message : RunError → String
  | .command f => f.message
  | .diagnostic d => d.message
  | .usage m | .other m => m

def logValue : RunError → Option String
  | .command f => some (Log.objectOf "v" f.logValue)
  | .diagnostic d => some (Log.objectOf "v" (.group d.logFields))
  | _ => none

end RunError

def commandFault (msg : String) : Fault := .tagged .command msg none []

def writeConfigFault : Fault := commandFault "write configuration file"
def fileExistsFault : Fault := commandFault "file exists (use --force to overwrite)"
def openSourceFault : Fault := commandFault "open source file"
def evalFailedFault : Fault := commandFault "one or more expressions failed"
def stressFault : Fault := commandFault "incremental result differs from full evaluation"

/-- What a run has written: standard output and the log, and the logger that writes it. -/
structure Console where
  logger : Log.Logger
  now : Int
  site : String
  out : String := ""
  log : String := ""

namespace Console

def note (c : Console) (lv : Log.Level) (msg : String) (attrs : List Log.Attr) : Console :=
  { c with log := c.log ++ c.logger.log lv msg attrs c.now c.site }

def events (c : Console) (es : List Log.Event) : Console :=
  es.foldl (fun c ev => c.note ev.level ev.msg ev.attrs) c

def flush (c : Console) (e : Engine) : Console × Engine :=
  let (es, e) := e.drain
  (c.events es, e)

def print (c : Console) (s : String) : Console := { c with out := c.out ++ s }

end Console

abbrev Settled := List (String × Value)

namespace Settled

def switch (s : Settled) (n : String) : Bool :=
  match s.lookup n with
  | some (.switch b) => b
  | _ => false

def int (s : Settled) (n : String) : Int :=
  match s.lookup n with
  | some (.int i) => i
  | _ => 0

def uint (s : Settled) (n : String) : Nat :=
  match s.lookup n with
  | some (.uint k) => k
  | _ => 0

def float (s : Settled) (n : String) : Float :=
  match s.lookup n with
  | some (.float x) => x
  | _ => 0

def duration (s : Settled) (n : String) : Int :=
  match s.lookup n with
  | some (.duration ns) => ns
  | _ => 0

def text (s : Settled) (n : String) : String :=
  match s.lookup n with
  | some (.text t) => t
  | _ => ""

def list (s : Settled) (n : String) : List String :=
  match s.lookup n with
  | some (.list xs) => xs
  | _ => []

def level (s : Settled) : Log.Level :=
  match s.lookup "log-level" with
  | some (.level l) => l
  | _ => .info

def format (s : Settled) : Log.Format :=
  match s.lookup "log-format" with
  | some (.format f) => f
  | _ => .text

def engineOptions (s : Settled) : Options :=
  { retention := s.duration "retention", sweepInterval := s.duration "sweep-interval",
    maxEntries := s.int "max-entries", maxInput := s.int "max-input",
    maxDepth := s.int "max-depth", optimize := s.switch "optimize" }

end Settled

/-- What a command leaves: what it wrote, the files afterwards, and why it failed, if it
did. -/
structure Finish where
  console : Console
  files : Files
  error : Option RunError := none

/-- A source of lines: a file, by the name given and the path it resolves to, or standard
input. -/
inductive Input where
  | file (name resolved : String)
  | stdin

def Input.resolved? : Input → Option String
  | .file _ r => some r
  | .stdin => none

def openInputs (fs : Files) (cwd : String) (paths : List String) : Except Fault (List Input) := do
  let (files, stdin) ← paths.foldlM (fun (acc : List Input × Bool) p =>
    let (seen, stdin) := acc
    if p == "-" then pure (seen, true)
    else
      match fs.evalLinks (Path.absolute cwd p) with
      | .error e => throw ((openSourceFault.withAttrs [.str "path" p]).wrap (.note e.message))
      | .ok r =>
        pure (if seen.any (·.resolved? == some r) then seen else seen ++ [.file p r], stdin))
    ([], false)
  pure (files ++ if stdin then [.stdin] else [])

def evalArgs (ast : Bool) : List String → Session → Engine → Report × Session × Engine
  | [], s, e => ([], s, e)
  | t :: ts, s, e =>
    let (out, s, e) := s.eval e t.toUTF8 false
    let x := match out with
      | .ok _ => if ast then s.expr else none
      | .error _ => none
    let (rest, s, e) := evalArgs ast ts s e
    ({ input := t, outcome := out, expr := x } :: rest, s, e)

def readInputs (fs : Files) (stdin : String) (ast : Bool) :
    List Input → Report → Session → Engine → Except Fault Report × Engine
  | [], r, _, e => (.ok r, e)
  | i :: is, r, s, e =>
    let text : Except Fault String := match i with
      | .stdin => .ok stdin
      | .file _ resolved =>
        (fs.read resolved).mapError fun pe => Fault.readInput.wrap (.note pe.message)
    match text with
    | .error f => (.error f, e)
    | .ok t =>
      let rd := LiveArith.Source.read t ast false none s e
      match rd.failure with
      | some f => (.error f, rd.engine)
      | none => readInputs fs stdin ast is (r ++ rd.report) rd.session rd.engine

def reportText (format : String) (indent : Int) (r : Report) : String :=
  if format == "json" then Report.json r indent.toNat
  else if format == "yaml" then Report.yaml r indent.toNat
  else Report.text r

def evalCommand (w : World) (s : Settled) (exprs : List String) (c : Console) : Finish :=
  match Engine.create s.engineOptions with
  | .error d => { console := c, files := w.files, error := some (.diagnostic d) }
  | .ok e =>
    let (c, e) := c.flush e
    let (sess, e) := Session.start e
    let ast := s.switch "ast"
    let (report, sess, e) := evalArgs ast exprs sess e
    let sources := s.list "source"
    let paths := if sources.isEmpty && exprs.isEmpty then ["-"] else sources
    match openInputs w.files w.place.cwd paths with
    | .error f => { console := (c.flush e).1, files := w.files, error := some (.command f) }
    | .ok inputs =>
      match readInputs w.files w.stdin ast inputs report sess e with
      | (.error f, e) => { console := (c.flush e).1, files := w.files, error := some (.other f.message) }
      | (.ok report, e) =>
        let (c, e) := c.flush e
        let c := c.print (reportText (s.text "format") (s.int "indent") report)
        let st := e.stats
        let c := c.note .debug "eval complete" [.int "expressions" report.length,
          .int "failed" report.failed, .mk "cache_hits" (.uint st.cache.hits),
          .mk "compiles" (.uint st.compiles)]
        let error := if report.failed > 0 then
            some (.command (evalFailedFault.withAttrs
              [.int "failed" report.failed, .int "total" report.length]))
          else none
        { console := c, files := w.files, error }

def configEntries (g : Grammar) (s : Settled) : List (String × Doc) :=
  g.flags.filterMap fun f =>
    if ["help", "version", "pprof"].any (f.name.startsWith ·) then none
    else match s.lookup f.name with
      | some (.switch b) => some (f.name, .bool b)
      | some (.int i) => some (f.name, Doc.int i)
      | some (.uint n) => some (f.name, .num (toString n))
      | some (.float x) => some (f.name, .num (Layout.short x))
      | some (.duration ns) => some (f.name, .str (Time.durationText ns))
      | some (.text t) => if t.isEmpty then none else some (f.name, .str t)
      | some (.list xs) => some (f.name, .str (",".intercalate xs))
      | some (.level l) => some (f.name, .str l.name)
      | some (.format fm) => some (f.name, .str fm.name)
      | none => none

def configText (g : Grammar) (s : Settled) : String :=
  "# " ++ Tool.name ++ " " ++ Tool.version ++ " configuration\n" ++
    Yaml.write 2 (.obj (configEntries g s))

def initCommand (w : World) (g : Grammar) (s : Settled) (c : Console) : Finish :=
  let path := w.configFile
  let failed := fun (cause : Fault) =>
    ({ console := c, files := w.files,
       error := some (.command ((writeConfigFault.withAttrs [.str "file" path]).wrap cause)) } :
      Finish)
  let exists_ := (w.files.stat "stat" path).toBool
  if exists_ && !s.switch "force" then failed fileExistsFault
  else
    match w.files.write path (configText g s) false with
    | .error pe => failed (.note pe.message)
    | .ok fs =>
      { console := c.note .debug "initialized configuration file" [.str "path" path], files := fs }

def stressRows (cfg : Stress.Settings) (t : Stress.Tally) (st : EngineStats) :
    List (List String) :=
  [["expressions", toString cfg.count], ["sessions", toString (max cfg.sessions 1)],
   ["seed", toString cfg.seed], ["keystrokes", toString t.keystrokes], ["elapsed", "0s"],
   ["keystrokes/s", "0"], ["latency p50", "0s"], ["latency p90", "0s"],
   ["latency p99", "0s"], ["latency max", "0s"], ["cache hits", toString st.cache.hits],
   ["cache misses", toString st.cache.misses], ["compiles", toString st.compiles],
   ["evictions", toString st.cache.evictions], ["cached", toString st.cache.size],
   ["mismatches", toString t.mismatches]]

def stressCommand (w : World) (s : Settled) (c : Console) : Finish :=
  let seed := if s.uint "seed" == 0 then w.entropy else s.uint "seed"
  match Engine.create s.engineOptions with
  | .error d => { console := c, files := w.files, error := some (.diagnostic d) }
  | .ok e =>
    let (c, e) := c.flush e
    match Engine.create s.engineOptions with
    | .error d => { console := c, files := w.files, error := some (.diagnostic d) }
    | .ok reference =>
      let (c, reference) := c.flush reference
      let cfg : Stress.Settings :=
        { count := s.int "count", depth := s.int "depth", terms := s.int "terms",
          sessions := s.int "sessions", typos := s.float "typos", seed := seed }
      let (t, e, _) := Stress.run cfg e reference
      let c := c.events t.events.reverse
      let c := c.print (Stress.table ["metric", "value"] (stressRows cfg t e.stats) ++ "\n")
      let error := if t.mismatches > 0 then
          some (.command (stressFault.withAttrs
            [.int "failures" t.mismatches, .mk "seed" (.uint seed)]))
        else none
      { console := c, files := w.files, error }

def noTerminal : String := "could not open a new TTY: open /dev/tty: no such device or address"

def replCommand (w : World) (s : Settled) (c : Console) : Finish :=
  match Engine.create s.engineOptions with
  | .error d => { console := c, files := w.files, error := some (.diagnostic d) }
  | .ok e =>
    let (c, _) := c.flush e
    let c := c.note .debug "repl" [.str "cache_dir" w.cacheDir]
    let (loaded, h) := ({ path := some w.historyFile } : History).load w.files
    let c := match loaded with
      | .error err => c.note .warn "could not load history"
          [.str "path" w.historyFile, .mk "error" (.error err.message)]
      | .ok () => c
    let c := c.note .trace "repl start" [.str "cache_dir" w.cacheDir, .int "history" h.size]
    { console := c, files := w.files, error := some (.other noTerminal) }

/-- What a run leaves behind. -/
structure Outcome where
  stdout : String := ""
  exit : Option Nat := none
  error : Option RunError := none
  log : String := ""
  files : Files

def readConfig (fs : Files) (path : String) : Except String (List (String × Given)) :=
  match fs.stat "open" path with
  | .error _ => .ok []
  | .ok _ =>
    match fs.read path with
    | .error pe => .error pe.message
    | .ok text => loadConfig text

def helpText (g : Grammar) (command : Option String) : String :=
  match command.bind g.command? with
  | some c => Help.command g c
  | none => Help.program g

def execute (w : World) (words : List String) : Outcome :=
  let w := { w with files := (w.files.mkdirAll w.configDir).mkdirAll w.cacheDir }
  let g := grammar w.cacheDir
  let c : Console := { logger := Log.Logger.make .kept (scanLog words), now := w.now, site := w.site }
  let stop := fun (c : Console) (fs : Files) (exit : Option Nat) (error : Option RunError) =>
    ({ stdout := c.out, exit, error, log := c.log, files := fs } : Outcome)
  let (config, c) := match readConfig w.files w.configFile with
    | .ok cfg => (cfg, c)
    | .error msg => ([], c.note .warn "ignoring invalid configuration file" [.str "error" msg])
  match trace g w.place words with
  | .error msg => stop c w.files none (some (.usage msg))
  | .ok st =>
    match st.hooks.head? with
    | some "help" => stop (c.print (helpText g st.command)) w.files (some 0) none
    | some _ => stop (c.print (Tool.version ++ "\n")) w.files (some 0) none
    | none =>
      match settle g w.place st config with
      | .error msg => stop c w.files none (some (.usage msg))
      | .ok vals =>
        let s : Settled := vals
        let layout := s.text "log-time-layout"
        let c := { c with logger := c.logger.wrap [.level s.level, .format s.format,
          .timeLayout layout, .caller (s.switch "log-caller"), .pretty (s.switch "log-pretty")] }
        let c := c.note .debug "logger initialized" [.str "level" s.level.name,
          .str "format" s.format.name, .str "time" layout, .mk "caller" (.bool (s.switch "log-caller")),
          .mk "pretty" (.bool (s.switch "log-pretty"))]
        let mode := s.text "pprof-mode"
        let profile := [.str "mode" mode, .str "dir" (s.text "pprof-dir")]
        let profiling := Profile.valid mode
        let c := if profiling then c.note .debug "pprof start" profile else c
        let f := match st.command with
          | some "init" => initCommand w g s c
          | some "eval" => evalCommand w s st.args c
          | some "stress" => stressCommand w s c
          | _ => replCommand w s c
        let c := if profiling then f.console.note .debug "pprof stop" profile else f.console
        stop c f.files none f.error

end LiveArith.Cli
