import LiveArith.Log.Level
import LiveArith.Profile
import LiveArith.Tool

/-!
The command line: flags, commands and arguments, and the values they take.
-/

set_option autoImplicit false

namespace LiveArith.Cli

/-- How the text of a flag or argument is read. -/
inductive Reader where
  | switch
  | int
  | uint
  | float
  | duration
  | text
  | path
  | list
  | level
  | format
deriving Repr, BEq, DecidableEq, Inhabited

/-- A titled group of flags in help. -/
structure Group where
  key : String
  title : String
deriving Repr, BEq, Inhabited

structure Flag where
  name : String
  help : String
  reader : Reader
  short : Option Char := none
  default : Option String := none
  placeholder : Option String := none
  choices : Option (List String) := none
  negatable : Bool := false
  group : Option Group := none
deriving Repr, Inhabited

/-- A positional argument; every argument here gathers all the remaining values. -/
structure Arg where
  name : String
  help : String
  optional : Bool := true
deriving Repr, Inhabited

structure Command where
  name : String
  help : String
  flags : List Flag := []
  args : List Arg := []
deriving Repr, Inhabited

/-- A program's command line. -/
structure Grammar where
  name : String
  description : String
  flags : List Flag
  commands : List Command
  defaultCommand : Option String
deriving Repr, Inhabited

namespace Grammar

def command? (g : Grammar) (name : String) : Option Command := g.commands.find? (·.name == name)

def flagsAt (g : Grammar) (cmd : Option String) : List Flag :=
  g.flags ++ ((cmd.bind g.command?).map (·.flags)).getD []

def allFlags (g : Grammar) : List Flag := g.flags ++ (g.commands.map (·.flags)).flatten

end Grammar

/-- A value a flag or argument holds. -/
inductive Value where
  | switch (b : Bool)
  | int (i : Int)
  | uint (n : Nat)
  | float (x : Float)
  | duration (ns : Int)
  | text (s : String)
  | list (xs : List String)
  | level (l : Log.Level)
  | format (f : Log.Format)
deriving Inhabited

def logGroup : Group := ⟨"log", "Logging options"⟩
def profileGroup : Group := ⟨"pprof", "Profiling (pprof)"⟩
def engineGroup : Group := ⟨"engine", "Engine options"⟩

def exprHelp : String :=
  "Expressions to evaluate. Without arguments or --source, lines are read from stdin."

def grammar (cacheDir : String) : Grammar where
  name := Tool.name
  description := Tool.description
  flags := [
    { name := "help", help := "Show context-sensitive help.", reader := .switch, short := some 'h' },
    { name := "log-level", help := "Set log level.", reader := .level, default := some "info",
      choices := some (Log.Level.named.map Prod.snd), group := some logGroup },
    { name := "log-format", help := "Set log format.", reader := .format, default := some "text",
      choices := some ["text", "json"], group := some logGroup },
    { name := "log-time-layout", help := "Set timestamp format.", reader := .text,
      default := some "RFC3339", group := some logGroup },
    { name := "log-caller", help := "Include caller information.", reader := .switch,
      default := some "false", negatable := true, group := some logGroup },
    { name := "log-pretty", help := "Enable colorized pretty printing.", reader := .switch,
      default := some "true", negatable := true, group := some logGroup },
    { name := "pprof-mode", help := "Enable profiling.", reader := .text, short := some 'p',
      placeholder := some (",".intercalate ("" :: Profile.modes)),
      choices := some ("" :: Profile.modes), group := some profileGroup },
    { name := "pprof-dir", help := "Profile output directory.", reader := .path,
      default := some (cacheDir ++ "/pprof"), group := some profileGroup },
    { name := "retention", help := "Evict compiled expressions unused for this long.",
      reader := .duration, default := some "5m0s", group := some engineGroup },
    { name := "sweep-interval", help := "Period of the background cache sweep.",
      reader := .duration, default := some "30s", group := some engineGroup },
    { name := "max-entries", help := "Maximum cached expressions (0 for unbounded).",
      reader := .int, default := some "0", group := some engineGroup },
    { name := "max-input", help := "Maximum expression length in bytes.", reader := .int,
      default := some "1048576", group := some engineGroup },
    { name := "max-depth", help := "Maximum parenthesis nesting depth.", reader := .int,
      default := some "512", group := some engineGroup },
    { name := "optimize", help := "Fold constants before code generation.", reader := .switch,
      default := some "true", negatable := true, group := some engineGroup },
    { name := "version", help := "Print version and exit.", reader := .switch, short := some 'V' }]
  commands := [
    { name := "init", help := "Write the current flag values to the configuration file",
      flags := [{ name := "force", help := "Overwrite existing configuration file",
                  reader := .switch, short := some 'f' }] },
    { name := "eval", help := "Evaluate expressions from arguments, files, or stdin",
      flags := [
        { name := "source", help := "Read expressions from file(s), or '-' for stdin.",
          reader := .list, short := some 's' },
        { name := "format", help := "Output format.", reader := .text, short := some 'o',
          default := some "text", choices := some ["text", "json", "yaml"] },
        { name := "indent", help := "Indent width for json and yaml output (0 for compact).",
          reader := .int, default := some "2" },
        { name := "ast", help := "Include the parsed expression and its structural hash.",
          reader := .switch }],
      args := [{ name := "expr", help := exprHelp }] },
    { name := "stress",
      help := "Type random expressions and compare incremental results with full evaluation",
      flags := [
        { name := "count", help := "Number of expressions to type.", reader := .int,
          short := some 'n', default := some "1000" },
        { name := "depth", help := "Maximum parenthesis nesting of generated expressions.",
          reader := .int, default := some "3" },
        { name := "terms", help := "Maximum operands per (sub)expression.", reader := .int,
          default := some "5" },
        { name := "sessions", help := "Concurrent sessions sharing one engine.", reader := .int,
          short := some 'j', default := some "1" },
        { name := "typos", help := "Probability of a mistyped character followed by a backspace.",
          reader := .float, default := some "0.1" },
        { name := "seed", help := "Random seed (0 picks one).", reader := .uint,
          default := some "0" }] },
    { name := "repl", help := "Evaluate expressions live as they are typed" }]
  defaultCommand := some "repl"

end LiveArith.Cli
