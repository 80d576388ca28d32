import LiveArith.Cli.Run

/-!
The command line. It runs the calculator's command line on the words it is given, over standard
input and output, in a fresh set of files that holds the user's configuration and cache directories:
no file of the machine is read or written. Standard input is read to its end first.
-/

set_option autoImplicit false

open LiveArith

partial def readAll (s : IO.FS.Stream) (acc : String) : IO String := do
  let line ← s.getLine
  if line.isEmpty then pure acc else readAll s (acc ++ line)

def main (args : List String) : IO UInt32 := do
  let stdin ← readAll (← IO.getStdin) ""
  let home ← IO.getEnv "HOME"
  let cwd := (← IO.getEnv "PWD").getD "/"
  let configDir := Tool.userDir (← IO.getEnv "XDG_CONFIG_HOME") home ".config" cwd Tool.name
  let cacheDir := Tool.userDir (← IO.getEnv "XDG_CACHE_HOME") home ".cache" cwd Tool.name
  let w : Cli.World := { files := ({} : Files).mkdirAll cwd, stdin, configDir, cacheDir,
                         place := ⟨cwd, home.getD cwd⟩ }
  let o := Cli.execute w args
  IO.print o.stdout
  IO.eprint o.log
  match o.error with
  | some e =>
    IO.eprintln ("run failed: " ++ e.message)
    pure 1
  | none => pure (UInt32.ofNat (o.exit.getD 0))
