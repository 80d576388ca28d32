import LiveArith.Cli.Grammar
import LiveArith.Text.Wrap
import LiveArith.Text.Quote

/-!
Help text for the program and for each command, eighty columns wide.
-/

set_option autoImplicit false

namespace LiveArith.Cli.Help

def width : Nat := 80

def gap : Nat := 4

def spaces (n : Nat) : String := String.ofList (List.replicate n ' ')

def line (indent text : String) : String :=
  String.ofList ((indent ++ text).toList.reverse.dropWhile (· == ' ')).reverse

def para (indent : String) (w : Nat) (text : String) : List String :=
  match Wrap.lines text w with
  | [] => [line indent ""]
  | ls => ls.map (line indent)

def columns (indent : String) (w : Nat) (rows : List (String × String)) : List String :=
  let maxLeft := max 30 (375 * w / 1000)
  let leftSize := rows.foldl (fun m (l, _) => if l.length > m && l.length < maxLeft then l.length else m) 0
  rows.flatMap fun (l, h) =>
    let hs := Wrap.lines h (Int.ofNat w - Int.ofNat leftSize - Int.ofNat gap)
    let padded := l ++ spaces (leftSize - l.length)
    if l.length < maxLeft then
      line indent (padded ++ spaces gap ++ hs.headD "") ::
        (hs.drop 1).map fun x => line indent (spaces (leftSize + gap) ++ x)
    else line indent padded :: hs.map fun x => line indent (spaces (leftSize + gap) ++ x)

def placeholder (f : Flag) : String :=
  let tail := if f.reader == .list then ",..." else ""
  match f.placeholder, f.default with
  | some p, _ => p ++ tail
  | none, some d =>
    if d.isEmpty then f.name.toUpper ++ tail
    else if f.reader == .text || f.reader == .path then Quote.text d ++ tail else d ++ tail
  | none, none => f.name.toUpper ++ tail

def flagName (padShort : Bool) (f : Flag) : String :=
  let short := match f.short with
    | some c => "-" ++ c.toString ++ ", "
    | none => if padShort then "    " else ""
  let name := if f.reader == .switch && f.negatable then "[no-]" ++ f.name else f.name
  short ++ "--" ++ name ++ (if f.reader == .switch then "" else "=" ++ placeholder f)

def flagRows (levels : List (List Flag)) : List (String × String) :=
  let padShort := levels.any fun l => l.any (·.short.isSome)
  let rows := levels.map fun l => l.map fun f => (flagName padShort f, f.help)
  (rows.intersperse [("", "")]).flatten

def Arg.summary (a : Arg) : String :=
  let t := "<" ++ a.name ++ "> ..."
  if a.optional then "[" ++ t ++ "]" else t

def flagSections (levels : List (List Flag)) : List String :=
  let ungrouped := (levels.map fun l => l.filter (·.group.isNone)).filter (!·.isEmpty)
  let groups := levels.flatten.foldl (fun (gs : List Group) f =>
    match f.group with
    | some g => if gs.any (·.key == g.key) then gs else gs ++ [g]
    | none => gs) []
  let part := fun (title : String) (ls : List (List Flag)) =>
    "" :: para "" width title ++ columns "  " (width - 2) (flagRows ls)
  (if ungrouped.isEmpty then [] else part "Flags:" ungrouped) ++
    groups.flatMap fun g =>
      part g.title ((levels.map fun l => l.filter fun f => f.group.any (·.key == g.key)).filter
        (!·.isEmpty))

def commandRows (cmds : List Command) : List (String × String) :=
  let one := fun (c : Command) => (c.name, c.help) :: c.args.map fun a => ("  " ++ Arg.summary a, a.help)
  ((cmds.map one).intersperse [("", "")]).flatten

def program (g : Grammar) : String :=
  let ls :=
    ["Usage: " ++ g.name ++ " <command> [flags]"] ++
    (if g.description.isEmpty then [] else "" :: para "" width g.description) ++
    flagSections [g.flags] ++
    (if g.commands.isEmpty then []
     else ["", "Commands:"] ++ columns "  " (width - 2) (commandRows g.commands)) ++
    ["", "Run \"" ++ g.name ++ " <command> --help\" for more information on a command."]
  String.join (ls.map (· ++ "\n"))

def usage (c : Command) : String :=
  c.name ++ String.join (c.args.map (" " ++ Arg.summary ·)) ++ " [flags]"

def command (g : Grammar) (c : Command) : String :=
  let ls :=
    ["Usage: " ++ g.name ++ " " ++ usage c] ++
    (if c.help.isEmpty then [] else "" :: para "" width c.help) ++
    (if c.args.isEmpty then []
     else ["", "Arguments:"] ++ columns "  " (width - 2) (c.args.map fun a => (Arg.summary a, a.help))) ++
    flagSections ([g.flags] ++ (if c.flags.isEmpty then [] else [c.flags]))
  String.join (ls.map (· ++ "\n"))

end LiveArith.Cli.Help
