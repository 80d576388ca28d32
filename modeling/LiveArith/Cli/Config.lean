import LiveArith.Cli.Parse
import LiveArith.Yaml.Read
import LiveArith.Number.Layout

/-!
The configuration file: a YAML mapping whose keys name flags. Nested mappings join their keys with
`-`, and `_` in a key reads as `-`, so `log: {level: debug}` and `log_level: debug` both set
`--log-level`; when two entries set one flag, the later wins.
-/

set_option autoImplicit false

namespace LiveArith.Cli

open Yaml

def itemText : Node → String
  | .float x => Layout.fixed x
  | .seq items => ",".intercalate (items.attach.map fun ⟨n, _⟩ => itemText n)
  | n => n.text

def given? : Node → Option Given
  | .null => none
  | .bool b => some (.bool b)
  | .str s => some (.text s)
  | n => some (.text (itemText n))

def flagKey (pre k : String) : String :=
  let k := String.ofList (k.toList.map fun c => if c == '_' then '-' else c)
  if pre.isEmpty then k else pre ++ "-" ++ k

mutual
def flatten (pre : String) : List (String × Node) → List (String × Given)
  | [] => []
  | (k, v) :: rest => flattenOne (flagKey pre k) v ++ flatten pre rest

def flattenOne (key : String) : Node → List (String × Given)
  | .map es => flatten key es
  | n => match given? n with
    | some g => [(key, g)]
    | none => []
end

def loadConfig (text : String) : Except String (List (String × Given)) :=
  match Yaml.read text with
  | .error e => .error (e.render text)
  | .ok none => .ok []
  | .ok (some (.map es, _, _)) => .ok (flatten "" es).reverse
  | .ok (some (.null, _, _)) => .ok []
  | .ok (some (n, line, col)) =>
    .error (ReadError.render (.at line col (n.kind ++ " was used where mapping is expected")) text)

end LiveArith.Cli
