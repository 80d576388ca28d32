import LiveArith.Text.Utf8
import LiveArith.Text.Printable

/-!
Double-quoted text with escapes, as error messages show an offending input.
-/

set_option autoImplicit false

namespace LiveArith.Quote

def hex (n width : Nat) : String :=
  let ds := Nat.toDigits 16 n
  String.ofList (List.replicate (width - ds.length) '0' ++ ds)

def escapeChar (c : Char) : String :=
  let n := c.toNat
  if c == '"' then "\\\""
  else if c == '\\' then "\\\\"
  else if Printable.test c then c.toString
  else if n == 7 then "\\a"
  else if n == 8 then "\\b"
  else if n == 12 then "\\f"
  else if n == 10 then "\\n"
  else if n == 13 then "\\r"
  else if n == 9 then "\\t"
  else if n == 11 then "\\v"
  else if n < 0x20 || n == 0x7F then "\\x" ++ hex n 2
  else if n < 0x10000 then "\\u" ++ hex n 4
  else "\\U" ++ hex n 8

def escapeFrom (b : ByteArray) (stop i : Nat) (acc : String) : String :=
  if i < stop then
    match Utf8.decodeAt b i with
    | some (c, n) => escapeFrom b stop (i + n + 1) (acc ++ escapeChar c)
    | none => escapeFrom b stop (i + 1) (acc ++ "\\x" ++ hex (Utf8.byteAt b i).toNat 2)
  else acc
termination_by stop - i

def bytes (b : ByteArray) : String :=
  escapeFrom b b.size 0 "\"" ++ "\""

def text (s : String) : String := bytes s.toUTF8

end LiveArith.Quote
