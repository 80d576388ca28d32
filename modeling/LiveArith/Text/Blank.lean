/-!
White space as Unicode defines it: the ASCII blanks tab, line feed, vertical tab, form feed,
carriage return and space, next line (U+0085), no-break space (U+00A0), and the space separators and
line and paragraph separators above them. Trimming removes such characters at both ends.
-/

set_option autoImplicit false

namespace LiveArith.Blank

def isSpace (c : Char) : Bool :=
  let n := c.toNat
  (9 ≤ n && n ≤ 13) || n == 32 || n == 0x85 || n == 0xA0 || n == 0x1680 ||
  (0x2000 ≤ n && n ≤ 0x200A) || n == 0x2028 || n == 0x2029 || n == 0x202F ||
  n == 0x205F || n == 0x3000

def trim (s : String) : String :=
  String.ofList (((s.toList.dropWhile isSpace).reverse.dropWhile isSpace).reverse)

example : trim " \t1 + 2 \n" = "1 + 2" := by decide

end LiveArith.Blank
