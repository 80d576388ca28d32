/-!
Signed 64-bit words. Offsets and levels are machine words: a sum that leaves the range of 64-bit
integers comes back from the other end.
-/

set_option autoImplicit false

namespace LiveArith.Word

def wrap (x : Int) : Int := (Int64.ofInt x).toInt

example : wrap 5 = 5 := by decide
example : wrap (9223372036854775807 + 1) = -9223372036854775808 := by decide

end LiveArith.Word
