import LiveArith.Log.Attr
import LiveArith.Log.Level

/-!
Events worth logging, kept by the parts of the program that produce them until a logger writes them:
a level, a message and fields, without a time or a caller.
-/

set_option autoImplicit false

namespace LiveArith.Log

/-- Something that happened, to be logged. -/
structure Event where
  level : Level
  msg : String
  attrs : List Attr := []

end LiveArith.Log
