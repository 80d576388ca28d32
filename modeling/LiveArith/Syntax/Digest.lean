import LiveArith.Hash.Xxh3
import LiveArith.Syntax.Kind

/-!
Digests of error-free expressions, so that a later parse can tell an unchanged operand. A literal's
digest hashes its kind and text; a composite's digest hashes its shape tag and the digests of its
parts as little-endian words, so no text is hashed twice.
-/

set_option autoImplicit false

namespace LiveArith.Syntax.Digest

def tagLiteral : UInt8 := 0
def tagParenthesized : UInt8 := 1
def tagBinary : UInt8 := 2

def nonzero (h : UInt64) : UInt64 := if h == 0 then 1 else h

def wordBytes (x : UInt64) : List UInt8 :=
  (List.range 8).map fun k => (x >>> (8 * k).toUInt64).toUInt8

def literal (kind : Kind) (text : ByteArray) : UInt64 :=
  nonzero (Xxh3.hash64 (ByteArray.mk #[tagLiteral, kind.code.toUInt8] ++ text))

def combine (tag : UInt8) (parts : List UInt64) : UInt64 :=
  nonzero (Xxh3.hashList (tag :: parts.flatMap wordBytes))

end LiveArith.Syntax.Digest
