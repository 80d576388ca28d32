/-!
Byte text and its UTF-8 reading. Source text is kept as bytes, since an edit may cut a character in
two; a reader walks it one decoding step at a time, where a step is either a well-formed encoded
character or a single byte that starts none.
-/

set_option autoImplicit false

namespace LiveArith.Utf8

def byteAt (b : ByteArray) (i : Nat) : UInt8 :=
  if h : i < b.size then b[i] else 0

def startsChar (x : UInt8) : Bool := x &&& 0xC0 != 0x80

def boundary (b : ByteArray) (i : Nat) : Bool :=
  b.size ≤ i || startsChar (byteAt b i)

def lead (x : UInt8) : Option (Nat × UInt8 × UInt8) :=
  if x < 0x80 then some (0, 0, 0)
  else if x < 0xC2 then none
  else if x < 0xE0 then some (1, 0x80, 0xBF)
  else if x == 0xE0 then some (2, 0xA0, 0xBF)
  else if x == 0xED then some (2, 0x80, 0x9F)
  else if x < 0xF0 then some (2, 0x80, 0xBF)
  else if x == 0xF0 then some (3, 0x90, 0xBF)
  else if x < 0xF4 then some (3, 0x80, 0xBF)
  else if x == 0xF4 then some (3, 0x80, 0x8F)
  else none

def decodeAt (b : ByteArray) (i : Nat) : Option (Char × Nat) :=
  match lead (byteAt b i) with
  | none => none
  | some (0, _, _) => some (Char.ofNat (byteAt b i).toNat, 0)
  | some (n, lo, hi) =>
    if b.size < i + 1 + n then none
    else
      let x1 := byteAt b (i + 1)
      if x1 < lo || hi < x1 then none
      else
        let cont := fun (k : Nat) => byteAt b (i + k)
        let ok := (List.range (n - 1)).all fun k => (cont (k + 2)) &&& 0xC0 == 0x80
        if !ok then none
        else
          let first := (byteAt b i).toNat
          let mask := if n == 1 then 0x1F else if n == 2 then 0x0F else 0x07
          let code := (List.range n).foldl
            (fun acc k => acc * 64 + ((cont (k + 1)).toNat &&& 0x3F)) (first &&& mask)
          some (Char.ofNat code, n)

def stepAt (b : ByteArray) (i : Nat) : Nat :=
  match decodeAt b i with
  | some (_, n) => n + 1
  | none => 1

theorem stepAt_pos (b : ByteArray) (i : Nat) : 0 < stepAt b i := by
  unfold stepAt
  split <;> omega

def countFrom (b : ByteArray) (stop i : Nat) : Nat :=
  if i < stop then countFrom b stop (i + stepAt b i) + 1 else 0
termination_by stop - i
decreasing_by have := stepAt_pos b i; omega

def charsFrom (b : ByteArray) (stop i : Nat) (acc : List Char) : List Char :=
  if i < stop then
    match decodeAt b i with
    | some (c, n) => charsFrom b stop (i + n + 1) (c :: acc)
    | none => charsFrom b stop (i + 1) ('�' :: acc)
  else acc.reverse
termination_by stop - i

def toText (b : ByteArray) : String :=
  String.ofList (charsFrom b b.size 0 [])

def slice (b : ByteArray) (start stop : Nat) : ByteArray :=
  b.extract start stop

def runeCount (b : ByteArray) (start stop : Nat) : Nat :=
  let s := slice b start stop
  countFrom s s.size 0

def textOf (b : ByteArray) (start stop : Nat) : String :=
  toText (slice b start stop)

end LiveArith.Utf8
