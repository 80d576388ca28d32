/-!
Base64 text with the standard alphabet (`A`–`Z`, `a`–`z`, `0`–`9`, `+`, `/`) and `=` padding. Text
is read in groups of four characters, each giving three bytes; line breaks anywhere are skipped.
-/

set_option autoImplicit false

namespace LiveArith.Base64

def sextet (b : UInt8) : Option Nat :=
  let n := b.toNat
  if 65 ≤ n && n ≤ 90 then some (n - 65)
  else if 97 ≤ n && n ≤ 122 then some (n - 97 + 26)
  else if 48 ≤ n && n ≤ 57 then some (n - 48 + 52)
  else if n == 43 then some 62
  else if n == 47 then some 63
  else none

def isBreak (b : UInt8) : Bool := b == 10 || b == 13

def pad : UInt8 := 61

def skipBreaks (src : Array UInt8) : Nat → Nat → Nat
  | 0, si => si
  | fuel + 1, si =>
    match src[si]? with
    | some b => if isBreak b then skipBreaks src fuel (si + 1) else si
    | none => si

def bytesOf (vals : List Nat) : List UInt8 :=
  let v := fun (i : Nat) => vals.getD i 0
  let n := v 0 * Nat.pow 2 18 + v 1 * Nat.pow 2 12 + v 2 * Nat.pow 2 6 + v 3
  ([n / 65536 % 256, n / 256 % 256, n % 256].take (vals.length - 1)).map UInt8.ofNat

/-- One group read from `si`: where reading goes on, the bytes, and a failure's offset. -/
structure Group where
  next : Nat
  bytes : List UInt8
  error : Option Nat := none

def group (src : Array UInt8) : Nat → Nat → List Nat → Group
  | 0, si, _ => ⟨si, [], some si⟩
  | fuel + 1, si, vals =>
    let j := vals.length
    if j == 4 then ⟨si, bytesOf vals, none⟩
    else
      match src[si]? with
      | none => if j == 0 then ⟨si, [], none⟩ else ⟨si, [], some (si - j)⟩
      | some c =>
        match sextet c with
        | some v => group src fuel (si + 1) (vals ++ [v])
        | none =>
          if isBreak c then group src fuel (si + 1) vals
          else if c != pad || j < 2 then ⟨si + 1, [], some si⟩
          else
            -- a group of two sextets needs a second padding character
            let padded : Except Nat Nat :=
              if j == 2 then
                let s2 := skipBreaks src src.size (si + 1)
                match src[s2]? with
                | none => .error src.size
                | some d => if d == pad then .ok (s2 + 1) else .error (s2 - 1)
              else .ok (si + 1)
            match padded with
            | .error e => ⟨si + 1, [], some e⟩
            | .ok s3 =>
              let s4 := skipBreaks src src.size s3
              ⟨s4, bytesOf vals, if s4 < src.size then some s4 else none⟩

/-- What reading base64 text gives: the bytes read before it stopped and, when it stopped
before the end, the offset where it failed. -/
structure Decoded where
  bytes : List UInt8
  error : Option Nat
deriving Repr, BEq, DecidableEq

def decodeFrom (src : Array UInt8) : Nat → Nat → List UInt8 → Decoded
  | 0, _, acc => ⟨acc, none⟩
  | fuel + 1, si, acc =>
    if si < src.size then
      let g := group src (src.size + 1) si []
      match g.error with
      | some e => ⟨acc ++ g.bytes, some e⟩
      | none => decodeFrom src fuel g.next (acc ++ g.bytes)
    else ⟨acc, none⟩

def decode (s : String) : Decoded :=
  let src := s.toUTF8.data
  decodeFrom src (src.size + 1) 0 []

example : decode "aGk=" = ⟨[104, 105], none⟩ := by decide
example : decode "aGV5\nIQ==" = ⟨[104, 101, 121, 33], none⟩ := by decide
example : decode "aG=k" = ⟨[], some 2⟩ := by decide
example : decode "aGVsbG8" = ⟨[104, 101, 108], some 4⟩ := by decide
example : decode "aGk=x" = ⟨[104, 105], some 4⟩ := by decide

end LiveArith.Base64
