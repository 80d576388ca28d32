import LiveArith.Text.Quote

/-!
Reading whole numbers from text.
-/

set_option autoImplicit false

namespace LiveArith

/-- Why a number could not be read. -/
inductive NumberFault.Reason where
  | malformed
  | range
deriving Repr, Inhabited, BEq, DecidableEq

/-- A number that could not be read: which reader, the input, and why. -/
structure NumberFault where
  reader : String
  input : String
  reason : NumberFault.Reason
deriving Repr, Inhabited, BEq

namespace NumberFault

def message (f : NumberFault) : String :=
  "strconv." ++ f.reader ++ ": parsing " ++ Quote.text f.input ++ ": " ++
    (match f.reason with
     | .malformed => "invalid syntax"
     | .range => "value out of range")

end NumberFault

namespace IntSyntax

def digitValue (c : Char) : Option Nat :=
  if '0' ≤ c && c ≤ '9' then some (c.toNat - '0'.toNat)
  else
    let l := c.toLower
    if 'a' ≤ l && l ≤ 'z' then some (l.toNat - 'a'.toNat + 10) else none

def underscoresOk (s : List Char) : Bool :=
  let s := match s with
    | c :: r => if c == '-' || c == '+' then r else s
    | [] => []
  let (hexa, saw, rest) := match s with
    | '0' :: c :: r =>
      let l := c.toLower
      if l == 'b' || l == 'o' || l == 'x' then (l == 'x', '0', r) else (false, '^', s)
    | _ => (false, '^', s)
  let step := fun (st : Option Char) (c : Char) =>
    match st with
    | none => none
    | some saw =>
      if ('0' ≤ c && c ≤ '9') || (hexa && 'a' ≤ c.toLower && c.toLower ≤ 'f') then some '0'
      else if c == '_' then (if saw == '0' then some '_' else none)
      else if saw == '_' then none
      else some '!'
  match rest.foldl step (some saw) with
  | some last => last != '_'
  | none => false

def digitsValue (cs : List Char) (base : Nat) (allowUnderscore : Bool) (max : Nat) :
    Except NumberFault.Reason Nat :=
  cs.foldlM (fun n c =>
    if allowUnderscore && c == '_' then .ok n
    else match digitValue c with
      | some d =>
        if d ≥ base then .error .malformed
        else
          let n' := n * base + d
          if n' > max then .error .range else .ok n'
      | none => .error .malformed) 0

def readUnsigned (reader : String) (s : String) (base : Nat) (bits : Nat) :
    Except NumberFault Nat :=
  let fail := fun (r : NumberFault.Reason) => Except.error (NumberFault.mk reader s r)
  let cs := s.toList
  if cs.isEmpty then fail .malformed
  else
    let (base, body, base0) :=
      if base == 0 then
        match cs with
        | '0' :: c :: d :: r =>
          let l := c.toLower
          if l == 'x' then (16, d :: r, true)
          else if l == 'o' then (8, d :: r, true)
          else if l == 'b' then (2, d :: r, true)
          else (8, c :: d :: r, true)
        | '0' :: r => (8, r, true)
        | _ => (10, cs, true)
      else (base, cs, false)
    match digitsValue body base base0 (Nat.pow 2 bits - 1) with
    | .error r => fail r
    | .ok n => if base0 && cs.contains '_' && !underscoresOk cs then fail .malformed else .ok n

def readSigned (s : String) (base : Nat) (bits : Nat) : Except NumberFault Int :=
  let reader := "ParseInt"
  let fail := fun (r : NumberFault.Reason) => Except.error (NumberFault.mk reader s r)
  let cs := s.toList
  if cs.isEmpty then fail .malformed
  else
    let (neg, body) := match cs with
      | '+' :: r => (false, r)
      | '-' :: r => (true, r)
      | _ => (false, cs)
    let cutoff := Nat.pow 2 (bits - 1)
    match readUnsigned reader (String.ofList body) base bits with
    | .error f =>
      if f.reason == .range then fail .range else fail f.reason
    | .ok n =>
      if !neg && n ≥ cutoff then fail .range
      else if neg && n > cutoff then fail .range
      else .ok (if neg then -(n : Int) else n)

def readInt64 (s : String) : Except NumberFault Int64 :=
  (readSigned s 10 64).map Int64.ofInt

def readUInt64 (s : String) : Except NumberFault UInt64 :=
  (readUnsigned "ParseUint" s 0 64).map UInt64.ofNat

end IntSyntax

end LiveArith
