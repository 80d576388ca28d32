/-!
The 64-bit XXH3 hash with seed zero and the standard secret. Structural hashes of expressions and
the digests of syntax nodes are this function of a byte encoding, so two values hash alike exactly
when their encodings collide under it.
-/

set_option autoImplicit false

namespace LiveArith.Xxh3

def secret : ByteArray := ByteArray.mk #[
  0xb8, 0xfe, 0x6c, 0x39, 0x23, 0xa4, 0x4b, 0xbe, 0x7c, 0x01, 0x81, 0x2c, 0xf7, 0x21, 0xad, 0x1c,
  0xde, 0xd4, 0x6d, 0xe9, 0x83, 0x90, 0x97, 0xdb, 0x72, 0x40, 0xa4, 0xa4, 0xb7, 0xb3, 0x67, 0x1f,
  0xcb, 0x79, 0xe6, 0x4e, 0xcc, 0xc0, 0xe5, 0x78, 0x82, 0x5a, 0xd0, 0x7d, 0xcc, 0xff, 0x72, 0x21,
  0xb8, 0x08, 0x46, 0x74, 0xf7, 0x43, 0x24, 0x8e, 0xe0, 0x35, 0x90, 0xe6, 0x81, 0x3a, 0x26, 0x4c,
  0x3c, 0x28, 0x52, 0xbb, 0x91, 0xc3, 0x00, 0xcb, 0x88, 0xd0, 0x65, 0x8b, 0x1b, 0x53, 0x2e, 0xa3,
  0x71, 0x64, 0x48, 0x97, 0xa2, 0x0d, 0xf9, 0x4e, 0x38, 0x19, 0xef, 0x46, 0xa9, 0xde, 0xac, 0xd8,
  0xa8, 0xfa, 0x76, 0x3f, 0xe3, 0x9c, 0x34, 0x3f, 0xf9, 0xdc, 0xbb, 0xc7, 0xc7, 0x0b, 0x4f, 0x1d,
  0x8a, 0x51, 0xe0, 0x4b, 0xcd, 0xb4, 0x59, 0x31, 0xc8, 0x9f, 0x7e, 0xc9, 0xd9, 0x78, 0x73, 0x64,
  0xea, 0xc5, 0xac, 0x83, 0x34, 0xd3, 0xeb, 0xc3, 0xc5, 0x81, 0xa0, 0xff, 0xfa, 0x13, 0x63, 0xeb,
  0x17, 0x0d, 0xdd, 0x51, 0xb7, 0xf0, 0xda, 0x49, 0xd3, 0x16, 0x55, 0x26, 0x29, 0xd4, 0x68, 0x9e,
  0x2b, 0x16, 0xbe, 0x58, 0x7d, 0x47, 0xa1, 0xfc, 0x8f, 0xf8, 0xb8, 0xd1, 0x7a, 0xd0, 0x31, 0xce,
  0x45, 0xcb, 0x3a, 0x8f, 0x95, 0x16, 0x04, 0x28, 0xaf, 0xd7, 0xfb, 0xca, 0xbb, 0x4b, 0x40, 0x7e]

def prime32a : UInt64 := 0x9E3779B1
def prime32b : UInt64 := 0x85EBCA77
def prime32c : UInt64 := 0xC2B2AE3D
def prime64a : UInt64 := 0x9E3779B185EBCA87
def prime64b : UInt64 := 0xC2B2AE3D27D4EB4F
def prime64c : UInt64 := 0x165667B19E3779F9
def prime64d : UInt64 := 0x85EBCA77C2B2AE63
def prime64e : UInt64 := 0x27D4EB2F165667C5
def primeMx1 : UInt64 := 0x165667919E3779F9
def primeMx2 : UInt64 := 0x9FB21C651E98DF25

def byte (b : ByteArray) (i : Nat) : UInt64 :=
  if h : i < b.size then b[i].toUInt64 else 0

def readLE (b : ByteArray) (i n : Nat) : UInt64 :=
  (List.range n).foldr (fun k acc => (acc <<< 8) ||| byte b (i + k)) 0

def read64 (b : ByteArray) (i : Nat) : UInt64 := readLE b i 8
def read32 (b : ByteArray) (i : Nat) : UInt64 := readLE b i 4

def rotl (x : UInt64) (r : UInt64) : UInt64 := (x <<< r) ||| (x >>> (64 - r))

def swap64 (x : UInt64) : UInt64 :=
  (List.range 8).foldl (fun acc k => (acc <<< 8) ||| ((x >>> (8 * k).toUInt64) &&& 0xFF)) 0

def mulFold (a b : UInt64) : UInt64 :=
  let p := a.toNat * b.toNat
  UInt64.ofNat p ^^^ UInt64.ofNat (p >>> 64)

def avalanche64 (h : UInt64) : UInt64 :=
  let h := h ^^^ (h >>> 33)
  let h := h * prime64b
  let h := h ^^^ (h >>> 29)
  let h := h * prime64c
  h ^^^ (h >>> 32)

def avalanche (h : UInt64) : UInt64 :=
  let h := h ^^^ (h >>> 37)
  let h := h * primeMx1
  h ^^^ (h >>> 32)

def rrmxmx (h : UInt64) (len : UInt64) : UInt64 :=
  let h := h ^^^ (rotl h 49 ^^^ rotl h 24)
  let h := h * primeMx2
  let h := h ^^^ ((h >>> 35) + len)
  let h := h * primeMx2
  h ^^^ (h >>> 28)

def mix16 (b : ByteArray) (i : Nat) (s : Nat) : UInt64 :=
  mulFold (read64 b i ^^^ read64 secret s) (read64 b (i + 8) ^^^ read64 secret (s + 8))

def hash0 : UInt64 := avalanche64 (read64 secret 56 ^^^ read64 secret 64)

def hash1to3 (b : ByteArray) : UInt64 :=
  let n := b.size
  let c1 := byte b 0
  let c2 := byte b (n >>> 1)
  let c3 := byte b (n - 1)
  let combined := (c1 <<< 16) ||| (c2 <<< 24) ||| c3 ||| (n.toUInt64 <<< 8)
  let flip := (read32 secret 0 ^^^ read32 secret 4)
  avalanche64 (combined ^^^ flip)

def hash4to8 (b : ByteArray) : UInt64 :=
  let n := b.size
  let lo := read32 b 0
  let hi := read32 b (n - 4)
  let flip := read64 secret 8 ^^^ read64 secret 16
  let input := hi + (lo <<< 32)
  rrmxmx (input ^^^ flip) n.toUInt64

def hash9to16 (b : ByteArray) : UInt64 :=
  let n := b.size
  let flip1 := read64 secret 24 ^^^ read64 secret 32
  let flip2 := read64 secret 40 ^^^ read64 secret 48
  let lo := read64 b 0 ^^^ flip1
  let hi := read64 b (n - 8) ^^^ flip2
  avalanche (n.toUInt64 + swap64 lo + hi + mulFold lo hi)

def hash17to128 (b : ByteArray) : UInt64 :=
  let n := b.size
  let acc := n.toUInt64 * prime64a
  let acc := if n > 96 then acc + mix16 b 48 96 + mix16 b (n - 64) 112 else acc
  let acc := if n > 64 then acc + mix16 b 32 64 + mix16 b (n - 48) 80 else acc
  let acc := if n > 32 then acc + mix16 b 16 32 + mix16 b (n - 32) 48 else acc
  avalanche (acc + mix16 b 0 0 + mix16 b (n - 16) 16)

def hash129to240 (b : ByteArray) : UInt64 :=
  let n := b.size
  let rounds := n / 16
  let acc := (List.range 8).foldl (fun acc i => acc + mix16 b (16 * i) (16 * i))
    (n.toUInt64 * prime64a)
  let last := mix16 b (n - 16) (136 - 17)
  let acc := avalanche acc
  let last := (List.range (rounds - 8)).foldl
    (fun acc i => acc + mix16 b (16 * (i + 8)) (16 * i + 3)) last
  avalanche (acc + last)

abbrev Lanes := Array UInt64

def lanes0 : Lanes :=
  #[prime32c, prime64a, prime64b, prime64c, prime64d, prime32b, prime64e, prime32a]

def stripe (acc : Lanes) (b : ByteArray) (i s : Nat) : Lanes :=
  (List.range 8).foldl (fun acc k =>
    let v := read64 b (i + 8 * k)
    let key := v ^^^ read64 secret (s + 8 * k)
    let acc := acc.modify (k ^^^ 1) (· + v)
    acc.modify k (· + (key &&& (0xFFFFFFFF : UInt64)) * (key >>> (32 : UInt64)))) acc

def scramble (acc : Lanes) : Lanes :=
  (List.range 8).foldl (fun acc k =>
    acc.modify k fun a =>
      let a := a ^^^ (a >>> 47)
      let a := a ^^^ read64 secret (192 - 64 + 8 * k)
      a * prime32a) acc

def stripes (acc : Lanes) (b : ByteArray) (i count : Nat) : Lanes :=
  (List.range count).foldl (fun acc k => stripe acc b (i + 64 * k) (8 * k)) acc

def hashLong (b : ByteArray) : UInt64 :=
  let n := b.size
  let blockLen := 64 * 16
  let blocks := (n - 1) / blockLen
  let acc := (List.range blocks).foldl
    (fun acc k => scramble (stripes acc b (k * blockLen) 16)) lanes0
  let rest := ((n - 1) - blockLen * blocks) / 64
  let acc := stripes acc b (blocks * blockLen) rest
  let acc := stripe acc b (n - 64) (192 - 64 - 7)
  let merged := (List.range 4).foldl (fun r k =>
    r + mulFold (acc.getD (2 * k) 0 ^^^ read64 secret (11 + 16 * k))
      (acc.getD (2 * k + 1) 0 ^^^ read64 secret (11 + 16 * k + 8)))
    (n.toUInt64 * prime64a)
  avalanche merged

def hash64 (b : ByteArray) : UInt64 :=
  let n := b.size
  if n = 0 then hash0
  else if n ≤ 3 then hash1to3 b
  else if n ≤ 8 then hash4to8 b
  else if n ≤ 16 then hash9to16 b
  else if n ≤ 128 then hash17to128 b
  else if n ≤ 240 then hash129to240 b
  else hashLong b

def hashList (l : List UInt8) : UInt64 := hash64 (ByteArray.mk l.toArray)

end LiveArith.Xxh3
