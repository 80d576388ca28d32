/-!
The buffer that holds a session's text. The text is the front of a backing array whose size is the
buffer's capacity; the bytes past the text are whatever earlier contents left there.
-/

set_option autoImplicit false

namespace LiveArith

theorem ByteArray.size_copySlice (src : ByteArray) (srcOff : Nat) (dest : ByteArray)
    (destOff len : Nat) (hd : destOff + len ≤ dest.size) (hs : srcOff + len ≤ src.size) :
    (src.copySlice srcOff dest destOff len).size = dest.size := by
  rw [ByteArray.copySlice_eq_append, ByteArray.size_append, ByteArray.size_append,
    ByteArray.size_extract, ByteArray.size_extract, ByteArray.size_extract, ByteArray.size_data,
    ByteArray.size_data]
  omega

/-- A byte buffer: its text is the first `len` bytes of the backing array `mem`. -/
structure Buffer where
  mem : ByteArray
  len : Nat
  len_le : len ≤ mem.size

namespace Buffer

def empty : Buffer := ⟨ByteArray.empty, 0, Nat.le_refl 0⟩

instance : Inhabited Buffer := ⟨empty⟩

def bytes (b : Buffer) : ByteArray := b.mem.extract 0 b.len

def clear (b : Buffer) : Buffer := ⟨b.mem, 0, Nat.zero_le _⟩

def reserve (b : Buffer) (n : Nat) : Buffer :=
  if n ≤ b.mem.size then b
  else
    let cap := max n (max (2 * b.mem.size) 64)
    { mem := b.bytes ++ ⟨Array.replicate (cap - b.len) 0⟩, len := b.len
      len_le := by
        have hz : (⟨Array.replicate (cap - b.len) 0⟩ : ByteArray).size = cap - b.len :=
          Array.size_replicate
        have := b.len_le
        rw [ByteArray.size_append, hz, bytes, ByteArray.size_extract]
        omega }

def update (b : Buffer) (text : ByteArray) (start oldEnd newEnd : Int) : Option Buffer :=
  let oldLen : Int := b.len
  let tail := oldLen - oldEnd
  let b := b.reserve text.size
  if h : max oldLen (newEnd + tail) ≤ b.mem.size ∧ 0 ≤ oldEnd ∧ oldEnd ≤ oldLen ∧ 0 ≤ start ∧
      start ≤ newEnd ∧ newEnd ≤ text.size then
    -- the tail moves first, as if through a temporary; then the replaced bytes come from `text`
    let moved := b.mem.copySlice oldEnd.toNat b.mem newEnd.toNat tail.toNat
    have hmoved : moved.size = b.mem.size := ByteArray.size_copySlice _ _ _ _ _ (by omega) (by omega)
    some { mem := text.copySlice start.toNat moved start.toNat (newEnd - start).toNat
           len := (newEnd + tail).toNat
           len_le := by
             rw [ByteArray.size_copySlice _ _ _ _ _ (by omega) (by omega)]
             omega }
  else none

theorem bytes_size (b : Buffer) : b.bytes.size = b.len := by
  have := b.len_le
  rw [bytes, ByteArray.size_extract]
  omega

@[simp] theorem clear_size (b : Buffer) : b.clear.bytes.size = 0 := bytes_size _

@[simp] theorem reserve_len (b : Buffer) (n : Nat) : (b.reserve n).len = b.len := by
  unfold reserve
  split <;> rfl

@[simp] theorem reserve_bytes (b : Buffer) (n : Nat) : (b.reserve n).bytes = b.bytes := by
  unfold reserve
  split
  · rfl
  · exact ByteArray.extract_append_eq_left (bytes_size b).symm

theorem le_reserve (b : Buffer) (n : Nat) : n ≤ (b.reserve n).mem.size := by
  unfold reserve
  split
  · assumption
  · rename_i h
    have hz : (⟨Array.replicate (max n (max (2 * b.mem.size) 64) - b.len) 0⟩ : ByteArray).size =
        max n (max (2 * b.mem.size) 64) - b.len := Array.size_replicate
    have := b.len_le
    simp only [ByteArray.size_append, hz, bytes_size]
    omega

end Buffer

end LiveArith
