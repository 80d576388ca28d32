import LiveArith.Proofs.Syntax.Edit
import LiveArith.Session
import LiveArith.Buffer

/-!
Edits between two versions of a session's text.
-/

set_option autoImplicit false

namespace LiveArith

namespace Utf8

theorem byteAt_append (a b : ByteArray) (i : Nat) :
    byteAt (a ++ b) i = if i < a.size then byteAt a i else byteAt b (i - a.size) := by
  have hsize := ByteArray.size_append (a := a) (b := b)
  unfold byteAt
  by_cases ha : i < a.size
  · rw [if_pos ha, dif_pos (by omega), dif_pos ha, ByteArray.getElem_append_left ha]
  · rw [if_neg ha]
    by_cases hb : i < (a ++ b).size
    · rw [dif_pos hb, dif_pos (by omega), ByteArray.getElem_append_right (by omega)]
    · rw [dif_neg hb, dif_neg (by omega)]

theorem byteAt_extract_eq (a : ByteArray) (b e i : Nat) :
    byteAt (a.extract b e) i = if b + i < e then byteAt a (b + i) else 0 := by
  have hsize := ByteArray.size_extract (a := a) (b := b) (e := e)
  unfold byteAt
  by_cases hi : i < (a.extract b e).size
  · rw [dif_pos hi, if_pos (by omega), dif_pos (by omega), ByteArray.getElem_extract]
  · rw [dif_neg hi]
    split
    · rw [dif_neg (by omega)]
    · rfl

theorem byteAt_copySlice {src dest : ByteArray} {srcOff destOff len : Nat}
    (hd : destOff + len ≤ dest.size) (hs : srcOff + len ≤ src.size) (i : Nat) :
    byteAt (src.copySlice srcOff dest destOff len) i =
      if destOff ≤ i ∧ i < destOff + len then byteAt src (srcOff + (i - destOff))
      else byteAt dest i := by
  rw [ByteArray.copySlice_eq_append, byteAt_append, byteAt_append, byteAt_extract_eq,
    byteAt_extract_eq, byteAt_extract_eq]
  simp only [ByteArray.size_append, ByteArray.size_extract, ByteArray.size_data]
  rw [show min destOff dest.size - 0 = destOff by omega,
    show min (srcOff + len) src.size - srcOff = len by omega,
    show min len (src.size - srcOff) = len by omega]
  -- the three pieces: `dest` before the range, `src` in it, `dest` after it
  by_cases h₁ : i < destOff
  · rw [if_pos (by omega), if_pos h₁, if_pos (by omega), if_neg (by omega), Nat.zero_add]
  · by_cases h₂ : i < destOff + len
    · rw [if_pos h₂, if_neg h₁, if_pos (by omega), if_pos ⟨by omega, h₂⟩]
    · rw [if_neg h₂, if_neg (show ¬(destOff ≤ i ∧ i < destOff + len) by omega), show destOff + len + (i - (destOff + len)) = i by omega]
      split
      · rfl
      · unfold byteAt
        rw [dif_neg (by omega)]

theorem extract_eq_iff {a b : ByteArray} {i j len : Nat} (ha : i + len ≤ a.size)
    (hb : j + len ≤ b.size) :
    a.extract i (i + len) = b.extract j (j + len) ↔ ∀ k < len, byteAt a (i + k) = byteAt b (j + k) := by
  rw [ByteArray.extract_eq_extract_iff_getElem ha hb]
  refine ⟨fun h k hk => ?_, fun h k hk => ?_⟩
  · rw [Syntax.Grammar.byteAt_of_lt (by omega), Syntax.Grammar.byteAt_of_lt (by omega), h k hk]
  · have := h k hk
    rwa [Syntax.Grammar.byteAt_of_lt (by omega), Syntax.Grammar.byteAt_of_lt (by omega)] at this

theorem ext_byteAt {a b : ByteArray} (h : a.size = b.size)
    (h' : ∀ i < a.size, byteAt a i = byteAt b i) : a = b :=
  ByteArray.ext_getElem h fun i hi hi' => by
    have := h' i hi
    rwa [byteAt, dif_pos hi, byteAt, dif_pos hi'] at this

end Utf8

namespace Edit

open Syntax Grammar

theorem toBoundary_le (b : ByteArray) (s : Nat) : toBoundary b s ≤ s := by
  induction s with
  | zero => simp [toBoundary]
  | succ s ih =>
    unfold toBoundary
    split
    · omega
    · exact Nat.le_refl _

theorem extract_of_sameRange {a b : ByteArray} {i j n : Nat} (h : sameRange a b i j n = true)
    (ha : i + n ≤ a.size) (hb : j + n ≤ b.size) : a.extract i (i + n) = b.extract j (j + n) := by
  rw [ByteArray.extract_eq_extract_iff_getElem ha hb]
  intro k hk
  have hk' := List.all_eq_true.1 h k (List.mem_range.2 hk)
  rw [← byteAt_of_lt (by omega), ← byteAt_of_lt (by omega)]
  exact beq_iff_eq.1 hk'

theorem describes_of_checks {prev next : ByteArray} {s o n : Nat} (hso : s ≤ o) (hsn : s ≤ n)
    (ho : o ≤ prev.size) (hn : n ≤ next.size) (hsize : prev.size - o = next.size - n)
    (hpre : sameRange prev next 0 0 s = true) (hsuf : sameRange prev next o n (prev.size - o) = true)
    (hp : prev.size < 2 ^ 63) (hn' : next.size < 2 ^ 63) :
    Describes (⟨s, o, n⟩ : Edit).toInput prev next where
  start := Int.natCast_nonneg s
  le_old := Int.ofNat_le.2 hso
  le_new := Int.ofNat_le.2 hsn
  old_le := Int.ofNat_le.2 ho
  new_le := Int.ofNat_le.2 hn
  before := by
    have h := extract_of_sameRange hpre (by omega) (by omega)
    simpa only [toInput, Int.toNat_natCast, Nat.zero_add] using h
  after := by
    have h := extract_of_sameRange hsuf (by omega) (by omega)
    rw [Nat.add_sub_cancel' ho, hsize, Nat.add_sub_cancel' hn] at h
    simpa only [toInput, Int.toNat_natCast] using h
  short := hp
  short' := hn'

theorem normalize_describes (e : Edit) {prev next : ByteArray} (hp : prev.size < 2 ^ 63)
    (hn : next.size < 2 ^ 63) : Describes (e.normalize prev next).toInput prev next := by
  unfold normalize
  dsimp only
  split
  · exact describes_of_checks (Nat.zero_le _) (Nat.zero_le _) (Nat.le_refl _) (Nat.le_refl _)
      (by omega) rfl (by simp [sameRange]) hp hn
  · rename_i h
    simp only [Bool.or_eq_true, bne_iff_ne, ne_eq, Bool.not_eq_true', not_or,
      Bool.not_eq_false, Decidable.not_not] at h
    obtain ⟨⟨hsize, hpre⟩, hsuf⟩ := h
    have hb := toBoundary_le next (min (max e.start 0) (min (prev.size : Int) next.size)).toNat
    exact describes_of_checks (by omega) (by omega) (by omega) (by omega) hsize hpre hsuf hp hn

/-- The edit describes the change from `prev` to `next` exactly: its offsets are in order and
inside the texts, the tails after its ends are as long, and the bytes before its start and after
its ends are the same in both texts. -/
structure Exact (e : Edit) (prev next : ByteArray) : Prop where
  start : 0 ≤ e.start
  le_old : e.start ≤ e.oldStop
  old_le : e.oldStop ≤ prev.size
  le_new : e.start ≤ e.newStop
  new_le : e.newStop ≤ next.size
  tail : (prev.size : Int) - e.oldStop = next.size - e.newStop
  before : prev.extract 0 e.start.toNat = next.extract 0 e.start.toNat
  after : prev.extract e.oldStop.toNat prev.size = next.extract e.newStop.toNat next.size

def Aligned (e : Edit) (next : ByteArray) : Prop :=
  e.start = 0 ∨ Utf8.boundary next e.start.toNat = true

theorem toBoundary_aligned (b : ByteArray) (s : Nat) :
    toBoundary b s = 0 ∨ Utf8.boundary b (toBoundary b s) = true := by
  induction s with
  | zero => exact .inl rfl
  | succ s ih =>
    unfold toBoundary
    split
    · exact ih
    · rename_i h
      refine .inr ?_
      simp only [Bool.and_eq_true, decide_eq_true_eq, Bool.not_eq_true'] at h
      simp only [Utf8.boundary, Bool.or_eq_true, decide_eq_true_eq]
      by_cases hs : s + 1 < b.size
      · exact .inr (by simpa [hs] using h)
      · exact .inl (by omega)

theorem toBoundary_of_boundary {b : ByteArray} {s : Nat} (h : Utf8.boundary b s = true) :
    toBoundary b s = s := by
  cases s with
  | zero => rfl
  | succ s =>
    unfold toBoundary
    rw [if_neg]
    simp only [Utf8.boundary, Bool.or_eq_true, decide_eq_true_eq] at h
    simp only [Bool.and_eq_true, decide_eq_true_eq, Bool.not_eq_true', not_and]
    intro hs
    rcases h with h | h
    · omega
    · rw [h]
      decide

theorem sameRange_of_extract {a b : ByteArray} {i j n : Nat}
    (h : a.extract i (i + n) = b.extract j (j + n)) (ha : i + n ≤ a.size) (hb : j + n ≤ b.size) :
    sameRange a b i j n = true :=
  List.all_eq_true.2 fun _ hk =>
    beq_iff_eq.2 (Syntax.byteAt_of_extract h ha hb (List.mem_range.1 hk))

theorem Exact.of_checks {prev next : ByteArray} {s o n : Nat} (hso : s ≤ o) (hsn : s ≤ n)
    (ho : o ≤ prev.size) (hn : n ≤ next.size) (hsize : prev.size - o = next.size - n)
    (hpre : sameRange prev next 0 0 s = true)
    (hsuf : sameRange prev next o n (prev.size - o) = true) : Exact ⟨s, o, n⟩ prev next where
  start := Int.natCast_nonneg s
  le_old := Int.ofNat_le.2 hso
  old_le := Int.ofNat_le.2 ho
  le_new := Int.ofNat_le.2 hsn
  new_le := Int.ofNat_le.2 hn
  tail := show (prev.size : Int) - o = next.size - n by omega
  before := by
    have h := extract_of_sameRange hpre (by omega) (by omega)
    simpa only [Int.toNat_natCast, Nat.zero_add] using h
  after := by
    have h := extract_of_sameRange hsuf (by omega) (by omega)
    rw [Nat.add_sub_cancel' ho, hsize, Nat.add_sub_cancel' hn] at h
    simpa only [Int.toNat_natCast] using h

theorem normalize_exact (e : Edit) (prev next : ByteArray) :
    (e.normalize prev next).Exact prev next := by
  unfold normalize
  dsimp only
  split
  · exact Exact.of_checks (Nat.zero_le _) (Nat.zero_le _) (Nat.le_refl _) (Nat.le_refl _)
      (by omega) rfl (by simp [sameRange])
  · rename_i h
    simp only [Bool.or_eq_true, bne_iff_ne, ne_eq, Bool.not_eq_true', not_or,
      Bool.not_eq_false, Decidable.not_not] at h
    obtain ⟨⟨hsize, hpre⟩, hsuf⟩ := h
    have hb := toBoundary_le next (min (max e.start 0) (min (prev.size : Int) next.size)).toNat
    exact Exact.of_checks (by omega) (by omega) (by omega) (by omega) hsize hpre hsuf

theorem normalize_aligned (e : Edit) (prev next : ByteArray) :
    (e.normalize prev next).Aligned next := by
  unfold normalize
  dsimp only
  split
  · exact .inl rfl
  · rcases toBoundary_aligned next (min (max e.start 0) (min (prev.size : Int) next.size)).toNat
      with h | h
    · exact .inl (by simp only [h]; rfl)
    · exact .inr (by simpa only [Int.toNat_natCast] using h)

theorem normalize_of_exact {e : Edit} {prev next : ByteArray} (he : e.Exact prev next)
    (ha : e.Aligned next) : e.normalize prev next = e := by
  obtain ⟨a, b, c⟩ := e
  have h₀ : 0 ≤ a := he.start
  have hab : a ≤ b := he.le_old
  have hb : b ≤ prev.size := he.old_le
  have hac : a ≤ c := he.le_new
  have hc : c ≤ next.size := he.new_le
  have htail : (prev.size : Int) - b = next.size - c := he.tail
  have hs : toBoundary next a.toNat = a.toNat := by
    rcases ha with h | h
    · rw [show a = 0 from h]
      rfl
    · exact toBoundary_of_boundary h
  -- the checks pass: the tails are as long, and the bytes before and after agree
  have hpre : sameRange prev next 0 0 a.toNat = true :=
    sameRange_of_extract (by simpa only [Nat.zero_add] using he.before) (by omega) (by omega)
  have hsuf : sameRange prev next b.toNat c.toNat (prev.size - b.toNat) = true := by
    refine sameRange_of_extract ?_ (by omega) (by omega)
    rw [Nat.add_sub_cancel' (by omega), show c.toNat + (prev.size - b.toNat) = next.size by omega]
    exact he.after
  unfold normalize
  dsimp only
  rw [show min (max a 0) (min (prev.size : Int) next.size) = a by omega,
    show min (max b a) (prev.size : Int) = b by omega,
    show min (max c a) (next.size : Int) = c by omega, hs, hpre, hsuf, if_neg]
  · simp only [Edit.mk.injEq]
    omega
  · simp only [Bool.not_true, Bool.or_false, bne_iff_ne, ne_eq, Decidable.not_not]
    omega

end Edit

namespace Buffer

theorem byteAt_bytes (b : Buffer) (i : Nat) :
    Utf8.byteAt b.bytes i = if i < b.len then Utf8.byteAt b.mem i else 0 := by
  rw [bytes, Utf8.byteAt_extract_eq, Nat.zero_add]

theorem update_exact {b : Buffer} {next : ByteArray} {e : Edit} (h : e.Exact b.bytes next) :
    ∃ b', b.update next e.start e.oldStop e.newStop = some b' ∧ b'.bytes = next := by
  obtain ⟨a, o, n⟩ := e
  have hlen := bytes_size b
  have h₀ : 0 ≤ a := h.start
  have hao : a ≤ o := h.le_old
  have ho : o ≤ b.bytes.size := h.old_le
  have han : a ≤ n := h.le_new
  have hn : n ≤ next.size := h.new_le
  have htail : (b.bytes.size : Int) - o = next.size - n := h.tail
  -- what the buffer held: the same bytes as `next` before the edit and, shifted, after it
  have hpre : ∀ i < a.toNat, Utf8.byteAt b.bytes i = Utf8.byteAt next i := fun i hi => by
    simpa only [Nat.zero_add] using Syntax.byteAt_of_extract (i := 0) (j := 0)
      (by simpa only [Nat.zero_add] using h.before) (by omega) (by omega) hi
  have hsuf : ∀ i, o.toNat ≤ i → i < b.len →
      Utf8.byteAt b.bytes i = Utf8.byteAt next (n.toNat + (i - o.toNat)) := fun i hi hi' => by
    have hafter : b.bytes.extract o.toNat (o.toNat + (b.len - o.toNat)) =
        next.extract n.toNat (n.toNat + (b.len - o.toNat)) := by
      rw [Nat.add_sub_cancel' (by omega), show n.toNat + (b.len - o.toNat) = next.size by omega,
        ← hlen]
      exact h.after
    have := Syntax.byteAt_of_extract hafter (by omega) (by omega) (k := i - o.toNat) (by omega)
    rwa [Nat.add_sub_cancel' hi] at this
  -- growing keeps the text, so the backing array holds it in front
  have hmem : ∀ i < b.len, Utf8.byteAt (b.reserve next.size).mem i = Utf8.byteAt b.bytes i :=
    fun i hi => by
      rw [← reserve_bytes b next.size, byteAt_bytes, reserve_len, if_pos hi]
  have hcap := le_reserve b next.size
  have hcap' := (b.reserve next.size).len_le
  rw [reserve_len] at hcap'
  unfold update
  dsimp only
  rw [dif_pos ⟨by omega, by omega, by omega, h₀, han, hn⟩]
  refine ⟨_, rfl, ?_⟩
  simp only [bytes]
  generalize b.reserve next.size = r at hmem hcap hcap' ⊢
  -- the tail moved to its place, then the replaced bytes copied from `next`
  have hmoved := @Utf8.byteAt_copySlice r.mem r.mem o.toNat n.toNat (↑b.len - o).toNat
    (by omega) (by omega)
  have hmoved_size := ByteArray.size_copySlice r.mem o.toNat r.mem n.toNat (↑b.len - o).toNat
    (by omega) (by omega)
  generalize r.mem.copySlice o.toNat r.mem n.toNat (↑b.len - o).toNat = moved at hmoved hmoved_size ⊢
  have hcopied := @Utf8.byteAt_copySlice next moved a.toNat a.toNat (n - a).toNat
    (by omega) (by omega)
  have hcopied_size := ByteArray.size_copySlice next a.toNat moved a.toNat (n - a).toNat
    (by omega) (by omega)
  generalize next.copySlice a.toNat moved a.toNat (n - a).toNat = m at hcopied hcopied_size ⊢
  apply Utf8.ext_byteAt
  · rw [ByteArray.size_extract]
    omega
  · intro i hi
    rw [ByteArray.size_extract] at hi
    rw [Utf8.byteAt_extract_eq, if_pos (by omega), Nat.zero_add, hcopied, hmoved]
    by_cases h₁ : i < a.toNat
    · -- before the edit: the bytes the buffer held
      rw [if_neg (by omega), if_neg (by omega), hmem i (by omega), hpre i h₁]
    · by_cases h₂ : i < n.toNat
      · -- the replaced bytes, from `next`
        rw [if_pos ⟨by omega, by omega⟩]
        congr 1
        omega
      · -- after the edit: the tail the buffer held, moved
        rw [if_neg (by omega), if_pos ⟨by omega, by omega⟩, hmem _ (by omega),
          hsuf _ (by omega) (by omega)]
        congr 1
        omega

end Buffer

namespace Edit

/-- **A normalized edit is exact, starts on a character, and rebuilds the new text in the
buffer.** For every edit, old and new text, `normalize` gives an edit that describes the change
exactly and starts at the text's start or where a character of the new text may begin; it
leaves an edit that already does both as it is; and applied to a buffer holding the old text,
of any capacity, it leaves the buffer holding the new text. -/
theorem normalize_gives_exact_edit (e : Edit) (prev next : ByteArray) :
    (e.normalize prev next).Exact prev next ∧ (e.normalize prev next).Aligned next ∧
      (e.Exact prev next → e.Aligned next → e.normalize prev next = e) ∧
      ∀ b : Buffer, b.bytes = prev → ∃ b', b.update next (e.normalize prev next).start
        (e.normalize prev next).oldStop (e.normalize prev next).newStop = some b' ∧
          b'.bytes = next :=
  ⟨normalize_exact e prev next, normalize_aligned e prev next, normalize_of_exact,
    fun _ hb => Buffer.update_exact (hb ▸ normalize_exact e prev next)⟩

/-- A new text that starts inside a character has no character boundary to start an edit at:
the normalized edit starts at offset zero, on a continuation byte. -/
theorem normalize_start_inside_character :
    Utf8.boundary (.mk #[128]) (normalize ⟨0, 0, 0⟩ .empty (.mk #[128])).start.toNat = false := by
  decide

theorem commonPrefix_spec (a b : ByteArray) (n i : Nat) :
    i ≤ commonPrefix a b n i ∧ (i ≤ n → commonPrefix a b n i ≤ n) ∧
      (∀ j, i ≤ j → j < commonPrefix a b n i → Utf8.byteAt a j = Utf8.byteAt b j) ∧
      (commonPrefix a b n i < n →
        Utf8.byteAt a (commonPrefix a b n i) ≠ Utf8.byteAt b (commonPrefix a b n i)) := by
  fun_induction commonPrefix a b n i with
  | case1 i h heq ih =>
    obtain ⟨hle, hn, hsame, hstop⟩ := ih
    refine ⟨by omega, fun _ => hn (by omega), fun j hj hjr => ?_, hstop⟩
    by_cases hji : j = i
    · subst hji
      exact beq_iff_eq.1 heq
    · exact hsame j (by omega) hjr
  | case2 i h hne =>
    exact ⟨Nat.le_refl i, fun _ => Nat.le_of_lt h, fun j hj hji => absurd hj (by omega),
      fun _ heq => by simp [heq] at hne⟩
  | case3 i h =>
    exact ⟨Nat.le_refl i, fun hi => by omega, fun j hj hji => absurd hj (by omega),
      fun hi => absurd hi h⟩

theorem commonSuffix_spec (a b : ByteArray) (n k : Nat) :
    k ≤ commonSuffix a b n k ∧ (k ≤ n → commonSuffix a b n k ≤ n) ∧
      (∀ j, k ≤ j → j < commonSuffix a b n k →
        Utf8.byteAt a (a.size - 1 - j) = Utf8.byteAt b (b.size - 1 - j)) ∧
      (commonSuffix a b n k < n →
        Utf8.byteAt a (a.size - 1 - commonSuffix a b n k) ≠
          Utf8.byteAt b (b.size - 1 - commonSuffix a b n k)) := by
  fun_induction commonSuffix a b n k with
  | case1 k h heq ih =>
    obtain ⟨hle, hn, hsame, hstop⟩ := ih
    refine ⟨by omega, fun _ => hn (by omega), fun j hj hjr => ?_, hstop⟩
    by_cases hjk : j = k
    · subst hjk
      exact beq_iff_eq.1 heq
    · exact hsame j (by omega) hjr
  | case2 k h hne =>
    exact ⟨Nat.le_refl k, fun _ => Nat.le_of_lt h, fun j hj hjk => absurd hj (by omega),
      fun _ heq => by simp [heq] at hne⟩
  | case3 k h =>
    exact ⟨Nat.le_refl k, fun hk => by omega, fun j hj hjk => absurd hj (by omega),
      fun hk => absurd hk h⟩

theorem backOff_spec (ok : Nat → Bool) (k : Nat) :
    backOff ok k ≤ k ∧ (backOff ok k = 0 ∨ ok (backOff ok k) = true) ∧
      ∀ j, backOff ok k < j → j ≤ k → ok j = false := by
  induction k with
  | zero => exact ⟨Nat.le_refl 0, .inl rfl, fun j hj hjk => absurd hj (by omega)⟩
  | succ k ih =>
    unfold backOff
    split
    · exact ⟨Nat.le_refl _, .inr ‹_›, fun j hj hjk => absurd hj (by omega)⟩
    · rename_i hk
      obtain ⟨hle, hok, hnot⟩ := ih
      refine ⟨by omega, hok, fun j hj hjk => ?_⟩
      by_cases hjk' : j = k + 1
      · subst hjk'
        simpa using hk
      · exact hnot j hj (by omega)

/-- `⟨s, prev.size - k, next.size - k⟩` is the least edit from `prev` to `next` that starts and
ends where characters may: `s` is the longest common prefix backed off to an offset where a
character of both texts may start, and `k` the longest common suffix of what is left, backed off
to offsets where a character of each text may start. -/
structure Least (prev next : ByteArray) (s k : Nat) : Prop where
  head_le : s ≤ min prev.size next.size
  head_same : prev.extract 0 s = next.extract 0 s
  head_aligned : s = 0 ∨ Utf8.boundary prev s = true ∧ Utf8.boundary next s = true
  head_longest : ∀ p, s < p → p ≤ min prev.size next.size → prev.extract 0 p = next.extract 0 p →
    ¬(Utf8.boundary prev p = true ∧ Utf8.boundary next p = true)
  tail_le : k ≤ min prev.size next.size - s
  tail_same : prev.extract (prev.size - k) prev.size = next.extract (next.size - k) next.size
  tail_aligned : Utf8.boundary prev (prev.size - k) = true ∧
    Utf8.boundary next (next.size - k) = true
  tail_longest : ∀ j, k < j → j ≤ min prev.size next.size - s →
    prev.extract (prev.size - j) prev.size = next.extract (next.size - j) next.size →
    ¬(Utf8.boundary prev (prev.size - j) = true ∧ Utf8.boundary next (next.size - j) = true)

theorem extract_head_iff {prev next : ByteArray} {p : Nat} (hp : p ≤ min prev.size next.size) :
    prev.extract 0 p = next.extract 0 p ↔ ∀ j < p, Utf8.byteAt prev j = Utf8.byteAt next j := by
  have h := @Utf8.extract_eq_iff prev next 0 0 p (by omega) (by omega)
  simpa only [Nat.zero_add] using h

theorem extract_tail_iff {prev next : ByteArray} {j : Nat} (hj : j ≤ min prev.size next.size) :
    prev.extract (prev.size - j) prev.size = next.extract (next.size - j) next.size ↔
      ∀ t < j, Utf8.byteAt prev (prev.size - j + t) = Utf8.byteAt next (next.size - j + t) := by
  have h := @Utf8.extract_eq_iff prev next (prev.size - j) (next.size - j) j (by omega) (by omega)
  rwa [Nat.sub_add_cancel (by omega), Nat.sub_add_cancel (by omega)] at h

theorem diff_least (prev next : ByteArray) :
    ∃ s k : Nat, diff prev next = ⟨s, (prev.size : Int) - k, (next.size : Int) - k⟩ ∧
      Least prev next s k := by
  refine ⟨_, _, rfl, ?_⟩
  -- the prefix scan, then its back-off
  obtain ⟨-, hpn, hpsame, hpstop⟩ := commonPrefix_spec prev next (min prev.size next.size) 0
  generalize commonPrefix prev next (min prev.size next.size) 0 = pre at hpn hpsame hpstop ⊢
  obtain ⟨hsle, hsok, hsnot⟩ :=
    backOff_spec (fun i => Utf8.boundary prev i && Utf8.boundary next i) pre
  generalize backOff (fun i => Utf8.boundary prev i && Utf8.boundary next i) pre = s
    at hsle hsok hsnot ⊢
  -- the suffix scan over what the prefix left, then its back-off
  obtain ⟨-, hkn, hksame, hkstop⟩ :=
    commonSuffix_spec prev next (min prev.size next.size - s) 0
  generalize commonSuffix prev next (min prev.size next.size - s) 0 = suf
    at hkn hksame hkstop ⊢
  obtain ⟨hkle, hkok, hknot⟩ := backOff_spec
    (fun k => Utf8.boundary prev (prev.size - k) && Utf8.boundary next (next.size - k)) suf
  generalize backOff (fun k => Utf8.boundary prev (prev.size - k) &&
    Utf8.boundary next (next.size - k)) suf = k at hkle hkok hknot ⊢
  have hpre := hpn (Nat.zero_le _)
  have hsuf := hkn (Nat.zero_le _)
  refine ⟨by omega, ?_, ?_, ?_, by omega, ?_, ?_, ?_⟩
  · exact (extract_head_iff (by omega)).2 fun j hj => hpsame j (Nat.zero_le _) (by omega)
  · simpa only [Bool.and_eq_true] using hsok
  · -- a longer common prefix than the scan found would share the byte it stopped at
    intro p hsp hpn' hp hb
    by_cases hpp : p ≤ pre
    · have := hsnot p hsp hpp
      simp only [hb.1, hb.2, Bool.and_self, Bool.true_eq_false] at this
    · exact hpstop (by omega) ((extract_head_iff hpn').1 hp pre (by omega))
  · refine (extract_tail_iff (by omega)).2 fun t ht => ?_
    have := hksame (k - 1 - t) (Nat.zero_le _) (by omega)
    rwa [show prev.size - 1 - (k - 1 - t) = prev.size - k + t by omega,
      show next.size - 1 - (k - 1 - t) = next.size - k + t by omega] at this
  · rcases hkok with h | h
    · subst h
      simp [Utf8.boundary]
    · simpa only [Bool.and_eq_true] using h
  · -- a longer common suffix than the scan found would share the byte it stopped at
    intro j hkj hjn hj hb
    by_cases hjs : j ≤ suf
    · have := hknot j hkj hjs
      simp only [hb.1, hb.2, Bool.and_self, Bool.true_eq_false] at this
    · have := (extract_tail_iff (by omega)).1 hj (j - 1 - suf) (by omega)
      rw [show prev.size - j + (j - 1 - suf) = prev.size - 1 - suf by omega,
        show next.size - j + (j - 1 - suf) = next.size - 1 - suf by omega] at this
      exact hkstop (by omega) this

namespace Least

variable {prev next : ByteArray} {s k : Nat} (h : Least prev next s k)
include h

theorem exact : Exact ⟨s, (prev.size : Int) - k, (next.size : Int) - k⟩ prev next := by
  have := h.head_le
  have := h.tail_le
  have hold : ((prev.size : Int) - k).toNat = prev.size - k := by omega
  have hnew : ((next.size : Int) - k).toNat = next.size - k := by omega
  refine ⟨Int.natCast_nonneg s, ?_, ?_, ?_, ?_, ?_, ?_, ?_⟩
  all_goals dsimp only
  · omega
  · omega
  · omega
  · omega
  · omega
  · simpa only [Int.toNat_natCast] using h.head_same
  · simpa only [hold, hnew] using h.tail_same

theorem aligned : Aligned ⟨s, (prev.size : Int) - k, (next.size : Int) - k⟩ next := by
  rcases h.head_aligned with h₀ | hb
  · exact .inl (by simp [h₀])
  · exact .inr (by simpa only [Int.toNat_natCast] using hb.2)

theorem rebuilds :
    prev.extract 0 s ++ next.extract s (next.size - k) ++ prev.extract (prev.size - k) prev.size =
      next := by
  have := h.head_le
  have := h.tail_le
  rw [h.head_same, h.tail_same, ByteArray.extract_append_extract, Nat.zero_min,
    Nat.max_eq_right (show s ≤ next.size - k by omega), ByteArray.extract_append_extract,
    Nat.zero_min, Nat.max_eq_right (Nat.sub_le next.size k), ByteArray.extract_zero_size]

end Least

/-- **`diff` finds the least edit aligned to characters.** Its start is the longest common
prefix backed off to the start of the texts or to where a character of both may begin, its ends
leave the longest common suffix of the rest backed off to character boundaries of each text; the
old text with the new middle put in is the new text, and `normalize` leaves the edit as it is. -/
theorem diff_is_least_aligned_edit (prev next : ByteArray) :
    ∃ s k : Nat, diff prev next = ⟨s, (prev.size : Int) - k, (next.size : Int) - k⟩ ∧
      Least prev next s k ∧
      prev.extract 0 s ++ next.extract s (next.size - k) ++ prev.extract (prev.size - k) prev.size =
        next ∧
      (diff prev next).normalize prev next = diff prev next := by
  obtain ⟨s, k, hd, hl⟩ := diff_least prev next
  refine ⟨s, k, hd, hl, hl.rebuilds, ?_⟩
  rw [hd]
  exact normalize_of_exact hl.exact hl.aligned

/-- An old text that starts inside a character: `diff` starts its edit at offset zero, which is
no character boundary of it. -/
theorem diff_start_inside_character :
    Utf8.boundary (.mk #[128]) (diff (.mk #[128]) .empty).start.toNat = false := by
  rw [diff, commonPrefix]
  decide

end Edit

end LiveArith
