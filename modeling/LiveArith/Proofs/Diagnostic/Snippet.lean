import LiveArith.Diagnostic

/-!
The source snippet of a diagnostic.
-/

set_option autoImplicit false

namespace LiveArith.Diagnostic

open Utf8

/-- `[start, stop)` is the line of `src` that holds offset `off`: it holds no line feed,
begins the text or follows a line feed, and ends the text or stops at a line feed. -/
structure LineAt (src : ByteArray) (off start stop : Nat) : Prop where
  start_le : start ≤ off
  le_stop : off ≤ stop
  stop_le : stop ≤ src.size
  opens : start = 0 ∨ byteAt src (start - 1) = 10
  closes : stop = src.size ∨ byteAt src stop = 10
  inside : ∀ k, start ≤ k → k < stop → byteAt src k ≠ 10

section Lines

variable {b : ByteArray}

theorem lastNewline_some {i j : Nat} (h : lastNewline b i = some j) :
    j < i ∧ byteAt b j = 10 ∧ ∀ k, j < k → k < i → byteAt b k ≠ 10 := by
  induction i with
  | zero => simp [lastNewline] at h
  | succ i ih =>
    rw [lastNewline] at h
    by_cases hi : byteAt b i = 10
    · rw [if_pos (by simpa using hi)] at h
      cases h
      exact ⟨by omega, hi, fun k hk hk' => by omega⟩
    · rw [if_neg (by simpa using hi)] at h
      obtain ⟨hj, hb, hk⟩ := ih h
      refine ⟨by omega, hb, fun k hjk hki => ?_⟩
      rcases Nat.lt_succ_iff_lt_or_eq.1 hki with hki | rfl
      · exact hk k hjk hki
      · exact hi

theorem lastNewline_none {i : Nat} (h : lastNewline b i = none) :
    ∀ k, k < i → byteAt b k ≠ 10 := by
  induction i with
  | zero => intro k hk; omega
  | succ i ih =>
    rw [lastNewline] at h
    by_cases hi : byteAt b i = 10
    · rw [if_pos (by simpa using hi)] at h
      cases h
    · rw [if_neg (by simpa using hi)] at h
      intro k hk
      rcases Nat.lt_succ_iff_lt_or_eq.1 hk with hk | rfl
      · exact ih h k hk
      · exact hi

theorem nextNewline_spec {i : Nat} (hi : i ≤ b.size) :
    i ≤ nextNewline b i ∧ nextNewline b i ≤ b.size ∧
      (nextNewline b i = b.size ∨ byteAt b (nextNewline b i) = 10) ∧
      ∀ k, i ≤ k → k < nextNewline b i → byteAt b k ≠ 10 := by
  fun_induction nextNewline b i with
  | case1 i h hb =>
    have : byteAt b i = 10 := by simpa [byteAt, h] using hb
    exact ⟨Nat.le_refl i, by omega, .inr this, fun k hk hk' => by omega⟩
  | case2 i h hb ih =>
    obtain ⟨hle, hsize, hend, hskip⟩ := ih (by omega)
    refine ⟨by omega, hsize, hend, fun k hk hk' => ?_⟩
    rcases Nat.lt_or_eq_of_le hk with hk | rfl
    · exact hskip k hk hk'
    · simpa [byteAt, h] using hb
  | case3 i h => exact ⟨by omega, Nat.le_refl _, .inl rfl, fun k hk hk' => by omega⟩

theorem newlinesBefore_eq {i j : Nat} (hij : i ≤ j) (hj : j ≤ b.size)
    (h : ∀ k, i ≤ k → k < j → byteAt b k ≠ 10) : newlinesBefore b i = newlinesBefore b j := by
  obtain ⟨n, rfl⟩ := Nat.exists_eq_add_of_le hij
  have between : ((List.range n).map (i + ·)).filter (fun k => byteAt b k == 10) = [] := by
    rw [List.filter_eq_nil_iff]
    intro k hk
    obtain ⟨a, ha, rfl⟩ := List.mem_map.1 hk
    simpa using h (i + a) (by omega) (by simp at ha; omega)
  unfold newlinesBefore
  rw [Nat.min_eq_left (by omega), Nat.min_eq_left hj, List.range_add, List.filter_append,
    between, List.append_nil]

end Lines

theorem lineAt_offset (src : ByteArray) {off : Nat} (hoff : off ≤ src.size) :
    LineAt src off ((lastNewline src off).elim 0 (· + 1)) (nextNewline src off) := by
  obtain ⟨hle, hsize, hend, hskip⟩ := nextNewline_spec hoff
  cases hl : lastNewline src off with
  | none =>
    have before := lastNewline_none hl
    refine ⟨Nat.zero_le _, hle, hsize, .inl rfl, hend, fun k _ hk => ?_⟩
    rcases Nat.lt_or_ge k off with hk' | hk'
    · exact before k hk'
    · exact hskip k hk' hk
  | some j =>
    obtain ⟨hj, hjb, before⟩ := lastNewline_some hl
    refine ⟨hj, hle, hsize, .inr hjb, hend, fun k hk hk'' => ?_⟩
    rcases Nat.lt_or_ge k off with hk' | hk'
    · exact before k hk hk'
    · exact hskip k hk' hk''

/-- The snippet of any diagnostic: the line holding the clamped offset, numbered by the line
feeds before that offset, and a marker whose carets cover the span's characters on that line
up to where the span ends as a 64-bit sum. Each offset the source is cut at lies inside it, in
order. -/
theorem snippet_underlines_span (d : Diagnostic) :
    let off := (min (max d.offset 0) d.source.size).toNat
    let gutter := toString (newlinesBefore d.source off + 1)
    ∃ start stop, LineAt d.source off start stop ∧
      let last := (min (max (Word.wrap (d.offset + d.length)) off) stop).toNat
      off ≤ last ∧ last ≤ stop ∧
      d.snippet = ("  " ++ gutter ++ " | " ++ textOf d.source start stop,
        String.ofList (List.replicate (gutter.length + 5 + runeCount d.source start off) ' ') ++
          String.ofList (List.replicate (max (runeCount d.source off last) 1) '^')) := by
  intro off gutter
  have hoff : off ≤ d.source.size := by omega
  have line := lineAt_offset d.source hoff
  -- the snippet numbers the line by the line feeds before its start, none of which lies
  -- between that start and the offset
  have number : newlinesBefore d.source ((lastNewline d.source off).elim 0 (· + 1)) =
      newlinesBefore d.source off :=
    newlinesBefore_eq line.start_le hoff fun k hk hk' =>
      line.inside k hk (Nat.lt_of_lt_of_le hk' line.le_stop)
  refine ⟨_, _, line, by have := line.le_stop; omega, by have := line.le_stop; omega, ?_⟩
  simp only [snippet, gutter, ← number]
  cases lastNewline d.source off <;> rfl

end LiveArith.Diagnostic
