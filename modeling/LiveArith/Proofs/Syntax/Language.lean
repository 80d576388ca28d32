import LiveArith.Proofs.Syntax.Sound

/-!
The language the parser accepts. A parse with nothing to reuse holds no ERROR node and no MISSING
node exactly when the text is blank, or spells one expression of the grammar with blanks around it
and parentheses nested within the depth limit.
-/

set_option autoImplicit false

namespace LiveArith.Syntax

open LiveArith.Syntax.Parser LiveArith.Syntax.Grammar

namespace Grammar

def Blank (src : ByteArray) : Prop := Run Node.blank src 0 src.size

/-- The text spells the term `t`, with blanks before and after it, nested at most `D` deep. -/
structure Spells (src : ByteArray) (D : Nat) (t : Term) : Prop where
  derives : Derives src t
  before : Run Node.blank src 0 t.start
  after : Run Node.blank src t.stop src.size
  depth : t.depth ≤ D

theorem byteAt_size (src : ByteArray) : Utf8.byteAt src src.size = 0 := by
  simp [Utf8.byteAt]

theorem Spells.regroup {src : ByteArray} {D : Nat} {t : Term} (h : Spells src D t) :
    Spells src D t.regroup :=
  ⟨h.derives.regroup, by simpa using h.before, by simpa using h.after, by simpa using h.depth⟩

end Grammar

section

variable {src : ByteArray} {D : Nat}

theorem climb_node_some (I : Input) {m d : Nat} {L : Node} {p k : Nat} :
    ∃ n, (climb I m L p d k).node = some n := by
  induction hs : I.src.size - p using Nat.strongRecOn generalizing L p k with
  | ind s ih =>
  obtain ⟨q, hq⟩ : ∃ q, skipBlank I p = q := ⟨_, rfl⟩
  obtain ⟨c, hc⟩ : ∃ c, peek I q = c := ⟨_, rfl⟩
  by_cases hgo : 0 < power c ∧ m ≤ power c ∧ q < I.src.size
  · obtain ⟨hpow, hm, hqs⟩ := hgo
    have hpq : p ≤ q := hq ▸ le_skipBlank I p
    have h : (climb I m L p d k).result = _ := climb_step I hq hc hpow hm hqs
    generalize expression I (rightBound c) (skipBlank I (q + 1)) d k = E at h
    obtain ⟨node, pos', k', hle⟩ := E
    have hq1 := le_skipBlank I (q + 1)
    cases node with
    | none => exact ⟨_, congrArg Prod.fst h⟩
    | some rhs =>
      obtain ⟨n, hn⟩ := ih (I.src.size - pos') (by omega) (L := wrap I (binaryNode L c q rhs))
        (p := pos') (k := k') rfl
      exact ⟨n, (congrArg Prod.fst h).trans hn⟩
  · exact ⟨L, congrArg Prod.fst (climb_stop I hq hc (by omega))⟩

theorem parenthesized_node_some (I : Input) {q d k : Nat} (hq : q < I.src.size) :
    ∃ n, (parenthesized I q d k).node = some n := by
  by_cases hdeep : I.maxDepth ≤ d
  · exact ⟨_, congrArg Prod.fst (parenthesized_deep I hdeep)⟩
  by_cases hempty : peek I (skipBlank I (q + 1)) = 41 ∧ skipBlank I (q + 1) < I.src.size
  · exact ⟨_, congrArg Prod.fst (parenthesized_empty I (Nat.lt_of_not_le hdeep) hq hempty.1
      hempty.2)⟩
  · have h := congrArg Prod.fst (parenthesized_inner I (r := k) (Nat.lt_of_not_le hdeep) hq hempty)
    dsimp only at h
    split at h
    · exact ⟨_, h⟩
    · exact ⟨_, h⟩

theorem expression_none_pos {m p d k : Nat}
    (h : (expression (.ofText src D) m p d k).node = none) :
    (expression (.ofText src D) m p d k).pos = skipBlank (.ofText src D) p := by
  cases hop : (operand (.ofText src D) p d k).node with
  | some left =>
    obtain ⟨n, hn⟩ := climb_node_some (.ofText src D) (m := m) (L := left)
      (p := (operand (.ofText src D) p d k).pos) (d := d) (k := (operand (.ofText src D) p d k).reused)
    have := congrArg Prod.fst (expression_some (.ofText src D) (m := m) hop)
    simp only [Parsed.result] at this
    rw [this, hn] at h
    cases h
  | none =>
    have he := congrArg Prod.snd (expression_none (.ofText src D) (m := m) hop)
    simp only [Parsed.result] at he
    rw [he]
    have hf := operand_fresh (.ofText src D) (p := p) (d := d) (r := k) (ofText_get? _)
    rcases fresh_cases (.ofText src D) (le_skipBlank _ p) (d := d) (r := k) with
      ⟨hf', _, hqs⟩ | ⟨_, _, hf', _, _⟩ | hf'
    · obtain ⟨n, hn⟩ := parenthesized_node_some (.ofText src D) (d := d) (k := k) hqs
      have := congrArg Prod.fst (hf.trans hf')
      simp only [Parsed.result] at this
      rw [hop, hn] at this
      cases this
    · have := congrArg Prod.fst (hf.trans hf')
      simp only [Parsed.result] at this
      rw [hop] at this
      cases this
    · exact congrArg Prod.snd (hf.trans hf')

theorem parse_none {limits : Limits} (h : src.size ≤ limits.maxInput) :
    parse limits src none = .ok (source (.ofText src limits.maxDepth)) := by
  rw [parse, if_neg (Nat.not_lt.2 h)]
  rfl

theorem skipBlank_blank (h : Blank src) : skipBlank (.ofText src D) 0 = src.size :=
  skipBlank_of_run _ h (by rw [ofText_src, byteAt_size]; decide)

theorem source_blank (h : Blank src) :
    (source (.ofText src D)).root = some (Node.leaf .source 0 src.size) := by
  rw [source]
  dsimp only
  rw [if_pos (by rw [skipBlank_blank h]; exact Nat.le_refl _)]
  rfl

theorem source_spells {t : Term} (hs : Spells src D t) (hg : Grouped t) :
    (source (.ofText src D)).root =
      some ((Node.leaf .source 0 src.size).push .none (t.node src)) := by
  have hlt := hs.derives.start_lt_stop
  have hle := hs.derives.stop_le_size
  have hp : skipBlank (.ofText src D) 0 = t.start :=
    skipBlank_of_run _ hs.before (not_blank_of_lead hs.derives.lead).1
  have he := expression_complete (D := D) (m := 1) (p := skipBlank (.ofText src D) 0) (d := 0)
    (k := 0) hs.derives hg hs.derives.level_pos (stops_of_end hs.after) (by have := hs.depth; omega)
    (by rw [hp]; exact Run.refl (by omega))
  have hnode := congrArg Prod.fst he
  have hpos := congrArg Prod.snd he
  simp only [Parsed.result] at hnode hpos
  have hq : skipBlank (.ofText src D) t.stop = src.size :=
    skipBlank_of_run _ hs.after (by rw [ofText_src, byteAt_size]; decide)
  rw [source]
  dsimp only
  rw [if_neg (by simp only [ofText_src, hp]; omega)]
  simp only [hnode, hpos, hq, ofText_src, Nat.lt_irrefl, if_false]

theorem source_sound {root : Node} (h : (source (.ofText src D)).root = some root)
    (hc : root.clean = true) :
    (Blank src ∧ root = Node.leaf .source 0 src.size) ∨
      ∃ t, Spells src D t ∧ Grouped t ∧
        root = (Node.leaf .source 0 src.size).push .none (t.node src) := by
  obtain ⟨hrun0, hb0⟩ := run_skipBlank (.ofText src D) (p := 0) (Nat.zero_le _)
  rw [source] at h
  dsimp only at h
  split at h
  · next hend =>
    simp only [Option.some.injEq] at h
    have hq : skipBlank (.ofText src D) 0 = src.size := Nat.le_antisymm hrun0.le_size hend
    exact .inl ⟨by unfold Blank; rw [← hq]; exact hrun0, h.symm⟩
  · next hend =>
    simp only [Option.some.injEq] at h
    have hnone : (expression (.ofText src D) 1 (skipBlank (.ofText src D) 0) 0 0).node = none →
        (expression (.ofText src D) 1 (skipBlank (.ofText src D) 0) 0 0).pos =
          skipBlank (.ofText src D) (skipBlank (.ofText src D) 0) := expression_none_pos
    have hsound : ExprSound src D (skipBlank (.ofText src D) 0) :=
      expression_sound_all hrun0.le_size
    specialize hsound 1 0 0
    generalize expression (.ofText src D) 1 (skipBlank (.ofText src D) 0) 0 0 = E at h hnone hsound
    obtain ⟨node, pos, k', hle⟩ := E
    dsimp only at h hnone hsound
    split at h
    · -- anything after the expression is one ERROR node
      rw [← h] at hc
      simp at hc
    next hend' =>
    cases node with
    | none =>
      -- no operand starts after the leading blanks, so the rest is an ERROR node
      have hid : skipBlank (.ofText src D) (skipBlank (.ofText src D) 0) =
          skipBlank (.ofText src D) 0 := skipBlank_of_run _ (Run.refl hrun0.le_size) hb0
      have hpos : pos = skipBlank (.ofText src D) 0 := (hnone rfl).trans hid
      rw [hpos, hid] at hend'
      exact absurd (Nat.lt_of_not_le hend) hend'
    | some e =>
      subst h
      simp only [Node.clean_push, Node.clean_leaf, Bool.and_eq_true] at hc
      obtain ⟨t, ⟨hd, hg, rfl, rfl, hblank, hdep⟩, -, -⟩ :=
        hsound e pos (Nat.le_refl 1) (by decide) (Nat.zero_le _) rfl hc.2
      obtain ⟨hrun, hb⟩ := run_skipBlank (.ofText src D) (p := t.stop) hd.stop_le_size
      have hq : skipBlank (.ofText src D) t.stop = src.size :=
        Nat.le_antisymm hrun.le_size (by simpa using hend')
      refine .inr ⟨t, ⟨hd, hrun0.trans hblank, hq ▸ hrun, by omega⟩, hg, rfl⟩

theorem source_root_some (I : Input) : ∃ root, (source I).root = some root := by
  rw [source]
  dsimp only
  split
  · exact ⟨_, rfl⟩
  · exact ⟨_, rfl⟩

/-- A parse with nothing to reuse holds no ERROR and no MISSING node exactly when the text is
blank or spells an expression nested within the depth limit; an error-free tree is the empty
source, or the source node over the tree of a precedence-grouped expression that the text
spells. -/
theorem parse_error_free_iff_spells {limits : Limits} (hsize : src.size ≤ limits.maxInput) :
    ∃ root, (∃ tree, parse limits src none = .ok tree ∧ tree.root = some root) ∧
      (root.clean = true ↔ Blank src ∨ ∃ t, Spells src limits.maxDepth t) ∧
      (root.clean = true → root = Node.leaf .source 0 src.size ∨
        ∃ t, Spells src limits.maxDepth t ∧ Grouped t ∧
          root = (Node.leaf .source 0 src.size).push .none (t.node src)) := by
  obtain ⟨root, hroot⟩ := source_root_some (.ofText src limits.maxDepth)
  refine ⟨root, ⟨_, parse_none hsize, hroot⟩, ⟨fun hc => ?_, fun h => ?_⟩, fun hc => ?_⟩
  · rcases source_sound hroot hc with ⟨hb, -⟩ | ⟨t, hs, -, -⟩
    · exact .inl hb
    · exact .inr ⟨t, hs⟩
  · rcases h with hb | ⟨t, hs⟩
    · rw [source_blank hb, Option.some.injEq] at hroot
      rw [← hroot]
      rfl
    · -- the parser reads the precedence grouping of any derivation
      rw [source_spells hs.regroup (grouped_regroup t), Option.some.injEq] at hroot
      rw [← hroot]
      simp
  · rcases source_sound hroot hc with ⟨-, h⟩ | h
    · exact .inl h
    · exact .inr h

/-- The sum `1+2` under the default limits. -/
theorem parse_error_free_iff_spells_sum :
    (ByteArray.mk #[49, 43, 50]).size ≤ ({} : Limits).maxInput ∧
      ∃ root, (∃ tree, parse {} (ByteArray.mk #[49, 43, 50]) none = .ok tree ∧
          tree.root = some root) ∧
        (root.clean = true ↔ Blank (ByteArray.mk #[49, 43, 50]) ∨
          ∃ t, Spells (ByteArray.mk #[49, 43, 50]) ({} : Limits).maxDepth t) ∧
        (root.clean = true → root = Node.leaf .source 0 (ByteArray.mk #[49, 43, 50]).size ∨
          ∃ t, Spells (ByteArray.mk #[49, 43, 50]) ({} : Limits).maxDepth t ∧ Grouped t ∧
            root = (Node.leaf .source 0 (ByteArray.mk #[49, 43, 50]).size).push .none
              (t.node (ByteArray.mk #[49, 43, 50]))) :=
  ⟨by decide, parse_error_free_iff_spells (by decide)⟩

/-- The empty text parses without an ERROR or MISSING node, though it spells no expression. -/
theorem empty_text_parses_error_free :
    ∃ root, (∃ tree, parse {} ByteArray.empty none = .ok tree ∧ tree.root = some root) ∧
      root.clean = true ∧ ¬∃ t, Spells ByteArray.empty ({} : Limits).maxDepth t := by
  have hb : Blank ByteArray.empty := Run.refl (Nat.le_refl 0)
  refine ⟨_, ⟨_, parse_none (by decide), source_blank hb⟩, rfl, fun ⟨t, hs⟩ => ?_⟩
  have := Nat.lt_of_lt_of_le hs.derives.start_lt_stop hs.derives.stop_le_size
  simp at this

end

end LiveArith.Syntax
