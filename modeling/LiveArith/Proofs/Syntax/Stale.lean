import LiveArith.Proofs.Syntax.Reparse
import LiveArith.Proofs.Syntax.Invariant

/-!
Parsing against a stale tree. Every tree a caller can hold, however it was edited, keeps each
unchanged operand at a positive width below `2^62`, counted in 64-bit words (`Node.Solid`). So a
parse handed one reads only bytes inside the text, moves on with every node it takes over, and
returns the source node over the whole text.
-/

set_option autoImplicit false

namespace LiveArith.Word

theorem wrap_eq_bmod (x : Int) : wrap x = x.bmod Int64.size := Int64.toInt_ofInt

@[simp] theorem wrap_wrap (x : Int) : wrap (wrap x) = wrap x := by
  rw [wrap_eq_bmod, wrap_eq_bmod, Int.bmod_bmod]

theorem wrap_sub_wrap (a b : Int) : wrap (wrap a - wrap b) = wrap (a - b) := by
  rw [wrap_eq_bmod, wrap_eq_bmod, wrap_eq_bmod, wrap_eq_bmod, Int.bmod_sub_bmod, Int.sub_bmod_bmod]

theorem le_wrap (x : Int) : -2 ^ 63 ≤ wrap x := by
  rw [wrap_eq_bmod]
  exact Int.le_trans (by decide) (Int.le_bmod (by decide))

theorem lt_of_wrap_sub {a b : Int} (h0 : 0 < wrap (b - a)) (h1 : wrap (b - a) < 2 ^ 62)
    (hb : wrap b = b) (ha : 0 ≤ a) (ha' : a < 2 ^ 62) (hb' : b < 2 ^ 62) : a < b := by
  have hlo := le_wrap b
  rw [hb] at hlo
  have hmod : wrap (b - a) % 18446744073709551616 = (b - a) % 18446744073709551616 := by
    rw [wrap_eq_bmod]
    exact Int.bmod_emod
  omega

end LiveArith.Word

namespace LiveArith.Syntax

namespace Node

def Solid (n : Node) : Prop :=
  n.changed = false → operand n = true →
    0 < Word.wrap n.width ∧ Word.wrap n.width < 2 ^ 62 ∧ Word.wrap n.stop = n.stop

variable {n c : Node}

theorem solid_of_operand (h : operand n = false) : Solid n := by
  intro _ ho
  rw [h] at ho
  cases ho

theorem solid_of_span (h0 : 0 ≤ n.start) (hlt : n.start < n.stop) (hb : n.stop < 2 ^ 62) :
    Solid n := by
  intro _ _
  have hw : Word.wrap n.width = n.width := Word.wrap_of_bounds (by unfold width; omega)
    (by unfold width; omega)
  rw [hw, width]
  exact ⟨by omega, by omega, Word.wrap_of_bounds (by omega) (by omega)⟩

theorem all_solid_of_nil (h : n.children = []) : All Solid n :=
  .intro (solid_of_operand (by simp [operand, h])) (by simp [h])

theorem All.all {P : Node → Prop} (h : All P n) : All (All P) n := by
  induction h with
  | intro hp hcs ih => exact .intro (.intro hp hcs) ih

theorem All.solid_withField (h : All Solid c) (f : Field) :
    All Solid ⟨{ c.head with field := f }, c.children⟩ := by
  cases h with
  | intro hs hcs => exact .intro hs hcs

theorem All.solid_push (hn : All Solid n) (hk : n.kind ≠ .expression) (hc : All Solid c)
    (f : Field) : All Solid (n.push f c) := by
  refine .intro (solid_of_operand (Grammar.operand_of_kind (by simpa using hk))) fun c' hc' => ?_
  simp only [push_children, List.mem_append, List.mem_singleton] at hc'
  rcases hc' with hc' | rfl
  · exact hn.child hc'
  · exact hc.solid_withField f

theorem All.solid_wrap (I : Parser.Input) (hc : All Solid c) (hs : Solid (Parser.wrap I c)) :
    All Solid (Parser.wrap I c) := by
  refine .intro hs fun c' hc' => ?_
  have hkids : (Parser.wrap I c).children = [⟨{ c.head with field := .none }, c.children⟩] := by
    simp [Parser.wrap]
  rw [hkids, List.mem_singleton] at hc'
  subst hc'
  exact hc.solid_withField .none

theorem all_solid_paren (I : Parser.Input) {q : Nat} {inner close : Node} (hi : All Solid inner)
    (hc : All Solid close) (hlt : (q : Int) < max close.stop inner.stop)
    (hb : max close.stop inner.stop < 2 ^ 62) :
    All Solid (Parser.wrap I (Parser.parenNode q inner close)) := by
  have hleaf : All Solid (leaf .parenthesized q (max close.stop inner.stop)) :=
    all_solid_of_nil rfl
  refine All.solid_wrap I (((hleaf.solid_push (by simp) (all_solid_of_nil rfl) _).solid_push
    (by simp) hi _).solid_push (by simp) hc _) (solid_of_span ?_ ?_ ?_) <;>
    simp [Parser.wrap, Parser.parenNode] <;> omega

theorem all_solid_binary (I : Parser.Input) {L R : Node} {s : UInt8} {q : Nat} (hl : All Solid L)
    (hr : All Solid R) : All Solid (Parser.wrap I (Parser.binaryNode L s q R)) := by
  have hleaf : All Solid (leaf .binary L.start (max R.stop (token s q).stop)) := all_solid_of_nil rfl
  exact All.solid_wrap I (((hleaf.solid_push (by simp) hl _).solid_push (by simp)
    (all_solid_of_nil rfl) _).solid_push (by simp) hr _)
    (solid_of_operand (Grammar.operand_wrap_binary I rfl))

section shift

variable (d : Int)

theorem shift_children : (n.shift d).children = n.children.map (shift d) := by
  obtain ⟨h, cs⟩ := n
  simp only [shift, List.map_attach_eq_pmap, List.pmap_eq_map]

@[simp] theorem shift_changed : (n.shift d).changed = n.changed := by
  obtain ⟨h, cs⟩ := n
  rw [shift]
  rfl

@[simp] theorem shift_kind : (n.shift d).kind = n.kind := by
  obtain ⟨h, cs⟩ := n
  rw [shift]
  rfl

@[simp] theorem shift_digest : (n.shift d).digest = n.digest := by
  obtain ⟨h, cs⟩ := n
  rw [shift]
  rfl

@[simp] theorem shift_hasError : (n.shift d).hasError = n.hasError := by
  obtain ⟨h, cs⟩ := n
  rw [shift]
  rfl

@[simp] theorem operand_shift : operand (n.shift d) = operand n := by
  unfold operand
  rw [shift_children, shift_kind, shift_digest, shift_hasError]
  cases n.children <;> simp

theorem wrap_width_shift : Word.wrap (n.shift d).width = Word.wrap n.width := by
  rw [width, width, shift_start, shift_stop, Word.wrap_sub_wrap]
  congr 1
  omega

theorem Solid.shift (h : Solid n) : Solid (n.shift d) := by
  intro hc ho
  rw [shift_changed] at hc
  rw [operand_shift] at ho
  obtain ⟨h0, h1, -⟩ := h hc ho
  rw [wrap_width_shift, shift_stop, Word.wrap_wrap]
  exact ⟨h0, h1, rfl⟩

theorem All.solid_shift (h : All Solid n) : All Solid (n.shift d) := by
  induction h with
  | intro hs _ ih =>
    refine .intro (hs.shift d) fun c hc => ?_
    rw [shift_children] at hc
    obtain ⟨c₀, hc₀, rfl⟩ := List.mem_map.1 hc
    exact ih c₀ hc₀

end shift

theorem All.solid_edit (h : All Solid n) (e : InputEdit) : All Solid (n.edit e).1 := by
  induction h with
  | @intro n hs hcs ih =>
    by_cases hk : n.stop < e.start
    · rw [edit_kept e hk]
      exact .intro hs hcs
    by_cases hm : e.oldStop < n.start
    · rw [edit_moved e (Int.not_lt.1 hk) hm]
      exact (All.intro hs hcs).solid_shift _
    · rw [edit_touched e (Int.not_lt.1 hk) (Int.not_lt.1 hm)]
      refine .intro (fun hc => by simp at hc) fun c hc => ?_
      obtain ⟨c₀, hc₀, rfl⟩ := List.mem_map.1 hc
      exact ih c₀ hc₀

end Node

namespace Tree

def Solid (T : Tree) : Prop := ∀ r, T.root = some r → Node.All Node.Solid r

variable {T : Tree}

theorem Solid.reusable (hT : T.Solid) {k : Int} {m : Node} (h : T.reusable.get? k = some m) :
    m.start = k ∧ m.changed = false ∧ Node.operand m = true ∧ Node.All Node.Solid m := by
  unfold Tree.reusable at h
  split at h
  · simp at h
  · next r hr =>
    have hempty : Node.Keyed (fun m => m.changed = false ∧ Node.operand m = true ∧
        Node.All Node.Solid m) {} := fun k m h => by simp at h
    exact hempty.collect ((hT r hr).all.imp fun m hm hc ho => ⟨hc, ho, hm⟩) k m h

theorem Solid.edit (hT : T.Solid) (e : InputEdit) : (T.edit e).Solid := by
  cases hr : T.root with
  | none =>
    rw [edit_of_none hr]
    exact hT
  | some r =>
    by_cases hv : e.valid = true
    · rw [edit_of_root hr hv]
      rintro _ ⟨⟩
      exact (hT r hr).solid_edit e
    · have hT' : T.edit e = T := by
        unfold Tree.edit
        rw [hr]
        simp [hv]
      rw [hT']
      exact hT

end Tree

namespace Parser

def Input.Wide (I : Input) : Prop :=
  ∀ (q : Nat) (n : Node), q ≤ I.src.size → I.reuse.get? (q : Int) = some n → n.start = q →
    n.stop ≤ I.src.size → (q : Int) < n.stop

/-- An index a parse may take nodes from: the text is under `2^62` bytes, and each node of the
index is an unchanged operand under its start, solid throughout. -/
structure Input.Safe (I : Input) : Prop where
  small : I.src.size < 2 ^ 62
  keyed : ∀ k n, I.reuse.get? k = some n →
    n.start = k ∧ n.changed = false ∧ Node.operand n = true ∧ Node.All Node.Solid n

theorem Input.Safe.wide {I : Input} (hI : I.Safe) : I.Wide := by
  intro q n hq hn hstart hs
  obtain ⟨-, hc, ho, hall⟩ := hI.keyed _ _ hn
  obtain ⟨h0, h1, hw⟩ := hall.self hc ho
  rw [Node.width, hstart] at h0 h1
  have := hI.small
  exact Word.lt_of_wrap_sub h0 h1 hw (by omega) (by omega) (by omega)

variable (I : Input)

def Paced (r : Nat) {p : Nat} (x : Parsed p) : Prop :=
  x.pos ≤ I.src.size ∧ x.reused + p ≤ r + x.pos ∧
    ∀ n, x.node = some n → n.stop ≤ x.pos ∧ Node.All Node.Solid n

def PacedAt (p : Nat) : Prop :=
  (∀ m d r, Paced I r (expression I m p d r)) ∧
    ∀ m (L : Node) d r, L.stop ≤ p → Node.All Node.Solid L → Paced I r (climb I m L p d r)

theorem skipBlank_le_size {p : Nat} (hp : p ≤ I.src.size) : skipBlank I p ≤ I.src.size :=
  (run_skipBlank I hp).1.le_size

/-- The node of a paced result, or a missing symbol at its cursor in its place, ends by the
cursor and is solid. -/
theorem Paced.getD {p r : Nat} {x : Parsed p} (hx : Paced I r x) (k : Kind) (s : UInt8) :
    (x.node.getD (Node.absent k s x.pos)).stop ≤ x.pos ∧
      Node.All Node.Solid (x.node.getD (Node.absent k s x.pos)) := by
  cases hn : x.node with
  | none => exact ⟨by simp, Node.all_solid_of_nil rfl⟩
  | some n => exact hx.2.2 n hn

theorem Paced.chain {p q r r' : Nat} {y : Parsed q} (h : p ≤ y.pos) (hy : Paced I r' y)
    (hr : r' + p ≤ r + q) : Paced I r (⟨y.node, y.pos, y.reused, h⟩ : Parsed p) := by
  obtain ⟨h1, h2, h3⟩ := hy
  exact ⟨h1, by dsimp only; omega, h3⟩

section step

variable {I} (hI : I.Safe)
include hI

theorem parenthesized_paced {q d r : Nat} (hq : q < I.src.size)
    (ih : ∀ p', q < p' → p' ≤ I.src.size → PacedAt I p') : Paced I r (parenthesized I q d r) := by
  have hsmall := hI.small
  rw [parenthesized]
  split
  · -- too deep: one ERROR node to the end
    obtain ⟨j, -, hj, he⟩ := errorToEnd_span I (Nat.le_of_lt hq)
    refine ⟨by dsimp only; omega, by dsimp only; omega, fun n hn => ?_⟩
    cases hn
    rw [he]
    exact ⟨by simp; omega, Node.all_solid_of_nil rfl⟩
  dsimp only
  have h1 := le_skipBlank I (q + 1)
  have h1' := skipBlank_le_size I (p := q + 1) hq
  split
  · -- `()`: one ERROR node over both parentheses
    rename_i hc
    simp only [Bool.and_eq_true, decide_eq_true_eq] at hc
    refine ⟨by dsimp only; omega, by dsimp only; omega, fun n hn => ?_⟩
    cases hn
    exact ⟨by simp, ((Node.all_solid_of_nil rfl).solid_push (by simp) (Node.all_solid_of_nil rfl)
      _).solid_push (by simp) (Node.all_solid_of_nil rfl) _⟩
  -- the inner expression, paced by induction
  have hE := (ih (skipBlank I (q + 1)) (by omega) h1').1 1 (d + 1) r
  -- the inner node, or a missing number in its place, ends by the inner cursor
  obtain ⟨hstop, hall⟩ := hE.getD I .number 0
  obtain ⟨hpos, hre, -⟩ := hE
  have h2 := skipBlank_le_size I hpos
  have h3 := le_skipBlank I (expression I 1 (skipBlank I (q + 1)) (d + 1) r).pos
  have hle := (expression I 1 (skipBlank I (q + 1)) (d + 1) r).le
  generalize (expression I 1 (skipBlank I (q + 1)) (d + 1) r).node.getD
    (Node.absent .number 0 (expression I 1 (skipBlank I (q + 1)) (d + 1) r).pos) = inner
    at hstop hall ⊢
  split
  · -- the closing parenthesis
    rename_i hc
    simp only [Bool.and_eq_true, decide_eq_true_eq] at hc
    refine ⟨by dsimp only; omega, by dsimp only; omega, fun n hn => ?_⟩
    cases hn
    exact ⟨by simp [wrap]; omega, Node.all_solid_paren I hall (Node.all_solid_of_nil rfl)
      (by simp only [Node.token_stop]; omega) (by simp only [Node.token_stop]; omega)⟩
  · -- a missing one, after what the parentheses hold
    refine ⟨by dsimp only; omega, by dsimp only; omega, fun n hn => ?_⟩
    cases hn
    exact ⟨by simp [wrap]; omega, Node.all_solid_paren I hall (Node.all_solid_of_nil rfl)
      (by simp only [Node.absent_stop, Node.token_stop]; omega)
      (by simp only [Node.absent_stop, Node.token_stop]; omega)⟩

theorem fresh_paced {p q d r : Nat} (hpq : p ≤ q) (hq : q ≤ I.src.size)
    (ih : ∀ p', q < p' → p' ≤ I.src.size → PacedAt I p') : Paced I r (fresh I q d r hpq) := by
  have hsmall := hI.small
  rw [fresh]
  split
  · -- a parenthesized operand
    rename_i hc
    simp only [Bool.and_eq_true, beq_iff_eq, decide_eq_true_eq] at hc
    obtain ⟨hpos, hre, hnode⟩ : Paced I r (parenthesized I q d r) := parenthesized_paced hI hc.2 ih
    exact ⟨hpos, by dsimp only; omega, hnode⟩
  split
  · dsimp only
    split
    · exact ⟨hq, by dsimp only; omega, fun n hn => by cases hn⟩
    · -- a literal ends past the cursor, inside the text
      rename_i he
      have hsc : scanNumber I q = ((scanNumber I q).1, (scanNumber I q).2) := rfl
      obtain ⟨fl, -, hlit⟩ := literal_of_scanNumber I hq hsc (Nat.lt_of_not_le he)
      have := hlit.le_size
      refine ⟨by dsimp only; omega, by dsimp only; omega, fun n hn => ?_⟩
      cases hn
      refine ⟨by simp [wrap], Node.All.solid_wrap I (Node.all_solid_of_nil rfl)
        (Node.solid_of_span ?_ ?_ ?_)⟩ <;> simp [wrap] <;> omega
  · exact ⟨hq, by dsimp only; omega, fun n hn => by cases hn⟩

theorem operand_paced {p d r : Nat} (hp : p ≤ I.src.size)
    (ih : ∀ p', p < p' → p' ≤ I.src.size → PacedAt I p') : Paced I r (operand I p d r) := by
  have hpq := le_skipBlank I p
  have hq := skipBlank_le_size I hp
  have ih' : ∀ p', skipBlank I p < p' → p' ≤ I.src.size → PacedAt I p' :=
    fun p' hlt hs => ih p' (by omega) hs
  rw [operand]
  split
  · rename_i n hn
    split
    · -- a node taken over: it starts at the cursor and ends inside the text, past the cursor
      rename_i hf
      obtain ⟨hstart, hstop⟩ := fits_span hf
      have hlt := hI.wide _ n hq hn hstart hstop
      refine ⟨?_, ?_, fun n' hn' => ?_⟩ <;> dsimp only
      · omega
      · omega
      · cases hn'
        exact ⟨by omega, (hI.keyed _ _ hn).2.2.2⟩
    · exact fresh_paced hI hpq hq ih'
  · exact fresh_paced hI hpq hq ih'

variable {p : Nat} (hp : p ≤ I.src.size) (ih : ∀ p', p < p' → p' ≤ I.src.size → PacedAt I p')
include hp ih

theorem expression_paced (m d r : Nat) : Paced I r (expression I m p d r) := by
  obtain ⟨h1, h2, h3⟩ : Paced I r (operand I p d r) := operand_paced hI hp ih
  rw [expression]
  dsimp only
  split
  · exact ⟨h1, h2, fun n hn => by cases hn⟩
  · -- an operand was read, so the climb after it starts further on
    rename_i left hleft
    have hq := skipBlank_le_size I hp
    obtain ⟨-, hadv⟩ := operand_advance I (fun n hn hf =>
      hI.wide _ n hq hn (fits_span hf).1 (fits_span hf).2) hleft
    obtain ⟨hstop, hall⟩ := h3 left hleft
    exact Paced.chain I _ ((ih _ hadv h1).2 m left d _ hstop hall) (by omega)

omit hI in
theorem climb_paced (m : Nat) (L : Node) (d r : Nat) (hL : L.stop ≤ p)
    (hLs : Node.All Node.Solid L) : Paced I r (climb I m L p d r) := by
  rw [climb]
  dsimp only
  split
  · exact ⟨hp, by dsimp only; omega, fun n hn => by cases hn; exact ⟨hL, hLs⟩⟩
  -- an operator, then the right side read further on
  rename_i hstop
  simp only [Bool.or_eq_true, beq_iff_eq, decide_eq_true_eq, not_or] at hstop
  have h0 := le_skipBlank I p
  have h1 := le_skipBlank I (skipBlank I p + 1)
  have h1' := skipBlank_le_size I (p := skipBlank I p + 1) (by omega)
  have hx := (ih (skipBlank I (skipBlank I p + 1)) (by omega) h1').1
    (if (precedence (peek I (skipBlank I p))).2 then (precedence (peek I (skipBlank I p))).1
      else (precedence (peek I (skipBlank I p))).1 + 1) d r
  have hle := (expression I (if (precedence (peek I (skipBlank I p))).2 then
    (precedence (peek I (skipBlank I p))).1 else (precedence (peek I (skipBlank I p))).1 + 1)
    (skipBlank I (skipBlank I p + 1)) d r).le
  obtain ⟨h2, h3, hnode⟩ := hx
  split
  · -- a missing number stands for the right side
    refine ⟨h2, by dsimp only; omega, fun n hn => ?_⟩
    cases hn
    exact ⟨by simp [wrap]; omega, Node.all_solid_binary I hLs (Node.all_solid_of_nil rfl)⟩
  · rename_i rhs hrhs
    obtain ⟨hrs, hrall⟩ := hnode rhs hrhs
    exact Paced.chain I _ ((ih _ (by omega) h2).2 m _ d _ (by simp [wrap]; omega)
      (Node.all_solid_binary I hLs hrall)) (by omega)

end step

theorem paced {I : Input} (hI : I.Safe) (p : Nat) (hp : p ≤ I.src.size) : PacedAt I p := by
  induction hs : I.src.size - p using Nat.strongRecOn generalizing p with
  | _ n ih =>
    have later : ∀ p', p < p' → p' ≤ I.src.size → PacedAt I p' :=
      fun p' hlt hp' => ih (I.src.size - p') (by omega) p' hp' rfl
    exact ⟨fun m d r => expression_paced hI hp later m d r,
      fun m L d r hL hLs => climb_paced hp later m L d r hL hLs⟩

theorem source_reused {I : Input} (hI : I.Safe) : (source I).reused ≤ I.src.size := by
  rw [source]
  dsimp only
  split
  · exact Nat.zero_le _
  · have h0 := skipBlank_le_size I (Nat.zero_le I.src.size)
    obtain ⟨h1, h2, -⟩ := (paced hI (skipBlank I 0) h0).1 1 0 0
    dsimp only
    omega

theorem source_root_span {r : Node} (h : (source I).root = some r) :
    r.start = 0 ∧ r.stop = I.src.size := by
  rw [source] at h
  dsimp only at h
  split at h
  · cases h
    exact ⟨rfl, rfl⟩
  · obtain rfl := Option.some.inj h
    split <;> split <;> exact ⟨rfl, rfl⟩

theorem source_solid {I : Input} (hI : I.Safe) {r : Node} (h : (source I).root = some r) :
    Node.All Node.Solid r := by
  have hleaf : Node.All Node.Solid (Node.leaf .source 0 I.src.size) := Node.all_solid_of_nil rfl
  rw [source] at h
  dsimp only at h
  split at h
  · cases h
    exact hleaf
  obtain ⟨-, -, hnode⟩ :=
    (paced hI (skipBlank I 0) (skipBlank_le_size I (Nat.zero_le I.src.size))).1 1 0 0
  obtain rfl := Option.some.inj h
  have htail : Node.All Node.Solid
      (errorToEnd I (skipBlank I (expression I 1 (skipBlank I 0) 0 0).pos)) :=
    Node.all_solid_of_nil rfl
  -- the expression, if any, then the ERROR node over what is left, if anything
  cases hx : (expression I 1 (skipBlank I 0) 0 0).node with
  | none =>
    dsimp only
    split
    · exact hleaf.solid_push (by simp) htail _
    · exact hleaf
  | some e =>
    have he := (hnode e hx).2
    dsimp only
    split
    · exact (hleaf.solid_push (by simp) he _).solid_push (by simp) htail _
    · exact hleaf.solid_push (by simp) he _

end Parser

/-- The trees a caller can hold: the result of a parse of a text under `2^62` bytes, handed no
tree or one it could hold, and such a tree after any edit. -/
inductive Tree.Derived : Tree → Prop
  | parsed {limits : Limits} {src : ByteArray} {old : Option Tree} {T : Tree} :
      src.size < 2 ^ 62 → (∀ t ∈ old, Derived t) → parse limits src old = .ok T → Derived T
  | edited {T : Tree} (e : InputEdit) : Derived T → Derived (T.edit e)

theorem parse_solid {limits : Limits} {src : ByteArray} {old : Option Tree} {T : Tree}
    (hsmall : src.size < 2 ^ 62) (hold : ∀ t ∈ old, t.Solid) (h : parse limits src old = .ok T) :
    T.Solid := by
  unfold parse at h
  split at h
  · cases h
  cases h
  intro r hr
  refine Parser.source_solid ⟨hsmall, ?_⟩ hr
  -- the index the parse reads: the old tree's operands when it has the text's length
  cases old with
  | none => exact fun k n h => by simp at h
  | some t =>
    dsimp only
    split
    · exact fun k n h => (hold t rfl).reusable h
    · exact fun k n h => by simp at h

theorem Tree.Derived.solid {T : Tree} (h : T.Derived) : T.Solid := by
  induction h with
  | parsed hsmall _ hp ih => exact parse_solid hsmall ih hp
  | edited e _ ih => exact ih.edit e

/-- A parse handed any tree a caller can hold, whatever its history and however far its offsets
are from the text, is safe: every node of the old tree that starts at a cursor in the text and
ends inside it ends past it, so the bytes at its start and before its end that the check on it
reads lie in the text. And it returns a tree: its root is the source node over the whole text,
and it took over at most one node per byte of the text. -/
theorem stale_parse_spans_text {limits : Limits} {src : ByteArray} {old : Tree} (hold : old.Derived)
    (hsize : src.size ≤ limits.maxInput) (hsmall : src.size < 2 ^ 62) :
    (∀ (q : Nat) (n : Node), q ≤ src.size → old.reusable.get? (q : Int) = some n → n.start = q →
      n.stop ≤ src.size →
        0 ≤ n.start ∧ n.start < src.size ∧ n.start ≤ n.stop - 1 ∧ n.stop - 1 < src.size) ∧
    ∃ T root, parse limits src (some old) = .ok T ∧ T.root = some root ∧ root.kind = .source ∧
      root.start = 0 ∧ root.stop = src.size ∧ T.length = src.size ∧ T.reused ≤ src.size := by
  have hT := hold.solid
  refine ⟨fun q n hq hn hstart hs => ?_, ?_⟩
  · have hw : Parser.Input.Wide ⟨src, old.reusable, limits.maxDepth⟩ :=
      Parser.Input.Safe.wide ⟨hsmall, fun k n h => hT.reusable h⟩
    have := hw q n hq hn hstart hs
    omega
  -- the index the parse reads: the old tree's operands when it has the text's length
  have hI : Parser.Input.Safe ⟨src, if old.length == src.size then old.reusable else {},
      limits.maxDepth⟩ := by
    refine ⟨hsmall, fun k n h => ?_⟩
    dsimp only at h
    split at h
    · exact hT.reusable h
    · simp at h
  rw [parse_some_eq hsize]
  obtain ⟨root, hroot⟩ := source_root_some
    ⟨src, if old.length == src.size then old.reusable else {}, limits.maxDepth⟩
  obtain ⟨h0, hn⟩ := Parser.source_root_span _ hroot
  exact ⟨_, root, rfl, hroot, source_root_kind _ hroot, h0, hn, source_length _,
    Parser.source_reused hI⟩

/-- A parse of "2+(1)" handed the tree of "(1)+2" after an edit that does not describe the
change. -/
theorem stale_parse_swapped :
    let old := (Parser.source (.ofText (.mk #[40, 49, 41, 43, 50]) 512)).edit ⟨4, 5, 5⟩
    let src : ByteArray := .mk #[50, 43, 40, 49, 41]
    old.Derived ∧ src.size ≤ ({} : Limits).maxInput ∧ src.size < 2 ^ 62 ∧
      (∀ (q : Nat) (n : Node), q ≤ src.size → old.reusable.get? (q : Int) = some n →
        n.start = q → n.stop ≤ src.size →
          0 ≤ n.start ∧ n.start < src.size ∧ n.start ≤ n.stop - 1 ∧ n.stop - 1 < src.size) ∧
      ∃ T root, parse {} src (some old) = .ok T ∧ T.root = some root ∧ root.kind = .source ∧
        root.start = 0 ∧ root.stop = src.size ∧ T.length = src.size ∧ T.reused ≤ src.size := by
  intro old src
  have hold : old.Derived := .edited _ (@Tree.Derived.parsed {} (.mk #[40, 49, 41, 43, 50]) none _ (by decide) (by simp) rfl)
  exact ⟨hold, by decide, by decide, stale_parse_spans_text hold (by decide) (by decide)⟩

end LiveArith.Syntax
