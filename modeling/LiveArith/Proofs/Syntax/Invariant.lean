import LiveArith.Proofs.Session.OneShot
import LiveArith.Build
import LiveArith.Check

/-!
The representation invariant of syntax trees.
-/

set_option autoImplicit false

namespace LiveArith

/-- A diagnostic about `src` over a span that lies inside it. -/
structure Diagnostic.Inside (src : ByteArray) (d : Diagnostic) : Prop where
  source : d.source = src
  offset : 0 ≤ d.offset
  length : 0 ≤ d.length
  fits : d.offset + d.length ≤ src.size

namespace Syntax

open LiveArith.Syntax.Parser LiveArith.Syntax.Grammar

namespace Node

@[elab_as_elim]
theorem induction {motive : Node → Prop} (step : ∀ h cs, (∀ c ∈ cs, motive c) → motive ⟨h, cs⟩)
    (n : Node) : motive n :=
  match n with
  | ⟨h, cs⟩ => step h cs fun c _ => induction step c
termination_by sizeOf n
decreasing_by
  have := List.sizeOf_lt_of_mem ‹c ∈ cs›
  simp only [mk.sizeOf_spec]
  omega

/-- `m` is a node of the tree under `n`, `n` itself included. -/
inductive Occurs (m : Node) : Node → Prop
  | self : Occurs m m
  | child {n c : Node} : c ∈ n.children → Occurs m c → Occurs m n

variable {P : Node → Prop} {m n : Node}

theorem occurs_iff : Occurs m n ↔ m = n ∨ ∃ c ∈ n.children, Occurs m c := by
  constructor
  · rintro (_ | ⟨hc, hm⟩)
    · exact .inl rfl
    · exact .inr ⟨_, hc, hm⟩
  · rintro (rfl | ⟨c, hc, hm⟩)
    · exact .self
    · exact .child hc hm

theorem Occurs.trans {k : Node} (hm : Occurs m n) (hn : Occurs n k) : Occurs m k := by
  induction hn with
  | self => exact hm
  | child hc _ ih => exact .child hc ih

theorem All.occurs (h : All P n) (hm : Occurs m n) : P m := by
  induction hm with
  | self => exact h.self
  | child hc _ ih => exact ih (h.child hc)

theorem All.span (h : All (fun n => ∀ c ∈ n.children, n.start ≤ c.start ∧ c.stop ≤ n.stop) n)
    (hm : Occurs m n) : n.start ≤ m.start ∧ m.stop ≤ n.stop := by
  induction hm with
  | self => exact ⟨Int.le_refl _, Int.le_refl _⟩
  | child hc _ ih =>
    have hcn := h.self _ hc
    have hmc := ih (h.child hc)
    omega

theorem moveBy_moveBy (a b : Int) (n : Node) : (n.moveBy a).moveBy b = n.moveBy (a + b) := by
  induction n using Node.induction with
  | step h cs ih =>
    rw [moveBy_mk, moveBy_mk, moveBy_mk, List.map_map]
    congr 1
    · simp only [Int.add_assoc]
    · exact List.map_congr_left fun c hc => ih c hc

theorem occurs_moveBy {d : Int} (h : Occurs m (n.moveBy d)) : ∃ m₀, Occurs m₀ n ∧ m = m₀.moveBy d := by
  generalize hr : n.moveBy d = r at h
  induction h generalizing n with
  | self => exact ⟨n, .self, hr.symm⟩
  | child hc _ ih =>
    rw [← hr, moveBy_children] at hc
    obtain ⟨c₀, hc₀, rfl⟩ := List.mem_map.1 hc
    obtain ⟨m₀, hm₀, rfl⟩ := ih rfl
    exact ⟨m₀, .child hc₀ hm₀, rfl⟩

theorem clean_mk (h : Head) (cs : List Node) :
    (⟨h, cs⟩ : Node).clean = (h.sound && cs.all clean) := by
  have hall : ∀ cs : List Node, everyOf Head.sound cs = cs.all clean := by
    intro cs
    induction cs with
    | nil => rfl
    | cons c cs ih => rw [everyOf, ih, List.all_cons, clean]
  rw [clean, every, hall]

theorem clean_eq_false_iff : n.clean = false ↔ ∃ m, Occurs m n ∧ (m.kind = .error ∨ m.missing = true) := by
  induction n using Node.induction with
  | step h cs ih =>
    rw [clean_mk, Bool.and_eq_false_iff, List.all_eq_false]
    simp only [Head.sound, Bool.and_eq_false_iff, bne_eq_false_iff_eq, Bool.not_eq_eq_eq_not,
      Bool.not_false]
    constructor
    · rintro ((hk | hm) | ⟨c, hc, hcl⟩)
      · exact ⟨_, .self, .inl hk⟩
      · exact ⟨_, .self, .inr hm⟩
      · obtain ⟨m, hm, hbad⟩ := (ih c hc).1 (by simpa using hcl)
        exact ⟨m, .child hc hm, hbad⟩
    · rintro ⟨m, hm, hbad⟩
      rcases occurs_iff.1 hm with rfl | ⟨c, hc, hmc⟩
      · exact .inl hbad
      · exact .inr ⟨c, hc, by simpa using (ih c hc).2 ⟨m, hmc, hbad⟩⟩

/-- The representation invariant at one node: its span is ordered and holds its children's,
its children follow one another without overlap, a MISSING node is empty, and the node flags an
error exactly when an ERROR or MISSING node lies under it. -/
structure Tidy (n : Node) : Prop where
  ordered : n.start ≤ n.stop
  nested : ∀ c ∈ n.children, n.start ≤ c.start ∧ c.stop ≤ n.stop
  sorted : n.children.Pairwise fun a b => a.stop ≤ b.start
  narrow : n.missing = true → n.start = n.stop
  honest : n.hasError = true ↔ ∃ m, Occurs m n ∧ (m.kind = .error ∨ m.missing = true)

end Node

namespace Grammar

theorem Fine.tidy {u : ByteArray} {n : Node} (h : Fine u n) : n.Tidy where
  ordered := h.ordered
  nested := h.nested
  sorted := h.sorted
  narrow := h.narrow
  honest := by rw [h.honest, Bool.not_eq_true', Node.clean_eq_false_iff]

end Grammar

theorem parse_size {limits : Limits} {u : ByteArray} {old : Option Tree} {T : Tree}
    (h : parse limits u old = .ok T) : u.size ≤ limits.maxInput := by
  unfold parse at h
  split at h
  · cases h
  · omega

theorem source_root_kind (I : Input) {r : Node} (h : (source I).root = some r) : r.kind = .source := by
  rw [source] at h
  dsimp only at h
  split at h
  · cases h
    rfl
  · obtain rfl := Option.some.inj h
    split
    all_goals (try rw [Node.push_kind])
    all_goals (split <;> rfl)

theorem Reparsed.root_eq {limits : Limits} {u : ByteArray} {T : Tree} (hT : Reparsed limits u T) :
    T.root = (source (.ofText u limits.maxDepth)).root := by
  cases hT with
  | fresh hp =>
    rw [parse_none (parse_size hp)] at hp
    cases hp
    rfl
  | reuse hT hes hp =>
    rw [parse_some_eq (parse_size hp)] at hp
    cases hp
    exact Offers.source_root (hes.offers hT.offers) _

theorem Reparsed.shaped {limits : Limits} {u : ByteArray} {T : Tree} (hT : Reparsed limits u T) :
    ∃ root, T.root = some root ∧ T.length = u.size ∧ root.kind = .source ∧ root.start = 0 ∧
      root.stop = u.size ∧ Node.All (Fine u) root := by
  obtain ⟨root, hroot, hall, h0, hs⟩ := source_shaped u limits.maxDepth
  have hr : T.root = some root := hT.root_eq.trans hroot
  exact ⟨root, hr, (hT.offers root hr).1, source_root_kind _ hroot, h0, hs, hall⟩

namespace Describes

variable {e : InputEdit} {w w' : ByteArray} (hd : Describes e w w')
include hd

theorem valid : e.valid = true := by
  have := hd.offsets
  simp only [InputEdit.valid, Bool.and_eq_true, decide_eq_true_eq]
  omega

theorem extract_before {i j : Nat} (hij : i ≤ j) (hj : (j : Int) ≤ e.start) :
    w'.extract i j = w.extract i j := by
  have := hd.offsets
  have hm : Moves w w' 0 0 i j :=
    ⟨Nat.zero_le _, by omega, fun x _ hx => by simpa using hd.prefix_byte (by omega)⟩
  simpa using hm.extract hij (by omega)

theorem extract_after {i j : Nat} (hij : i ≤ j) (hi : e.oldStop ≤ i) (hj : j ≤ w.size) :
    w'.extract (i + e.newStop.toNat - e.oldStop.toNat) (j + e.newStop.toNat - e.oldStop.toNat) =
      w.extract i j := by
  have := hd.offsets
  have hm : Moves w w' e.oldStop.toNat e.newStop.toNat i j :=
    ⟨by omega, by omega, fun x hx _ => hd.suffix_byte (by omega) (by omega)⟩
  exact hm.extract hij hj

theorem edit_root {r : Node} (hp : Placed w r) (h0 : r.start = 0) (hs : r.stop = w.size) :
    (r.edit e).1.start = 0 ∧ (r.edit e).1.stop = w'.size := by
  have := hd.offsets
  rw [hd.touched_eq hp (by omega) (by omega)]
  simp only [Node.mk_start, Node.mk_stop]
  omega

theorem unchanged_edit {n m : Node} (hn : Node.All (Placed w) n) (hm : Node.Occurs m (n.edit e).1)
    (hc : m.changed = false) :
    ∃ m₁ d, Node.Occurs m₁ n ∧ m = m₁.moveBy d ∧
      w'.extract m.start.toNat m.stop.toNat = w.extract m₁.start.toNat m₁.stop.toNat := by
  have := hd.offsets
  induction hn generalizing m with
  | @intro n hp hcs ih =>
    have hall : Node.All (Placed w) n := .intro hp hcs
    by_cases hk : n.stop < e.start
    · -- before the edit: the node and its bytes stay where they were
      rw [Node.edit_kept e hk] at hm
      have hpm := (hall.occurs hm).bounds
      have hin := (hall.imp fun _ h => h.nested).span hm
      refine ⟨m, 0, hm, (Node.moveBy_zero m).symm, hd.extract_before (by omega) (by omega)⟩
    by_cases hmv : e.oldStop < n.start
    · -- after the edit: the node moves with its bytes
      have hmoved := hd.moved_placed hall hmv
      rw [Node.edit_moved e (by omega) hmv,
        Node.shift_eq_moveBy (hmoved.imp fun m hm => hm.wrapped hd.short')] at hm
      obtain ⟨m₁, hm₁, rfl⟩ := Node.occurs_moveBy hm
      have hpm := (hall.occurs hm₁).bounds
      have hin := (hall.imp fun _ h => h.nested).span hm₁
      refine ⟨m₁, _, hm₁, rfl, ?_⟩
      rw [Node.moveBy_start, Node.moveBy_stop,
        show (m₁.start + (e.newStop - e.oldStop)).toNat =
          m₁.start.toNat + e.newStop.toNat - e.oldStop.toNat by omega,
        show (m₁.stop + (e.newStop - e.oldStop)).toNat =
          m₁.stop.toNat + e.newStop.toNat - e.oldStop.toNat by omega]
      exact hd.extract_after (by omega) (by omega) (by omega)
    -- the edit touches the node and marks it, so `m` lies under one of its edited children
    rw [hd.touched_eq hp (by omega) (by omega)] at hm
    cases hm with
    | self => simp at hc
    | child hc' hm' =>
      obtain ⟨c, hcn, rfl⟩ := List.mem_map.1 hc'
      obtain ⟨m₁, d, hm₁, h1, h2⟩ := ih c hcn hm' hc
      exact ⟨m₁, d, .child hcn hm₁, h1, h2⟩

end Describes

namespace Grammar

def Keeps (u : ByteArray) (r₀ : Node) (v : ByteArray) (r : Node) : Prop :=
  ∀ m, Node.Occurs m r → m.changed = false →
    ∃ m₀ d, Node.Occurs m₀ r₀ ∧ m = m₀.moveBy d ∧
      v.extract m.start.toNat m.stop.toNat = u.extract m₀.start.toNat m₀.stop.toNat

theorem keeps_self (u : ByteArray) (r : Node) : Keeps u r u r :=
  fun m hm _ => ⟨m, 0, hm, (Node.moveBy_zero m).symm, rfl⟩

/-- The tree `T` with root `r`, edited from the tree `r₀` parsed from `u` so as to describe `v`:
the root spans the whole of `v`, every node is placed in `v` and so inside its parent, and every
node no edit marked changed spans the bytes it was parsed from. -/
structure Edited (u : ByteArray) (r₀ : Node) (v : ByteArray) (T : Tree) (r : Node) : Prop where
  root : T.root = some r
  length : T.length = v.size
  start : r.start = 0
  stop : r.stop = v.size
  placed : Node.All (Placed v) r
  keeps : Keeps u r₀ v r

end Grammar

theorem Describes.keeps_edit {e : InputEdit} {w w' u : ByteArray} (hd : Describes e w w')
    {r₀ r : Node} (hn : Node.All (Placed w) r) (hk : Keeps u r₀ w r) : Keeps u r₀ w' (r.edit e).1 := by
  intro m hm hc
  obtain ⟨m₁, d, hm₁, rfl, hbytes⟩ := hd.unchanged_edit hn hm hc
  obtain ⟨m₀, d₀, hm₀, rfl, hbytes₀⟩ := hk m₁ hm₁ (by simpa using hc)
  exact ⟨m₀, d₀ + d, hm₀, Node.moveBy_moveBy d₀ d m₀, hbytes.trans hbytes₀⟩

theorem Describes.edited {e : InputEdit} {w w' u : ByteArray} (hd : Describes e w w') {r₀ r : Node}
    {T : Tree} (h : Edited u r₀ w T r) : Edited u r₀ w' (T.edit e) (r.edit e).1 := by
  have hroot : (T.edit e).root = some (r.edit e).1 := by rw [Tree.edit_of_root h.root hd.valid]
  have hoff := hd.offers_edit (T := T) fun r' hr' => by
    rw [h.root] at hr'
    cases hr'
    exact ⟨h.length, h.placed⟩
  obtain ⟨hs, ht⟩ := hd.edit_root h.placed.self h.start h.stop
  exact ⟨hroot, (hoff _ hroot).1, hs, ht, (hoff _ hroot).2, hd.keeps_edit h.placed h.keeps⟩

theorem Edits.edited {u w v : ByteArray} {es : List InputEdit} (hes : Edits w es v) {r₀ r : Node}
    {T : Tree} (h : Edited u r₀ w T r) : ∃ r', Edited u r₀ v (es.foldl Tree.edit T) r' := by
  induction hes generalizing T r with
  | nil => exact ⟨r, h⟩
  | cons hd _ ih => exact ih (hd.edited h)

namespace Node

variable {m n : Node}

theorem errorNodes_eq (n : Node) : n.errorNodes =
    if !n.hasError then [] else if n.kind == .error || n.missing then [n]
    else n.children.flatMap errorNodes := by
  have hof : ∀ cs : List Node, errorNodesOf cs = cs.flatMap errorNodes := by
    intro cs
    induction cs with
    | nil => rw [errorNodesOf, List.flatMap_nil]
    | cons c cs ih => rw [errorNodesOf, ih, List.flatMap_cons]
  obtain ⟨h, cs⟩ := n
  rw [errorNodes, hof]
  rfl

theorem mem_errorNodes : ∀ m ∈ n.errorNodes, Occurs m n ∧ (m.kind = .error ∨ m.missing = true) := by
  induction n using Node.induction with
  | step h cs ih =>
    intro m hm
    rw [errorNodes_eq] at hm
    split at hm
    · simp at hm
    split at hm
    · next hb =>
      obtain rfl := List.mem_singleton.1 hm
      refine ⟨.self, ?_⟩
      simpa using hb
    · obtain ⟨c, hc, hmc⟩ := List.mem_flatMap.1 hm
      obtain ⟨ho, hbad⟩ := ih c hc m hmc
      exact ⟨.child hc ho, hbad⟩

theorem errorNodes_sorted (h : All Tidy n) : n.errorNodes.Pairwise fun a b => a.stop ≤ b.start := by
  induction h with
  | @intro n ht hcs ih =>
    rw [errorNodes_eq]
    split
    · exact .nil
    split
    · exact List.pairwise_singleton _ _
    -- the error nodes of each child lie within it, and the children come in order
    refine List.pairwise_flatMap.2 ⟨ih, ht.sorted.imp_of_mem fun {a b} ha hb hab x hx y hy => ?_⟩
    have hxa := ((hcs a ha).imp fun _ h => h.nested).span (mem_errorNodes x hx).1
    have hyb := ((hcs b hb).imp fun _ h => h.nested).span (mem_errorNodes y hy).1
    omega

theorem errorNodes_ne_nil (h : All Tidy n) (he : n.hasError = true) : n.errorNodes ≠ [] := by
  induction h with
  | @intro n ht hcs ih =>
    obtain ⟨m, hm, hbad⟩ := ht.honest.1 he
    rw [errorNodes_eq, he]
    simp only [Bool.not_true, Bool.false_eq_true, if_false]
    split
    · exact List.cons_ne_nil _ _
    · next hnb =>
      -- the node itself is sound, so the bad node lies under a child, which flags an error
      rcases occurs_iff.1 hm with rfl | ⟨c, hc, hmc⟩
      · rcases hbad with hk | hk <;> simp [hk] at hnb
      · have hce : c.hasError = true := (hcs c hc).self.honest.2 ⟨m, hmc, hbad⟩
        intro hnil
        exact ih c hc hce (List.flatMap_eq_nil_iff.1 hnil c hc)

end Node

theorem Diagnostic.inside_whole (k : ErrorKind) (src : ByteArray) (detail : String) :
    (Diagnostic.spanning k src 0 src.size detail).Inside src := by
  constructor <;> simp only [Diagnostic.spanning] <;> omega

theorem Grammar.Placed.inside_diagnostic {src : ByteArray} {m : Node} (hp : Placed src m) {d : Diagnostic}
    (hs : d.source = src) (ho : d.offset = m.start) (hl : d.length = max (m.stop - m.start) 0) :
    d.Inside src := by
  have := hp.bounds
  exact ⟨hs, by omega, by omega, by omega⟩

theorem bind_eq_error {ε α β : Type} {x : Except ε α} {f : α → Except ε β} {e : ε}
    (h : x >>= f = .error e) : x = .error e ∨ ∃ a, x = .ok a ∧ f a = .error e := by
  cases x with
  | error e' =>
    cases h
    exact .inl rfl
  | ok a => exact .inr ⟨a, rfl, h⟩

variable {src : ByteArray} {d : Diagnostic}

theorem Build.node_inside {n : Node} (hn : Node.All (Placed src) n) (h : Build.node src n = .error d) :
    d.Inside src := by
  fun_induction Build.node src n
  case case1 _ _ _ c hc _ ih => exact ih (hn.child hc) h
  case case14 _ _ _ _ l hl _ _ tok htok _ r hr _ _ ihl ihr =>
    -- the left operand is built first, then the operator is checked, then the right operand
    rcases bind_eq_error h with hle | ⟨le, -, h⟩
    · exact ihl (hn.child hl) hle
    cases hop : Op.ofSymbol? tok.type with
    | none =>
      rw [hop] at h
      cases h
      exact (hn.child (List.mem_of_find?_eq_some htok)).self.inside_diagnostic rfl rfl rfl
    | some op =>
      rw [hop] at h
      rcases bind_eq_error h with hre | ⟨re, -, h⟩
      · exact ihr (hn.child hr) hre
      · cases h
  case case17 _ _ _ _ i hi _ _ ih =>
    rcases bind_eq_error h with hie | ⟨ie, -, h⟩
    · exact ih (hn.child hi) hie
    · cases h
  -- every other failure is over the node itself
  all_goals (cases h <;> exact hn.self.inside_diagnostic rfl rfl rfl)

theorem Build.tree_inside {r : Node} (hr : Node.All (Placed src) r)
    (h : Build.tree (some r) src = .error d) : d.Inside src := by
  dsimp only [Build.tree] at h
  split at h
  · split at h
    · next c _ hcs =>
      have hc : c ∈ r.children := List.mem_of_mem_filter (hcs ▸ List.mem_cons_self ..)
      exact Build.node_inside (hr.child hc) h
    · cases h
      exact Diagnostic.inside_whole _ _ _
  · exact Build.node_inside hr h

theorem Check.tree_eq_none {r : Node} (h : r.hasError = false) : Check.tree (some r) src = none := by
  dsimp only [Check.tree]
  rw [h]
  rfl

theorem Check.tree_inside {r : Node} (hr : Node.All (Placed src) r)
    (h : Check.tree (some r) src = some d) : d.Inside src := by
  dsimp only [Check.tree] at h
  split at h
  · cases h
  split at h
  · cases h
    exact Diagnostic.inside_whole _ _ _
  · next m _ hms =>
    have hp := hr.occurs (Node.mem_errorNodes m (hms ▸ List.mem_cons_self ..)).1
    split at h <;> (cases h; exact hp.inside_diagnostic rfl rfl rfl)

/-- What holds of the tree `T` with root `r` that a session holds for the text `u`: the root
is a source node over the whole text and every node is tidy; the error nodes are ERROR and
MISSING nodes in source order, and there is one whenever the root flags an error; checking and
building report only diagnostics inside the text; and edits that describe changes of the text
leave a tree edited from this one. -/
structure Represents (u : ByteArray) (T : Tree) (r : Node) : Prop where
  root : T.root = some r
  length : T.length = u.size
  source : r.kind = .source
  start : r.start = 0
  stop : r.stop = u.size
  tidy : Node.All Node.Tidy r
  errors : ∀ m ∈ r.errorNodes, Node.Occurs m r ∧ (m.kind = .error ∨ m.missing = true)
  ordered : r.errorNodes.Pairwise fun a b => a.stop ≤ b.start
  reported : r.hasError = true → r.errorNodes ≠ []
  check : ∀ d, Check.tree T.root u = some d → d.Inside u
  build : ∀ d, Build.tree T.root u = .error d → d.Inside u
  edits : ∀ es v, Edits u es v → ∃ r', Edited u r v (es.foldl Tree.edit T) r'

/-- Every tree a session holds, fresh or reparsed after edits, represents its text. -/
theorem reparsed_represents {limits : Limits} {u : ByteArray} {T : Tree} (hT : Reparsed limits u T) :
    ∃ root, Represents u T root := by
  obtain ⟨root, hr, hl, hk, h0, hs, hfine⟩ := hT.shaped
  have htidy : Node.All Node.Tidy root := hfine.imp fun _ h => h.tidy
  have hplaced : Node.All (Placed u) root := placed_of_fine hfine (by omega) (by omega)
  refine ⟨root, hr, hl, hk, h0, hs, htidy, Node.mem_errorNodes, Node.errorNodes_sorted htidy,
    Node.errorNodes_ne_nil htidy, fun d h => ?_, fun d h => ?_, fun es v hes => ?_⟩
  · rw [hr] at h
    exact Check.tree_inside hplaced h
  · rw [hr] at h
    exact Build.tree_inside hplaced h
  · -- the parsed tree is its own edited tree under no edit
    exact hes.edited ⟨hr, hl, h0, hs, hplaced, keeps_self u root⟩

/-- The fresh parse of "1+(2", with its parenthesis left open. -/
theorem reparsed_represents_unclosed :
    Reparsed {} (.mk #[49, 43, 40, 50]) (source (.ofText (.mk #[49, 43, 40, 50]) 512)) ∧
      ∃ root, Represents (.mk #[49, 43, 40, 50]) (source (.ofText (.mk #[49, 43, 40, 50]) 512)) root :=
  have hT : Reparsed {} (.mk #[49, 43, 40, 50]) (source (.ofText (.mk #[49, 43, 40, 50]) 512)) :=
    .fresh (parse_none (by decide))
  ⟨hT, reparsed_represents hT⟩

end Syntax

end LiveArith
