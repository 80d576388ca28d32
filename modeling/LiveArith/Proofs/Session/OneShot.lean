import LiveArith.Proofs.Engine.Cached
import LiveArith.Proofs.Syntax.Reparse
import LiveArith.Proofs.Session.Offsets

/-!
A calculator session cannot be told apart from a one-shot evaluation.
-/

set_option autoImplicit false

namespace LiveArith

open LiveArith.Syntax LiveArith.Syntax.Grammar LiveArith.Syntax.Parser

namespace Build

theorem bind_eq_ok {α β : Type} {x : Except Diagnostic α} {f : α → Except Diagnostic β} {b : β}
    (h : x >>= f = .ok b) : ∃ a, x = .ok a ∧ f a = .ok b := by
  cases x with
  | error d => cases h
  | ok a => exact ⟨a, rfl, h⟩

theorem valid_of_ofSymbol {s : String} {op : Op} (h : Op.ofSymbol? s = some op) :
    op.valid = true := by
  have hmem := List.mem_of_find?_eq_some h
  simp only [List.mem_cons, List.not_mem_nil, or_false] at hmem
  rcases hmem with rfl | rfl | rfl | rfl <;> rfl

theorem node_compilable {src : ByteArray} {n : Node} {x : Expr} (h : node src n = .ok x) :
    x.Compilable := by
  fun_induction node src n generalizing x
  -- every other outcome is a diagnostic
  all_goals try (cases h; done)
  case case1 =>
    rename_i ih
    exact ih h
  case case4 =>
    cases h
    trivial
  case case6 =>
    cases h
    trivial
  case case14 =>
    rename_i ihl ihr
    obtain ⟨le, hle, h⟩ := bind_eq_ok h
    split at h
    · cases h
    · rename_i op hop
      obtain ⟨re, hre, h⟩ := bind_eq_ok h
      cases h
      exact ⟨valid_of_ofSymbol hop, ihl hle, ihr hre⟩
  case case17 =>
    rename_i ih
    obtain ⟨ie, hie, h⟩ := bind_eq_ok h
    cases h
    show ie.Compilable
    exact ih hie

theorem tree_compilable {root : Option Node} {src : ByteArray} {x : Expr}
    (h : tree root src = .ok x) : x.Compilable := by
  unfold tree at h
  split at h
  · cases h
  · split at h
    · split at h
      · exact node_compilable h
      · cases h
    · exact node_compilable h

end Build

namespace Engine

theorem evaluate_built {root : Option Syntax.Node} {src : ByteArray} {x : Expr}
    (hb : Build.tree root src = .ok x) (o : Options) :
    ∃ v, ∀ e key, Good o e → (e.evaluate key x false).1 = .ok v ∧ Good o (e.evaluate key x false).2 := by
  have hx := Build.tree_compilable hb
  obtain ⟨c, hc, -⟩ := Machine.lower_correct hx
  -- the value is the one the expression's own program runs to
  obtain ⟨v, hv, -⟩ := Machine.run_ofCode_typed c x.type o.optimize
  exact ⟨v, fun e key hg => hg.evaluate hx hc hv key⟩

theorem Good.update {o : Options} {e : Engine} (hg : Good o e) (s : Session) (next : ByteArray)
    (edit : Edit) (cancelled : Bool) : Good o (s.update e next edit cancelled).2.2 := by
  unfold Session.update
  cases cancelled with
  | true => exact hg
  | false =>
    simp only [Bool.false_eq_true, if_false]
    -- a failed parse, check or build leaves the engine as it was
    generalize (s.buf.update next _ _ _).getD s.buf = buf
    split
    · exact hg
    · split
      · exact hg
      · split
        · exact hg
        · rename_i x hb
          obtain ⟨v, hv⟩ := evaluate_built hb o
          obtain ⟨-, hg₁⟩ := hv e x.hash hg
          rcases hev : e.evaluate x.hash x false with ⟨r, e₁⟩
          rw [hev] at hg₁
          cases r <;> exact hg₁

end Engine

namespace Session

open Engine

variable {s s' : Session} {e e' : Engine} {o : Options} {next : ByteArray}

/-- The session invariant: the kept tree offers for reuse only what the text still holds, and
the text is short enough for 64-bit offsets. -/
structure Sound (s : Session) : Prop where
  short : s.text.size < 2 ^ 63
  offers : ∀ T, s.tree = some T → Offers s.text T

theorem Sound.kept (hs : s.Sound) (edit : Edit) (hn : next.size < 2 ^ 63) :
    ∀ T, s.tree.map (·.edit (edit.normalize s.text next).toInput) = some T → Offers next T := by
  intro T hT
  obtain ⟨T₀, h₀, rfl⟩ := Option.map_eq_some_iff.1 hT
  exact Describes.offers_edit (Edit.normalize_describes edit hs.short hn) (hs.offers T₀ h₀)

theorem parse_tooLarge {L : Limits} {src : ByteArray} {old : Option Tree}
    (h : ¬src.size ≤ L.maxInput) : parse L src old = .error .tooLarge := by
  unfold Syntax.parse
  rw [if_pos (Nat.lt_of_not_le h)]

theorem parse_root_fresh {L : Limits} {src : ByteArray} {kept : Option Tree}
    (hv : src.size ≤ L.maxInput) (hk : ∀ T, kept = some T → Offers src T) :
    ∃ t, parse L src kept = .ok t ∧ t.root = (source (.ofText src L.maxDepth)).root := by
  cases kept with
  | none => exact ⟨_, parse_none hv, rfl⟩
  | some T => exact ⟨_, parse_some_eq hv, Offers.source_root (hk T rfl) L.maxDepth⟩

theorem buffer_update (s : Session) (next : ByteArray) (edit : Edit) :
    ((s.buf.update next (edit.normalize s.text next).start (edit.normalize s.text next).oldStop
      (edit.normalize s.text next).newStop).getD s.buf).bytes = next := by
  obtain ⟨b, hb, hbytes⟩ := Buffer.update_exact (Edit.normalize_exact edit s.text next)
  rw [hb]
  exact hbytes

theorem update_shape (s : Session) (e : Engine) (next : ByteArray) (edit : Edit) :
    (s.update e next edit false).2.1.text = next ∧
      ((∃ f, parse e.options.limits next
          (s.tree.map (·.edit (edit.normalize s.text next).toInput)) = .error f) ∧
        (s.update e next edit false).2.1.tree =
          s.tree.map (·.edit (edit.normalize s.text next).toInput) ∨
      ∃ t, parse e.options.limits next
          (s.tree.map (·.edit (edit.normalize s.text next).toInput)) = .ok t ∧
        (s.update e next edit false).2.1.tree = some t) := by
  have htext := buffer_update s next edit
  unfold Session.update
  simp only [Bool.false_eq_true, if_false]
  rw [htext]
  split
  · exact ⟨htext, .inl ⟨⟨_, ‹_›⟩, rfl⟩⟩
  · -- every later step keeps the parsed tree
    split
    · exact ⟨htext, .inr ⟨_, ‹_›, rfl⟩⟩
    · split
      · exact ⟨htext, .inr ⟨_, ‹_›, rfl⟩⟩
      · split <;> exact ⟨htext, .inr ⟨_, ‹_›, rfl⟩⟩

theorem Sound.update (hs : s.Sound) (hn : next.size < 2 ^ 63) (e : Engine) (edit : Edit)
    (cancelled : Bool) : (s.update e next edit cancelled).2.1.Sound := by
  cases cancelled with
  | true => exact hs
  | false =>
    obtain ⟨htext, hkept | ⟨t, ht, htree⟩⟩ := update_shape s e next edit
    · refine ⟨by rw [htext]; exact hn, fun T hT => ?_⟩
      rw [htext]
      exact hs.kept edit hn T (hkept.2 ▸ hT)
    · refine ⟨by rw [htext]; exact hn, fun T hT => ?_⟩
      rw [htree] at hT
      cases hT
      rw [htext]
      exact parse_offers (hs.kept edit hn) ht

theorem update_outcome_eq (hs : s.Sound) (hs' : s'.Sound) (hg : Good o e) (hg' : Good o e')
    (hn : next.size < 2 ^ 63) (edit edit' : Edit) :
    (s.update e next edit false).1 = (s'.update e' next edit' false).1 := by
  unfold Session.update
  simp only [Bool.false_eq_true, if_false]
  rw [buffer_update, buffer_update, hg.options, hg'.options]
  by_cases hv : next.size ≤ o.limits.maxInput
  · obtain ⟨t, ht, hroot⟩ := parse_root_fresh hv (hs.kept edit hn)
    obtain ⟨t', ht', hroot'⟩ := parse_root_fresh hv (hs'.kept edit' hn)
    rw [ht, ht']
    dsimp only
    rw [hroot, hroot']
    -- from here on only the root is read, and it is the root of a fresh parse
    cases Check.tree (source (.ofText next o.limits.maxDepth)).root next with
    | some d => rfl
    | none =>
      dsimp only
      cases hb : Build.tree (source (.ofText next o.limits.maxDepth)).root next with
      | error d => rfl
      | ok x =>
        dsimp only
        -- both engines give the value of the expression's program
        obtain ⟨v, hv⟩ := evaluate_built hb o
        obtain ⟨h₁, -⟩ := hv e x.hash hg
        obtain ⟨h₂, -⟩ := hv e' x.hash hg'
        rcases hev : e.evaluate x.hash x false with ⟨r, e₁⟩
        rcases hev' : e'.evaluate x.hash x false with ⟨r', e₂⟩
        rw [hev] at h₁
        rw [hev'] at h₂
        cases h₁
        cases h₂
        rfl
  · rw [parse_tooLarge hv, parse_tooLarge hv]

theorem start_sound (e : Engine) : (Session.start e).1.Sound :=
  ⟨show Buffer.empty.bytes.size < 2 ^ 63 by decide, fun T h => by cases h⟩

theorem Sound.reset (s : Session) : s.reset.Sound :=
  ⟨show s.buf.clear.bytes.size < 2 ^ 63 by rw [Buffer.clear_size]; decide, fun T h => by cases h⟩

def oneShot (o : Options) (text : ByteArray) : Except Diagnostic Value :=
  match Engine.create o with
  | .error d => .error d
  | .ok e =>
    let (s, e) := Session.start e
    (s.eval e text false).1

/-- The engines and sessions a new engine made with options `o` can reach: sessions are
started, updated (also by a cancelled request) and reset in any order, and the clock moves
and the cache is swept in between. An evaluation is an update that replaces everything. -/
inductive Reachable (o : Options) : Engine → List Session → Prop
  | create {e : Engine} : Engine.create o = .ok e → Reachable o e []
  | start {e : Engine} {ss : List Session} : Reachable o e ss →
      Reachable o (Session.start e).2 ((Session.start e).1 :: ss)
  | update {e : Engine} {ss : List Session} {i : Nat} {s : Session} (next : ByteArray)
      (edit : Edit) (cancelled : Bool) : Reachable o e ss → ss[i]? = some s →
      next.size < 2 ^ 63 →
      Reachable o (s.update e next edit cancelled).2.2
        (ss.set i (s.update e next edit cancelled).2.1)
  | reset {e : Engine} {ss : List Session} {i : Nat} {s : Session} : Reachable o e ss →
      ss[i]? = some s → Reachable o e (ss.set i s.reset)
  | tick {e : Engine} {ss : List Session} (ns : Int) : Reachable o e ss →
      Reachable o { e with clock := e.clock.advance ns } ss
  | sweep {e : Engine} {ss : List Session} : Reachable o e ss → Reachable o e.sweep.2 ss

variable {ss : List Session}

theorem Reachable.created (hr : Reachable o e ss) : ∃ e₀, Engine.create o = .ok e₀ := by
  induction hr with
  | create h => exact ⟨_, h⟩
  | start _ ih => exact ih
  | update _ _ _ _ _ _ ih => exact ih
  | reset _ _ ih => exact ih
  | tick _ _ ih => exact ih
  | sweep _ ih => exact ih

theorem Reachable.invariant (hr : Reachable o e ss) : Good o e ∧ ∀ s ∈ ss, s.Sound := by
  induction hr with
  | create h => exact ⟨Good.create h, fun s hs => by cases hs⟩
  | @start e ss _ ih =>
    refine ⟨ih.1.openSession, fun s hs => ?_⟩
    rcases List.mem_cons.1 hs with rfl | hs
    · exact start_sound e
    · exact ih.2 s hs
  | update next edit cancelled _ hi hn ih =>
    refine ⟨ih.1.update _ next edit cancelled, fun s' hs' => ?_⟩
    rcases List.mem_or_eq_of_mem_set hs' with hs' | rfl
    · exact ih.2 s' hs'
    · exact (ih.2 _ (List.mem_of_getElem? hi)).update hn _ edit cancelled
  | reset _ hi ih =>
    refine ⟨ih.1, fun s' hs' => ?_⟩
    rcases List.mem_or_eq_of_mem_set hs' with hs' | rfl
    · exact ih.2 s' hs'
    · exact Sound.reset _
  | tick ns _ ih => exact ⟨⟨ih.1.options, ih.1.live, ih.1.issued, ih.1.cached⟩, ih.2⟩
  | sweep _ ih => exact ⟨ih.1.sweep, ih.2⟩

theorem size_le_limits {o : Options} {n : Nat} (h : (n : Int) ≤ o.maxInput) :
    n ≤ o.limits.maxInput := by
  simp only [Options.limits, Limits.ofRequest]
  split <;> omega

theorem depth_le_limits {o : Options} {n : Nat} (h : (n : Int) ≤ o.maxDepth) :
    n ≤ o.limits.maxDepth := by
  simp only [Options.limits, Limits.ofRequest]
  split <;> omega

/-- A session reached by any interleaving of operations answers an update exactly as a
one-shot evaluation of the new text with the same options, holds the new text afterwards
and, when the text is within the size limit, the tree of a fresh parse of it; a cancelled
update answers with a system diagnostic and changes nothing. -/
theorem update_matches_oneShot {s : Session} (hr : Reachable o e ss) (hs : s ∈ ss)
    (next : ByteArray) (edit : Edit) (hn : next.size < 2 ^ 63) :
    (s.update e next edit false).1 = oneShot o next ∧
      (s.update e next edit false).2.1.text = next ∧
      ((next.size : Int) ≤ o.maxInput → ∃ T, parse o.limits next none = .ok T ∧
        (s.update e next edit false).2.1.outline.1 = Node.sexpOf T.root) ∧
      s.update e next edit true =
        (.error (whole .system next "update cancelled" .canceled), s, e) := by
  obtain ⟨hg, hss⟩ := hr.invariant
  obtain ⟨e₀, h₀⟩ := hr.created
  have hsound := hss s hs
  obtain ⟨htext, htree⟩ := update_shape s e next edit
  refine ⟨?_, htext, fun hmax => ?_, rfl⟩
  · -- a new calculator's session and engine satisfy both invariants as well
    unfold oneShot
    rw [h₀]
    exact update_outcome_eq hsound (start_sound e₀) hg (Good.create h₀).openSession hn edit _
  · have hv := size_le_limits hmax
    rw [← hg.options] at hv
    obtain ⟨t, ht, hroot⟩ := parse_root_fresh hv (hsound.kept edit hn)
    refine ⟨_, parse_none (hg.options ▸ hv), ?_⟩
    rcases htree with ⟨⟨f, hf⟩, -⟩ | ⟨t', ht', htree'⟩
    · rw [ht] at hf
      cases hf
    · rw [ht] at ht'
      cases ht'
      rw [outline, htree']
      dsimp only
      rw [hroot, hg.options]

theorem update_matches_oneShot_retyped :
    ∃ e₀, Engine.create {} = .ok e₀ ∧
      let r := (Session.start e₀).1.update (Session.start e₀).2 (.mk #[49, 43, 50]) ⟨0, 0, 3⟩ false
      Reachable {} r.2.2 [r.2.1] ∧ r.2.1 ∈ [r.2.1] ∧ (ByteArray.mk #[49, 43, 50, 51]).size < 2 ^ 63 ∧
        ((r.2.1.update r.2.2 (.mk #[49, 43, 50, 51]) ⟨3, 3, 4⟩ false).1 =
            oneShot {} (.mk #[49, 43, 50, 51]) ∧
          (r.2.1.update r.2.2 (.mk #[49, 43, 50, 51]) ⟨3, 3, 4⟩ false).2.1.text =
            .mk #[49, 43, 50, 51] ∧
          (((ByteArray.mk #[49, 43, 50, 51]).size : Int) ≤ ({} : Options).maxInput →
            ∃ T, parse ({} : Options).limits (.mk #[49, 43, 50, 51]) none = .ok T ∧
              (r.2.1.update r.2.2 (.mk #[49, 43, 50, 51]) ⟨3, 3, 4⟩ false).2.1.outline.1 =
                Node.sexpOf T.root) ∧
          r.2.1.update r.2.2 (.mk #[49, 43, 50, 51]) ⟨3, 3, 4⟩ true =
            (.error (whole .system (.mk #[49, 43, 50, 51]) "update cancelled" .canceled), r.2.1,
              r.2.2)) := by
  -- the engine is kept abstract, so that no step evaluates the updates on it
  obtain ⟨e₀, hc⟩ : ∃ e₀, Engine.create {} = .ok e₀ := ⟨_, rfl⟩
  refine ⟨e₀, hc, ?_⟩
  dsimp only
  have h₀ : Reachable {} (Session.start e₀).2 [(Session.start e₀).1] := .start (.create hc)
  have hr := Reachable.update (i := 0) (.mk #[49, 43, 50]) ⟨0, 0, 3⟩ false h₀ rfl (by decide)
  exact ⟨hr, List.mem_singleton.2 rfl, by decide,
    update_matches_oneShot hr (List.mem_singleton.2 rfl) _ _ (by decide)⟩

end Session

end LiveArith
