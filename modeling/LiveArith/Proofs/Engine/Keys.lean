import LiveArith.Proofs.Engine.Hits

/-!
Evaluation does not depend on the function that keys the cache.
-/

set_option autoImplicit false

namespace LiveArith

namespace Cache

variable {R : Type} {c d : Cache R} {l s : Nat}

theorem keys_lookup (c : Cache R) (key : UInt64) (now : Int) :
    (c.lookup key now).2.entries.map Prod.fst = c.entries.map Prod.fst := by
  unfold Cache.lookup
  split
  · rfl
  · simp only [List.map_map]
    refine List.map_congr_left fun p _ => ?_
    simp only [Function.comp_apply]
    split <;> rfl

theorem Calls.keyed (h : Calls c l s d) (hc : (c.entries.map Prod.fst).Nodup) :
    (d.entries.map Prod.fst).Nodup := by
  induction h with
  | refl => exact hc
  | lookup key now _ ih => rw [keys_lookup]; exact ih
  | @insert l s d key fn x now _ ih =>
    cases hk : d.peek? key with
    | none =>
      rw [insert_fresh hk, List.map_append]
      exact Engine.nodup_concat ih (not_mem_of_peek hk)
    | some en =>
      rw [insert_taken hk]
      exact ih
  | @sweep l s d now _ ih =>
    obtain ⟨-, -, -, hsub, -⟩ := sweep_split d now
    exact ih.sublist (hsub.map _)

end Cache

namespace Engine

open Machine

variable {o : Options} {e e' : Engine} {x : Expr} {fn : Callable Code} {key : UInt64}

/-- One operation of a run on an engine whose cache is keyed by `H` in place of the structural
hash: an evaluation of any expression under its key, cancelled or not; a sweep of the cache at
the clock's time; a move of the clock. -/
inductive Keyed (H : Expr → UInt64) : Engine → Engine → Prop
  | evaluate (e : Engine) (x : Expr) (cancelled : Bool) :
      Keyed H e (e.evaluate (H x) x cancelled).2
  | sweep (e : Engine) : Keyed H e e.sweep.2
  | tick (e : Engine) (ns : Int) : Keyed H e { e with clock := e.clock.advance ns }

theorem compilable_of_lower {c : Machine.Code} (h : lower x = .ok c) : x.Compilable := by
  induction x generalizing c with
  | hole => cases h
  | int => trivial
  | float => trivial
  | paren _ e ih => exact ih h
  | binary _ l op r ihl ihr =>
    simp only [lower] at h
    split at h
    · cases h
    · rename_i hop
      -- both operands lowered before the operation was built
      cases hl : lower l with
      | error f => simp [hl, bind, Except.bind] at h
      | ok lc =>
        cases hr : lower r with
        | error f => simp [hl, hr, bind, Except.bind] at h
        | ok rc => exact ⟨by simpa using hop, ihl hl, ihr hr⟩

theorem lower_of_compile (h : e.compile x = .ok (fn, e')) : ∃ c, lower x = .ok c := by
  obtain ⟨m, hg, -⟩ := compile_inv h
  obtain ⟨c, -, -, -, hc, -⟩ := Backend.generate_eq_ok hg
  exact ⟨c, hc⟩

theorem compile_gives (hi : e.module.Issued) (h : e.compile x = .ok (fn, e')) :
    Compiles e.options.optimize x fn := by
  obtain ⟨c, hc⟩ := lower_of_compile h
  obtain ⟨e'', c', hc', hcomp⟩ := compile_ok (compilable_of_lower hc) (hi.fresh x.type)
  rw [hcomp] at h
  cases h
  exact ⟨c', hc', rfl, rfl⟩

theorem compile_eq (h : e.compile x = .ok (fn, e')) :
    e' = { e with module := e'.module, compiles := e.compiles + 1, journal := e'.journal } := by
  obtain ⟨m, -, rfl⟩ := compile_inv h
  rfl

theorem runOnce_symbols (hi : e.module.Issued) (x : Expr) (c : Bool) :
    (e.runOnce x c).2.module.symbols = e.module.symbols := by
  unfold Engine.runOnce
  split
  · rfl
  · rename_i fn e' hc
    obtain ⟨hname, -, hmod⟩ := compile_spec hi hc
    have hnot := hi.not_mem x.type
    rw [← hname] at hnot
    show (e'.module.release fn.symbol).symbols = _
    rw [Module.release_symbols, hmod, List.filter_append,
      List.filter_cons_of_neg (by simp), List.filter_nil, List.append_nil]
    refine List.filter_eq_self.2 fun p hp => ?_
    have hne : p.1 ≠ fn.symbol := fun heq => hnot (heq ▸ List.mem_map_of_mem hp)
    simpa using hne

theorem Good.runOnce_any (hg : Good o e) (x : Expr) (c : Bool) : Good o (e.runOnce x c).2 := by
  unfold Engine.runOnce
  split
  · exact hg
  · rename_i fn e' hc
    exact (hg.compile hc).release _

theorem Good.evaluate_any (hg : Good o e) (key : UInt64) (x : Expr) (c : Bool) :
    Good o (e.evaluate key x c).2 := by
  unfold Engine.evaluate
  rw [if_neg (by rw [hg.live]; decide)]
  obtain ⟨hg₁, -⟩ := hg.lookup key
  rcases hl : e.lookup key with ⟨_ | en, e₁⟩
  · rw [hl] at hg₁
    dsimp only
    cases hcomp : e₁.compile x with
    | error f => exact hg₁.note _ _ _
    | ok r =>
      obtain ⟨fn, e₂⟩ := r
      have hg₂ := hg₁.compile hcomp
      dsimp only
      cases fn.call runCode c with
      | error f => exact hg₂.release _
      | ok v =>
        have hf := compile_gives hg₁.issued hcomp
        rw [hg₁.options] at hf
        exact (hg₂.store hf).note _ _ _
  · rw [hl] at hg₁
    dsimp only
    split
    · exact hg₁.note _ _ _
    · refine Good.runOnce_any ?_ x c
      exact ⟨hg₁.options, hg₁.live, hg₁.issued, hg₁.cached⟩

/-- The invariant of a keyed run: the engine invariant, and the cache's keys distinct. -/
structure KeyedGood (o : Options) (e : Engine) : Prop where
  good : Good o e
  keyed : (e.cache.entries.map Prod.fst).Nodup

theorem KeyedGood.create (h : Engine.create o = .ok e) : KeyedGood o e :=
  ⟨Good.create h, by rw [(create_fresh h).1]; exact List.nodup_nil⟩

theorem KeyedGood.step {H : Expr → UInt64} (hk : KeyedGood o e) (hs : Keyed H e e') :
    KeyedGood o e' := by
  cases hs with
  | evaluate x c =>
    obtain ⟨l, s, hc⟩ := evaluate_calls e (H x) x c
    exact ⟨hk.good.evaluate_any _ x c, hc.keyed hk.keyed⟩
  | sweep => exact ⟨hk.good.sweep, (sweep_calls .refl).keyed hk.keyed⟩
  | tick ns =>
    exact ⟨⟨hk.good.options, hk.good.live, hk.good.issued, hk.good.cached⟩, hk.keyed⟩

theorem KeyedGood.run {H : Expr → UInt64} {e₀ : Engine} (h₀ : Engine.create o = .ok e₀)
    (hrun : Relation.ReflTransGen (Keyed H) e₀ e) : KeyedGood o e := by
  induction hrun with
  | refl => exact KeyedGood.create h₀
  | tail _ hs ih => exact ih.step hs

theorem Good.evaluate_direct (hg : Good o e) (hx : x.Compilable) (key : UInt64) :
    ∃ fn e' v, e.compile x = .ok (fn, e') ∧ fn.call runCode false = .ok v ∧
      (e.evaluate key x false).1 = .ok v := by
  obtain ⟨c, hc, -⟩ := lower_correct hx
  obtain ⟨v, hv, -⟩ := run_ofCode_typed c x.type o.optimize
  obtain ⟨fn, e', hcomp, -, hcall, -⟩ := hg.compile_ok hx hc hv
  exact ⟨fn, e', v, hcomp, hcall, (hg.evaluate hx hc hv key).1⟩

theorem evaluate_collision (hg : Good o e) (hx : x.Compilable) {en : Entry Code}
    (hk : e.cache.peek? key = some en) (hs : en.expr.same x = false) :
    (e.evaluate key x false).2.collisions = e.collisions + 1 ∧
      (e.evaluate key x false).2.compiles = e.compiles + 1 ∧
      (e.evaluate key x false).2.module.counter = e.module.counter + 1 ∧
      (e.evaluate key x false).2.module.symbols = e.module.symbols ∧
      (e.evaluate key x false).2.cache = (e.cache.lookup key e.clock.read.1).2 := by
  have hfound := (Cache.lookup_hit hk e.now.1).1
  -- the engine the collision compiles on: the hit's cache, the clock read, the collision counted
  let e₁ : Engine := { ({ e.now.2 with cache := (e.cache.lookup key e.now.1).2 } : Engine).note
      .warn "hash collision" [.str "key" (keyText key), .str "cached" en.expr.text,
        .str "expr" x.text] with
    collisions := e.collisions + 1 }
  have hev : e.evaluate key x false = e₁.runOnce x false := by
    unfold Engine.evaluate
    rw [if_neg (by rw [hg.live]; decide), lookup_of_peek hk, hfound]
    dsimp only
    rw [if_neg (by rw [hs]; decide)]
    rfl
  have hi : e₁.module.Issued := hg.issued
  have hgl := (hg.lookup key).1
  rw [lookup_of_peek hk] at hgl
  have hg₁ : Good o e₁ := ⟨hgl.options, hgl.live, hgl.issued, hgl.cached⟩
  obtain ⟨c, hc, -⟩ := lower_correct hx
  obtain ⟨v, hv, -⟩ := run_ofCode_typed c x.type o.optimize
  obtain ⟨fn, e₂, hcomp, -, -, -⟩ := hg₁.compile_ok hx hc hv
  have hrun : e₁.runOnce x false = (fn.call runCode false,
      { e₂ with module := e₂.module.release fn.symbol }) := by
    unfold Engine.runOnce
    rw [hcomp]
  have he₂ := compile_eq hcomp
  obtain ⟨-, -, hmod⟩ := compile_spec hi hcomp
  rw [hev]
  refine ⟨?_, ?_, ?_, runOnce_symbols hi x false, ?_⟩
  · rw [hrun, he₂]
  · rw [hrun, he₂]
    rfl
  · rw [hrun]
    show (e₂.module.release fn.symbol).counter = _
    rw [hmod]
    rfl
  · rw [runOnce_cache]
    rfl

/-- **Evaluation does not depend on the cache's key function.** On every engine reached from a
new engine by a run of evaluations under the keys `H` gives (of any expressions, cancelled or
not), sweeps and clock moves, evaluating an expression with no absent part and only the four
operators under its key `H x`, not cancelled, returns the value that compiling the expression and
calling the program returns. When the entry under `H x` holds an expression that is not the same
(a collision), the evaluation adds one to the collisions, compiles the expression once and
releases that symbol, so the module's symbols are as they were, and the cache moves as for a hit:
its keys, callables and expressions are unchanged, and only the entry found is touched. -/
theorem evaluate_ignores_key (H : Expr → UInt64) {e₀ : Engine} (h₀ : Engine.create o = .ok e₀)
    (hrun : Relation.ReflTransGen (Keyed H) e₀ e) (hx : x.Compilable) :
    (∃ fn e' v, e.compile x = .ok (fn, e') ∧ fn.call runCode false = .ok v ∧
        (e.evaluate (H x) x false).1 = .ok v) ∧
      ∀ en, e.cache.peek? (H x) = some en → en.expr.same x = false →
        (e.evaluate (H x) x false).2.collisions = e.collisions + 1 ∧
        (e.evaluate (H x) x false).2.compiles = e.compiles + 1 ∧
        (e.evaluate (H x) x false).2.module.counter = e.module.counter + 1 ∧
        (e.evaluate (H x) x false).2.module.symbols = e.module.symbols ∧
        (e.evaluate (H x) x false).2.cache = (e.cache.lookup (H x) e.clock.read.1).2 ∧
        (e.evaluate (H x) x false).2.cache.entries.map Cache.held =
          e.cache.entries.map Cache.held := by
  have hk := KeyedGood.run h₀ hrun
  refine ⟨hk.good.evaluate_direct hx (H x), fun en hen hs => ?_⟩
  obtain ⟨hcoll, hcomp, hcount, hsyms, hcache⟩ := evaluate_collision hk.good hx hen hs
  refine ⟨hcoll, hcomp, hcount, hsyms, hcache, ?_⟩
  rw [hcache]
  exact (Cache.lookup_held hk.keyed (H x) e.clock.read.1).1

/-- With a constant key every expression shares one entry: after `1` is evaluated on a new
engine, evaluating `2` is a collision. -/
theorem evaluate_ignores_key_constant :
    ∃ e₀, Engine.create {} = .ok e₀ ∧
      Relation.ReflTransGen (Keyed fun _ => 0) e₀ (e₀.evaluate 0 (.int {} 1) false).2 ∧
      (Expr.int {} 2).Compilable ∧
      ((∃ fn e' v, (e₀.evaluate 0 (.int {} 1) false).2.compile (.int {} 2) = .ok (fn, e') ∧
          fn.call runCode false = .ok v ∧
          ((e₀.evaluate 0 (.int {} 1) false).2.evaluate 0 (.int {} 2) false).1 = .ok v) ∧
        ∀ en, (e₀.evaluate 0 (.int {} 1) false).2.cache.peek? 0 = some en →
          en.expr.same (.int {} 2) = false →
          ((e₀.evaluate 0 (.int {} 1) false).2.evaluate 0 (.int {} 2) false).2.collisions =
              (e₀.evaluate 0 (.int {} 1) false).2.collisions + 1 ∧
            ((e₀.evaluate 0 (.int {} 1) false).2.evaluate 0 (.int {} 2) false).2.compiles =
              (e₀.evaluate 0 (.int {} 1) false).2.compiles + 1 ∧
            ((e₀.evaluate 0 (.int {} 1) false).2.evaluate 0 (.int {} 2) false).2.module.counter =
              (e₀.evaluate 0 (.int {} 1) false).2.module.counter + 1 ∧
            ((e₀.evaluate 0 (.int {} 1) false).2.evaluate 0 (.int {} 2) false).2.module.symbols =
              (e₀.evaluate 0 (.int {} 1) false).2.module.symbols ∧
            ((e₀.evaluate 0 (.int {} 1) false).2.evaluate 0 (.int {} 2) false).2.cache =
              ((e₀.evaluate 0 (.int {} 1) false).2.cache.lookup 0
                (e₀.evaluate 0 (.int {} 1) false).2.clock.read.1).2 ∧
            ((e₀.evaluate 0 (.int {} 1) false).2.evaluate 0 (.int {} 2) false).2.cache.entries.map
                Cache.held = (e₀.evaluate 0 (.int {} 1) false).2.cache.entries.map Cache.held) := by
  obtain ⟨e₀, h₀⟩ : ∃ e₀, Engine.create {} = .ok e₀ := ⟨_, rfl⟩
  have hrun : Relation.ReflTransGen (Keyed fun _ => 0) e₀ (e₀.evaluate 0 (.int {} 1) false).2 :=
    .single (.evaluate e₀ (.int {} 1) false)
  exact ⟨e₀, h₀, hrun, trivial, evaluate_ignores_key (fun _ => 0) h₀ hrun trivial⟩

end Engine

end LiveArith
