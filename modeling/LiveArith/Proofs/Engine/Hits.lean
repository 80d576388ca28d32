import LiveArith.Proofs.Engine.Books
import LiveArith.Proofs.Session.OneShot
import LiveArith.Proofs.Syntax.Build
import LiveArith.Proofs.Syntax.Invariant

/-!
What one evaluation does to the cache. An expression whose hash the cache holds, under an entry for
the same expression up to spans, is a hit: the cached program runs, the entry is marked used at the
clock's reading, and nothing is compiled.
-/

set_option autoImplicit false

namespace LiveArith

namespace Op

theorem beq_iff {a b : Op} : (a == b) = true ↔ a = b := by
  refine ⟨eq_of_beq, ?_⟩
  rintro rfl
  cases a with
  | unknown n => exact beq_self_eq_true n
  | _ => rfl

end Op

namespace Expr

def erase : Expr → Expr
  | .hole => .hole
  | .int _ v => .int {} v
  | .float _ b => .float {} b
  | .binary _ l op r => .binary {} l.erase op r.erase
  | .paren _ e => .paren {} e.erase

theorem same_iff {x y : Expr} : x.same y = true ↔ x.erase = y.erase := by
  induction x generalizing y with
  | hole => cases y <;> simp [same, erase]
  | int sp a => cases y <;> simp [same, erase]
  | float sp a => cases y <;> simp [same, erase]
  | binary sp l op r ihl ihr =>
    cases y
    case binary sp' l' op' r' =>
      simp only [same, erase, Bool.and_eq_true, Op.beq_iff, ihl, ihr, binary.injEq, true_and]
      tauto
    all_goals simp [same, erase]
  | paren sp e ih =>
    cases y
    case paren sp' e' => simp only [same, erase, ih, paren.injEq, true_and]
    all_goals simp [same, erase]

theorem encode_erase (x : Expr) : x.erase.encode = x.encode := by
  induction x with
  | hole => rfl
  | int => rfl
  | float => rfl
  | binary sp l op r ihl ihr => simp only [erase, encode, ihl, ihr]
  | paren sp e ih => simp only [erase, encode, ih]

theorem hash_of_same {x y : Expr} (h : x.same y = true) : x.hash = y.hash := by
  rw [hash, hash, ← encode_erase x, ← encode_erase y, same_iff.1 h]

theorem same_right {x y z : Expr} (h : x.same y = true) : z.same y = z.same x := by
  rw [Bool.eq_iff_iff, same_iff, same_iff, same_iff.1 h]

end Expr

namespace Cache

variable {R : Type} {c : Cache R} {key : UInt64} {en : Entry R}

theorem lookup_replace {l : List (UInt64 × Entry R)} {a : Entry R} (h : l.lookup key = some a)
    (b : Entry R) :
    (l.map fun (k, x) => if k == key then (k, b) else (k, x)).lookup key = some b := by
  induction l with
  | nil => cases h
  | cons p ps ih =>
    obtain ⟨k, x⟩ := p
    by_cases hk : k = key
    · subst hk
      simp
    · have hne : (key == k) = false := by simp only [beq_eq_false_iff_ne]; exact Ne.symm hk
      have hkk : (k == key) = false := by simp only [beq_eq_false_iff_ne]; exact hk
      rw [List.lookup_cons, hne] at h
      simp only [List.map_cons, hkk, Bool.false_eq_true, if_false, List.lookup_cons, hne]
      exact ih h

theorem lookup_hit (hk : c.peek? key = some en) (now : Int) :
    (c.lookup key now).1 = some { en with lastUsed := now, hits := en.hits + 1 } ∧
      (c.lookup key now).2.peek? key = some { en with lastUsed := now, hits := en.hits + 1 } ∧
      (c.lookup key now).2.hits = c.hits + 1 ∧ (c.lookup key now).2.misses = c.misses ∧
      (c.lookup key now).2.size = c.size := by
  have hl : c.entries.lookup key = some en := hk
  unfold Cache.lookup
  rw [hl]
  exact ⟨rfl, lookup_replace hl _, rfl, rfl, rfl⟩

theorem sweep_counts (c : Cache R) (now : Int) (hc : c.size = c.entries.length) :
    (c.sweep now).2.hits = c.hits ∧ (c.sweep now).2.misses = c.misses ∧
      (c.sweep now).2.evictions + (c.sweep now).2.size = c.evictions + c.size := by
  obtain ⟨gone, -, hperm, -, hsize, hev, hh, hm⟩ := sweep_split c now
  have hlen := hperm.length_eq
  rw [List.length_append] at hlen
  exact ⟨hh, hm, by rw [hev, hsize]; omega⟩

theorem miss_then_store (hc : c.size = c.entries.length) (hk : c.peek? key = none)
    (fn : Callable R) (x : Expr) (now later : Int) :
    ((((c.lookup key 0).2.insert key fn x now).2).sweep later).2.hits = c.hits ∧
      ((((c.lookup key 0).2.insert key fn x now).2).sweep later).2.misses = c.misses + 1 ∧
      ((((c.lookup key 0).2.insert key fn x now).2).sweep later).2.evictions +
        ((((c.lookup key 0).2.insert key fn x now).2).sweep later).2.size =
          c.evictions + c.size + 1 := by
  have hmissed : (c.lookup key 0).2 = { c with misses := c.misses + 1 } := by
    unfold Cache.lookup
    rw [show c.entries.lookup key = none from hk]
  have hstored := insert_fresh (c := { c with misses := c.misses + 1 }) hk fn x now
  obtain ⟨hh, hm, hes⟩ := sweep_counts ((c.lookup key 0).2.insert key fn x now).2 later
    (by rw [hmissed, hstored]; simp [hc])
  refine ⟨by rw [hh, hmissed, hstored], by rw [hm, hmissed, hstored], ?_⟩
  rw [hes, hmissed, hstored]
  dsimp only
  omega

end Cache

namespace Engine

variable {o : Options} {e e' : Engine} {key : UInt64} {x : Expr} {en : Entry Code}
  {fn : Callable Code}

theorem lookup_of_peek (hk : e.cache.peek? key = some en) :
    e.lookup key = ((e.cache.lookup key e.now.1).1,
      { e.now.2 with cache := (e.cache.lookup key e.now.1).2 }) := by
  unfold Engine.lookup
  rw [hk]
  rfl

theorem lookup_of_absent (hk : e.cache.peek? key = none) :
    e.lookup key = (none, { e with cache := { e.cache with misses := e.cache.misses + 1 } }) := by
  have hl : e.cache.entries.lookup key = none := hk
  simp only [Engine.lookup, hk, Cache.lookup, hl]

theorem compile_compiles (h : e.compile x = .ok (fn, e')) : e'.compiles = e.compiles + 1 := by
  obtain ⟨m, -, rfl⟩ := compile_inv h
  rfl

theorem store_fresh (hk : e.cache.peek? key = none) (fn : Callable Code) (x : Expr) :
    (e.store key fn x).2.cache = ((e.cache.insert key fn x e.now.1).2.sweep e.now.2.now.1).2 ∧
      (e.store key fn x).2.compiles = e.compiles := by
  unfold Engine.store
  dsimp only
  rw [show e.now.2.cache = e.cache from rfl, Cache.insert_fresh hk]
  simp only [bne_self_eq_false, Bool.false_eq_true, if_false, if_true]
  exact ⟨rfl, rfl⟩

theorem evaluate_hit (hl : e.closed = false) (hk : e.cache.peek? x.hash = some en)
    (hs : en.expr.same x = true) :
    (e.evaluate x.hash x false).1 = en.callable.call runCode false ∧
      (e.evaluate x.hash x false).2.cache = (e.cache.lookup x.hash e.now.1).2 ∧
      (e.evaluate x.hash x false).2.module = e.module ∧
      (e.evaluate x.hash x false).2.compiles = e.compiles := by
  have hfound := (Cache.lookup_hit hk e.now.1).1
  unfold Engine.evaluate
  rw [if_neg (by rw [hl]; decide), lookup_of_peek hk, hfound]
  dsimp only
  rw [if_pos hs]
  exact ⟨rfl, rfl, rfl, rfl⟩

theorem evaluate_miss (hg : Good o e) (hx : x.Compilable) (hk : e.cache.peek? x.hash = none) :
    ∃ fn v, (e.evaluate x.hash x false).1 = .ok v ∧
      (e.evaluate x.hash x false).2.compiles = e.compiles + 1 ∧
      (e.evaluate x.hash x false).2.cache =
        ((((e.cache.lookup x.hash 0).2.insert x.hash fn x e.now.1).2).sweep e.now.2.now.1).2 := by
  obtain ⟨c, hc, -⟩ := Machine.lower_correct hx
  obtain ⟨v, hv, -⟩ := Machine.run_ofCode_typed c x.type o.optimize
  have hl : e.cache.entries.lookup x.hash = none := hk
  -- the miss only counts; the compile then sees the same entries and the same clock
  have hg₁ : Good o { e with cache := { e.cache with misses := e.cache.misses + 1 } } :=
    ⟨hg.options, hg.live, hg.issued, hg.cached⟩
  obtain ⟨fn, e₂, hcomp, -, hcall, -⟩ := hg₁.compile_ok hx hc hv
  obtain ⟨hcache, hclock, -⟩ := compile_frame hcomp
  have hmissed : e₂.cache = (e.cache.lookup x.hash 0).2 := by
    rw [hcache]
    unfold Cache.lookup
    rw [hl]
  have hk₂ : e₂.cache.peek? x.hash = none := by rw [hcache]; exact hk
  obtain ⟨hstored, hcount⟩ := store_fresh hk₂ fn x
  have hcompiled := compile_compiles hcomp
  refine ⟨fn, v, ?_⟩
  unfold Engine.evaluate
  rw [if_neg (by rw [hg.live]; decide), lookup_of_absent hk]
  dsimp only
  rw [hcomp]
  dsimp only
  rw [hcall]
  dsimp only
  refine ⟨rfl, ?_, ?_⟩
  · exact hcount.trans hcompiled
  · rw [show ((e₂.store x.hash fn x).2.note _ _ _).cache = (e₂.store x.hash fn x).2.cache from rfl,
      hstored, hmissed]
    simp only [Engine.now, hclock]

/-- What evaluating `x` on `e`, leaving `e'`, does to the cache. With an entry under `x`'s hash
for the same expression up to spans, it is a hit: the entry is marked used at the clock's
reading and found once more, and nothing else is counted or compiled. With no entry under the
hash, it is a miss: one compile, and the cache sees the lookup that missed, one insert at the
clock's reading and the sweep at the next reading. Any expression the same as `x` up to spans
has `x`'s hash and finds the entries `x` finds. -/
structure HitOrMiss (e : Engine) (x : Expr) (e' : Engine) : Prop where
  hit : ∀ en, e.cache.peek? x.hash = some en → en.expr.same x = true →
    e'.cache.peek? x.hash = some { en with lastUsed := e.clock.read.1, hits := en.hits + 1 } ∧
      e'.cache.hits = e.cache.hits + 1 ∧ e'.cache.misses = e.cache.misses ∧
      e'.cache.size = e.cache.size ∧ e'.compiles = e.compiles ∧ e'.module = e.module
  miss : e.cache.peek? x.hash = none →
    e'.cache.hits = e.cache.hits ∧ e'.cache.misses = e.cache.misses + 1 ∧
      e'.compiles = e.compiles + 1 ∧
      e'.cache.evictions + e'.cache.size = e.cache.evictions + e.cache.size + 1 ∧
      ∃ fn, e'.cache = ((((e.cache.lookup x.hash 0).2.insert x.hash fn x e.clock.read.1).2).sweep
        e.clock.read.2.read.1).2
  shared : ∀ y : Expr, x.same y = true →
    y.hash = x.hash ∧ ∀ en : Entry Code, en.expr.same y = en.expr.same x

theorem evaluate_hitOrMiss (hg : Good o e) (hb : Books e) (hx : x.Compilable) :
    HitOrMiss e x (e.evaluate x.hash x false).2 where
  hit en hk hs := by
    obtain ⟨-, hcache, hmod, hcomp⟩ := evaluate_hit hg.live hk hs
    obtain ⟨-, hpeek, hhits, hmiss, hsize⟩ := Cache.lookup_hit hk e.now.1
    rw [hcache]
    exact ⟨hpeek, hhits, hmiss, hsize, hcomp, hmod⟩
  miss hk := by
    obtain ⟨fn, v, -, hcomp, hcache⟩ := evaluate_miss hg hx hk
    obtain ⟨hhits, hmiss, hcount⟩ :=
      Cache.miss_then_store hb.counted hk fn x e.now.1 e.now.2.now.1
    rw [hcache]
    exact ⟨hhits, hmiss, hcomp, hcount, fn, rfl⟩
  shared y hy := ⟨(Expr.hash_of_same hy).symm, fun _ => Expr.same_right hy⟩

end Engine

namespace Session

open Engine LiveArith.Syntax LiveArith.Syntax.Grammar LiveArith.Syntax.Parser

variable {o : Options} {e : Engine} {ss : List Session} {s : Session} {next : ByteArray}

theorem Reachable.books (hr : Reachable o e ss) : Books e := by
  induction hr with
  | create h => exact Books.create h
  | start _ ih => exact ih.step (.start _)
  | update next edit cancelled _ _ _ ih => exact ih.step (.update _ _ next edit cancelled)
  | reset _ _ ih => exact ih
  | tick ns _ ih => exact ih.step (.tick _ ns)
  | sweep _ ih => exact ih.step (.sweep _)

theorem update_of_fresh (hg : Good o e) (hs : s.Sound) (hn : next.size < 2 ^ 63) (edit : Edit)
    (hv : next.size ≤ o.limits.maxInput) {x : Expr}
    (hc : Check.tree (Parser.source (.ofText next o.limits.maxDepth)).root next = none)
    (hb : Build.tree (Parser.source (.ofText next o.limits.maxDepth)).root next = .ok x) :
    (s.update e next edit false).2.2 = (e.evaluate x.hash x false).2 ∧
      ∀ v, (e.evaluate x.hash x false).1 = .ok v → (s.update e next edit false).1 = .ok v := by
  -- the reparse reusing the kept tree has the fresh parse's root
  obtain ⟨t, ht, hroot⟩ := parse_root_fresh hv (hs.kept edit hn)
  unfold Session.update
  simp only [Bool.false_eq_true, if_false, buffer_update]
  rw [hg.options, ht]
  dsimp only
  rw [hroot, hc]
  dsimp only
  rw [hb]
  dsimp only
  rcases e.evaluate x.hash x false with ⟨r, e₁⟩
  cases r with
  | error f => exact ⟨rfl, fun v h => by cases h⟩
  | ok w => exact ⟨rfl, fun v h => by cases h; rfl⟩

theorem update_evaluates (hg : Good o e) (hs : s.Sound) (hn : next.size < 2 ^ 63) (edit : Edit)
    {T : Tree} {x : Expr} (hp : parse o.limits next none = .ok T)
    (hc : Check.tree T.root next = none) (hb : Build.tree T.root next = .ok x) :
    (s.update e next edit false).2.2 = (e.evaluate x.hash x false).2 := by
  have hv : next.size ≤ o.limits.maxInput := by
    by_cases hv : next.size ≤ o.limits.maxInput
    · exact hv
    · rw [parse_tooLarge hv] at hp
      cases hp
  rw [parse_none hv] at hp
  cases hp
  exact (update_of_fresh hg hs hn edit hv hc hb).1

/-- **A text whose expression is cached is a hit; one whose hash is not cached compiles once.**
On every engine and session reachable from a new engine, an update (or an evaluation, which
replaces the whole text) with any edit, to a text that parses, checks and builds to `x`, is a
hit or a miss as `HitOrMiss` says. -/
theorem update_hits_cached_or_compiles_once (hr : Reachable o e ss) (hs : s ∈ ss)
    (next : ByteArray) (edit : Edit) (hn : next.size < 2 ^ 63) {T : Tree} {x : Expr}
    (hp : parse o.limits next none = .ok T) (hc : Check.tree T.root next = none)
    (hb : Build.tree T.root next = .ok x) :
    e.HitOrMiss x (s.update e next edit false).2.2 := by
  obtain ⟨hg, hss⟩ := hr.invariant
  rw [update_evaluates hg (hss s hs) hn edit hp hc hb]
  exact evaluate_hitOrMiss hg hr.books (Build.tree_compilable hb)

theorem spells_parses_builds {src : ByteArray} {limits : Limits} {t : Term} (hs : Spells src limits.maxDepth t)
    (hg : Grouped t) (hsize : src.size ≤ limits.maxInput) {x : Expr}
    (hx : Build.node src (t.node src) = .ok x) :
    ∃ T, parse limits src none = .ok T ∧ Check.tree T.root src = none ∧
      Build.tree T.root src = .ok x := by
  have hroot := source_spells hs hg
  refine ⟨_, parse_none hsize, ?_, ?_⟩
  · rw [hroot]
    exact Check.tree_eq_none (by simp)
  · rw [hroot, build_tree_term]
    exact hx

/-- A new engine with the default options and one calculator, which evaluates "1.5+2" and is
then edited to "1.50 + 2": the two texts build to one expression up to spans, which the first
update cached, so the second update is a hit. -/
theorem update_hits_cached_respelled :
    ∃ e₀ T x, Engine.create {} = .ok e₀ ∧
      let r := (Session.start e₀).1.update (Session.start e₀).2 (.mk #[49, 46, 53, 43, 50])
        (.replace 0 5) false
      Reachable {} r.2.2 [r.2.1] ∧ r.2.1 ∈ [r.2.1] ∧
        (ByteArray.mk #[49, 46, 53, 48, 32, 43, 32, 50]).size < 2 ^ 63 ∧
        parse ({} : Options).limits (.mk #[49, 46, 53, 48, 32, 43, 32, 50]) none = .ok T ∧
        Check.tree T.root (.mk #[49, 46, 53, 48, 32, 43, 32, 50]) = none ∧
        Build.tree T.root (.mk #[49, 46, 53, 48, 32, 43, 32, 50]) = .ok x ∧
        (∃ en, r.2.2.cache.peek? x.hash = some en ∧ en.expr.same x = true) ∧
        r.2.2.HitOrMiss x
          (r.2.1.update r.2.2 (.mk #[49, 46, 53, 48, 32, 43, 32, 50]) (.replace 5 8) false).2.2 := by
  -- "1.5+2" and "1.50 + 2" spell a sum of a double and an integer
  have hd₁ : Derives (.mk #[49, 46, 53, 43, 50]) (.binary (.lit true 0 3) 43 3 (.lit false 4 5)) :=
    .binary (.lit (.fraction (.inl rfl) (Run.cons (by decide) (Run.refl (by decide))) (by decide)
        (Run.cons (by decide) (Run.refl (by decide))) (by decide)))
      (Run.refl (by decide)) (by decide) (by decide) (Run.refl (by decide))
      (.lit (.whole (.inl rfl) (Run.cons (by decide) (Run.refl (by decide))) (by decide)))
  have hd₂ : Derives (.mk #[49, 46, 53, 48, 32, 43, 32, 50])
      (.binary (.lit true 0 4) 43 5 (.lit false 7 8)) :=
    .binary (.lit (.fraction (.inl rfl) (Run.cons (by decide) (Run.refl (by decide))) (by decide)
        (Run.cons (by decide) (Run.cons (by decide) (Run.refl (by decide)))) (by decide)))
      (Run.cons (by decide) (Run.refl (by decide))) (by decide) (by decide)
      (Run.cons (by decide) (Run.refl (by decide)))
      (.lit (.whole (.inl rfl) (Run.cons (by decide) (Run.refl (by decide))) (by decide)))
  obtain ⟨x₁, hx₁, -⟩ := build_accepted hd₁ (by decide +kernel)
  obtain ⟨x₂, hx₂, -⟩ := build_accepted hd₂ (by decide +kernel)
  -- the two builds differ in spans only
  have hsame : x₁.same x₂ = true := by
    have h : (match Build.node (.mk #[49, 46, 53, 43, 50])
          ((Term.binary (.lit true 0 3) 43 3 (.lit false 4 5)).node (.mk #[49, 46, 53, 43, 50])),
        Build.node (.mk #[49, 46, 53, 48, 32, 43, 32, 50])
          ((Term.binary (.lit true 0 4) 43 5 (.lit false 7 8)).node
            (.mk #[49, 46, 53, 48, 32, 43, 32, 50])) with
        | .ok x, .ok y => x.same y
        | _, _ => false) = true := by decide +kernel
    rw [hx₁, hx₂] at h
    exact h
  obtain ⟨T₁, hp₁, hc₁, hb₁⟩ := @spells_parses_builds _ ({} : Options).limits _
    ⟨hd₁, Run.refl (by decide), Run.refl (by decide), by decide⟩
    ⟨trivial, trivial, by decide, by decide⟩ (by decide) _ hx₁
  obtain ⟨T₂, hp₂, hc₂, hb₂⟩ := @spells_parses_builds _ ({} : Options).limits _
    ⟨hd₂, Run.refl (by decide), Run.refl (by decide), by decide⟩
    ⟨trivial, trivial, by decide, by decide⟩ (by decide) _ hx₂
  -- the engine is kept abstract, so that no step evaluates the updates on it
  obtain ⟨e₀, hc⟩ : ∃ e₀, Engine.create {} = .ok e₀ := ⟨_, rfl⟩
  refine ⟨e₀, T₂, x₂, hc, ?_⟩
  dsimp only
  have h₀ : Reachable {} (Session.start e₀).2 [(Session.start e₀).1] := .start (.create hc)
  have hr := Reachable.update (i := 0) (.mk #[49, 46, 53, 43, 50]) (.replace 0 5) false h₀ rfl
    (by decide)
  have hmem := List.mem_singleton_self
    ((Session.start e₀).1.update (Session.start e₀).2 (.mk #[49, 46, 53, 43, 50]) (.replace 0 5)
      false).2.1
  -- the first update is a miss on the new engine's empty cache, which stores `x₁`
  have hfirst := update_hits_cached_or_compiles_once h₀ (List.mem_singleton_self _) _
    (.replace 0 5) (by decide) hp₁ hc₁ hb₁
  obtain ⟨hcache, hclock⟩ := create_fresh hc
  have hempty : (Session.start e₀).2.cache.peek? x₁.hash = none := by
    show e₀.cache.peek? x₁.hash = none
    rw [hcache]
    rfl
  obtain ⟨-, -, -, -, fn, hstored⟩ := hfirst.miss hempty
  obtain ⟨hhash, hsame'⟩ := hfirst.shared x₂ hsame
  refine ⟨hr, hmem, by decide, hp₂, hc₂, hb₂, ?_,
    update_hits_cached_or_compiles_once hr hmem _ (.replace 5 8) (by decide) hp₂ hc₂ hb₂⟩
  refine ⟨.mk fn x₁ (Session.start e₀).2.clock.read.1 (Session.start e₀).2.clock.read.1 0, ?_,
    hsame⟩
  rw [hstored, hhash]
  have hc' : (Session.start e₀).2.cache = _ := hcache
  have hk : (Session.start e₀).2.clock = {} := hclock
  rw [hc', hk]
  -- the stored entry, used at the clock's first reading, is not idle at its second
  have hlive : (Clock.origin + 1 - 300000000000).bmod Int64.size ≤ Clock.origin := by decide
  simp [Cache.peek?, Cache.sweep, Cache.insert, Cache.lookup, Clock.read, Word.wrap,
    Int.not_lt.2 hlive]

end Session

end LiveArith
