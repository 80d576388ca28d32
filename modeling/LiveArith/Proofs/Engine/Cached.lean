import LiveArith.Proofs.Machine.Compile
import Std.Data.String.ToNat

/-!
Evaluation through the engine does not depend on what the engine did before.
-/

set_option autoImplicit false

namespace LiveArith

theorem Op.eq_of_beq {a b : Op} (h : (a == b) = true) : a = b := by
  cases a <;> cases b <;> first | rfl | cases h | skip
  case unknown.unknown n m =>
    have hnm : (n == m) = true := h
    rw [beq_iff_eq.1 hnm]

namespace Machine

theorem slot_filled {P Q : List Value} {v : Value} (hQ : (slot P v).2 <+: Q) :
    ∃ w, Q[(slot P v).1]? = some w := by
  obtain ⟨-, w, hw, -⟩ := slot_read P v
  have hk : (slot P v).1 < (slot P v).2.length := (List.getElem?_eq_some_iff.1 hw).1
  obtain ⟨t, ht⟩ := hQ
  exact ⟨w, by rw [← ht, List.getElem?_append_left hk, hw]⟩

theorem emit_pushes (c : Code) (P Q s : List Value) (hQ : (c.emit P).2 <+: Q) :
    ∃ v, (c.emit P).1.foldlM (Instr.step Q) s = some (v :: s) := by
  induction c generalizing P s with
  | int i =>
    obtain ⟨w, hw⟩ := slot_filled (v := .integer i) hQ
    refine ⟨w, ?_⟩
    show [Instr.push (slot P (.integer i)).1].foldlM (Instr.step Q) s = _
    rw [List.foldlM_cons, Instr.step, hw]
    rfl
  | float x =>
    obtain ⟨w, hw⟩ := slot_filled (v := .float x) hQ
    refine ⟨w, ?_⟩
    show [Instr.push (slot P (.float x)).1].foldlM (Instr.step Q) s = _
    rw [List.foldlM_cons, Instr.step, hw]
    rfl
  | toFloat c ih =>
    obtain ⟨v, hv⟩ := ih P s hQ
    refine ⟨.float v.toFloat, ?_⟩
    show ((c.emit P).1 ++ [Instr.toFloat]).foldlM (Instr.step Q) s = _
    rw [List.foldlM_append, hv]
    rfl
  | apply op l r ihl ihr =>
    obtain ⟨a, ha⟩ := ihl P s ((emit_grows r _).trans hQ)
    obtain ⟨b, hb⟩ := ihr (l.emit P).2 (a :: s) hQ
    refine ⟨arith op a b, ?_⟩
    show ((l.emit P).1 ++ (r.emit (l.emit P).2).1 ++ [Instr.apply op]).foldlM (Instr.step Q) s = _
    rw [List.foldlM_append, List.foldlM_append, ha]
    simp only [Option.bind_eq_bind, Option.bind_some]
    rw [hb]
    rfl

theorem run_ofCode_typed (c : Code) (t : Ty) (opt : Bool) :
    ∃ v, (Program.ofCode c t opt).run = some v ∧ v.type = t := by
  obtain ⟨v, hv⟩ := emit_pushes (if opt then c.fold else c) [] _ [] (List.prefix_refl _)
  rw [Program.run, Program.ofCode]
  dsimp only
  rw [List.foldlM_append, hv]
  -- the cast at the end turns whatever the code left into a value of the type
  cases t <;> cases v <;> exact ⟨_, rfl, rfl⟩

theorem lower_of_same {x y : Expr} (h : x.same y = true) : lower x = lower y ∧ x.type = y.type := by
  induction x generalizing y with
  | hole =>
    cases y
    case hole => exact ⟨rfl, rfl⟩
    all_goals simp [Expr.same] at h
  | int sp a =>
    cases y
    case int sp' b =>
      obtain rfl : a = b := beq_iff_eq.1 h
      exact ⟨rfl, rfl⟩
    all_goals simp [Expr.same] at h
  | float sp a =>
    cases y
    case float sp' b =>
      obtain rfl : a = b := beq_iff_eq.1 h
      exact ⟨rfl, rfl⟩
    all_goals simp [Expr.same] at h
  | paren sp e ih =>
    cases y
    case paren sp' e' => exact ih (y := e') h
    all_goals simp [Expr.same] at h
  | binary sp l op r ihl ihr =>
    cases y
    case binary sp' l' op' r' =>
      simp only [Expr.same, Bool.and_eq_true] at h
      obtain ⟨⟨hop, hl⟩, hr⟩ := h
      obtain rfl := Op.eq_of_beq hop
      obtain ⟨hl₁, hl₂⟩ := ihl hl
      obtain ⟨hr₁, hr₂⟩ := ihr hr
      constructor
      · simp only [lower, hl₁, hl₂, hr₁, hr₂]
      · simp only [Expr.type, hl₂, hr₂]
    all_goals simp [Expr.same] at h

end Machine

namespace Module

variable {R : Type} {m m' : Module R} {name : String}

def Issued (m : Module R) : Prop :=
  ∀ p ∈ m.symbols, ∃ k ≤ m.counter, p.1 = "calc_" ++ toString k

theorem Issued.fresh (h : m.Issued) (t : Ty) : m.find? (m.declare t).1 = none := by
  rw [find?, List.lookup_eq_none_iff]
  intro p hp
  obtain ⟨k, hk, hname⟩ := h p hp
  -- the next name carries a number above every issued one
  have hne : "calc_" ++ toString (m.counter + 1) ≠ p.1 := by
    rw [hname]
    intro heq
    have := Nat.repr_inj.1 ((String.append_right_inj "calc_").1 heq)
    omega
  simpa [declare] using hne

theorem Issued.declare (h : m.Issued) (t : Ty) : (m.declare t).2.Issued := by
  intro p hp
  simp only [Module.declare, List.mem_append, List.mem_singleton] at hp
  rcases hp with hp | rfl
  · obtain ⟨k, hk, hname⟩ := h p hp
    exact ⟨k, by simp only [Module.declare]; omega, hname⟩
  · exact ⟨m.counter + 1, Nat.le_refl _, rfl⟩

theorem Issued.set (h : m.Issued) (s : Symbol R) : (m.set name s).Issued := by
  intro p hp
  simp only [Module.set, List.mem_map] at hp
  obtain ⟨⟨n, t⟩, hq, rfl⟩ := hp
  obtain ⟨k, hk, hname⟩ := h _ hq
  refine ⟨k, hk, ?_⟩
  split <;> exact hname

theorem Issued.release (h : m.Issued) (name : String) : (m.release name).Issued :=
  fun p hp => h p (List.mem_filter.1 hp).1

theorem Issued.define (h : m.Issued) {r : Option R} (hd : m.define name r = .ok m') :
    m'.Issued := by
  simp only [Module.define, bind, Except.bind] at hd
  split at hd
  · cases hd
  · split at hd
    · cases hd
    · cases hd
      exact h.set _

theorem Issued.finalize [Inhabited R] (h : m.Issued) {fn : Callable R}
    (hf : m.finalize name = .ok (fn, m')) : m'.Issued := by
  simp only [Module.finalize, bind, Except.bind] at hf
  split at hf
  · cases hf
  · cases hf
    exact h.set _

theorem Issued.releaseAll (h : m.Issued) (gone : List (Entry R)) :
    (gone.foldl (fun m x => m.release x.callable.symbol) m).Issued := by
  induction gone generalizing m with
  | nil => exact h
  | cons x xs ih => exact ih (h.release _)

end Module

namespace Cache

variable {R : Type} {P : Expr → Callable R → Prop} {c : Cache R}

def Holds (P : Expr → Callable R → Prop) (c : Cache R) : Prop :=
  ∀ p ∈ c.entries, P p.2.expr p.2.callable

theorem lookup_mem {l : List (UInt64 × Entry R)} {key : UInt64} {en : Entry R}
    (h : l.lookup key = some en) : (key, en) ∈ l := by
  obtain ⟨l₁, l₂, rfl, -⟩ := List.lookup_eq_some_iff.1 h
  simp

theorem Holds.lookup (h : c.Holds P) (key : UInt64) (now : Int) :
    (c.lookup key now).2.Holds P ∧ ∀ en, (c.lookup key now).1 = some en → P en.expr en.callable := by
  unfold Cache.lookup
  split
  · exact ⟨h, fun en hen => by cases hen⟩
  · next e he =>
    have hP := h _ (lookup_mem he)
    refine ⟨?_, fun en hen => by cases hen; exact hP⟩
    intro q hq
    simp only [List.mem_map] at hq
    obtain ⟨⟨k, x⟩, hx, rfl⟩ := hq
    dsimp only
    split
    · exact hP
    · exact h _ hx

theorem Holds.insert (h : c.Holds P) (key : UInt64) {fn : Callable R} {x : Expr} (hx : P x fn)
    (now : Int) : (c.insert key fn x now).2.Holds P := by
  unfold Cache.insert
  split
  · exact h
  · intro q hq
    simp only [List.mem_append, List.mem_singleton] at hq
    rcases hq with hq | rfl
    · exact h q hq
    · exact hx

theorem Holds.sweep (h : c.Holds P) (now : Int) : (c.sweep now).2.Holds P := by
  intro q hq
  simp only [Cache.sweep, List.partition_eq_filter_filter, List.mem_filter] at hq
  exact h q hq.1.1

end Cache

namespace Engine

open Machine

def Compiles (opt : Bool) (x : Expr) (fn : Callable Code) : Prop :=
  ∃ c, lower x = .ok c ∧ fn.type = x.type ∧ fn.routine = Program.ofCode c x.type opt

theorem Compiles.of_same {opt : Bool} {x y : Expr} {fn : Callable Code} (h : x.same y = true)
    (hf : Compiles opt x fn) : Compiles opt y fn := by
  obtain ⟨c, hc, ht, hr⟩ := hf
  obtain ⟨hl, hty⟩ := lower_of_same h
  exact ⟨c, by rw [← hl, hc], by rw [ht, hty], by rw [hr, hty]⟩

theorem Compiles.call {opt : Bool} {x : Expr} {fn : Callable Code} {c : Machine.Code} {v : Value}
    (hf : Compiles opt x fn) (hc : lower x = .ok c)
    (hv : (Program.ofCode c x.type opt).run = some v) : fn.call runCode false = .ok v := by
  obtain ⟨c', hc', ht, hr⟩ := hf
  rw [hc] at hc'
  cases hc'
  obtain ⟨v', hv', hty⟩ := run_ofCode_typed c x.type opt
  rw [hv] at hv'
  cases hv'
  exact Callable.call_of_run (by rw [hr]; exact hv) (by rw [hty, ht])

/-- The engine invariant, for an engine made with options `o`. -/
structure Good (o : Options) (e : Engine) : Prop where
  options : e.options = o
  live : e.closed = false
  issued : e.module.Issued
  cached : e.cache.Holds (Compiles o.optimize)

variable {o : Options} {e e' : Engine}

theorem Good.note (hg : Good o e) (level : Log.Level) (msg : String) (attrs : List Log.Attr) :
    Good o (e.note level msg attrs) :=
  ⟨hg.options, hg.live, hg.issued, hg.cached⟩

theorem Good.release (hg : Good o e) (name : String) :
    Good o { e with module := e.module.release name } :=
  ⟨hg.options, hg.live, hg.issued.release name, hg.cached⟩

theorem Good.releaseAll (hg : Good o e) (gone : List (Entry Code)) : Good o (e.release gone) :=
  ⟨hg.options, hg.live, hg.issued.releaseAll gone, hg.cached⟩

theorem Good.sweep (hg : Good o e) : Good o e.sweep.2 :=
  ⟨hg.options, hg.live, hg.issued.releaseAll _, hg.cached.sweep _⟩

theorem Good.compile (hg : Good o e) {x : Expr} {fn : Callable Code}
    (h : e.compile x = .ok (fn, e')) : Good o e' := by
  obtain ⟨m, hgen, rfl⟩ := compile_inv h
  obtain ⟨_, _, _, _, -, -, -, hd, hf⟩ := Backend.generate_eq_ok hgen
  exact ⟨hg.options, hg.live, ((hg.issued.declare _).define hd).finalize hf, hg.cached⟩

theorem Good.store (hg : Good o e) {key : UInt64} {fn : Callable Code} {x : Expr}
    (hx : Compiles o.optimize x fn) : Good o (e.store key fn x).2 := by
  unfold Engine.store
  dsimp only
  have hc := hg.cached.insert key hx e.now.1
  -- the callable that lost is released, and a new entry is followed by a sweep
  split
  · apply Good.sweep
    split
    · exact ⟨hg.options, hg.live, hg.issued.release _, hc⟩
    · exact ⟨hg.options, hg.live, hg.issued, hc⟩
  · split
    · exact ⟨hg.options, hg.live, hg.issued.release _, hc⟩
    · exact ⟨hg.options, hg.live, hg.issued, hc⟩

theorem Good.lookup (hg : Good o e) (key : UInt64) :
    Good o (e.lookup key).2 ∧
      ∀ en, (e.lookup key).1 = some en → Compiles o.optimize en.expr en.callable := by
  unfold Engine.lookup
  split
  · obtain ⟨hc, hf⟩ := hg.cached.lookup key e.now.1
    exact ⟨⟨hg.options, hg.live, hg.issued, hc⟩, hf⟩
  · obtain ⟨hc, -⟩ := hg.cached.lookup key 0
    exact ⟨⟨hg.options, hg.live, hg.issued, hc⟩, fun en h => by cases h⟩

theorem Good.openSession (hg : Good o e) : Good o e.openSession.2 :=
  ⟨hg.options, hg.live, hg.issued, hg.cached⟩

theorem Good.empty (h : Engine.empty o = .ok e) : Good o e := by
  unfold Engine.empty at h
  split at h
  · cases h
  · cases h
    exact ⟨rfl, rfl, (fun p hp => by cases hp), (fun p hp => by cases hp)⟩

theorem Good.create (h : Engine.create o = .ok e) : Good o e := by
  unfold Engine.create at h
  split at h
  · cases h
  · rename_i e₀ h₀
    dsimp only at h
    split at h
    · cases h
    · rename_i fn e₁ h₁
      have hg₁ := (Good.empty h₀).compile h₁
      split at h
      · cases h
      · split at h
        · cases h
          exact (hg₁.release _).note _ _ _
        · cases h

theorem Good.compile_ok (hg : Good o e) {x : Expr} (hx : x.Compilable) {c : Machine.Code}
    {v : Value} (hc : lower x = .ok c) (hv : (Program.ofCode c x.type o.optimize).run = some v) :
    ∃ fn e', e.compile x = .ok (fn, e') ∧ Compiles o.optimize x fn ∧
      fn.call runCode false = .ok v ∧ Good o e' := by
  obtain ⟨e', c', hc', hcomp⟩ := Engine.compile_ok hx (hg.issued.fresh x.type)
  rw [hg.options] at hcomp
  have hf : Compiles o.optimize x
      ⟨(e.module.declare x.type).1, x.type, Program.ofCode c' x.type o.optimize⟩ :=
    ⟨c', hc', rfl, rfl⟩
  exact ⟨_, e', hcomp, hf, hf.call hc hv, hg.compile hcomp⟩

theorem Good.runOnce (hg : Good o e) {x : Expr} (hx : x.Compilable) {c : Machine.Code}
    {v : Value} (hc : lower x = .ok c) (hv : (Program.ofCode c x.type o.optimize).run = some v) :
    (e.runOnce x false).1 = .ok v ∧ Good o (e.runOnce x false).2 := by
  obtain ⟨fn, e', hcomp, -, hcall, hg'⟩ := hg.compile_ok hx hc hv
  unfold Engine.runOnce
  rw [hcomp]
  exact ⟨hcall, hg'.release _⟩

theorem Good.evaluate (hg : Good o e) {x : Expr} (hx : x.Compilable) {c : Machine.Code}
    {v : Value} (hc : lower x = .ok c) (hv : (Program.ofCode c x.type o.optimize).run = some v)
    (key : UInt64) : (e.evaluate key x false).1 = .ok v ∧ Good o (e.evaluate key x false).2 := by
  unfold Engine.evaluate
  rw [if_neg (by rw [hg.live]; decide)]
  obtain ⟨hg₁, hfound⟩ := hg.lookup key
  rcases hl : e.lookup key with ⟨_ | en, e₁⟩
  · -- a miss compiles afresh, runs, and stores
    rw [hl] at hg₁
    obtain ⟨fn, e₂, hcomp, hf, hcall, hg₂⟩ := hg₁.compile_ok hx hc hv
    dsimp only
    rw [hcomp]
    dsimp only
    rw [hcall]
    exact ⟨rfl, (hg₂.store hf).note _ _ _⟩
  · have hf := hfound en (by rw [hl])
    rw [hl] at hg₁
    dsimp only
    split
    · -- a hit on the same expression runs the program a fresh compile would give
      rename_i hs
      exact ⟨(hf.of_same hs).call hc hv, hg₁.note _ _ _⟩
    · -- a collision compiles afresh and caches nothing
      refine Good.runOnce ?_ hx hc hv
      exact ⟨hg₁.options, hg₁.live, hg₁.issued, hg₁.cached⟩

end Engine

end LiveArith
