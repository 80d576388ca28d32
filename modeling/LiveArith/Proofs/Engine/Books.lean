import Mathlib.Logic.Relation
import LiveArith.Proofs.Engine.Cached
import LiveArith.Session

/-!
The engine's bookkeeping over whole runs (`Engine.Books`): the cache's counters match its
entries, every entry sits under its expression's hash, and the module holds exactly one
finalized symbol per cached callable. Each operation keeps it, and a run keeps it by induction.
-/

set_option autoImplicit false

namespace LiveArith

namespace Module

variable {R : Type} {m : Module R}

theorem release_symbols (name : String) :
    (m.release name).symbols = m.symbols.filter (·.1 != name) := rfl

theorem releaseAll_symbols (gone : List (Entry R)) :
    (gone.foldl (fun m x => m.release x.callable.symbol) m).symbols =
      m.symbols.filter (fun p => p.1 ∉ gone.map (·.callable.symbol)) := by
  induction gone generalizing m with
  | nil => exact (List.filter_eq_self.2 fun p _ => by simp).symm
  | cons x xs ih =>
    rw [List.foldl_cons, ih, release_symbols, List.filter_filter]
    congr 1
    funext p
    by_cases hp : p.1 = x.callable.symbol <;> simp [hp]

theorem set_last {syms : List (String × Symbol R)} {name : String} {counter : Nat}
    (s₀ s : Symbol R) (h : name ∉ syms.map Prod.fst) :
    ({ symbols := syms ++ [(name, s₀)], counter } : Module R).set name s =
      { symbols := syms ++ [(name, s)], counter } := by
  simp only [set, List.map_append, List.map_cons, List.map_nil, beq_self_eq_true, if_true,
    Module.mk.injEq, and_true]
  congr 1
  refine (List.map_congr_left fun p hp => ?_).trans (List.map_id _)
  have hne : p.1 ≠ name := fun heq => h (heq ▸ List.mem_map_of_mem hp)
  simp [hne]

theorem names_filter (syms : List (String × Symbol R)) (g : String → Bool) :
    (syms.filter fun p => g p.1).map Prod.fst = (syms.map Prod.fst).filter g :=
  (List.filter_map ..).symm

theorem Issued.not_mem (h : m.Issued) (t : Ty) : (m.declare t).1 ∉ m.symbols.map Prod.fst := by
  intro hmem
  obtain ⟨p, hp, hname⟩ := List.mem_map.1 hmem
  have hf := h.fresh t
  rw [find?, List.lookup_eq_none_iff] at hf
  simpa [hname] using hf p hp

end Module

namespace Cache

variable {R : Type} {c : Cache R}

def held (p : UInt64 × Entry R) : UInt64 × Callable R × Expr := (p.1, p.2.callable, p.2.expr)

theorem lookup_of_mem {l : List (UInt64 × Entry R)} {k : UInt64} {x : Entry R}
    (hl : (l.map Prod.fst).Nodup) (hm : (k, x) ∈ l) : l.lookup k = some x := by
  induction l with
  | nil => cases hm
  | cons p ps ih =>
    obtain ⟨k', y⟩ := p
    rw [List.map_cons, List.nodup_cons] at hl
    rcases List.mem_cons.1 hm with h | h
    · cases h
      simp
    · -- the first key is another one, since the later keys do not repeat it
      have hk : k ∈ ps.map Prod.fst := List.mem_map_of_mem (f := Prod.fst) h
      have hne : (k == k') = false := by
        simp only [beq_eq_false_iff_ne]
        exact fun heq => hl.1 (heq ▸ hk)
      rw [List.lookup_cons, hne]
      exact ih hl.2 h

theorem not_mem_of_peek {key : UInt64} (h : c.peek? key = none) :
    key ∉ c.entries.map Prod.fst := by
  intro hk
  obtain ⟨p, hp, rfl⟩ := List.mem_map.1 hk
  have := List.lookup_eq_none_iff.1 h p hp
  simp at this

theorem lookup_held (hk : (c.entries.map Prod.fst).Nodup) (key : UInt64) (now : Int) :
    (c.lookup key now).2.entries.map held = c.entries.map held ∧
      (c.lookup key now).2.size = c.size := by
  unfold Cache.lookup
  split
  · exact ⟨rfl, rfl⟩
  · next found hfound =>
    refine ⟨?_, rfl⟩
    rw [List.map_map]
    refine List.map_congr_left fun p hp => ?_
    obtain ⟨k, y⟩ := p
    -- under distinct keys the entry replaced is the one found
    by_cases hky : k = key
    · subst hky
      have := lookup_of_mem hk hp
      rw [hfound] at this
      cases this
      simp [held]
    · simp [held, hky]

theorem lookup_counts (key : UInt64) (now : Int) :
    (c.lookup key now).2.hits + (c.lookup key now).2.misses = c.hits + c.misses + 1 ∧
      (c.lookup key now).2.evictions = c.evictions ∧
      (c.lookup key now).2.entries.length = c.entries.length := by
  unfold Cache.lookup
  split
  · exact ⟨by simp only; omega, rfl, rfl⟩
  · exact ⟨by simp only; omega, rfl, by simp⟩

theorem insert_fresh {key : UInt64} (h : c.peek? key = none) (fn : Callable R) (x : Expr)
    (now : Int) : c.insert key fn x now =
      ((⟨fn, x, now, now, 0⟩, true),
        { c with entries := c.entries ++ [(key, ⟨fn, x, now, now, 0⟩)], size := c.size + 1 }) := by
  unfold Cache.insert
  rw [show c.entries.lookup key = none from h]

theorem insert_taken {key : UInt64} {en : Entry R} (h : c.peek? key = some en) (fn : Callable R)
    (x : Expr) (now : Int) : c.insert key fn x now = ((en, false), c) := by
  unfold Cache.insert
  rw [show c.entries.lookup key = some en from h]

theorem perm_filter_filter {α : Type} (p q : α → Bool) (l : List α) :
    l.Perm ((l.filter p ++ (l.filter fun x => !p x).filter q) ++
      (l.filter fun x => !p x).filter fun x => !q x) := by
  refine (List.filter_append_perm p l).symm.trans ?_
  rw [List.append_assoc]
  exact List.Perm.append_left _ (List.filter_append_perm q _).symm

theorem sweep_split (c : Cache R) (now : Int) :
    ∃ gone, (c.sweep now).1 = gone.map Prod.snd ∧
      c.entries.Perm (gone ++ (c.sweep now).2.entries) ∧
      (c.sweep now).2.entries.Sublist c.entries ∧
      (c.sweep now).2.size = c.size - gone.length ∧
      (c.sweep now).2.evictions = c.evictions + gone.length ∧
      (c.sweep now).2.hits = c.hits ∧ (c.sweep now).2.misses = c.misses := by
  unfold Cache.sweep
  dsimp only
  refine ⟨_, rfl, ?_, ?_, rfl, rfl, rfl, rfl⟩
  · -- stale, then the least recently used of the live entries, then the live entries kept
    simp only [List.partition_eq_filter_filter, Function.comp_def]
    exact perm_filter_filter _ _ _
  · simp only [List.partition_eq_filter_filter]
    exact List.filter_sublist.trans List.filter_sublist

/-- The caches that calls to a cache's interface lead to from `c`, with the number of lookups
made and of inserts that stored a new key. -/
inductive Calls (c : Cache R) : Nat → Nat → Cache R → Prop
  | refl : Calls c 0 0 c
  | lookup {l s : Nat} {d : Cache R} (key : UInt64) (now : Int) :
      Calls c l s d → Calls c (l + 1) s (d.lookup key now).2
  | insert {l s : Nat} {d : Cache R} (key : UInt64) (fn : Callable R) (x : Expr) (now : Int) :
      Calls c l s d →
        Calls c l (s + if (d.insert key fn x now).1.2 then 1 else 0) (d.insert key fn x now).2
  | sweep {l s : Nat} {d : Cache R} (now : Int) : Calls c l s d → Calls c l s (d.sweep now).2

theorem Calls.trans {d f : Cache R} {l s l' s' : Nat} (h : Calls c l s d) (h' : Calls d l' s' f) :
    Calls c (l + l') (s + s') f := by
  induction h' with
  | refl => exact h
  | lookup key now _ ih => exact ih.lookup key now
  | insert key fn x now _ ih =>
    rw [← Nat.add_assoc]
    exact ih.insert key fn x now
  | sweep now _ ih => exact ih.sweep now

theorem Calls.tally {d : Cache R} {l s : Nat} (h : Calls c l s d) (hc : c.size = c.entries.length) :
    d.size = d.entries.length ∧ d.hits + d.misses = c.hits + c.misses + l ∧
      d.evictions + d.size = c.evictions + c.size + s := by
  induction h with
  | refl => exact ⟨hc, rfl, rfl⟩
  | @lookup l s d key now _ ih =>
    obtain ⟨hsize, hlook, hev⟩ := ih
    obtain ⟨hhm, hev', hlen⟩ := lookup_counts (c := d) key now
    have hsz : (d.lookup key now).2.size = d.size := by unfold Cache.lookup; split <;> rfl
    refine ⟨by rw [hsz, hlen, hsize], by rw [hhm, hlook]; omega, by rw [hev', hsz, hev]⟩
  | @insert l s d key fn x now _ ih =>
    obtain ⟨hsize, hlook, hev⟩ := ih
    cases hk : d.peek? key with
    | none =>
      rw [insert_fresh hk]
      refine ⟨by simp [hsize], hlook, ?_⟩
      simp only [if_true]
      omega
    | some en =>
      rw [insert_taken hk]
      exact ⟨hsize, hlook, by simp [hev]⟩
  | @sweep l s d now _ ih =>
    obtain ⟨hsize, hlook, hev⟩ := ih
    obtain ⟨gone, -, hperm, -, hsz, hevs, hh, hm⟩ := sweep_split d now
    -- what was evicted was counted by the size before
    have hlen := hperm.length_eq
    rw [List.length_append] at hlen
    refine ⟨by rw [hsz]; omega, by rw [hh, hm, hlook], by rw [hevs, hsz]; omega⟩

end Cache

namespace Engine

variable {e e' : Engine} {x : Expr} {fn : Callable Code}

theorem compile_frame (h : e.compile x = .ok (fn, e')) :
    e'.cache = e.cache ∧ e'.clock = e.clock ∧ e'.closed = e.closed := by
  obtain ⟨m, -, rfl⟩ := compile_inv h
  exact ⟨rfl, rfl, rfl⟩

theorem compile_spec (hi : e.module.Issued) (h : e.compile x = .ok (fn, e')) :
    fn.symbol = (e.module.declare x.type).1 ∧ fn.type = x.type ∧
      e'.module = { symbols := e.module.symbols ++
          [(fn.symbol, ⟨x.type, some fn.routine, .finalized⟩)], counter := e.module.counter + 1 } := by
  have hnew := hi.not_mem x.type
  have hd := Module.find?_declare (hi.fresh x.type)
  obtain ⟨m, hgen, rfl⟩ := compile_inv h
  obtain ⟨_, _, _, _, -, -, -, hdef, hfin⟩ := Machine.Backend.generate_eq_ok hgen
  rw [Module.define_declared _ hd] at hdef
  cases hdef
  rw [Module.finalize_defined (Module.find?_set hd)] at hfin
  cases hfin
  refine ⟨rfl, rfl, ?_⟩
  have hname : "calc_" ++ toString (e.module.counter + 1) ∉ e.module.symbols.map Prod.fst := hnew
  show ((e.module.declare x.type).2.set _ _).set _ _ = _
  simp only [Module.declare]
  rw [Module.set_last _ _ hname, Module.set_last _ _ hname]

theorem compile_issued (hi : e.module.Issued) (h : e.compile x = .ok (fn, e')) :
    e'.module.Issued := by
  obtain ⟨hname, -, hmod⟩ := compile_spec hi h
  rw [hmod]
  intro p hp
  rcases List.mem_append.1 hp with hp | hp
  · obtain ⟨k, hk, hn⟩ := hi p hp
    exact ⟨k, by simp only; omega, hn⟩
  · rw [List.mem_singleton] at hp
    subst hp
    exact ⟨e.module.counter + 1, Nat.le_refl _, hname⟩

/-- The bookkeeping of an engine. -/
structure Books (e : Engine) : Prop where
  counted : e.cache.size = e.cache.entries.length
  keyed : (e.cache.entries.map Prod.fst).Nodup
  hashed : ∀ p ∈ e.cache.entries, p.1 = p.2.expr.hash ∧ p.2.callable.type = p.2.expr.type
  symbols : (e.module.symbols.map Prod.fst).Perm (e.cache.entries.map fun p => p.2.callable.symbol)
  finalized : ∀ p ∈ e.module.symbols, p.2.state = .finalized
  issued : e.module.Issued
  distinct : (e.module.symbols.map Prod.fst).Nodup

theorem Books.of_held (h : Books e) (hm : e'.module.symbols = e.module.symbols)
    (hi : e'.module.Issued) (hs : e'.cache.size = e.cache.size)
    (he : e'.cache.entries.map Cache.held = e.cache.entries.map Cache.held) : Books e' := by
  have hview : ∀ {β : Type} (f : UInt64 × Callable Code × Expr → β),
      e'.cache.entries.map (f ∘ Cache.held) = e.cache.entries.map (f ∘ Cache.held) := by
    intro β f
    rw [← List.map_map, he, List.map_map]
  have hkeys := hview Prod.fst
  have hsyms := hview fun q => q.2.1.symbol
  have hlen := congrArg List.length he
  simp only [List.length_map] at hlen
  refine ⟨by rw [hs, h.counted, hlen], ?_, fun p hp => ?_, ?_, ?_, hi, ?_⟩
  · exact hkeys ▸ h.keyed
  · -- an entry holds what an entry held before
    have hmem : Cache.held p ∈ e.cache.entries.map Cache.held := he ▸ List.mem_map_of_mem hp
    obtain ⟨q, hq, hpq⟩ := List.mem_map.1 hmem
    simp only [Cache.held, Prod.mk.injEq] at hpq
    obtain ⟨hk, hc, hx⟩ := hpq
    rw [← hk, ← hc, ← hx]
    exact h.hashed q hq
  · rw [hm]
    exact hsyms ▸ h.symbols
  · rw [hm]
    exact h.finalized
  · rw [hm]
    exact h.distinct

theorem Books.frame (h : Books e) (hm : e'.module = e.module) (hc : e'.cache = e.cache) :
    Books e' :=
  h.of_held (by rw [hm]) (by rw [hm]; exact h.issued) (by rw [hc]) (by rw [hc])

theorem lookup_parts (e : Engine) (key : UInt64) :
    ∃ t, (e.lookup key).2.cache = (e.cache.lookup key t).2 ∧ (e.lookup key).2.module = e.module := by
  unfold Engine.lookup
  split
  · exact ⟨_, rfl, rfl⟩
  · exact ⟨_, rfl, rfl⟩

theorem Books.lookup (h : Books e) (key : UInt64) : Books (e.lookup key).2 := by
  obtain ⟨t, hc, hm⟩ := lookup_parts e key
  obtain ⟨he, hs⟩ := Cache.lookup_held h.keyed key t
  exact h.of_held (by rw [hm]) (by rw [hm]; exact h.issued) (by rw [hc, hs]) (by rw [hc, he])

theorem sweep_parts (e : Engine) : ∃ t, e.sweep.2.cache = (e.cache.sweep t).2 ∧
    e.sweep.2.module = (e.cache.sweep t).1.foldl (fun m x => m.release x.callable.symbol) e.module :=
  ⟨_, rfl, rfl⟩

theorem Books.sweep (h : Books e) : Books e.sweep.2 := by
  obtain ⟨t, hc, hm⟩ := sweep_parts e
  obtain ⟨gone, hgone, hperm, hsub, hsize, -, -, -⟩ := Cache.sweep_split e.cache t
  have hmod : e.sweep.2.module.symbols =
      e.module.symbols.filter fun p => p.1 ∉ gone.map fun q => q.2.callable.symbol := by
    rw [hm, Module.releaseAll_symbols, hgone, List.map_map]
    rfl
  -- the symbols of all entries, the evicted ones first, do not repeat
  have hnd : ((gone ++ e.sweep.2.cache.entries).map fun p => p.2.callable.symbol).Nodup := by
    rw [hc]
    exact (hperm.map _).nodup_iff.1 (h.symbols.nodup_iff.1 h.distinct)
  rw [List.map_append, List.nodup_append] at hnd
  refine ⟨?_, ?_, fun p hp => h.hashed p (hsub.subset (by rwa [hc] at hp)), ?_, fun p hp => ?_, ?_,
    ?_⟩
  · have hlen := hperm.length_eq
    rw [List.length_append] at hlen
    rw [hc, hsize, h.counted]
    omega
  · rw [hc]
    exact h.keyed.sublist (hsub.map _)
  · rw [hmod, Module.names_filter _ fun n => decide (n ∉ gone.map fun q => q.2.callable.symbol)]
    refine ((h.symbols.filter _).trans ((hperm.map _).filter _)).trans ?_
    rw [List.map_append, List.filter_append]
    -- the evicted symbols go, the kept ones stay
    rw [List.filter_eq_nil_iff.2 fun a ha => by simp [ha], List.nil_append,
      List.filter_eq_self.2 fun a ha => ?_, hc]
    simp only [decide_eq_true_eq]
    exact fun hg => hnd.2.2 a hg a (hc ▸ ha) rfl
  · rw [hmod] at hp
    exact h.finalized p (List.mem_filter.1 hp).1
  · rw [hm]
    exact h.issued.releaseAll _
  · rw [hmod, Module.names_filter _ fun n => decide (n ∉ gone.map fun q => q.2.callable.symbol)]
    exact h.distinct.sublist List.filter_sublist

theorem Books.compile_release (h : Books e) (hc : e.compile x = .ok (fn, e')) :
    Books { e' with module := e'.module.release fn.symbol } := by
  obtain ⟨hname, -, hmod⟩ := compile_spec h.issued hc
  have hnot := h.issued.not_mem x.type
  rw [← hname] at hnot
  refine h.of_held ?_ ((compile_issued h.issued hc).release fn.symbol) ?_ ?_
  · show (e'.module.release fn.symbol).symbols = _
    rw [Module.release_symbols, hmod, List.filter_append,
      List.filter_cons_of_neg (by simp), List.filter_nil, List.append_nil]
    refine List.filter_eq_self.2 fun p hp => ?_
    have hne : p.1 ≠ fn.symbol := fun heq => hnot (heq ▸ List.mem_map_of_mem hp)
    simpa using hne
  · rw [(compile_frame hc).1]
  · rw [(compile_frame hc).1]

theorem Books.runOnce (h : Books e) (x : Expr) (c : Bool) : Books (e.runOnce x c).2 := by
  unfold Engine.runOnce
  split
  · exact h
  · next fn e' hc => exact h.compile_release hc

theorem nodup_concat {α : Type} {l : List α} {a : α} (hl : l.Nodup) (ha : a ∉ l) :
    (l ++ [a]).Nodup :=
  List.nodup_append.2 ⟨hl, List.pairwise_singleton _ a, fun b hb c hc => by
    rw [List.mem_singleton] at hc
    exact fun hbc => ha (hc ▸ hbc ▸ hb)⟩

theorem Books.store (h : Books e) (hc : e.compile x = .ok (fn, e'))
    (hk : e.cache.peek? x.hash = none) : Books (e'.store x.hash fn x).2 := by
  obtain ⟨hname, htype, hmod⟩ := compile_spec h.issued hc
  have hcache := (compile_frame hc).1
  have hnot := h.issued.not_mem x.type
  rw [← hname] at hnot
  have hk' : e'.now.2.cache.peek? x.hash = none := by
    rw [show e'.now.2.cache = e.cache from hcache]
    exact hk
  unfold Engine.store
  dsimp only
  rw [Cache.insert_fresh hk']
  dsimp only
  simp only [bne_self_eq_false, Bool.false_eq_true, if_false, if_true]
  apply Books.sweep
  have hent : e'.now.2.cache.entries = e.cache.entries := by rw [show e'.now.2.cache = e.cache from hcache]
  have hsz : e'.now.2.cache.size = e.cache.size := by rw [show e'.now.2.cache = e.cache from hcache]
  have hmod' : e'.now.2.module = e'.module := rfl
  refine ⟨?_, ?_, fun p hp => ?_, ?_, fun p hp => ?_, ?_, ?_⟩
  · simp only [List.length_append, List.length_singleton, hent, hsz, h.counted]
  · rw [List.map_append, hent]
    exact nodup_concat h.keyed (Cache.not_mem_of_peek hk)
  · rw [List.mem_append, hent, List.mem_singleton] at hp
    rcases hp with hp | rfl
    · exact h.hashed p hp
    · exact ⟨rfl, htype⟩
  · rw [hmod', hmod, List.map_append, List.map_append, hent]
    exact h.symbols.append_right _
  · rw [hmod', hmod, List.mem_append, List.mem_singleton] at hp
    rcases hp with hp | rfl
    · exact h.finalized p hp
    · rfl
  · rw [hmod']
    exact compile_issued h.issued hc
  · rw [hmod', hmod, List.map_append]
    exact nodup_concat h.distinct hnot

theorem lookup_miss {key : UInt64} (h : (e.lookup key).1 = none) :
    (e.lookup key).2.cache.peek? key = none := by
  cases hp : e.cache.peek? key with
  | none =>
    have hl : e.cache.entries.lookup key = none := hp
    simp only [Engine.lookup, hp, Cache.lookup, hl]
    exact hl
  | some en =>
    have hl : e.cache.entries.lookup key = some en := hp
    simp [Engine.lookup, hp, Cache.lookup, hl, Engine.now] at h

theorem Books.evaluate (h : Books e) (x : Expr) (c : Bool) : Books (e.evaluate x.hash x c).2 := by
  unfold Engine.evaluate
  split
  · exact h
  · have hl := h.lookup x.hash
    have hmiss : (e.lookup x.hash).1 = none → (e.lookup x.hash).2.cache.peek? x.hash = none :=
      lookup_miss
    rcases hlk : e.lookup x.hash with ⟨_ | en, e₁⟩
    · rw [hlk] at hl hmiss
      have hk := hmiss rfl
      dsimp only
      cases hcomp : e₁.compile x with
      | error f => exact hl.frame rfl rfl
      | ok r =>
        obtain ⟨fn, e₂⟩ := r
        dsimp only
        cases fn.call runCode c with
        | error f => exact hl.compile_release hcomp
        | ok v => exact (hl.store hcomp hk).frame rfl rfl
    · rw [hlk] at hl
      dsimp only
      split
      · exact hl.frame rfl rfl
      · refine Books.runOnce ?_ x c
        exact hl.frame rfl rfl

theorem Books.create {o : Options} (h : Engine.create o = .ok e) : Books e := by
  unfold Engine.create at h
  split at h
  · cases h
  · rename_i e₀ h₀
    have hb₀ : Books e₀ := by
      unfold Engine.empty at h₀
      split at h₀
      · cases h₀
      · cases h₀
        exact ⟨rfl, List.nodup_nil, (fun p hp => by cases hp), List.Perm.refl _,
          (fun p hp => by cases hp), (fun p hp => by cases hp), List.nodup_nil⟩
    dsimp only at h
    split at h
    · cases h
    · rename_i fn e₁ h₁
      have hb₁ := hb₀.compile_release h₁
      split at h
      · cases h
      · split at h
        · cases h
          exact hb₁.frame rfl rfl
        · cases h

end Engine

namespace Session

theorem update_engine (s : Session) (e : Engine) (next : ByteArray) (edit : Edit) (c : Bool) :
    (s.update e next edit c).2.2 = e ∨
      ∃ x, (s.update e next edit c).2.2 = (e.evaluate x.hash x false).2 := by
  unfold Session.update
  cases c with
  | true => exact .inl rfl
  | false =>
    simp only [Bool.false_eq_true, if_false]
    -- a failed parse, check or build leaves the engine as it was
    split
    · exact .inl rfl
    · split
      · exact .inl rfl
      · split
        · exact .inl rfl
        · rename_i x _
          refine .inr ⟨x, ?_⟩
          rcases hev : e.evaluate x.hash x false with ⟨r, e₁⟩
          cases r <;> rfl

end Session

namespace Engine

variable {e e' : Engine}

/-- One operation of a run on an engine: an update of any calculator, with any text and edit,
cancelled or not; a new calculator; a sweep of the cache at the clock's time; a move of the
clock by any amount; closing the engine. -/
inductive Step : Engine → Engine → Prop
  | update (e : Engine) (s : Session) (next : ByteArray) (edit : Edit) (cancelled : Bool) :
      Step e (s.update e next edit cancelled).2.2
  | start (e : Engine) : Step e (Session.start e).2
  | sweep (e : Engine) : Step e e.sweep.2
  | tick (e : Engine) (ns : Int) : Step e { e with clock := e.clock.advance ns }
  | close (e : Engine) : Step e e.close

theorem Books.step (h : Books e) (hs : Step e e') : Books e' := by
  cases hs with
  | update s next edit cancelled =>
    rcases Session.update_engine s e next edit cancelled with he | ⟨x, he⟩
    · rw [he]
      exact h
    · rw [he]
      exact h.evaluate x false
  | start => exact h.frame rfl rfl
  | sweep => exact h.sweep
  | tick ns => exact h.frame rfl rfl
  | close => exact h.frame rfl rfl

section calls

variable {c : Cache Code} {l s : Nat}

theorem lookup_calls (h : Cache.Calls c l s e.cache) (key : UInt64) :
    Cache.Calls c (l + 1) s (e.lookup key).2.cache := by
  obtain ⟨t, hc, -⟩ := lookup_parts e key
  rw [hc]
  exact h.lookup key t

theorem sweep_calls (h : Cache.Calls c l s e.cache) : Cache.Calls c l s e.sweep.2.cache := by
  obtain ⟨t, hc, -⟩ := sweep_parts e
  rw [hc]
  exact h.sweep t

end calls

theorem store_calls (e : Engine) (key : UInt64) (fn : Callable Code) (x : Expr) :
    ∃ s, Cache.Calls e.cache 0 s (e.store key fn x).2.cache := by
  unfold Engine.store
  dsimp only
  rcases hr : e.now.2.cache.insert key fn x e.now.1 with ⟨⟨entry, stored⟩, c⟩
  have hins := (Cache.Calls.refl (c := e.cache)).insert key fn x e.now.1
  rw [show e.now.2.cache = e.cache from rfl] at hr
  rw [hr] at hins
  dsimp only at hins ⊢
  -- whether or not the losing callable is released, the cache is what the insert left
  split <;> split
  · exact ⟨_, sweep_calls hins⟩
  · exact ⟨_, sweep_calls hins⟩
  · exact ⟨_, hins⟩
  · exact ⟨_, hins⟩

theorem runOnce_cache (e : Engine) (x : Expr) (c : Bool) : (e.runOnce x c).2.cache = e.cache := by
  unfold Engine.runOnce
  split
  · rfl
  · next fn e' hc => exact (compile_frame hc).1

theorem evaluate_calls (e : Engine) (key : UInt64) (x : Expr) (c : Bool) :
    ∃ l s, Cache.Calls e.cache l s (e.evaluate key x c).2.cache := by
  unfold Engine.evaluate
  split
  · exact ⟨0, 0, .refl⟩
  · have hl := lookup_calls (Cache.Calls.refl (c := e.cache)) key
    rcases hlk : e.lookup key with ⟨_ | en, e₁⟩
    · rw [hlk] at hl
      dsimp only at hl ⊢
      cases hcomp : e₁.compile x with
      | error f => exact ⟨_, _, hl⟩
      | ok r =>
        obtain ⟨fn, e₂⟩ := r
        have hl₂ : Cache.Calls e.cache (0 + 1) 0 e₂.cache := by rw [(compile_frame hcomp).1]; exact hl
        dsimp only
        cases fn.call runCode c with
        | error f => exact ⟨_, _, hl₂⟩
        | ok v =>
          obtain ⟨s, hs⟩ := store_calls e₂ key fn x
          exact ⟨_, _, hl₂.trans hs⟩
    · rw [hlk] at hl
      dsimp only
      split
      · exact ⟨_, _, hl⟩
      · rw [runOnce_cache]
        exact ⟨_, _, hl⟩

theorem Step.calls (hs : Step e e') : ∃ l s, Cache.Calls e.cache l s e'.cache := by
  cases hs with
  | update s next edit cancelled =>
    rcases Session.update_engine s e next edit cancelled with he | ⟨x, he⟩
    · rw [he]
      exact ⟨0, 0, .refl⟩
    · rw [he]
      exact evaluate_calls e x.hash x false
  | start => exact ⟨0, 0, .refl⟩
  | sweep => exact ⟨0, 0, sweep_calls .refl⟩
  | tick ns => exact ⟨0, 0, .refl⟩
  | close => exact ⟨0, 0, .refl⟩

theorem Books.run {e₀ : Engine} (h₀ : Books e₀) (hrun : Relation.ReflTransGen Step e₀ e) :
    Books e ∧ ∃ l s, Cache.Calls e₀.cache l s e.cache := by
  induction hrun with
  | refl => exact ⟨h₀, 0, 0, .refl⟩
  | tail _ hs ih =>
    obtain ⟨hb, l, s, hc⟩ := ih
    obtain ⟨l', s', hc'⟩ := hs.calls
    exact ⟨hb.step hs, _, _, hc.trans hc'⟩

theorem create_fresh {o : Options} (h : Engine.create o = .ok e) :
    e.cache = { retention := o.retention, maxEntries := o.maxEntries.toNat } ∧ e.clock = {} := by
  unfold Engine.create at h
  split at h
  · cases h
  · rename_i e₀ h₀
    have hc₀ : e₀.cache = { retention := o.retention, maxEntries := o.maxEntries.toNat } ∧
        e₀.clock = {} := by
      unfold Engine.empty at h₀
      split at h₀
      · cases h₀
      · cases h₀
        exact ⟨rfl, rfl⟩
    dsimp only at h
    split at h
    · cases h
    · rename_i fn e₁ h₁
      obtain ⟨hc₁, hk₁, -⟩ := compile_frame h₁
      split at h
      · cases h
      · split at h
        · cases h
          exact ⟨hc₁.trans hc₀.1, hk₁.trans hc₀.2⟩
        · cases h

/-- **The engine's bookkeeping holds over whole runs.** After any run from a new engine (updates
of any calculators, successful or failing at any stage, new calculators, sweeps, clock moves,
closing), the cache's counter is its number of entries, which sit under distinct keys, each its
expression's hash, with a callable of the expression's type; the module's symbols are exactly the
cached callables' symbols, all finalized; and the cache was reached from the new engine's cache by
calls to its interface whose lookups are its hits and misses and whose stored inserts are its
evictions and its size. -/
theorem run_keeps_books {o : Options} {e₀ : Engine} (h₀ : Engine.create o = .ok e₀)
    (hrun : Relation.ReflTransGen Step e₀ e) :
    e.cache.size = e.cache.entries.length ∧ (e.cache.entries.map Prod.fst).Nodup ∧
      (∀ p ∈ e.cache.entries, p.1 = p.2.expr.hash ∧ p.2.callable.type = p.2.expr.type) ∧
      (e.module.symbols.map Prod.fst).Perm (e.cache.entries.map fun p => p.2.callable.symbol) ∧
      (∀ p ∈ e.module.symbols, p.2.state = .finalized) ∧
      ∃ l s, Cache.Calls e₀.cache l s e.cache ∧ e.cache.hits + e.cache.misses = l ∧
        e.cache.evictions + e.cache.size = s := by
  obtain ⟨hb, l, s, hc⟩ := (Books.create h₀).run hrun
  have hfresh := (create_fresh h₀).1
  obtain ⟨-, hlook, hstore⟩ := hc.tally (by rw [hfresh]; rfl)
  rw [hfresh] at hlook hstore
  exact ⟨hb.counted, hb.keyed, hb.hashed, hb.symbols, hb.finalized, l, s, hc,
    by simpa using hlook, by simpa using hstore⟩

/-- A new engine with the default options, one calculator, and `1+2` evaluated on it. -/
theorem run_keeps_books_sum :
    ∃ e₀, Engine.create {} = .ok e₀ ∧
      let e := ((Session.start e₀).1.eval (Session.start e₀).2 (.mk #[49, 43, 50]) false).2.2
      Relation.ReflTransGen Step e₀ e ∧
        (e.cache.size = e.cache.entries.length ∧ (e.cache.entries.map Prod.fst).Nodup ∧
          (∀ p ∈ e.cache.entries, p.1 = p.2.expr.hash ∧ p.2.callable.type = p.2.expr.type) ∧
          (e.module.symbols.map Prod.fst).Perm (e.cache.entries.map fun p => p.2.callable.symbol) ∧
          (∀ p ∈ e.module.symbols, p.2.state = .finalized) ∧
          ∃ l s, Cache.Calls e₀.cache l s e.cache ∧ e.cache.hits + e.cache.misses = l ∧
            e.cache.evictions + e.cache.size = s) := by
  -- the engine is kept abstract, so that no step evaluates the update on it
  obtain ⟨e₀, hc⟩ : ∃ e₀, Engine.create {} = .ok e₀ := ⟨_, rfl⟩
  refine ⟨e₀, hc, ?_⟩
  simp only [Session.eval]
  have hrun := Relation.ReflTransGen.tail (.single (Step.start e₀))
    (Step.update (Session.start e₀).2 (Session.start e₀).1 (.mk #[49, 43, 50])
      (Edit.replace (Session.start e₀).1.text.size (ByteArray.mk #[49, 43, 50]).size) false)
  exact ⟨hrun, @run_keeps_books _ {} _ hc hrun⟩

end Engine

end LiveArith
