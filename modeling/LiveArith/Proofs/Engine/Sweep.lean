import LiveArith.Proofs.Engine.Books

/-!
What a sweep of the cache evicts. A sweep at `now` takes out every idle entry, one last used before
the cutoff `now - retention`, then, when a bound is set and more live entries remain than it allows,
the least recently used of them until the bound holds.
-/

set_option autoImplicit false

namespace LiveArith.Cache

variable {R : Type} {c : Cache R} {now : Int}

def cutoff (c : Cache R) (now : Int) : Int := Word.wrap (now - c.retention)

def live (c : Cache R) (now : Int) : List (UInt64 × Entry R) :=
  c.entries.filter fun p => !decide (p.2.lastUsed < c.cutoff now)

def excess (c : Cache R) (now : Int) : List UInt64 :=
  if c.maxEntries > 0 && (c.live now).length > c.maxEntries then
    oldest (c.live now) ((c.live now).length - c.maxEntries)
  else []

theorem sweep_entries (c : Cache R) (now : Int) :
    (c.sweep now).2.entries = (c.live now).filter fun p => !(c.excess now).contains p.1 := by
  simp only [sweep, List.partition_eq_filter_filter, live, excess, cutoff, Function.comp_def]
  rfl

theorem oldest_eq (l : List (UInt64 × Entry R)) (k : Nat) :
    oldest l k = ((l.mergeSort fun a b => a.2.lastUsed ≤ b.2.lastUsed).take k).map Prod.fst := rfl

theorem oldest_split {l : List (UInt64 × Entry R)} (hk : (l.map Prod.fst).Nodup) (k : Nat) :
    (l.filter fun p => (oldest l k).contains p.1).Perm
        ((l.mergeSort fun a b => a.2.lastUsed ≤ b.2.lastUsed).take k) ∧
      (l.filter fun p => !(oldest l k).contains p.1).Perm
        ((l.mergeSort fun a b => a.2.lastUsed ≤ b.2.lastUsed).drop k) := by
  have hperm := List.mergeSort_perm l fun a b => decide (a.2.lastUsed ≤ b.2.lastUsed)
  rw [oldest_eq]
  generalize l.mergeSort _ = L at hperm ⊢
  -- the keys of the sorted list do not repeat, so no key of its tail is a key of its head
  have hnd : ((L.take k).map Prod.fst ++ (L.drop k).map Prod.fst).Nodup := by
    rw [← List.map_append, List.take_append_drop]
    exact (hperm.map Prod.fst).nodup_iff.2 hk
  have hhead : ∀ p ∈ L.take k, ((L.take k).map Prod.fst).contains p.1 = true := fun p hp =>
    List.contains_iff_mem.2 (List.mem_map_of_mem hp)
  have htail : ∀ p ∈ L.drop k, ((L.take k).map Prod.fst).contains p.1 = false := by
    intro p hp
    rw [Bool.eq_false_iff]
    intro hc
    exact (List.nodup_append.1 hnd).2.2 _ (List.contains_iff_mem.1 hc) _
      (List.mem_map_of_mem hp) rfl
  have hsplit := fun (f : UInt64 × Entry R → Bool) => List.filter_append (p := f) (L.take k) (L.drop k)
  simp only [List.take_append_drop] at hsplit
  refine ⟨(hperm.symm.filter _).trans ?_, (hperm.symm.filter _).trans ?_⟩
  · rw [hsplit, List.filter_eq_self.2 hhead,
      List.filter_eq_nil_iff.2 fun p hp => by rw [htail p hp]; decide, List.append_nil]
  · rw [hsplit, List.filter_eq_nil_iff.2 fun p hp => by rw [hhead p hp]; decide,
      List.filter_eq_self.2 fun p hp => by rw [htail p hp]; rfl, List.nil_append]
theorem oldest_le {l : List (UInt64 × Entry R)} (hk : (l.map Prod.fst).Nodup) (k : Nat)
    {p q : UInt64 × Entry R} (hp : p ∈ l.filter fun p => (oldest l k).contains p.1)
    (hq : q ∈ l.filter fun p => !(oldest l k).contains p.1) : p.2.lastUsed ≤ q.2.lastUsed := by
  obtain ⟨hpick, hleave⟩ := oldest_split hk k
  have hsorted : (l.mergeSort fun a b => a.2.lastUsed ≤ b.2.lastUsed).Pairwise
      fun a b => decide (a.2.lastUsed ≤ b.2.lastUsed) = true :=
    @List.pairwise_mergeSort _ (fun a b => a.2.lastUsed ≤ b.2.lastUsed)
      (fun a b c hab hbc => decide_eq_true (Int.le_trans (of_decide_eq_true hab) (of_decide_eq_true hbc)))
      (fun a b => by simp only [Bool.or_eq_true, decide_eq_true_eq]; exact Int.le_total _ _) l
  rw [← List.take_append_drop k (l.mergeSort _), List.pairwise_append] at hsorted
  exact of_decide_eq_true (hsorted.2.2 p (hpick.mem_iff.1 hp) q (hleave.mem_iff.1 hq))

theorem live_keys (hk : (c.entries.map Prod.fst).Nodup) : ((c.live now).map Prod.fst).Nodup :=
  hk.sublist (List.filter_sublist.map _)

theorem mem_live {p : UInt64 × Entry R} : p ∈ c.live now ↔ p ∈ c.entries ∧ c.cutoff now ≤ p.2.lastUsed := by
  simp [live]

theorem sweep_sublist_live : (c.sweep now).2.entries.Sublist (c.live now) := by
  rw [sweep_entries]
  exact List.filter_sublist

theorem sweep_idle {p : UInt64 × Entry R} (hp : p.2.lastUsed < c.cutoff now) :
    p ∉ (c.sweep now).2.entries := fun hm =>
  Int.not_le.2 hp (mem_live.1 (sweep_sublist_live.subset hm)).2

theorem sweep_unbounded (h : ¬(0 < c.maxEntries ∧ c.maxEntries < (c.live now).length)) :
    (c.sweep now).2.entries = c.live now := by
  rw [sweep_entries, excess, if_neg (by simpa using h)]
  simp

theorem sweep_bounded (hk : (c.entries.map Prod.fst).Nodup)
    (h : 0 < c.maxEntries ∧ c.maxEntries < (c.live now).length) :
    (c.sweep now).2.entries.Perm (((c.live now).mergeSort fun a b => a.2.lastUsed ≤ b.2.lastUsed).drop
      ((c.live now).length - c.maxEntries)) := by
  rw [sweep_entries, excess, if_pos (by simpa using h)]
  exact (oldest_split (live_keys hk) _).2

theorem sweep_length_bounded (hk : (c.entries.map Prod.fst).Nodup)
    (h : 0 < c.maxEntries ∧ c.maxEntries < (c.live now).length) :
    (c.sweep now).2.entries.length = c.maxEntries := by
  rw [(sweep_bounded hk h).length_eq, List.length_drop, List.length_mergeSort]
  omega

theorem sweep_least_recent (hk : (c.entries.map Prod.fst).Nodup) {p q : UInt64 × Entry R}
    (hp : p ∈ c.live now) (hpk : p ∉ (c.sweep now).2.entries) (hq : q ∈ (c.sweep now).2.entries) :
    p.2.lastUsed ≤ q.2.lastUsed := by
  by_cases h : 0 < c.maxEntries ∧ c.maxEntries < (c.live now).length
  · rw [sweep_entries] at hpk hq
    -- the bound picked `p` and left `q`
    have hpick : p ∈ (c.live now).filter fun p => (c.excess now).contains p.1 :=
      List.mem_filter.2 ⟨hp, by simpa [hp] using hpk⟩
    rw [excess, if_pos (by simpa using h)] at hpick hq
    exact oldest_le (live_keys hk) _ hpick hq
  · rw [sweep_unbounded h] at hpk
    exact absurd hp hpk

theorem sweep_keeps_recent (hk : (c.entries.map Prod.fst).Nodup) {p : UInt64 × Entry R}
    (hp : p ∈ c.entries) (hcut : c.cutoff now ≤ p.2.lastUsed)
    (hrank : c.maxEntries = 0 ∨
      (c.entries.filter fun q => q.1 != p.1 && decide (p.2.lastUsed ≤ q.2.lastUsed)).length <
        c.maxEntries) :
    p ∈ (c.sweep now).2.entries := by
  have hlive : p ∈ c.live now := mem_live.2 ⟨hp, hcut⟩
  by_cases h : 0 < c.maxEntries ∧ c.maxEntries < (c.live now).length
  · refine Classical.byContradiction fun hpk => ?_
    have hkept : (c.sweep now).2.entries.Sublist c.entries :=
      sweep_sublist_live.trans List.filter_sublist
    -- every kept entry is another entry, used no earlier than `p`
    have hlater : ∀ q ∈ (c.sweep now).2.entries,
        (q.1 != p.1 && decide (p.2.lastUsed ≤ q.2.lastUsed)) = true := by
      intro q hq
      have hne : q.1 ≠ p.1 := fun heq => by
        have hq' := lookup_of_mem hk (hkept.subset hq)
        rw [heq, lookup_of_mem hk hp] at hq'
        exact hpk (Prod.ext heq.symm (Option.some.inj hq') ▸ hq)
      simpa [hne] using sweep_least_recent hk hlive hpk hq
    have hle := ((List.filter_eq_self.2 hlater) ▸ hkept.filter _).length_le
    rw [sweep_length_bounded hk h] at hle
    omega
  · rw [sweep_unbounded h]
    exact hlive
/-- A cache as its interface leaves it: its counter is its number of entries, which sit under
distinct keys. -/
structure Sound (c : Cache R) : Prop where
  counted : c.size = c.entries.length
  keyed : (c.entries.map Prod.fst).Nodup

theorem Calls.sound {d : Cache R} {l s : Nat} (h : Calls c l s d) (hc : c.Sound) : d.Sound := by
  refine ⟨(h.tally hc.counted).1, ?_⟩
  induction h with
  | refl => exact hc.keyed
  | @lookup l s d key now _ ih =>
    -- a lookup only touches the entry it finds
    have hkeys := congrArg (List.map Prod.fst) (lookup_held ih key now).1
    simp only [List.map_map] at hkeys
    exact (show (d.lookup key now).2.entries.map Prod.fst = d.entries.map Prod.fst from hkeys) ▸ ih
  | @insert l s d key fn x now _ ih =>
    cases hk : d.peek? key with
    | none =>
      rw [insert_fresh hk, List.map_append]
      exact Engine.nodup_concat ih (not_mem_of_peek hk)
    | some en =>
      rw [insert_taken hk]
      exact ih
  | sweep now _ ih =>
    obtain ⟨-, -, -, hsub, -⟩ := sweep_split _ now
    exact ih.sublist (hsub.map _)

/-- What a sweep at `now` does. -/
structure Swept (c : Cache R) (now : Int) : Prop where
  evicted : ∃ gone : List (UInt64 × Entry R), (c.sweep now).1 = gone.map Prod.snd ∧
    c.entries.Perm (gone ++ (c.sweep now).2.entries)
  idle : ∀ p ∈ c.entries, p.2.lastUsed < c.cutoff now → p ∉ (c.sweep now).2.entries
  kept : (c.sweep now).2.entries.Sublist (c.live now)
  bound : if 0 < c.maxEntries ∧ c.maxEntries < (c.live now).length then
      (c.sweep now).2.entries.length = c.maxEntries
    else (c.sweep now).2.entries = c.live now
  least_recent : ∀ p ∈ c.live now, p ∉ (c.sweep now).2.entries →
    ∀ q ∈ (c.sweep now).2.entries, p.2.lastUsed ≤ q.2.lastUsed
  size : (c.sweep now).2.size + (c.sweep now).1.length = c.size
  evictions : (c.sweep now).2.evictions = c.evictions + (c.sweep now).1.length
  sweeps : (c.sweep now).2.sweeps = c.sweeps + 1
  lookups : (c.sweep now).2.hits = c.hits ∧ (c.sweep now).2.misses = c.misses
  recent : ∀ p ∈ c.entries, c.cutoff now ≤ p.2.lastUsed →
    (c.maxEntries = 0 ∨
      (c.entries.filter fun q => q.1 != p.1 && decide (p.2.lastUsed ≤ q.2.lastUsed)).length <
        c.maxEntries) →
    p ∈ (c.sweep now).2.entries

/-- **A sweep evicts exactly the idle entries, then the least recently used beyond the bound.**
On a sound cache, a sweep at `now` evicts every entry last used before the cutoff, then, when a
bound is set and more live entries remain than it allows, live entries none of which was used
later than an entry kept, until exactly as many remain as the bound allows. It returns the
evicted entries, each once, keeps the others unchanged and in order, and its counters drop the
size and raise the evictions by their number and count the sweep. -/
theorem sweep_evicts_idle_then_least_recent (hc : c.Sound) (now : Int) : c.Swept now := by
  obtain ⟨gone, hgone, hperm, -, hsize, hev, hh, hm⟩ := sweep_split c now
  have hlen : gone.length + (c.sweep now).2.entries.length = c.entries.length := by
    rw [← List.length_append, hperm.length_eq]
  refine ⟨⟨gone, hgone, hperm⟩, fun p _ hp => sweep_idle hp, sweep_sublist_live, ?_,
    fun p hp hpk q hq => sweep_least_recent hc.keyed hp hpk hq, ?_, ?_, rfl, ⟨hh, hm⟩,
    fun p hp hcut => sweep_keeps_recent hc.keyed hp hcut⟩
  · split
    · exact sweep_length_bounded hc.keyed ‹_›
    · exact sweep_unbounded ‹_›
  · rw [hgone, List.length_map, hsize, hc.counted]
    omega
  · rw [hgone, List.length_map, hev]

/-- A sweep at 120 with a window of 100 and room for one entry: the entry last used at 0 is idle,
and of the two live ones the one used at 50 goes. -/
theorem sweep_evicts_idle_then_least_recent_bounded :
    let c : Cache Unit :=
      { entries := [(1, ⟨⟨"calc_1", .integer, ()⟩, .hole, 0, 0, 0⟩),
          (2, ⟨⟨"calc_2", .integer, ()⟩, .hole, 50, 50, 0⟩),
          (3, ⟨⟨"calc_3", .integer, ()⟩, .hole, 80, 80, 0⟩)],
        size := 3, retention := 100, maxEntries := 1 }
    c.Sound ∧ c.Swept 120 := by
  intro c
  have hc : c.Sound := ⟨rfl, by decide⟩
  exact ⟨hc, sweep_evicts_idle_then_least_recent hc 120⟩

end LiveArith.Cache
