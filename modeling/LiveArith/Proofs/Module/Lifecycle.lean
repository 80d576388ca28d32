import LiveArith.Proofs.Engine.Books

/-!
The life of a module's symbols over any sequence of calls. A client declares a symbol (the module
names it), defines it with a routine, finalizes it, looks it up and releases it, in any order and
interleaved across symbols; a call out of order fails and changes nothing.
-/

set_option autoImplicit false

namespace LiveArith

@[simp] theorem SymbolState.beq_iff {a b : SymbolState} : (a == b) = true ↔ a = b := by
  cases a <;> cases b <;> decide

@[simp] theorem SymbolState.bne_iff {a b : SymbolState} : (a != b) = true ↔ a ≠ b := by
  cases a <;> cases b <;> decide

def Symbol.view {R : Type} (s : Symbol R) : Ty × SymbolState := (s.type, s.state)

namespace Module

variable {R : Type}

/-- A call a client makes on a module. -/
inductive Call (R : Type) where
  | declare (type : Ty)
  | define (name : String) (routine : Option R)
  | finalize (name : String)
  | lookup (name : String)
  | release (name : String)

/-- What a call answers: the name declared, a symbol defined, the callable of a finalized symbol,
what a lookup found, the fault of a call that failed, or a release. -/
inductive Answer (R : Type) where
  | declared (name : String)
  | defined
  | finalized (fn : Callable R)
  | found (fn : Option (Callable R))
  | failed (fault : Fault)
  | released

def Answer.declared? : Answer R → Option String
  | .declared name => some name
  | _ => none

section calls

variable [Inhabited R]

def perform (m : Module R) : Call R → Answer R × Module R
  | .declare t => ((.declared (m.declare t).1), (m.declare t).2)
  | .define name r =>
    match m.define name r with
    | .ok m' => (.defined, m')
    | .error f => (.failed f, m)
  | .finalize name =>
    match m.finalize name with
    | .ok (fn, m') => (.finalized fn, m')
    | .error f => (.failed f, m)
  | .lookup name => (.found (m.lookup name), m)
  | .release name => (.released, m.release name)

def replay (m : Module R) : List (Call R) → List (Call R × Answer R) × Module R
  | [] => ([], m)
  | c :: cs =>
    ((c, (m.perform c).1) :: (replay (m.perform c).2 cs).1, (replay (m.perform c).2 cs).2)

end calls

def track (name : String) (st : Option (Ty × SymbolState)) : Call R × Answer R →
    Option (Ty × SymbolState)
  | (.declare t, .declared n) => if n = name then some (t, .declared) else st
  | (.define n _, .defined) => if n = name then st.map fun p => (p.1, .defined) else st
  | (.finalize n, .finalized _) => if n = name then st.map fun p => (p.1, .finalized) else st
  | (.release n, _) => if n = name then none else st
  | _ => st

def stage (h : List (Call R × Answer R)) (name : String) : Option (Ty × SymbolState) :=
  h.foldl (track name) none

def declaredNames (h : List (Call R × Answer R)) : List String := h.filterMap (·.2.declared?)

theorem declaredNames_cons (c : Call R) (a : Answer R) (h : List (Call R × Answer R)) :
    declaredNames ((c, a) :: h) = a.declared?.toList ++ declaredNames h := by
  cases ha : a.declared? <;> simp [declaredNames, ha]

section lookups

variable {l : List (String × Symbol R)} {m : Module R} {name n : String}

theorem lookup_filter_ne (h : n ≠ name) :
    (l.filter (·.1 != name)).lookup n = l.lookup n := by
  induction l with
  | nil => rfl
  | cons p ps ih =>
    obtain ⟨k, s⟩ := p
    by_cases hk : k = name
    · -- the dropped entry is not the one looked up
      subst hk
      have hne : (n == k) = false := by simpa using h
      simp [List.lookup_cons, hne, ih]
    · simp only [List.filter_cons, bne_iff_ne, ne_eq, hk, not_false_eq_true, if_true,
        List.lookup_cons]
      split <;> simp_all

theorem find?_release_self : (m.release name).find? name = none := by
  rw [find?, release_symbols, List.lookup_eq_none_iff]
  intro p hp
  have hne : p.1 ≠ name := by simpa using (List.mem_filter.1 hp).2
  exact bne_iff_ne.2 (Ne.symm hne)

theorem find?_release_ne (h : n ≠ name) : (m.release name).find? n = m.find? n :=
  lookup_filter_ne h

theorem find?_set_ne {s : Symbol R} (h : n ≠ name) : (m.set name s).find? n = m.find? n := by
  obtain ⟨syms, counter⟩ := m
  simp only [find?, set]
  induction syms with
  | nil => rfl
  | cons p ps ih =>
    obtain ⟨k, t⟩ := p
    rw [List.map_cons, List.lookup_cons, List.lookup_cons]
    by_cases hk : k = name
    · -- the replaced entry is not the one looked up
      subst hk
      have hne : (n == k) = false := by simpa using h
      simp only [beq_self_eq_true, if_true, hne]
      exact ih
    · have hk' : (k == name) = false := by simpa using hk
      simp only [hk', Bool.false_eq_true, if_false]
      split
      · rfl
      · exact ih

theorem names_set (s : Symbol R) : (m.set name s).symbols.map Prod.fst = m.symbols.map Prod.fst := by
  simp only [set, List.map_map]
  refine List.map_congr_left fun p _ => ?_
  simp only [Function.comp_apply]
  split <;> rfl

theorem mem_names_iff : n ∈ m.symbols.map Prod.fst ↔ (m.find? n).isSome := by
  simp only [find?, List.lookup_isSome_iff, List.mem_map, beq_iff_eq]
  constructor
  · rintro ⟨p, hp, rfl⟩
    exact ⟨p, hp, rfl⟩
  · rintro ⟨p, hp, rfl⟩
    exact ⟨p, hp, rfl⟩

end lookups

section laws

variable {m m' : Module R} {name : String}

theorem define_eq_ok {r : Option R} : m.define name r = .ok m' ↔
    ∃ s x, m.find? name = some s ∧ s.state = .declared ∧ r = some x ∧
      m' = m.set name { type := s.type, routine := some x, state := .defined } := by
  cases hf : m.find? name with
  | none => simp [define, expect, hf, bind, Except.bind]
  | some s =>
    by_cases hs : s.state = .declared
    · cases r with
      | none => simp [define, expect, hf, hs, bind, Except.bind]
      | some x =>
        have hd : m.define name (some x) =
            .ok (m.set name { type := s.type, routine := some x, state := .defined }) := by
          simp [define, expect, hf, hs, bind, Except.bind]
        rw [hd]
        constructor
        · rintro ⟨⟩
          exact ⟨s, x, rfl, hs, rfl, rfl⟩
        · rintro ⟨s', x', ⟨⟩, -, ⟨⟩, rfl⟩
          rfl
    · simp [define, expect, hf, hs, bind, Except.bind]

variable [Inhabited R]

theorem finalize_eq_ok {fn : Callable R} : m.finalize name = .ok (fn, m') ↔
    ∃ s, m.find? name = some s ∧ s.state = .defined ∧ fn = ⟨name, s.type, s.routine.getD default⟩ ∧
      m' = m.set name { s with state := .finalized } := by
  cases hf : m.find? name with
  | none => simp [finalize, expect, hf, bind, Except.bind]
  | some s =>
    by_cases hs : s.state = .defined
    · have hd : m.finalize name =
          .ok (⟨name, s.type, s.routine.getD default⟩, m.set name { s with state := .finalized }) := by
        simp [finalize, expect, hf, hs, bind, Except.bind]
      rw [hd]
      constructor
      · rintro ⟨⟩
        exact ⟨s, rfl, hs, rfl, rfl⟩
      · rintro ⟨s', ⟨⟩, -, rfl, rfl⟩
        rfl
    · simp [finalize, expect, hf, hs, bind, Except.bind]

theorem lookup_eq_some {fn : Callable R} : m.lookup name = some fn ↔
    ∃ s, m.find? name = some s ∧ s.state = .finalized ∧ fn = ⟨name, s.type, s.routine.getD default⟩ := by
  cases hf : m.find? name with
  | none => simp [Module.lookup, hf]
  | some s =>
    by_cases hs : s.state = .finalized
    · simp only [Module.lookup, hf, hs, SymbolState.beq_iff, if_true, Option.some.injEq]
      constructor
      · rintro rfl
        exact ⟨s, rfl, hs, rfl⟩
      · rintro ⟨s', ⟨⟩, -, rfl⟩
        rfl
    · simp [Module.lookup, hf, hs]

end laws

theorem calc_ne {k j : Nat} (h : k ≠ j) : "calc_" ++ toString k ≠ "calc_" ++ toString j := by
  intro heq
  exact h (Nat.repr_inj.1 ((String.append_right_inj "calc_").1 heq))

/-- What a module reached by calls holds, against the stage `st` the calls gave each name and the
names `ds` they declared: its names are distinct, each held at its stage; the declared names are
distinct, carry numbers the counter has issued, and include every name with a stage. -/
structure Tracks (m : Module R) (st : String → Option (Ty × SymbolState)) (ds : List String) :
    Prop where
  distinct : (m.symbols.map Prod.fst).Nodup
  held : ∀ name, (m.find? name).map Symbol.view = st name
  declared : ds.Nodup
  staged : ∀ name, (st name).isSome → name ∈ ds
  issued : ∀ name ∈ ds, ∃ k ≤ m.counter, name = "calc_" ++ toString k

section tracks

variable {m : Module R} {st : String → Option (Ty × SymbolState)} {ds : List String}

theorem tracks_empty : Tracks ({} : Module R) (fun _ => none) [] :=
  ⟨List.nodup_nil, fun _ => rfl, List.nodup_nil, fun _ h => (Bool.false_ne_true h).elim,
    fun _ h => (List.not_mem_nil h).elim⟩

theorem Tracks.fresh (ht : Tracks m st ds) (t : Ty) :
    (m.declare t).1 ∉ ds ∧ m.find? (m.declare t).1 = none := by
  have hnd : (m.declare t).1 ∉ ds := by
    intro hmem
    obtain ⟨k, hk, hname⟩ := ht.issued _ hmem
    exact calc_ne (show m.counter + 1 ≠ k by omega) hname
  refine ⟨hnd, ?_⟩
  cases hf : m.find? (m.declare t).1 with
  | none => rfl
  | some s =>
    have hs := ht.held (m.declare t).1
    rw [hf] at hs
    exact absurd (ht.staged _ (by rw [← hs]; rfl)) hnd

theorem Tracks.declare (ht : Tracks m st ds) (t : Ty) :
    Tracks (m.declare t).2 (fun n => if (m.declare t).1 = n then some (t, .declared) else st n)
      (ds ++ [(m.declare t).1]) := by
  obtain ⟨hnd, hfresh⟩ := ht.fresh t
  have hnames : (m.declare t).1 ∉ m.symbols.map Prod.fst := by
    rw [mem_names_iff, hfresh]
    exact Bool.false_ne_true
  refine ⟨?_, fun n => ?_, ?_, fun n hn => ?_, fun n hn => ?_⟩
  · simp only [Module.declare, List.map_append, List.map_cons, List.map_nil]
    exact Engine.nodup_concat ht.distinct hnames
  · by_cases hn : (m.declare t).1 = n
    · subst hn
      rw [find?_declare hfresh, if_pos rfl]
      rfl
    · rw [if_neg hn, ← ht.held n]
      have hsingle : [((m.declare t).1, ({ type := t } : Symbol R))].lookup n = none := by
        have hne : (n == (m.declare t).1) = false := beq_eq_false_iff_ne.2 (Ne.symm hn)
        simp only [List.lookup_cons, hne, List.lookup_nil]
      show ((m.symbols ++ [((m.declare t).1, ({ type := t } : Symbol R))]).lookup n).map
        Symbol.view = _
      rw [List.lookup_append, hsingle, Option.or_none]
      rfl
  · exact Engine.nodup_concat ht.declared hnd
  · by_cases hn' : (m.declare t).1 = n
    · exact List.mem_append_right _ (List.mem_singleton.2 hn'.symm)
    · rw [if_neg hn'] at hn
      exact List.mem_append_left _ (ht.staged n hn)
  · rcases List.mem_append.1 hn with hn | hn
    · obtain ⟨k, hk, hname⟩ := ht.issued n hn
      exact ⟨k, by simp only [Module.declare]; omega, hname⟩
    · rw [List.mem_singleton.1 hn]
      exact ⟨m.counter + 1, by simp [Module.declare], rfl⟩

theorem Tracks.set (ht : Tracks m st ds) {name : String} {s₀ : Symbol R}
    (hf : m.find? name = some s₀) (s : Symbol R) :
    Tracks (m.set name s) (fun n => if name = n then some s.view else st n) ds := by
  refine ⟨by rw [names_set]; exact ht.distinct, fun n => ?_, ht.declared, fun n hn => ?_,
    ht.issued⟩
  · by_cases hn : name = n
    · subst hn
      rw [find?_set hf, if_pos rfl]
      rfl
    · rw [if_neg hn, find?_set_ne (Ne.symm hn), ht.held n]
  · by_cases hn' : name = n
    · subst hn'
      apply ht.staged
      rw [← ht.held, hf]
      rfl
    · rw [if_neg hn'] at hn
      exact ht.staged n hn

theorem Tracks.release (ht : Tracks m st ds) (name : String) :
    Tracks (m.release name) (fun n => if name = n then none else st n) ds := by
  refine ⟨?_, fun n => ?_, ht.declared, fun n hn => ?_, ht.issued⟩
  · rw [release_symbols, names_filter _ fun n => n != name]
    exact ht.distinct.sublist List.filter_sublist
  · by_cases hn : name = n
    · subst hn
      rw [find?_release_self, if_pos rfl]
      rfl
    · rw [if_neg hn, find?_release_ne (Ne.symm hn), ht.held n]
  · by_cases hn' : name = n
    · rw [if_pos hn'] at hn
      cases hn
    · rw [if_neg hn'] at hn
      exact ht.staged n hn

variable [Inhabited R]

theorem Tracks.perform (ht : Tracks m st ds) (c : Call R) :
    Tracks (m.perform c).2 (fun n => track n (st n) (c, (m.perform c).1))
      (ds ++ ((m.perform c).1.declared?).toList) := by
  cases c with
  | declare t => exact ht.declare t
  | define name r =>
    cases hd : m.define name r with
    | error f =>
      simp only [Module.perform, hd, Answer.declared?, Option.toList_none, List.append_nil]
      exact ht
    | ok m' =>
      obtain ⟨s, x, hf, -, -, rfl⟩ := define_eq_ok.1 hd
      simp only [Module.perform, hd, Answer.declared?, Option.toList_none, List.append_nil]
      -- the defined symbol keeps its declared type
      have hst : st name = some s.view := by rw [← ht.held, hf]; rfl
      have hstage : (fun n => track n (st n) (Call.define name r, Answer.defined)) =
          fun n => if name = n then some (Symbol.view ⟨s.type, some x, .defined⟩) else st n := by
        funext n
        by_cases hn : name = n
        · subst hn
          simp [track, hst, Symbol.view]
        · simp [track, hn]
      rw [hstage]
      exact ht.set hf _
  | finalize name =>
    cases hd : m.finalize name with
    | error f =>
      simp only [Module.perform, hd, Answer.declared?, Option.toList_none, List.append_nil]
      exact ht
    | ok r =>
      obtain ⟨fn, m'⟩ := r
      obtain ⟨s, hf, -, -, rfl⟩ := finalize_eq_ok.1 hd
      simp only [Module.perform, hd, Answer.declared?, Option.toList_none, List.append_nil]
      have hst : st name = some s.view := by rw [← ht.held, hf]; rfl
      have hstage : (fun n => track n (st n) (Call.finalize name, Answer.finalized fn)) =
          fun n => if name = n then some (Symbol.view { s with state := .finalized }) else st n := by
        funext n
        by_cases hn : name = n
        · subst hn
          simp [track, hst, Symbol.view]
        · simp [track, hn]
      rw [hstage]
      exact ht.set hf _
  | lookup name =>
    simp only [Module.perform, Answer.declared?, Option.toList_none, List.append_nil]
    exact ht
  | release name =>
    simp only [Module.perform, Answer.declared?, Option.toList_none, List.append_nil]
    have hstage : (fun n => track n (st n) (Call.release name, (Answer.released : Answer R))) =
        fun n => if name = n then none else st n := by
      funext n
      simp [track]
    rw [hstage]
    exact ht.release name

theorem Tracks.replay (ht : Tracks m st ds) (cs : List (Call R)) :
    Tracks (m.replay cs).2 (fun n => (m.replay cs).1.foldl (track n) (st n))
      (ds ++ declaredNames (m.replay cs).1) := by
  induction cs generalizing m st ds with
  | nil => simpa [Module.replay, declaredNames] using ht
  | cons c cs ih =>
    have := ih (ht.perform c)
    rw [List.append_assoc, ← declaredNames_cons] at this
    simpa [Module.replay] using this

end tracks

section replay

variable [Inhabited R]

def Obeys (m : Module R) : Call R → Answer R × Module R → Prop
  | .define name r, (a, m') =>
    (a = .defined ↔ (∃ s, m.find? name = some s ∧ s.state = .declared) ∧ r.isSome) ∧
      (a ≠ .defined → m' = m)
  | .finalize name, (a, m') =>
    ((∃ fn, a = .finalized fn) ↔ ∃ s, m.find? name = some s ∧ s.state = .defined) ∧
      ((∀ fn, a ≠ .finalized fn) → m' = m)
  | _, _ => True

theorem perform_obeys (m : Module R) (c : Call R) : Obeys m c (m.perform c) := by
  cases c with
  | define name r =>
    cases hd : m.define name r with
    | ok m' =>
      obtain ⟨s, x, hf, hs, rfl, -⟩ := define_eq_ok.1 hd
      simp only [Obeys, Module.perform, hd, ne_eq, not_true_eq_false, false_imp_iff, and_true,
        true_iff]
      exact ⟨⟨s, hf, hs⟩, rfl⟩
    | error f =>
      simp only [Obeys, Module.perform, hd, ne_eq, reduceCtorEq, not_false_eq_true,
        forall_const, and_true, false_iff, not_and]
      -- a declared symbol given a routine would have been defined
      rintro ⟨s, hf, hs⟩ hr
      obtain ⟨x, rfl⟩ := Option.isSome_iff_exists.1 hr
      obtain ⟨m', hm'⟩ : ∃ m', m.define name (some x) = .ok m' :=
        ⟨_, define_eq_ok.2 ⟨s, x, hf, hs, rfl, rfl⟩⟩
      rw [hd] at hm'
      cases hm'
  | finalize name =>
    cases hd : m.finalize name with
    | ok r =>
      obtain ⟨fn, m'⟩ := r
      obtain ⟨s, hf, hs, -, -⟩ := finalize_eq_ok.1 hd
      simp only [Obeys, Module.perform, hd]
      refine ⟨⟨fun _ => ⟨s, hf, hs⟩, fun _ => ⟨fn, rfl⟩⟩, fun hne => (hne fn rfl).elim⟩
    | error f =>
      simp only [Obeys, Module.perform, hd, reduceCtorEq, exists_false, false_iff, ne_eq,
        not_false_eq_true, implies_true, and_true, not_exists, not_and]
      -- a defined symbol would have been finalized
      intro s hf hs
      have hm := finalize_eq_ok.2 ⟨s, hf, hs, rfl, rfl⟩
      rw [hd] at hm
      cases hm
  | declare t => trivial
  | lookup name => trivial
  | release name => trivial

theorem replay_tracks (cs : List (Call R)) :
    Tracks (replay {} cs).2 (stage (replay {} cs).1) (declaredNames (replay {} cs).1) := by
  exact tracks_empty.replay cs

variable {m : Module R} {h : List (Call R × Answer R)} {ds : List String}

theorem Tracks.lookup_iff (ht : Tracks m (stage h) ds) (name : String) :
    (∃ fn, m.lookup name = some fn) ↔ ∃ t, stage h name = some (t, .finalized) := by
  rw [← ht.held]
  constructor
  · rintro ⟨fn, hfn⟩
    obtain ⟨s, hf, hs, -⟩ := lookup_eq_some.1 hfn
    exact ⟨s.type, by rw [hf, Option.map_some, Symbol.view, hs]⟩
  · rintro ⟨t, ht'⟩
    obtain ⟨s, hf, hv⟩ := Option.map_eq_some_iff.1 ht'
    have hs : s.state = .finalized := congrArg Prod.snd hv
    exact ⟨_, lookup_eq_some.2 ⟨s, hf, hs, rfl⟩⟩

theorem Tracks.lookup_typed (ht : Tracks m (stage h) ds) {name : String} {fn : Callable R}
    (hfn : m.lookup name = some fn) :
    fn.symbol = name ∧ stage h name = some (fn.type, .finalized) := by
  obtain ⟨s, hf, hs, rfl⟩ := lookup_eq_some.1 hfn
  refine ⟨rfl, ?_⟩
  rw [← ht.held, hf, Option.map_some, Symbol.view, hs]

omit [Inhabited R] in
theorem Tracks.size_eq (ht : Tracks m (stage h) ds) :
    m.size = (ds.filter fun n => (stage h n).isSome).length := by
  have hmem : ∀ n, n ∈ m.symbols.map Prod.fst ↔ n ∈ ds.filter fun n => (stage h n).isSome := by
    intro n
    rw [mem_names_iff, List.mem_filter, ← ht.held n, Option.isSome_map]
    exact ⟨fun hs => ⟨ht.staged n (by rw [← ht.held n, Option.isSome_map]; exact hs), by simpa using hs⟩,
      fun hs => by simpa using hs.2⟩
  have hperm := (List.perm_ext_iff_of_nodup ht.distinct
    (ht.declared.sublist List.filter_sublist)).2 hmem
  rw [size, ← List.length_map (f := Prod.fst), hperm.length_eq]

/-- **Symbols follow their calls.** After any sequence of calls on a new module: the names the
declares answered are pairwise distinct; a lookup finds a callable exactly for a name that was
declared, then defined, then finalized, and not released since, and the callable is named for it
and of the type it was declared with; the module's size is the number of names declared and not
released; and whatever call comes next, a define succeeds exactly on a symbol held at declared
and given a routine, a finalize exactly on one held at defined, and a call that fails leaves the
module as it was. -/
theorem symbols_follow_calls (cs : List (Call R)) (c : Call R) :
    (declaredNames (replay {} cs).1).Nodup ∧
      (∀ name, (∃ fn, (replay {} cs).2.lookup name = some fn) ↔
        ∃ t, stage (replay {} cs).1 name = some (t, .finalized)) ∧
      (∀ name fn, (replay {} cs).2.lookup name = some fn →
        fn.symbol = name ∧ stage (replay {} cs).1 name = some (fn.type, .finalized)) ∧
      (replay {} cs).2.size =
        ((declaredNames (replay {} cs).1).filter fun n => (stage (replay {} cs).1 n).isSome).length ∧
      Obeys (replay {} cs).2 c ((replay {} cs).2.perform c) := by
  have ht := replay_tracks cs
  exact ⟨ht.declared, ht.lookup_iff, fun _ _ hfn => ht.lookup_typed hfn, ht.size_eq,
    perform_obeys _ c⟩

/- The life of one symbol: finalizing before defining and defining with no routine fail, a define
and a finalize succeed, and a release leaves nothing. -/
example :
    let cs : List (Call Nat) := [.declare .integer, .finalize "calc_1", .define "calc_1" none,
      .define "calc_1" (some 5), .finalize "calc_1"]
    stage (replay {} cs).1 "calc_1" = some (.integer, .finalized) ∧
      (replay {} (cs ++ [.release "calc_1"])).2.size = 0 := by
  decide

end replay

end Module

end LiveArith
