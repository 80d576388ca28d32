import LiveArith.Engine

/-!
Compiled programs compute the reference meaning of an expression. Lowering keeps the meaning and
types every operation in one domain, folding keeps the meaning, and the stack machine runs emitted
code to its value, provided the constant pool hands every constant back as it was given.
-/

set_option autoImplicit false

namespace LiveArith

namespace Op

def onInt : Op → Int64 → Int64 → Int64
  | .add => (· + ·)
  | .subtract => (· - ·)
  | .multiply => (· * ·)
  | _ => fun a _ => a

def onFloat : Op → Float → Float → Float
  | .add => (· + ·)
  | .subtract => (· - ·)
  | .multiply => (· * ·)
  | .divide => (· / ·)
  | .unknown _ => fun a _ => a

end Op

namespace Value

def combine (op : Op) : Value → Value → Value
  | .integer x, .integer y =>
    if op = .divide then .float (op.onFloat x.toFloat y.toFloat) else .integer (op.onInt x y)
  | a, b => .float (op.onFloat a.toFloat b.toFloat)

theorem type_combine {op : Op} (a b : Value) :
    (combine op a b).type = Ty.promote op a.type b.type := by
  cases a <;> cases b <;> cases op <;> rfl

theorem combine_of_float {op : Op} {a b : Value} (h : a.type = .float ∨ b.type = .float) :
    combine op a b = .float (op.onFloat a.toFloat b.toFloat) := by
  cases a <;> cases b
  · simp [type] at h
  all_goals rfl

theorem eq_float_of_type {v : Value} (h : v.type = .float) : v = .float v.toFloat := by
  cases v with
  | integer => cases h
  | float => rfl

end Value

namespace Expr

def Compilable : Expr → Prop
  | .hole => False
  | .int .. | .float .. => True
  | .paren _ e => e.Compilable
  | .binary _ l op r => op.valid = true ∧ l.Compilable ∧ r.Compilable

def reference : Expr → Value
  | .hole => .integer 0
  | .int _ n => .integer n
  | .float _ b => .float (Float.ofBits b)
  | .paren _ e => e.reference
  | .binary _ l op r => Value.combine op l.reference r.reference

theorem type_reference {e : Expr} (h : e.Compilable) : e.reference.type = e.type := by
  induction e with
  | hole => cases h
  | int => rfl
  | float => rfl
  | paren _ e ih => exact ih h
  | binary _ l op r ihl ihr =>
    rw [reference, Value.type_combine, ihl h.2.1, ihr h.2.2]
    rfl

end Expr

namespace Machine

theorem arith_eq_combine {op : Op} (h : op.valid = true) (a b : Value) :
    arith op a b = Value.combine op a b := by
  cases op <;> cases a <;> cases b <;> first | rfl | cases h

theorem arith_float (op : Op) (x y : Float) :
    arith op (.float x) (.float y) = .float (op.onFloat x y) := by
  cases op <;> rfl

theorem float_side {op : Op} (hop : op.valid = true) {a b : Ty}
    (h : (Ty.promote op a b == .float && op != .divide) = true) : a = .float ∨ b = .float := by
  cases op with
  | unknown => cases hop
  | _ => revert h; cases a <;> cases b <;> decide

theorem eval_promoted {c : Code} {t : Ty} (h : c.eval.type = t) :
    (if t == .integer then Code.toFloat c else c).eval = .float c.eval.toFloat := by
  cases t with
  | integer => rfl
  | float => exact Value.eq_float_of_type h

theorem lower_correct {e : Expr} (h : e.Compilable) :
    ∃ c, lower e = .ok c ∧ c.eval = e.reference := by
  induction e with
  | hole => cases h
  | int => exact ⟨_, rfl, rfl⟩
  | float => exact ⟨_, rfl, rfl⟩
  | paren _ e ih => exact ih h
  | binary _ l op r ihl ihr =>
    obtain ⟨hop, hl, hr⟩ := h
    obtain ⟨lc, hlc, hle⟩ := ihl hl
    obtain ⟨rc, hrc, hre⟩ := ihr hr
    have hlt : lc.eval.type = l.type := by rw [hle, Expr.type_reference hl]
    have hrt : rc.eval.type = r.type := by rw [hre, Expr.type_reference hr]
    simp only [lower, hop, Bool.not_true, Bool.false_eq_true, if_false, hlc, hrc, bind,
      Except.bind]
    split
    · -- a float operation other than a division: each side is its double
      next hp =>
      refine ⟨_, rfl, ?_⟩
      have hfl : lc.eval.type = .float ∨ rc.eval.type = .float := by
        rw [hlt, hrt]
        exact float_side hop hp
      rw [Code.eval, eval_promoted hlt, eval_promoted hrt, Expr.reference, ← hle, ← hre,
        arith_float, Value.combine_of_float hfl]
    · exact ⟨_, rfl, by rw [Code.eval, Expr.reference, arith_eq_combine hop, hle, hre]⟩

theorem eval_ofValue (v : Value) :
    (match v with | .integer i => Code.int i | .float x => Code.float x).eval = v := by
  cases v <;> rfl

theorem eval_fold (c : Code) : c.fold.eval = c.eval := by
  induction c with
  | int => rfl
  | float => rfl
  | toFloat c ih => rw [Code.fold, Code.eval, Code.eval, ih]
  | apply op l r ihl ihr =>
    rw [Code.fold, Code.eval, ← ihl, ← ihr]
    -- the four pairs of literals fold to the literal of their value; anything else stays
    split
    · exact eval_ofValue _
    · exact eval_ofValue _
    · exact eval_ofValue _
    · exact eval_ofValue _
    · rfl

def Code.consts : Code → List Value
  | .int v => [.integer v]
  | .float v => [.float v]
  | .toFloat c => c.consts
  | .apply _ l r => l.consts ++ r.consts

def Exact (vs : List Value) : Prop :=
  ∀ a ∈ vs, ∀ b ∈ vs, sameConstant a b = true → b = a

theorem slot_read (P : List Value) (v : Value) :
    P <+: (slot P v).2 ∧ ∃ w, (slot P v).2[(slot P v).1]? = some w ∧
      (w = v ∨ w ∈ P ∧ sameConstant v w = true) := by
  unfold slot
  split
  · next k hk =>
    obtain ⟨hlt, hw, -⟩ := List.findIdx?_eq_some_iff_getElem.1 hk
    exact ⟨List.prefix_refl P, P[k], List.getElem?_eq_getElem hlt, .inr ⟨List.getElem_mem hlt, hw⟩⟩
  · exact ⟨List.prefix_append P [v], v, List.getElem?_concat_length, .inl rfl⟩

theorem emit_grows (c : Code) (P : List Value) : P <+: (c.emit P).2 := by
  induction c generalizing P with
  | int v => exact (slot_read P _).1
  | float v => exact (slot_read P _).1
  | toFloat c ih => exact ih P
  | apply op l r ihl ihr => exact (ihl P).trans (ihr _)

theorem emit_pool (c : Code) (P : List Value) : ∀ w ∈ (c.emit P).2, w ∈ P ∨ w ∈ c.consts := by
  induction c generalizing P with
  | int v | float v =>
    intro w hw
    simp only [Code.emit, slot] at hw
    split at hw
    · exact .inl hw
    · simpa [Code.consts] using hw
  | toFloat c ih => exact ih P
  | apply op l r ihl ihr =>
    intro w hw
    rcases ihr _ w hw with h | h
    · rcases ihl P w h with h' | h'
      · exact .inl h'
      · exact .inr (List.mem_append_left _ h')
    · exact .inr (List.mem_append_right _ h)

theorem push_slot {P Q s : List Value} {v : Value} (hQ : (slot P v).2 <+: Q)
    (hx : ∀ w ∈ Q, sameConstant v w = true → w = v) :
    Instr.step Q s (.push (slot P v).1) = some (v :: s) := by
  obtain ⟨hpre, w, hw, hwv⟩ := slot_read P v
  have hk : (slot P v).1 < (slot P v).2.length := (List.getElem?_eq_some_iff.1 hw).1
  obtain ⟨t, ht⟩ := hQ
  have hQw : Q[(slot P v).1]? = some w := by rw [← ht, List.getElem?_append_left hk, hw]
  -- an earlier constant in the slot is in the pool, so it is the constant itself
  have hwv' : w = v := by
    rcases hwv with h | ⟨hwP, hsame⟩
    · exact h
    · exact hx w (by rw [← ht]; exact List.mem_append_left _ (hpre.subset hwP)) hsame
  rw [Instr.step, hQw, hwv']
  rfl

theorem emit_run (c : Code) (P Q s : List Value) (hQ : (c.emit P).2 <+: Q)
    (hx : ∀ v ∈ c.consts, ∀ w ∈ Q, sameConstant v w = true → w = v) :
    (c.emit P).1.foldlM (Instr.step Q) s = some (c.eval :: s) := by
  induction c generalizing P s with
  | int v =>
    show [Instr.push (slot P (.integer v)).1].foldlM (Instr.step Q) s = _
    rw [List.foldlM_cons, push_slot hQ (hx _ (by simp [Code.consts]))]
    rfl
  | float v =>
    show [Instr.push (slot P (.float v)).1].foldlM (Instr.step Q) s = _
    rw [List.foldlM_cons, push_slot hQ (hx _ (by simp [Code.consts]))]
    rfl
  | toFloat c ih =>
    show ((c.emit P).1 ++ [Instr.toFloat]).foldlM (Instr.step Q) s = _
    rw [List.foldlM_append, ih P s hQ hx]
    rfl
  | apply op l r ihl ihr =>
    show ((l.emit P).1 ++ (r.emit (l.emit P).2).1 ++ [Instr.apply op]).foldlM (Instr.step Q) s = _
    have hl := ihl P s ((emit_grows r _).trans hQ)
      (fun v hv => hx v (List.mem_append_left _ hv))
    have hr := ihr (l.emit P).2 (l.eval :: s) hQ (fun v hv => hx v (List.mem_append_right _ hv))
    rw [List.foldlM_append, List.foldlM_append, hl]
    simp only [Option.bind_eq_bind, Option.bind_some]
    rw [hr]
    rfl

theorem eval_type_fold {c : Code} {t : Ty} (h : c.eval.type = t) (opt : Bool) :
    (if opt then c.fold else c).eval.type = t := by
  cases opt
  · exact h
  · rw [if_pos rfl, eval_fold, h]

theorem run_ofCode {c : Code} {t : Ty} {opt : Bool} (ht : c.eval.type = t)
    (hx : Exact (if opt then c.fold else c).consts) :
    (Program.ofCode c t opt).run = some c.eval := by
  have hrun := emit_run (if opt then c.fold else c) [] _ [] (List.prefix_refl _) fun v hv w hw h =>
    hx v hv w (((emit_pool _ [] w hw).resolve_left List.not_mem_nil)) h
  have hsame : (if opt then c.fold else c).eval = c.eval := by
    cases opt
    · rfl
    · exact eval_fold c
  have hty := eval_type_fold ht opt
  rw [Program.run, Program.ofCode]
  dsimp only
  rw [List.foldlM_append, hrun]
  -- the cast at the end changes nothing on a value of the program's type
  cases hv : (if opt then c.fold else c).eval with
  | integer i =>
    rw [hv] at hty hsame
    subst hty
    rw [← hsame]
    rfl
  | float x =>
    rw [hv] at hty hsame
    subst hty
    rw [← hsame]
    rfl

end Machine

namespace Module

variable {R : Type}

theorem find?_declare {m : Module R} {t : Ty} (h : m.find? (m.declare t).1 = none) :
    (m.declare t).2.find? (m.declare t).1 = some { type := t } := by
  simp only [declare, find?] at h ⊢
  rw [List.lookup_append, h, Option.none_or, List.lookup_cons_self]

theorem find?_set {m : Module R} {name : String} {s s₀ : Symbol R} (h : m.find? name = some s₀) :
    (m.set name s).find? name = some s := by
  obtain ⟨syms, counter⟩ := m
  simp only [find?, set] at h ⊢
  induction syms with
  | nil => cases h
  | cons p ps ih =>
    obtain ⟨n, t⟩ := p
    by_cases hn : n = name
    · subst hn
      simp
    · -- the first entry has another name: the lookup passes it in both lists
      have hne : (name == n) = false := by simpa using Ne.symm hn
      rw [List.lookup_cons, hne] at h
      rw [List.map_cons, if_neg (by simpa using hn), List.lookup_cons, hne]
      exact ih h

theorem define_declared {m : Module R} {name : String} {t : Ty} (r : R)
    (h : m.find? name = some { type := t }) :
    m.define name (some r) = .ok (m.set name { type := t, routine := some r, state := .defined }) := by
  simp only [define, expect, h]
  rfl

theorem finalize_defined [Inhabited R] {m : Module R} {name : String} {t : Ty} {r : R}
    (h : m.find? name = some { type := t, routine := some r, state := .defined }) :
    m.finalize name =
      .ok (⟨name, t, r⟩, m.set name { type := t, routine := some r, state := .finalized }) := by
  simp only [finalize, expect, h]
  rfl

end Module

namespace Machine

def Kind.ofTy : Ty → Kind
  | .integer => .int
  | .float => .float64

theorem Kind.ty?_ofTy (t : Ty) : (Kind.ofTy t).ty? = some t := by
  cases t <;> rfl

theorem ofTy_promote (op : Op) (a b : Ty) :
    (if op == .divide || Kind.ofTy a == .float64 || Kind.ofTy b == .float64 then Kind.float64
      else .int) = .ofTy (Ty.promote op a b) := by
  cases op <;> cases a <;> cases b <;> rfl

theorem kind_promoted {c : Code} {t : Ty} (h : c.kind = .ofTy t) :
    (if t == .integer then Code.toFloat c else c).kind = .float64 := by
  cases t with
  | integer => rfl
  | float => exact h

theorem kind_lower {x : Expr} {c : Code} (hx : x.Compilable) (h : lower x = .ok c) :
    c.kind = .ofTy x.type := by
  induction x generalizing c with
  | hole => cases hx
  | int => cases h; rfl
  | float => cases h; rfl
  | paren _ e ih => exact ih hx h
  | binary _ l op r ihl ihr =>
    obtain ⟨hop, hl, hr⟩ := hx
    obtain ⟨lc, hlc, -⟩ := lower_correct hl
    obtain ⟨rc, hrc, -⟩ := lower_correct hr
    have hlk := ihl hl hlc
    have hrk := ihr hr hrc
    simp only [lower, hop, Bool.not_true, Bool.false_eq_true, if_false, hlc, hrc, bind,
      Except.bind] at h
    show c.kind = .ofTy (Ty.promote op l.type r.type)
    split at h
    · -- a double operation other than a division: both sides are converted to doubles
      next hp =>
      cases h
      have hpf : Ty.promote op l.type r.type = .float := by
        cases hpr : Ty.promote op l.type r.type
        · rw [hpr] at hp
          cases hp
        · rfl
      rw [Code.kind, kind_promoted hlk, kind_promoted hrk, hpf]
      cases op <;> rfl
    · cases h
      rw [Code.kind, hlk, hrk, ofTy_promote]

/-- What the calculator assumes of the expression library it compiles with. -/
structure Backend.Lawful {P : Type} (B : Backend P) : Prop where
  check : ∀ c t, B.check c t = .ok c.kind
  optimize : ∀ c, ∃ c', B.optimize c = .ok c' ∧ c'.eval = c.eval
  compile : ∀ c t, ∃ p, B.compile c t = .ok p ∧
    (c.eval.type = t → Exact c.consts → B.run p = .ok c.eval)

namespace Backend

variable {P : Type} {B : Backend P}

theorem Lawful.prepare (hB : B.Lawful) (opt : Bool) (c : Code) :
    ∃ c', B.prepare opt c = .ok c' ∧ c'.eval = c.eval := by
  cases opt with
  | false => exact ⟨c, rfl, rfl⟩
  | true => exact hB.optimize c

theorem call_of_run {fn : Callable P} {v : Value} (h : B.run fn.routine = .ok v)
    (ht : v.type = fn.type) : fn.call B.exec false = .ok v := by
  obtain ⟨name, t, prog⟩ := fn
  simp only [Callable.call, exec] at h ⊢
  rw [h]
  cases v <;> (subst ht; rfl)

variable [Inhabited P] {opt : Bool} {m m' : Module P} {x : Expr}

theorem generate_eq_ok {fn : Callable P} (h : B.generate opt m x = .ok (fn, m')) :
    ∃ c c' p m₁, lower x = .ok c ∧ B.prepare opt c = .ok c' ∧ B.compile c' x.type = .ok p ∧
      (m.declare x.type).2.define (m.declare x.type).1 (some p) = .ok m₁ ∧
      m₁.finalize (m.declare x.type).1 = .ok (fn, m') := by
  unfold generate at h
  split at h
  · cases h
  -- each stage either failed, which no `.ok` comes from, or handed its result on
  rcases hc : lower x with f | c
  · rw [hc] at h
    cases f <;> cases h
  rw [hc] at h
  dsimp only at h
  rcases hk : B.check c x.type with msg | k
  · rw [hk] at h
    cases h
  rw [hk] at h
  dsimp only at h
  by_cases hty : (k.ty? != some x.type) = true
  · rw [if_pos hty] at h
    cases h
  rw [if_neg hty] at h
  rcases hc' : B.prepare opt c with msg | c'
  · rw [hc'] at h
    cases h
  rw [hc'] at h
  dsimp only at h
  rcases hp : B.compile c' x.type with msg | p
  · rw [hp] at h
    cases h
  rw [hp] at h
  dsimp only at h
  rcases hm₁ : (m.declare x.type).2.define (m.declare x.type).1 (some p) with f | m₁
  · rw [hm₁] at h
    cases h
  rw [hm₁] at h
  dsimp only at h
  rcases hf : m₁.finalize (m.declare x.type).1 with f | ⟨fn', m''⟩
  · rw [hf] at h
    cases h
  rw [hf] at h
  cases h
  exact ⟨c, c', p, m₁, rfl, hc', hp, hm₁, hf⟩

theorem generate_ok (hB : B.Lawful) (opt : Bool) (hx : x.Compilable)
    (hm : m.find? (m.declare x.type).1 = none) :
    ∃ c c' p m', lower x = .ok c ∧ c.eval = x.reference ∧ B.prepare opt c = .ok c' ∧
      c'.eval = c.eval ∧ B.compile c' x.type = .ok p ∧
      (c'.eval.type = x.type → Exact c'.consts → B.run p = .ok c'.eval) ∧
      B.generate opt m x = .ok (⟨(m.declare x.type).1, x.type, p⟩, m') := by
  obtain ⟨c, hc, hce⟩ := lower_correct hx
  obtain ⟨c', hc', hce'⟩ := hB.prepare opt c
  obtain ⟨p, hp, hrun⟩ := hB.compile c' x.type
  -- lowering agrees with the resolved type, so the checked type is never a mismatch
  have hk : c.kind.ty? = some x.type := by rw [kind_lower hx hc, Kind.ty?_ofTy]
  have hd := Module.find?_declare hm
  refine ⟨c, c', p, ((m.declare x.type).2.set (m.declare x.type).1 ⟨x.type, some p, .defined⟩).set
    (m.declare x.type).1 ⟨x.type, some p, .finalized⟩, hc, hce, hc', hce', hp, hrun, ?_⟩
  unfold generate
  rw [hc]
  dsimp only
  rw [hB.check]
  dsimp only
  rw [if_neg (by rw [hk]; cases x.type <;> decide), hc']
  dsimp only
  rw [hp]
  dsimp only
  rw [Module.define_declared _ hd]
  dsimp only
  rw [Module.finalize_defined (Module.find?_set hd)]
  dsimp only
  -- what is left is the refusal of an absent expression, which `x` is not
  split
  · exact absurd hx id
  · rfl

/-- **Compiled code computes the reference meaning.** With any expression library that meets
what the calculator assumes of it, compiling an expression with no absent part and only the
four operators, optimizing or not, gives a callable of the expression's resolved type, and
calling it gives the expression's reference value whenever the constant pool tells the
constants of the compiled code apart. -/
theorem compile_computes_reference (hB : B.Lawful) (opt : Bool) (hx : x.Compilable)
    (hm : m.find? (m.declare x.type).1 = none) :
    ∃ fn m' c c', B.generate opt m x = .ok (fn, m') ∧ lower x = .ok c ∧
      B.prepare opt c = .ok c' ∧ fn.type = x.type ∧
      (Exact c'.consts → fn.call B.exec false = .ok x.reference) := by
  obtain ⟨c, c', p, m', hc, hce, hc', hce', -, hrun, hgen⟩ := generate_ok hB opt hx hm
  have hval : c'.eval = x.reference := hce'.trans hce
  have hty : c'.eval.type = x.type := by rw [hval, Expr.type_reference hx]
  refine ⟨_, m', c, c', hgen, hc, hc', rfl, fun hex => ?_⟩
  rw [← hval]
  exact call_of_run (hrun hty hex) hty

end Backend

theorem backend_lawful : backend.Lawful where
  check _ _ := rfl
  optimize c := ⟨c.fold, rfl, eval_fold c⟩
  compile c t := ⟨Program.ofCode c t false, rfl, fun ht hx => by
    have hrun : (Program.ofCode c t false).run = some c.eval := run_ofCode ht hx
    simp only [backend, hrun]⟩

/-- A product of a parenthesized integer sum and a double, optimized: the sum is folded
before the double side is converted. -/
theorem compile_computes_reference_mixed :
    let x := Expr.binary {} (.paren {} (.binary {} (.int {} 1) .add (.int {} 2))) .multiply
      (.float {} 0x3FF8000000000000)
    backend.Lawful ∧ x.Compilable ∧
      ({} : Module Program).find? (({} : Module Program).declare x.type).1 = none ∧
      ∃ fn m' c c', backend.generate true {} x = .ok (fn, m') ∧ lower x = .ok c ∧
        backend.prepare true c = .ok c' ∧ fn.type = x.type ∧
        (Exact c'.consts → fn.call backend.exec false = .ok x.reference) := by
  intro x
  have hx : x.Compilable := ⟨rfl, ⟨rfl, trivial, trivial⟩, trivial⟩
  exact ⟨backend_lawful, hx, rfl, Backend.compile_computes_reference backend_lawful true hx rfl⟩

theorem prepare_backend (opt : Bool) (c : Code) :
    backend.prepare opt c = .ok (if opt then c.fold else c) := by
  cases opt <;> rfl

theorem ofCode_prepared (c : Code) (t : Ty) (opt : Bool) :
    Program.ofCode (if opt then c.fold else c) t false = Program.ofCode c t opt := by
  cases opt <;> rfl

end Machine

theorem Callable.call_of_run {fn : Callable Code} {v : Value} (h : fn.routine.run = some v)
    (ht : v.type = fn.type) : fn.call runCode false = .ok v :=
  Machine.Backend.call_of_run (B := Machine.backend) (by simp only [Machine.backend, h]) ht

namespace Engine

variable {e e' : Engine} {x : Expr} {fn : Callable Code}

theorem compile_inv (h : e.compile x = .ok (fn, e')) :
    ∃ m, Machine.backend.generate e.options.optimize e.module x = .ok (fn, m) ∧
      e' = ({ e with module := m, compiles := e.compiles + 1 } : Engine).note .debug
        "compiled expression" [.str "symbol" fn.symbol, .str "type" x.type.name, .str "expr" x.text] := by
  unfold Engine.compile at h
  split at h
  · cases h
  · rename_i fn' m hg
    cases h
    exact ⟨m, hg, rfl⟩

theorem compile_ok (hx : x.Compilable) (hm : e.module.find? (e.module.declare x.type).1 = none) :
    ∃ e' c, Machine.lower x = .ok c ∧ e.compile x = .ok
      (⟨(e.module.declare x.type).1, x.type, Machine.Program.ofCode c x.type e.options.optimize⟩,
        e') := by
  obtain ⟨c, c', p, m', hc, -, hc', -, hp, -, hgen⟩ :=
    Machine.Backend.generate_ok Machine.backend_lawful e.options.optimize hx hm
  -- the stand-in's program is the emitted code, folded under the optimize flag
  rw [Machine.prepare_backend] at hc'
  cases hc'
  cases hp
  refine ⟨?_, c, hc, ?_⟩
  rotate_left
  unfold Engine.compile
  rw [hgen, Machine.ofCode_prepared]

end Engine

end LiveArith
