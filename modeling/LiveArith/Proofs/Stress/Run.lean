import LiveArith.Proofs.Stress.Generator

/-!
One expression of a stress run.
-/

set_option autoImplicit false

namespace LiveArith

open LiveArith.Random Syntax Grammar

namespace Syntax.Grammar

open Session Engine

variable {str : String} {D : Nat}

theorem Phrase.length_pos (h : Phrase str.toList D) : 0 < str.length := by
  obtain ⟨t, hd, h0, h1, -, -⟩ := h.2 _ 0 (shows_toUTF8 str h.1)
  have hlt := hd.start_lt_stop
  rw [String.length_toList] at h1
  omega

theorem Phrase.evaluates (h : Phrase str.toList D) {o : Options} {e : Engine} {ss : List Session}
    {s : Session} (hr : Reachable o e ss) (hs : s ∈ ss) (hn : str.toUTF8.size < 2 ^ 63)
    (hsize : (str.toUTF8.size : Int) ≤ o.maxInput) (hdepth : (D : Int) ≤ o.maxDepth) :
    ∃ v, (s.eval e str.toUTF8 false).1 = .ok v := by
  obtain ⟨hg, hss⟩ := hr.invariant
  have hv := size_le_limits hsize
  obtain ⟨t, x, -, -, hroot, hb⟩ := h.parses o.limits hv (depth_le_limits hdepth)
  have hc : Check.tree (Parser.source (.ofText str.toUTF8 o.limits.maxDepth)).root str.toUTF8 =
      none := by
    rw [hroot]
    exact Check.tree_eq_none (by simp)
  -- the engine runs the expression's own program, whatever it cached before
  obtain ⟨v, hev⟩ := evaluate_built hb o
  exact ⟨v, (update_of_fresh hg (hss s hs) hn _ hv hc hb).2 v (hev e x.hash hg).1⟩

end Syntax.Grammar

namespace Stress

theorem key_text (s : Session) (e : Engine) (prev next : String) (t : Tally) :
    (key s e prev next t).1.2.1.text = next.toUTF8 := by
  simp only [key]
  exact (Session.update_shape s e next.toUTF8 (Edit.diff prev.toUTF8 next.toUTF8)).1

theorem typePrefixes_done {typos : Float} {text : List Char} {i : Nat} (h : text.length < i)
    (fuel : Nat) (prev : String) (out : Except Diagnostic Value) (s : Session) (e : Engine)
    (p : Pcg) (t : Tally) : (typePrefixes typos text fuel i prev out s e p t).2.1 = s := by
  cases fuel with
  | zero => rfl
  | succ fuel => rw [typePrefixes, if_pos h]

theorem typePrefixes_text {typos : Float} {text : List Char} (fuel i : Nat)
    (hi : i ≤ text.length) (hfuel : text.length < fuel + i) (prev : String)
    (out : Except Diagnostic Value) (s : Session) (e : Engine) (p : Pcg) (t : Tally) :
    (typePrefixes typos text fuel i prev out s e p t).2.1.text = (String.ofList text).toUTF8 := by
  -- on the fuel; the key of the last prefix sets the text, and nothing is typed after it
  induction fuel generalizing i prev out s e p t with
  | zero => omega
  | succ fuel ih =>
    rw [typePrefixes, if_neg (by omega)]
    dsimp only
    by_cases hlast : i = text.length
    · rw [typePrefixes_done (by omega), key_text, hlast, List.take_length]
    · exact ih (i + 1) (by omega) (by omega) _ _ _ _ _ _

theorem one_session_text (cfg : Settings) (r : Run) :
    (one cfg r).session.text =
      (expression (max cfg.terms 1).toNat cfg.depth.toNat r.rng).1.toUTF8 := by
  -- a phrase is never empty, so at least one prefix is typed
  have hpos := (expression_phrase (max cfg.terms 1).toNat cfg.depth.toNat r.rng).length_pos
  unfold one
  dsimp only
  rw [typePrefixes_text _ _ (by rw [String.length_toList]; omega)
    (by rw [String.length_toList]; omega), String.ofList_toList]

open Session Engine

/-- **A generated expression is valid, evaluates, and is what gets typed.** In one step of a
stress run, whatever the settings (the depth, the most operands, the typo rate) and the
generator's state: the text drawn spells a term nested at most `depth` deep whose tokens
building accepts; within a parser's limits it parses to a tree with no ERROR or MISSING node
and at most `depth` parentheses on any path, which builds to an expression of the four
operators; within the engine's limits every calculator reachable from a new engine evaluates
it to a value; and typing it key by key, typos and all, leaves the session holding it. -/
theorem generated_expression_valid (cfg : Settings) (r : Run) :
    let depth := cfg.depth.toNat
    let text := (expression (max cfg.terms 1).toNat depth r.rng).1
    (∃ t, Spells text.toUTF8 depth t ∧ ∀ k ∈ t.tokens, ¬k.Rejected text.toUTF8) ∧
    (∀ limits : Limits, text.toUTF8.size ≤ limits.maxInput → depth ≤ limits.maxDepth →
      ∃ T root x, parse limits text.toUTF8 none = .ok T ∧ T.root = some root ∧
        root.clean = true ∧ root.parens ≤ depth ∧
        Build.tree T.root text.toUTF8 = .ok x ∧ x.Compilable) ∧
    (∀ (o : Options) (e : Engine) (ss : List Session) (s : Session), Reachable o e ss → s ∈ ss →
      text.toUTF8.size < 2 ^ 63 → (text.toUTF8.size : Int) ≤ o.maxInput →
      (depth : Int) ≤ o.maxDepth → ∃ v, (s.eval e text.toUTF8 false).1 = .ok v) ∧
    (one cfg r).session.text = text.toUTF8 := by
  intro depth text
  have hphrase := expression_phrase (max cfg.terms 1).toNat depth r.rng
  refine ⟨hphrase.spells, fun limits hsize hdepth => ?_,
    fun o e ss s hr hs hn hsize hdepth => hphrase.evaluates hr hs hn hsize hdepth,
    one_session_text cfg r⟩
  obtain ⟨T, root, x, hp, hroot, hclean, hparens, hb⟩ :=
    expression_parses (max cfg.terms 1).toNat depth r.rng limits hsize hdepth
  exact ⟨T, root, x, hp, hroot, hclean, hparens, hb, Build.tree_compilable hb⟩

theorem length_joinOperands {operand : Pcg → String × Pcg} (h : ∀ p, 0 < (operand p).1.length)
    (k : Nat) (first : Bool) (p : Pcg) : k ≤ (joinOperands operand k first p).1.length := by
  fun_induction joinOperands operand k first p with
  | case1 => exact Nat.zero_le _
  | case2 k first p sep x rest ih =>
    -- the operand after the separator has a character, and the rest one for each operand left
    have hx : 0 < x.1.length := h sep.2
    have hr : k ≤ rest.1.length := ih
    rw [String.length_append, String.length_append]
    omega

/-- A generated expression need not fit the parser's limit: with room for 2^22 operands, the
first draw from the state `⟨0, 0⟩` asks for 2351243 of them, a text of more than a million bytes,
which the parser with the default limits refuses without a tree. -/
theorem generated_expression_too_long :
    ({} : Limits).maxInput < (expression 4194304 0 ⟨0, 0⟩).1.toUTF8.size ∧
      ∃ f, parse {} (expression 4194304 0 ⟨0, 0⟩).1.toUTF8 none = .error f := by
  have hn : (Pcg.intN ⟨0, 0⟩ 4194304).1 = 2351242 := by decide +kernel
  have hlen : 2351243 ≤ (expression 4194304 0 ⟨0, 0⟩).1.length := by
    rw [expression, hn]
    exact length_joinOperands (fun p => (literal_phrase p).length_pos) _ _ _
  have hsize := size_toUTF8_ascii (expression_phrase 4194304 0 ⟨0, 0⟩).1
  have hbig : ({} : Limits).maxInput < (expression 4194304 0 ⟨0, 0⟩).1.toUTF8.size := by
    rw [hsize]
    exact Nat.lt_of_lt_of_le (by decide) hlen
  exact ⟨hbig, _, parse_tooLarge (Nat.not_le.2 hbig)⟩

/-- A new engine with the default options and one calculator, and the default settings (three
levels, five operands) from the generator's state `⟨0, 42⟩`, which draws an expression nested
three levels deep. -/
theorem generated_expression_valid_nested :
    ∃ e₀, Engine.create {} = .ok e₀ ∧
      let cfg : Settings := {}
      let r : Run := { session := (Session.start e₀).1, check := (Session.start e₀).1,
                       engine := (Session.start e₀).2, reference := (Session.start e₀).2,
                       rng := ⟨0, 42⟩ }
      let text := (expression (max cfg.terms 1).toNat cfg.depth.toNat r.rng).1
      text = "(-11 + (46 - (-9 / -50) * 37))" ∧
      (text.toUTF8.size ≤ ({} : Limits).maxInput ∧ cfg.depth.toNat ≤ ({} : Limits).maxDepth ∧
        ∃ T root x, parse {} text.toUTF8 none = .ok T ∧ T.root = some root ∧
          root.clean = true ∧ root.parens ≤ cfg.depth.toNat ∧
          Build.tree T.root text.toUTF8 = .ok x ∧ x.Compilable) ∧
      (Reachable {} r.engine [r.session] ∧ r.session ∈ [r.session] ∧
        text.toUTF8.size < 2 ^ 63 ∧ (text.toUTF8.size : Int) ≤ ({} : Options).maxInput ∧
        (cfg.depth.toNat : Int) ≤ ({} : Options).maxDepth ∧
        ∃ v, (r.session.eval r.engine text.toUTF8 false).1 = .ok v) ∧
      (one cfg r).session.text = text.toUTF8 := by
  refine ⟨_, rfl, ?_⟩
  intro cfg r text
  -- the draws from the state `⟨0, 42⟩` nest three levels of parentheses
  have htext : text = "(-11 + (46 - (-9 / -50) * 37))" := by decide +kernel
  obtain ⟨-, hparse, heval, htyped⟩ := generated_expression_valid cfg r
  have hsize : text.toUTF8.size = 30 := by rw [htext]; rfl
  have hr : Reachable {} r.engine [r.session] := .start (.create rfl)
  refine ⟨htext, ⟨by rw [hsize]; decide, by decide, hparse {} (by rw [hsize]; decide) (by decide)⟩,
    ⟨hr, List.mem_singleton_self _, by rw [hsize]; decide, by rw [hsize]; decide, by decide,
      heval {} _ _ _ hr (List.mem_singleton_self _) (by rw [hsize]; decide) (by rw [hsize]; decide)
        (by decide)⟩, htyped⟩

end Stress

end LiveArith
