import LiveArith.Proofs.Syntax.Edit

/-!
Incremental reparsing. A session parses a text, edits the tree with edits that each describe one
change of the text, and parses the new text with the edited tree, as many times as it likes.
-/

set_option autoImplicit false

namespace LiveArith.Syntax

open LiveArith.Syntax.Parser LiveArith.Syntax.Grammar

/-- Edits that each describe one change, taking `u` to `v` one after another. -/
inductive Edits : ByteArray → List InputEdit → ByteArray → Prop
  | nil (u : ByteArray) : Edits u [] u
  | cons {u w v : ByteArray} {e : InputEdit} {es : List InputEdit} :
      Describes e u w → Edits w es v → Edits u (e :: es) v

/-- The trees a session holds for a text: its fresh parse, or its parse with the tree the
session held for an earlier text, edited by edits that describe how that text became this one. -/
inductive Reparsed (limits : Limits) : ByteArray → Tree → Prop
  | fresh {u : ByteArray} {T : Tree} : parse limits u none = .ok T → Reparsed limits u T
  | reuse {u v : ByteArray} {T T' : Tree} {es : List InputEdit} :
      Reparsed limits u T → Edits u es v → parse limits v (some (es.foldl Tree.edit T)) = .ok T' →
      Reparsed limits v T'

theorem source_length (I : Input) : (source I).length = I.src.size := by
  rw [source]
  dsimp only
  split <;> rfl

theorem parse_some_eq {limits : Limits} {u : ByteArray} {T : Tree} (hu : u.size ≤ limits.maxInput) :
    parse limits u (some T) =
      .ok (source ⟨u, if T.length == u.size then T.reusable else {}, limits.maxDepth⟩) := by
  rw [parse, if_neg (Nat.not_lt.2 hu)]

theorem offers_source {I : Input} (hR : Faithful I.src I.reuse) : Offers I.src (source I) := by
  obtain ⟨root, hroot, hall, h0, hs⟩ := source_shaped I.src I.maxDepth
  intro r hr
  rw [source_agree hR, hroot] at hr
  cases hr
  exact ⟨source_length I, placed_of_fine hall (by omega) (by omega)⟩

theorem parse_offers {limits : Limits} {u : ByteArray} {old : Option Tree} {T : Tree}
    (hold : ∀ t, old = some t → Offers u t) (h : parse limits u old = .ok T) : Offers u T := by
  unfold parse at h
  split at h
  · cases h
  · cases h
    apply offers_source
    -- the index the parse reads: the old tree's operands when it has the text's length
    cases old with
    | none => exact faithful_empty
    | some t =>
      dsimp only
      split
      · exact (hold t rfl).faithful
      · exact faithful_empty

theorem Offers.source_root {v : ByteArray} {T : Tree} (hT : Offers v T) (D : Nat) :
    (source ⟨v, if T.length == v.size then T.reusable else {}, D⟩).root =
      (source (.ofText v D)).root := by
  apply source_agree
  split
  · exact hT.faithful
  · exact faithful_empty

theorem Edits.offers {u v : ByteArray} {es : List InputEdit} (h : Edits u es v) {T : Tree}
    (hT : Offers u T) : Offers v (es.foldl Tree.edit T) := by
  induction h generalizing T with
  | nil => exact hT
  | cons hd _ ih => exact ih (hd.offers_edit hT)

theorem Reparsed.offers {limits : Limits} {u : ByteArray} {T : Tree} (h : Reparsed limits u T) :
    Offers u T := by
  induction h with
  | fresh hp => exact parse_offers (fun t ht => by cases ht) hp
  | reuse _ hes hp ih =>
    refine parse_offers (fun t ht => ?_) hp
    cases ht
    exact hes.offers ih

/-- Incremental reparsing is fresh parsing: after any history of parses and edits that describe
the changes, the parse of a text within the limits with the edited tree has the root of the
fresh parse, no node of it is marked changed, and under the default limits its S-expression is
that of the text. -/
theorem reparse_matches_fresh {limits : Limits} {u v : ByteArray} {T : Tree}
    {es : List InputEdit} (hT : Reparsed limits u T) (hes : Edits u es v)
    (hv : v.size ≤ limits.maxInput) :
    ∃ T' root, parse limits v (some (es.foldl Tree.edit T)) = .ok T' ∧ T'.root = some root ∧
      (parse limits v none).map Tree.root = .ok (some root) ∧
      Node.All (fun n => n.changed = false) root ∧
      (limits = {} → Node.sexpOf T'.root = sexpOfText v) := by
  have hoff := hes.offers hT.offers
  obtain ⟨root, hroot, hall, -, -⟩ := source_shaped v limits.maxDepth
  have hfresh : parse limits v none = .ok (source (.ofText v limits.maxDepth)) := parse_none hv
  have hr := (Offers.source_root hoff limits.maxDepth).trans hroot
  refine ⟨_, root, parse_some_eq hv, hr, by simp [hfresh, Except.map, hroot],
    hall.imp fun n hn => hn.unchanged, ?_⟩
  rintro rfl
  rw [sexpOfText, hfresh, hr]
  simp [hroot]

/-- A session that parses "(1)+2" and retypes its last operand as "34". -/
theorem reparse_matches_fresh_retyped :
    Reparsed {} (.mk #[40, 49, 41, 43, 50]) (source (.ofText (.mk #[40, 49, 41, 43, 50]) 512)) ∧
      Edits (.mk #[40, 49, 41, 43, 50]) [⟨4, 5, 6⟩] (.mk #[40, 49, 41, 43, 51, 52]) ∧
      (ByteArray.mk #[40, 49, 41, 43, 51, 52]).size ≤ ({} : Limits).maxInput ∧
      ∃ T' root, parse {} (.mk #[40, 49, 41, 43, 51, 52]) (some ([⟨4, 5, 6⟩].foldl Tree.edit
          (source (.ofText (.mk #[40, 49, 41, 43, 50]) 512)))) = .ok T' ∧ T'.root = some root ∧
        (parse {} (.mk #[40, 49, 41, 43, 51, 52]) none).map Tree.root = .ok (some root) ∧
        Node.All (fun n => n.changed = false) root ∧
        (({} : Limits) = {} → Node.sexpOf T'.root = sexpOfText (.mk #[40, 49, 41, 43, 51, 52])) := by
  have hT : Reparsed {} (.mk #[40, 49, 41, 43, 50])
      (source (.ofText (.mk #[40, 49, 41, 43, 50]) 512)) := .fresh (parse_none (by decide))
  have hd : Describes ⟨4, 5, 6⟩ (.mk #[40, 49, 41, 43, 50]) (.mk #[40, 49, 41, 43, 51, 52]) :=
    ⟨by decide, by decide, by decide, by decide, by decide, rfl, rfl, by decide, by decide⟩
  have hes := Edits.cons hd (.nil _)
  exact ⟨hT, hes, by decide, reparse_matches_fresh hT hes (by decide)⟩

theorem source_nested_paren {D : Nat} (hD : 2 ≤ D) :
    (source (.ofText (.mk #[40, 40, 49, 41, 41, 32]) D)).root =
      some ((Node.leaf .source 0 6).push .none
        ((Term.paren 0 (.paren 1 (.lit false 2 3) 3) 4).node (.mk #[40, 40, 49, 41, 41, 32]))) := by
  have hdigit : Run Parser.isDigit (.mk #[40, 40, 49, 41, 41, 32]) 2 3 :=
    ⟨by decide, by decide, fun k hk hk' => by obtain rfl : k = 2 := (by omega); decide⟩
  have hblank : Run Node.blank (.mk #[40, 40, 49, 41, 41, 32]) 5 6 :=
    ⟨by decide, by decide, fun k hk hk' => by obtain rfl : k = 5 := (by omega); decide⟩
  have hinner : Derives (.mk #[40, 40, 49, 41, 41, 32]) (.paren 1 (.lit false 2 3) 3) :=
    .paren (by decide) (Run.refl (by decide)) (.lit (.whole (.inl rfl) hdigit (by decide)))
      (Run.refl (by decide)) (by decide)
  exact source_spells ⟨.paren (by decide) (Run.refl (by decide)) hinner (Run.refl (by decide))
    (by decide), Run.refl (by decide), hblank, by simp [Term.depth]; omega⟩ trivial

theorem source_nested_paren_depth_one :
    (source (.ofText (.mk #[40, 40, 49, 41, 41, 32]) 1)).root =
      some ((Node.leaf .source 0 6).push .none (wrap (.ofText (.mk #[40, 40, 49, 41, 41, 32]) 1)
        (parenNode 0 (Node.leaf .error 1 5) (Node.absent .punctuation 41 5)))) := by
  have hnone : ∀ j : Nat, (Input.ofText (.mk #[40, 40, 49, 41, 41, 32]) 1).reuse.get? (j : Int) =
      none := fun j => by simp [Input.ofText]
  have h0 : skipBlank (.ofText (.mk #[40, 40, 49, 41, 41, 32]) 1) 0 = 0 :=
    skipBlank_of_run _ (Run.refl (by decide)) (by decide)
  have h1 : skipBlank (.ofText (.mk #[40, 40, 49, 41, 41, 32]) 1) 1 = 1 :=
    skipBlank_of_run _ (Run.refl (by decide)) (by decide)
  have h6 : skipBlank (.ofText (.mk #[40, 40, 49, 41, 41, 32]) 1) 6 = 6 :=
    skipBlank_of_run _ (Run.refl (by decide)) (by decide)
  -- the inner parenthesis opens at depth one, past the limit
  have hin : (operand (.ofText (.mk #[40, 40, 49, 41, 41, 32]) 1) 1 1 0).result =
      (some (Node.leaf .error 1 5), 6) := by
    rw [operand_fresh _ (hnone _), fresh_paren _ _ (by rw [h1]; decide) (by rw [h1]; decide), h1,
      parenthesized_deep _ (by decide)]
    rfl
  have hine : (expression (.ofText (.mk #[40, 40, 49, 41, 41, 32]) 1) 1 1 1 0).result =
      (some (Node.leaf .error 1 5), 6) := by
    have hn := congrArg Prod.fst hin
    have hp := congrArg Prod.snd hin
    simp only [Parsed.result] at hn hp
    rw [expression_some _ hn, hp, climb_stop _ h6 rfl (.inr (.inr (by decide)))]
  -- the outer parenthesis finds no closing one after the error
  have hpar : (parenthesized (.ofText (.mk #[40, 40, 49, 41, 41, 32]) 1) 0 0 0).result =
      (some (wrap (.ofText (.mk #[40, 40, 49, 41, 41, 32]) 1)
        (parenNode 0 (Node.leaf .error 1 5) (Node.absent .punctuation 41 5))), 6) := by
    have hn := congrArg Prod.fst hine
    have hp := congrArg Prod.snd hine
    simp only [Parsed.result] at hn hp
    rw [parenthesized_inner _ (by decide) (by decide) (by rw [h1]; decide)]
    -- the cursor is an index of the inner parse's type, so it is rewritten everywhere at once
    rw [show (0 : Nat) + 1 = 1 from rfl, h1]
    simp only [hn, hp, h6, Option.getD_some]
    rw [if_neg (by decide)]
    rfl
  have hexp : (expression (.ofText (.mk #[40, 40, 49, 41, 41, 32]) 1) 1 0 0 0).result =
      (some (wrap (.ofText (.mk #[40, 40, 49, 41, 41, 32]) 1)
        (parenNode 0 (Node.leaf .error 1 5) (Node.absent .punctuation 41 5))), 6) := by
    have hop := (operand_fresh _ (hnone _)).trans
      ((fresh_paren _ _ (by rw [h0]; decide) (by rw [h0]; decide)).trans (by rw [h0, hpar]))
    have hn := congrArg Prod.fst hop
    have hp := congrArg Prod.snd hop
    simp only [Parsed.result] at hn hp
    rw [expression_some _ hn, hp, climb_stop _ h6 rfl (.inr (.inr (by decide)))]
  have hn := congrArg Prod.fst hexp
  have hp := congrArg Prod.snd hexp
  simp only [Parsed.result] at hn hp
  rw [source]
  dsimp only
  rw [h0, if_neg (by decide)]
  simp only [hn, hp, h6]
  rw [if_neg (by decide)]
  rfl

/-- Under a depth limit of one, a session that parses "((1))" and types a blank after it reparses
"((1)) " to an S-expression other than that of the text under the default limits. -/
theorem reparse_sexp_depends_on_limits :
    ∃ T T', parse { maxDepth := 1 } (.mk #[40, 40, 49, 41, 41]) none = .ok T ∧
      parse { maxDepth := 1 } (.mk #[40, 40, 49, 41, 41, 32]) (some (T.edit ⟨5, 5, 6⟩)) = .ok T' ∧
      Node.sexpOf T'.root ≠ sexpOfText (.mk #[40, 40, 49, 41, 41, 32]) := by
  have hd : Describes ⟨5, 5, 6⟩ (.mk #[40, 40, 49, 41, 41]) (.mk #[40, 40, 49, 41, 41, 32]) :=
    ⟨by decide, by decide, by decide, by decide, by decide, rfl, rfl, by decide, by decide⟩
  have hoff := hd.offers_edit
    (offers_source (I := .ofText (.mk #[40, 40, 49, 41, 41]) 1) faithful_empty)
  refine ⟨_, _, parse_none (by decide), parse_some_eq (by decide), ?_⟩
  rw [Offers.source_root hoff, sexpOfText, parse_none (by decide)]
  dsimp only
  rw [source_nested_paren_depth_one, source_nested_paren (by decide)]
  -- the missing parenthesis is printed quoted, which is the one step that needs unfolding
  have hq : Quote.text ")" = "\")\"" := by
    rw [Quote.text, Quote.bytes, Quote.escapeFrom, if_pos (by decide),
      show Utf8.decodeAt ")".toUTF8 0 = some (')', 0) by decide]
    dsimp only
    rw [Quote.escapeFrom, if_neg (by decide), show Quote.escapeChar ')' = ")" by decide +kernel]
    decide
  have hone : Node.sexp ((Node.leaf .source 0 6).push .none
      (wrap (.ofText (.mk #[40, 40, 49, 41, 41, 32]) 1)
        (parenNode 0 (Node.leaf .error 1 5) (Node.absent .punctuation 41 5)))) =
      "(source (expression (parenthesized_expression inner: (ERROR) (MISSING \")\"))))" := by
    simp [Node.sexp, Node.sexpChildren, Node.push, Node.leaf, wrap, stamp, parenNode, Node.token,
      Node.absent, Node.hasError, hq, Kind.name, Kind.named, Kind.code]
    decide
  have hdef : Node.sexp ((Node.leaf .source 0 6).push .none
      ((Term.paren 0 (.paren 1 (.lit false 2 3) 3) 4).node (.mk #[40, 40, 49, 41, 41, 32]))) =
      "(source (expression (parenthesized_expression inner: (expression " ++
        "(parenthesized_expression inner: (expression (number)))))))" := by
    decide
  simp only [Node.sexpOf, hone, hdef]
  decide

end LiveArith.Syntax
