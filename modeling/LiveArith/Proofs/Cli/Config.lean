import LiveArith.Cli.Config

/-!
The order in which a configuration document is visited. A decoded document keeps its mappings as
unordered maps, and flattening visits each mapping's entries in whatever order iteration gives,
storing every leaf under its flag name so that the leaf visited last wins.
-/

set_option autoImplicit false

namespace LiveArith

namespace Yaml

/-- `n'` is the document `n` with the entries of its mappings, at any depth, in another order.
Sequences keep their order. -/
inductive Node.Reorders : Node → Node → Prop
  | refl (n : Node) : Node.Reorders n n
  | perm {es es' : List (String × Node)} : es.Perm es' → Node.Reorders (.map es) (.map es')
  | inside (a b : List (String × Node)) (k : String) {v v' : Node} :
      Node.Reorders v v' → Node.Reorders (.map (a ++ (k, v) :: b)) (.map (a ++ (k, v') :: b))
  | trans {n₁ n₂ n₃ : Node} : Node.Reorders n₁ n₂ → Node.Reorders n₂ n₃ → Node.Reorders n₁ n₃

theorem Node.Reorders.map_right {es : List (String × Node)} {n' : Node}
    (h : (Node.map es).Reorders n') : ∃ es', n' = .map es' := by
  generalize hn : Node.map es = n at h
  induction h generalizing es with
  | refl => exact ⟨es, hn.symm⟩
  | perm => exact ⟨_, rfl⟩
  | inside => exact ⟨_, rfl⟩
  | trans _ _ ih₁ ih₂ =>
    obtain ⟨es₂, rfl⟩ := ih₁ hn
    exact ih₂ rfl

@[elab_as_elim]
theorem Node.mapInduction {motive : Node → Prop}
    (map : ∀ es, (∀ e ∈ es, motive e.2) → motive (.map es))
    (leaf : ∀ n, (∀ es, n ≠ .map es) → motive n) (n : Node) : motive n :=
  match n with
  | .map es => map es fun e _ => Node.mapInduction map leaf e.2
  | .null => leaf _ fun _ h => Node.noConfusion h
  | .bool _ => leaf _ fun _ h => Node.noConfusion h
  | .int _ => leaf _ fun _ h => Node.noConfusion h
  | .float _ => leaf _ fun _ h => Node.noConfusion h
  | .str _ => leaf _ fun _ h => Node.noConfusion h
  | .seq _ => leaf _ fun _ h => Node.noConfusion h
termination_by sizeOf n
decreasing_by
  have := List.sizeOf_lt_of_mem ‹e ∈ es›
  have : sizeOf e.2 < sizeOf e := by cases e; simp only [Prod.mk.sizeOf_spec]; omega
  simp only [Node.map.sizeOf_spec]
  omega

end Yaml

namespace Cli

open Yaml

variable {pre key name : String} {es : List (String × Node)} {g : Given}

theorem flatten_eq_flatMap (pre : String) (es : List (String × Node)) :
    flatten pre es = es.flatMap fun e => flattenOne (flagKey pre e.1) e.2 := by
  induction es with
  | nil => rfl
  | cons e es ih => rw [List.flatMap_cons, ← ih]; rfl

theorem flatten_nil (pre : String) : flatten pre [] = [] := rfl

theorem flatten_cons (pre k : String) (v : Node) (es : List (String × Node)) :
    flatten pre ((k, v) :: es) = flattenOne (flagKey pre k) v ++ flatten pre es := rfl

theorem flattenOne_map (key : String) (es : List (String × Node)) :
    flattenOne key (.map es) = flatten key es := rfl

theorem flattenOne_leaf {n : Node} (h : ∀ es, n ≠ .map es) :
    flattenOne key n = (given? n).toList.map (key, ·) := by
  cases n with
  | map es => exact absurd rfl (h es)
  | _ => rfl

theorem flatten_append (pre : String) (a b : List (String × Node)) :
    flatten pre (a ++ b) = flatten pre a ++ flatten pre b := by
  simp only [flatten_eq_flatMap, List.flatMap_append]

theorem mem_flatten :
    (name, g) ∈ flatten pre es ↔ ∃ e ∈ es, (name, g) ∈ flattenOne (flagKey pre e.1) e.2 := by
  rw [flatten_eq_flatMap, List.mem_flatMap]

theorem flatten_perm {n n' : Node} (h : n.Reorders n') (key : String) :
    (flattenOne key n).Perm (flattenOne key n') := by
  induction h generalizing key with
  | refl => exact .refl _
  | perm hp =>
    simp only [flattenOne_map, flatten_eq_flatMap]
    exact hp.flatMap_right _
  | inside a b k _ ih =>
    simp only [flattenOne_map, flatten_append, flatten_cons]
    exact ((ih _).append_right _).append_left _
  | trans _ _ ih₁ ih₂ => exact (ih₁ key).trans (ih₂ key)

theorem exists_reorder_last {n : Node} (h : (name, g) ∈ flattenOne key n) :
    ∃ n', n.Reorders n' ∧ ∃ l, flattenOne key n' = l ++ [(name, g)] := by
  induction n using Node.mapInduction generalizing key with
  | map es ih =>
    obtain ⟨⟨k, v⟩, he, hv⟩ := mem_flatten.1 (by rwa [flattenOne_map] at h)
    obtain ⟨v', hr, l, hl⟩ := ih (k, v) he hv
    dsimp only at hr hl
    obtain ⟨a, b, rfl⟩ := List.append_of_mem he
    refine ⟨.map (a ++ b ++ [(k, v')]), ?_, flatten key (a ++ b) ++ l, ?_⟩
    · -- reorder inside the entry, then move it to the end
      refine (Node.Reorders.inside a b k hr).trans (.perm ?_)
      exact List.perm_middle.trans (List.perm_append_singleton _ _).symm
    · simp only [flattenOne_map, flatten_append, flatten_cons, flatten_nil, hl, List.append_nil,
        List.append_assoc]
  | leaf n hn =>
    obtain ⟨hg, rfl⟩ : given? n = some g ∧ key = name := by simpa [flattenOne_leaf hn] using h
    exact ⟨n, .refl n, [], by rw [flattenOne_leaf hn, hg]; rfl⟩

section Lookup

variable {α β : Type} [BEq α] [LawfulBEq α] {l l' : List (α × β)} {k : α} {v : β}

theorem mem_of_lookup_eq_some (h : l.lookup k = some v) : (k, v) ∈ l := by
  obtain ⟨l₁, l₂, rfl, -⟩ := List.lookup_eq_some_iff.1 h
  simp

theorem lookup_eq_of_agree (hk : (k, v) ∈ l) (agree : ∀ w, (k, w) ∈ l → w = v) :
    l.lookup k = some v := by
  have hsome : (l.lookup k).isSome := List.lookup_isSome_iff.2 ⟨(k, v), hk, by simp⟩
  obtain ⟨w, hw⟩ := Option.isSome_iff_exists.1 hsome
  rw [hw, agree w (mem_of_lookup_eq_some hw)]

-- lists of the same entries look a key up alike when all the entries of that key agree
theorem lookup_eq_of_perm (hp : l.Perm l') (agree : ∀ w w', (k, w) ∈ l → (k, w') ∈ l → w = w') :
    l.lookup k = l'.lookup k := by
  by_cases hk : ∃ v, (k, v) ∈ l
  · obtain ⟨v, hv⟩ := hk
    rw [lookup_eq_of_agree hv fun w hw => agree w v hw hv,
      lookup_eq_of_agree (hp.mem_iff.1 hv) fun w hw => agree w v (hp.mem_iff.2 hw) hv]
  · have hnone : ∀ m : List (α × β), (∀ p ∈ m, p ∈ l) → m.lookup k = none := by
      intro m hm
      rw [List.lookup_eq_none_iff]
      intro p hp'
      have := hm p hp'
      refine bne_iff_ne.2 fun he => hk ⟨p.2, ?_⟩
      rwa [he]
    rw [hnone l fun _ => id, hnone l' fun p hp' => hp.mem_iff.2 hp']

end Lookup

/-- The flattened configuration sets each flag to the same value for every order in which the
mappings' entries are visited exactly when all leaves named for that flag carry one value; the
flags it sets, with all the values they are given, are the same for every order. -/
theorem config_value_order_free_iff (es : List (String × Node)) (name : String) :
    (∀ es', (Node.map es).Reorders (.map es') → (flatten "" es').Perm (flatten "" es)) ∧
    ((∀ es', (Node.map es).Reorders (.map es') →
        (flatten "" es').reverse.lookup name = (flatten "" es).reverse.lookup name) ↔
      ∀ g g', (name, g) ∈ flatten "" es → (name, g') ∈ flatten "" es → g = g') := by
  have hperm : ∀ es', (Node.map es).Reorders (.map es') → (flatten "" es').Perm (flatten "" es) :=
    fun es' h => (flatten_perm h "").symm
  -- the value found when a given leaf is visited last
  have hlast : ∀ g, (name, g) ∈ flatten "" es →
      (∀ es', (Node.map es).Reorders (.map es') →
        (flatten "" es').reverse.lookup name = (flatten "" es).reverse.lookup name) →
      (flatten "" es).reverse.lookup name = some g := by
    intro g hg free
    obtain ⟨n, h, l, hl⟩ : ∃ n', (Node.map es).Reorders n' ∧
        ∃ l, flattenOne "" n' = l ++ [(name, g)] := exists_reorder_last hg
    obtain ⟨es', rfl⟩ := h.map_right
    rw [← free es' h, show flatten "" es' = l ++ [(name, g)] from hl]
    simp
  refine ⟨hperm, ⟨fun free g g' hg hg' => ?_, fun agree es' h => ?_⟩⟩
  · exact Option.some.inj ((hlast g hg free).symm.trans (hlast g' hg' free))
  · have hp := (List.reverse_perm _).trans ((hperm es' h).trans (List.reverse_perm _).symm)
    refine lookup_eq_of_perm hp fun w w' hw hw' => agree w w' ?_ ?_
    · exact (hperm es' h).mem_iff.1 (List.mem_reverse.1 hw)
    · exact (hperm es' h).mem_iff.1 (List.mem_reverse.1 hw')

-- the two spellings of one flag in one mapping: whichever is visited last wins
example :
    (flatten "" [("log", .map [("time_layout", .str "x"), ("time-layout", .str "y")])]).reverse.lookup
      "log-time-layout" = some (.text "y") ∧
    (flatten "" [("log", .map [("time-layout", .str "y"), ("time_layout", .str "x")])]).reverse.lookup
      "log-time-layout" = some (.text "x") :=
  ⟨rfl, rfl⟩

end Cli

end LiveArith
