import LiveArith.Prompt.Model
import LiveArith.Proofs.Prompt.Field
import LiveArith.Proofs.Session.OneShot
import Mathlib.Data.List.TakeWhile

/-!
Every state the prompt reaches from its start, by keys, resizes and any other message, holds
together. The history position lies within the history.
-/

set_option autoImplicit false

namespace LiveArith.Prompt

open Session Engine

theorem ok_of_map {ε α β : Type} {f : α → β} {x : Except ε α} {b : β} (h : x.map f = .ok b) :
    ∃ a, x = .ok a ∧ f a = b := by
  cases x with
  | error e => cases h
  | ok a => exact ⟨a, rfl, by cases h; rfl⟩

theorem error_map_iff {ε α β : Type} {f : α → β} {x : Except ε α} :
    (∃ e, x.map f = .error e) ↔ ∃ e, x = .error e := by
  cases x <;> simp [Except.map]

theorem utf8ByteSize_ofList_le (cs : List Char) :
    (String.ofList cs).utf8ByteSize ≤ 4 * cs.length := by
  induction cs with
  | nil => simp
  | cons c cs ih =>
    rw [String.ofList_cons, String.utf8ByteSize_append, String.utf8ByteSize_singleton,
      List.length_cons]
    have := c.utf8Size_le_four
    omega

theorem Field.Kept.short {f : Field} (h : f.Kept) : f.text.toUTF8.size < 2 ^ 63 := by
  have hb := utf8ByteSize_ofList_le f.chars
  have hf : f.chars.length ≤ 4096 := h.fits
  rw [String.toUTF8_eq_toByteArray, String.size_toByteArray]
  exact Nat.lt_of_le_of_lt (Nat.le_trans hb (Nat.mul_le_mul_left 4 hf)) (by decide)

def Opens (cs : List Char) (k : Nat) : Prop :=
  ∃ bs rest, cs = bs ++ ':' :: rest ∧ (∀ c ∈ bs, c = ' ' ∨ c = '\t') ∧ k = bs.length + 1

theorem isCommand_iff {cs : List Char} : isCommand (String.ofList cs) = true ↔ ∃ k, Opens cs k := by
  unfold isCommand
  rw [String.toList_ofList]
  constructor
  · intro h
    -- the blanks are what the scan skips, and the colon is where it stops
    cases hd : cs.dropWhile (fun c => c == ' ' || c == '\t') with
    | nil => simp [hd] at h
    | cons x rest =>
      have hx : x = ':' := by simpa [hd] using h
      subst hx
      refine ⟨_, cs.takeWhile (fun c => c == ' ' || c == '\t'), rest, ?_, fun c hc => ?_, rfl⟩
      · rw [← hd, List.takeWhile_append_dropWhile]
      · simpa using List.mem_takeWhile_imp hc
  · rintro ⟨k, bs, rest, rfl, hbs, -⟩
    rw [List.dropWhile_append_of_pos fun a ha => by rcases hbs a ha with rfl | rfl <;> rfl]
    rfl

namespace Opens

variable {cs : List Char} {k : Nat}

theorem isCommand (h : Opens cs k) : isCommand (String.ofList cs) = true :=
  isCommand_iff.2 ⟨k, h⟩

theorem le_length (h : Opens cs k) : k ≤ cs.length := by
  obtain ⟨bs, rest, rfl, -, rfl⟩ := h
  simp

theorem take_append (h : Opens cs k) (ys : List Char) : Opens (cs.take k ++ ys) k := by
  obtain ⟨bs, rest, rfl, hbs, rfl⟩ := h
  refine ⟨bs, ys, ?_, hbs, rfl⟩
  rw [List.take_append, List.take_of_length_le (by omega), Nat.add_sub_cancel_left]
  simp

end Opens

theorem commandWord_eq_none {s : String} : commandWord s = none ↔ isCommand s = false := by
  unfold commandWord
  cases isCommand s <;> simp

theorem commandWord_opens {cs : List Char} {w : String} {a b : Nat}
    (h : commandWord (String.ofList cs) = some (w, a, b)) : Opens cs a ∧ a ≤ b ∧ b ≤ cs.length := by
  unfold commandWord at h
  split at h
  · cases h
  · rename_i hc
    obtain ⟨k, bs, rest, hcs, hbs, -⟩ := isCommand_iff.1 (by simpa using hc)
    simp only [String.toList_ofList, Option.some.injEq, Prod.mk.injEq] at h
    obtain ⟨-, ha, hb⟩ := h
    -- the scan for the colon stops after the blanks
    have htake : cs.takeWhile (· != ':') = bs := by
      rw [hcs, List.takeWhile_append_of_pos fun c hc => by rcases hbs c hc with rfl | rfl <;> rfl]
      simp
    rw [htake] at ha hb
    subst ha hb
    refine ⟨⟨bs, rest, hcs, hbs, rfl⟩, Nat.le_add_right _ _, ?_⟩
    -- the word is read from what follows the colon
    have hdrop : cs.drop (bs.length + 1) = rest := by
      rw [hcs]
      simp
    have hword := (List.takeWhile_sublist (l := rest) fun c => c != ' ' && c != '\t').length_le
    have hlen : cs.length = bs.length + 1 + rest.length := by
      rw [hcs]
      simp
      omega
    rw [hdrop]
    omega

theorem mem_insertRanked {x m : Match} {xs : List Match} (h : x ∈ Match.insertRanked m xs) :
    x = m ∨ x ∈ xs := by
  induction xs with
  | nil => exact .inl (List.mem_singleton.1 h)
  | cons y ys ih =>
    unfold Match.insertRanked at h
    split at h
    · exact List.mem_cons.1 h
    · rcases List.mem_cons.1 h with rfl | h
      · exact .inr List.mem_cons_self
      · exact (ih h).imp_right (List.mem_cons_of_mem y)

theorem mem_of_mem_ranked {x : Match} {l acc : List Match}
    (h : x ∈ l.foldl (fun acc m => Match.insertRanked m acc) acc) : x ∈ acc ∨ x ∈ l := by
  induction l generalizing acc with
  | nil => exact .inl h
  | cons y ys ih =>
    rcases ih h with h | h
    · rcases mem_insertRanked h with rfl | h
      · exact .inr List.mem_cons_self
      · exact .inl h
    · exact .inr (List.mem_cons_of_mem y h)

theorem str_find {pat : List Char} {n : String} {i : Nat} {x : Match}
    (h : Match.find pat n i = some x) : x.str = n := by
  unfold Match.find at h
  dsimp only at h
  split at h
  · cases h
    rfl
  · cases h

theorem str_mem_of_rank {p : String} {names : List String} {x : Match} (h : x ∈ rank p names) :
    x.str ∈ names := by
  unfold rank at h
  split at h
  · cases h
  · rcases mem_of_mem_ranked h with h | h
    · cases h
    · obtain ⟨⟨n, i⟩, hn, hf⟩ := List.mem_filterMap.1 h
      rw [str_find hf]
      exact (List.of_mem_zip hn).1

theorem str_mem_of_completions {w : String} {x : Match} (h : x ∈ completions w) :
    x.str ∈ commands.map Command.name := by
  unfold completions at h
  split at h
  · obtain ⟨⟨c, i⟩, hc, rfl⟩ := List.mem_map.1 h
    exact List.mem_map_of_mem (List.of_mem_zip hc).1
  · exact str_mem_of_rank h

theorem plain_of_name : ∀ w ∈ commands.map Command.name, ∀ c ∈ w.toList, Field.Plain c := by
  -- spell the names out, then check each letter
  simp [commands]
  decide

theorem History.lt_size_of_get {h : History} {i : Nat} {line : String} (hg : h.get i = .ok line) :
    i < h.size := by
  unfold History.get at hg
  split at hg
  · cases hg
  · split at hg
    · rename_i hi
      exact (List.getElem?_eq_some_iff.1 hi).1
    · cases hg

namespace Model

variable {m m' : Model}

theorem refresh_of_command {w : String} {a b : Nat} (h : commandWord m.field.text = some (w, a, b)) :
    m.refresh = { m with candidates := completions w, wordStart := a, wordEnd := b } := by
  simp only [refresh, h]

theorem refresh_of_plain (h : commandWord m.field.text = none) :
    m.refresh = if m.field.text = m.text then { m with candidates := [] } else
      { m with candidates := [], text := m.field.text,
               outcome := (m.session.update m.engine m.field.text.toUTF8
                 (Edit.diff m.text.toUTF8 m.field.text.toUTF8) false).1,
               session := (m.session.update m.engine m.field.text.toUTF8
                 (Edit.diff m.text.toUTF8 m.field.text.toUTF8) false).2.1,
               engine := (m.session.update m.engine m.field.text.toUTF8
                 (Edit.diff m.text.toUTF8 m.field.text.toUTF8) false).2.2 } := by
  simp only [refresh, h, beq_iff_eq]

end Model

variable {o : Options} {I : Input} {m m' : Model}

/-- The evaluation side, the field and the history position. -/
structure Base (o : Options) (m : Model) : Prop where
  engine : Good o m.engine
  session : m.session.Sound
  field : m.field.Kept
  browsing : m.historyIdx ≤ m.history.size
  held : m.session.text = m.text.toUTF8
  outcome : m.text ≠ "" → m.outcome = oneShot o m.text.toUTF8

/-- What the line's completion says: the candidates are command names offered only on a
command line; on one, the word's bounds are in order after the opening colon and its end lies
within the line unless the field is full; any other line is the text last evaluated. -/
structure Shown (o : Options) (m : Model) : Prop extends Base o m where
  named : ∀ c ∈ m.candidates, c.str ∈ commands.map Command.name
  completing : m.candidates ≠ [] → isCommand m.field.text = true
  bounds : isCommand m.field.text = true →
    Opens m.field.chars m.wordStart ∧ m.wordStart ≤ m.wordEnd ∧
      (m.wordEnd ≤ m.field.size ∨ m.field.size = 4096)
  evaluated : isCommand m.field.text = false → m.text = m.field.text

/-- While stepping, the chosen candidate is one of them, or there are none. -/
structure Steady (o : Options) (m : Model) : Prop extends Shown o m where
  cycling : m.stepping = true →
    (∃ i, m.chosen = some i ∧ i < m.candidates.length) ∨ m.candidates = []

section

variable {e₀ : Engine} (h₀ : Engine.create o = .ok e₀)
include h₀

theorem Base.refresh (h : Base o m) :
    Shown o m.refresh ∧ m.refresh.stepping = m.stepping ∧ m.refresh.chosen = m.chosen ∧
      (isCommand m.field.text = false → m.refresh.candidates = []) := by
  cases hw : commandWord m.field.text with
  | some r =>
    obtain ⟨w, a, b⟩ := r
    obtain ⟨hopen, hab, hb⟩ := commandWord_opens hw
    rw [Model.refresh_of_command hw]
    refine ⟨⟨{ h with }, fun x hx => str_mem_of_completions hx, fun _ => hopen.isCommand,
      fun _ => ⟨hopen, hab, .inl hb⟩, fun hc => ?_⟩, rfl, rfl, fun hc => ?_⟩
    all_goals
      rw [show isCommand m.field.text = true from hopen.isCommand] at hc
      cases hc
  | none =>
    have hc := commandWord_eq_none.1 hw
    rw [Model.refresh_of_plain hw]
    -- no candidates, and no bounds to keep on a line that is no command
    have hnone : ∀ c : Match, c ∉ ([] : List Match) := fun _ => List.not_mem_nil
    have hfalse : isCommand m.field.text = true → False := fun hc' =>
      Bool.false_ne_true (hc.symm.trans hc')
    split
    · rename_i hsame
      exact ⟨⟨{ h with }, fun c hx => (hnone c hx).elim, fun hne => (hne rfl).elim,
        fun hc' => (hfalse hc').elim, fun _ => hsame.symm⟩, rfl, rfl, fun _ => rfl⟩
    · -- a changed line is evaluated: by the session invariant, as on a fresh calculator
      have hn := h.field.short
      have hout : (m.session.update m.engine m.field.text.toUTF8
          (Edit.diff m.text.toUTF8 m.field.text.toUTF8) false).1 = oneShot o m.field.text.toUTF8 := by
        unfold oneShot
        rw [h₀]
        exact update_outcome_eq h.session (start_sound e₀) h.engine (Good.create h₀).openSession hn _ _
      have hg := h.engine.update m.session m.field.text.toUTF8
        (Edit.diff m.text.toUTF8 m.field.text.toUTF8) false
      have hs := h.session.update hn m.engine (Edit.diff m.text.toUTF8 m.field.text.toUTF8) false
      have ht := (update_shape m.session m.engine m.field.text.toUTF8
        (Edit.diff m.text.toUTF8 m.field.text.toUTF8)).1
      generalize m.session.update m.engine m.field.text.toUTF8
        (Edit.diff m.text.toUTF8 m.field.text.toUTF8) false = r at hout hg hs ht ⊢
      exact ⟨⟨⟨hg, hs, h.field, h.browsing, ht, fun _ => hout⟩, fun c hx => (hnone c hx).elim,
        fun hne => (hne rfl).elim, fun hc' => (hfalse hc').elim, fun _ => rfl⟩, rfl, rfl, fun _ => rfl⟩

theorem Base.refresh_steady (h : Base o m) (hs : m.stepping = false ∨ isCommand m.field.text = false) :
    Steady o m.refresh := by
  obtain ⟨hsh, hst, -, hnil⟩ := h.refresh h₀
  refine ⟨hsh, fun hs' => ?_⟩
  rcases hs with hs | hs
  · rw [hst, hs] at hs'
    cases hs'
  · exact .inr (hnil hs)

theorem Base.setInput (hI : I.Lawful) (h : Base o m) (s : String) (hs : m.stepping = false ∨ s = "") :
    Steady o (m.setInput I s) := by
  unfold Model.setInput
  have hf := (hI.setText_kept h.field.limit s).move (hI.setCursor (I.setText m.field s).size)
  refine Base.refresh_steady h₀ { h with field := hf } ?_
  rcases hs with hs | rfl
  · exact .inl hs
  · -- the empty line is no command
    right
    have hnil : (I.setCursor (I.setText m.field "") (I.setText m.field "").size).chars = [] := by
      rw [(hI.setCursor _ _).1, (hI.setText _ _ h.field.limit).2]
      rfl
    show isCommand (String.ofList _) = false
    rw [hnil]
    rfl

end

theorem replaceWord_error_iff {w : String} :
    (∃ msg, m.replaceWord I w = .error msg) ↔ m.field.size < m.wordStart ∨ m.field.size < m.wordEnd := by
  unfold Model.replaceWord
  dsimp only
  split
  · rename_i hb
    exact ⟨fun _ => hb, fun _ => ⟨_, rfl⟩⟩
  · rename_i hb
    exact ⟨fun hx => hx.elim fun _ he => (by cases he), fun h => (hb h).elim⟩

theorem Shown.replaceWord (hI : I.Lawful) (h : Shown o m) (hc : m.candidates ≠ []) {w : String}
    (hw : w ∈ commands.map Command.name) (hr : m.replaceWord I w = .ok m') :
    Shown o m' ∧ m'.candidates = m.candidates ∧ m'.stepping = m.stepping ∧ m'.chosen = m.chosen := by
  obtain ⟨hopen, -, -⟩ := h.bounds (h.completing hc)
  unfold Model.replaceWord at hr
  dsimp only at hr
  split at hr
  · cases hr
  · cases hr
    -- the line up to the word stays, with the candidate and the rest after it
    have hk := (hI.setText_kept h.field.limit (String.ofList (m.field.chars.take m.wordStart ++
      w.toList ++ m.field.chars.drop m.wordEnd))).move (hI.setCursor (m.wordStart + w.length))
    have hchars := hI.chars_splice h.field hopen.le_length m.wordEnd (plain_of_name w hw)
      (m.wordStart + w.length)
    generalize I.setCursor (I.setText m.field (String.ofList (m.field.chars.take m.wordStart ++
      w.toList ++ m.field.chars.drop m.wordEnd))) (m.wordStart + w.length) = F at hk hchars ⊢
    have hws : m.wordStart ≤ m.field.chars.length := hopen.le_length
    have hfits : m.field.chars.length ≤ 4096 := h.field.fits
    have hopen' : Opens F.chars m.wordStart := by
      rw [hchars]
      exact hopen.take_append _
    -- the word ends within the line, or the line was cut at the limit
    have hend : m.wordStart + w.length ≤ F.size ∨ F.size = 4096 := by
      simp only [Field.size, hchars, List.length_append, List.length_take, String.length_toList,
        List.length_drop]
      omega
    refine ⟨⟨⟨h.engine, h.session, hk, h.browsing, h.held, h.outcome⟩, h.named,
      fun _ => hopen'.isCommand, fun _ => ⟨hopen', Nat.le_add_right _ _, hend⟩, fun hc' => ?_⟩,
      rfl, rfl, rfl⟩
    have := hopen'.isCommand
    exact absurd (hc'.symm.trans this) Bool.false_ne_true

theorem Steady.cycle (hI : I.Lawful) (h : Steady o m) {fwd : Bool} (hr : m.cycle I fwd = .ok m') :
    Steady o m' := by
  unfold Model.cycle at hr
  split at hr
  · cases hr
    exact h
  · rename_i c hcs
    obtain ⟨r, hw, rfl⟩ := ok_of_map hr
    have hmem : c.str ∈ commands.map Command.name :=
      h.named c (by rw [hcs]; exact List.mem_singleton_self c)
    obtain ⟨hsh, -, -, -⟩ :=
      h.toShown.replaceWord hI (by rw [hcs]; exact List.cons_ne_nil _ _) hmem hw
    exact ⟨{ hsh with }, fun hs => by cases hs⟩
  · rename_i hnil _
    have hlen : 0 < m.candidates.length := List.length_pos_iff.2 hnil
    -- the first step starts at either end and later ones move round, always to a candidate
    obtain ⟨m₁, i, hsh₁, hc₁, hi, hr⟩ : ∃ m₁ i, Shown o m₁ ∧ m₁.candidates = m.candidates ∧
        i < m.candidates.length ∧ (m₁.replaceWord I (m.candidates.getD i default).str).map
          (fun r => { r with chosen := some i }) = .ok m' := by
      dsimp only at hr
      split at hr
      · exact ⟨{ m with stepping := true, typed := m.field.text },
          if fwd then 0 else m.candidates.length - 1, { h.toShown with }, rfl, by split <;> omega, hr⟩
      · exact ⟨_, _, h.toShown, rfl, Nat.mod_lt _ hlen, hr⟩
    obtain ⟨r, hw, rfl⟩ := ok_of_map hr
    have hmem : (m.candidates.getD i default).str ∈ commands.map Command.name := by
      rw [List.getD_eq_getElem _ _ hi]
      exact h.named _ (List.getElem_mem hi)
    obtain ⟨hsh, hcand, -, -⟩ := hsh₁.replaceWord hI (by rw [hc₁]; exact hnil) hmem hw
    exact ⟨{ hsh with }, fun _ => .inl ⟨i, rfl, by rw [show r.candidates = _ from hcand, hc₁]; exact hi⟩⟩

theorem Shown.cycle_error_iff (h : Shown o m) {fwd : Bool} :
    (∃ msg, m.cycle I fwd = .error msg) ↔ m.candidates ≠ [] ∧ m.field.size < m.wordEnd := by
  -- with candidates the word starts within the line, so only its end can lie past it
  have hend : m.candidates ≠ [] →
      (m.field.size < m.wordStart ∨ m.field.size < m.wordEnd ↔ m.field.size < m.wordEnd) := by
    intro hc
    have hws := (h.bounds (h.completing hc)).1.le_length
    exact ⟨fun hlt => hlt.elim (fun hlt => by simp only [Field.size] at hlt ⊢; omega) id, .inr⟩
  unfold Model.cycle
  split
  · rename_i hnil
    exact ⟨fun hx => hx.elim fun _ he => (by cases he), fun hc => (hc.1 hnil).elim⟩
  · rename_i c hcs
    have hc : m.candidates ≠ [] := by rw [hcs]; exact List.cons_ne_nil _ _
    rw [error_map_iff, replaceWord_error_iff, hend hc]
    exact ⟨fun hlt => ⟨hc, hlt⟩, fun h => h.2⟩
  · rename_i hnil _
    dsimp only
    split
    all_goals
      rw [error_map_iff, replaceWord_error_iff]
      exact (hend hnil).trans ⟨fun hlt => ⟨hnil, hlt⟩, fun h => h.2⟩

theorem cycle_first {c : Match} {cs : List Match} (hc : m.candidates = c :: cs) (hcs : cs ≠ [])
    (hs : m.stepping = false) (hb : m.wordStart ≤ m.field.size ∧ m.wordEnd ≤ m.field.size) :
    ∃ m', m.cycle I true = .ok m' ∧ m'.stepping = true ∧ m'.chosen = some 0 ∧
      m'.candidates = m.candidates := by
  obtain ⟨d, ds, rfl⟩ := List.exists_cons_of_ne_nil hcs
  unfold Model.cycle
  rw [hc]
  simp only [hs, Bool.not_false, if_true]
  unfold Model.replaceWord
  rw [if_neg (by dsimp only; simp only [Field.size] at hb; omega)]
  exact ⟨_, rfl, rfl, rfl, rfl⟩

theorem execute_fst (m : Model) (line : String) :
    (m.execute line).1 = m ∨ (m.execute line).1 = { m with quitting := true } := by
  unfold Model.execute
  dsimp only
  split
  · exact .inl rfl
  · split_ifs
    · exact .inr rfl
    -- every other command leaves the state as it is
    all_goals exact .inl rfl

theorem fst_of_pure {ε α β : Type} {a : α × β} {x : α} {y : β}
    (h : (pure a : Except ε (α × β)) = .ok (x, y)) : x = a.1 := by
  cases h
  rfl

theorem eq_of_pure {ε α β : Type} {a x : α} {b y : β}
    (h : (pure (a, b) : Except ε (α × β)) = .ok (x, y)) : x = a := by
  cases h
  rfl

theorem Steady.quit (h : Steady o m) : Steady o { m with quitting := true } := { h with }

theorem Steady.resize (h : Steady o m) (w : Int) : Steady o { m with width := w } := { h with }

theorem Steady.withField (h : Steady o m) (F : Field) (hc : F.chars = m.field.chars)
    (hl : F.limit = m.field.limit) : Steady o { m with field := F } := by
  have ht : F.text = m.field.text := by
    unfold Field.text
    rw [hc]
  have hs : F.size = m.field.size := by
    unfold Field.size
    rw [hc]
  have hk : F.Kept := ⟨hl.trans h.field.limit, hs ▸ h.field.fits, hc ▸ h.field.plain⟩
  refine ⟨⟨⟨h.engine, h.session, hk, h.browsing, h.held, h.outcome⟩, h.named, ?_, ?_, ?_⟩,
    h.cycling⟩
  · show m.candidates ≠ [] → isCommand F.text = true
    exact ht ▸ h.completing
  · show isCommand F.text = true → Opens F.chars m.wordStart ∧ m.wordStart ≤ m.wordEnd ∧
      (m.wordEnd ≤ F.size ∨ F.size = 4096)
    rw [ht, hc, hs]
    exact h.bounds
  · show isCommand F.text = false → m.text = F.text
    rw [ht]
    exact h.evaluated

section

variable {e₀ : Engine} (h₀ : Engine.create o = .ok e₀) (hI : I.Lawful)
include h₀ hI

theorem Steady.showHistory (h : Steady o m) (i : Nat) : Steady o (m.showHistory I i) := by
  unfold Model.showHistory
  split
  · exact h
  · rename_i line hg
    refine Base.setInput h₀ hI ?_ line (.inl rfl)
    exact { h.toBase with browsing := (History.lt_size_of_get hg).le }

theorem Steady.historyPrev (h : Steady o m) : Steady o (m.historyPrev I) := by
  unfold Model.historyPrev
  split
  · exact h
  · exact h.showHistory h₀ hI _

theorem Steady.historyNext (h : Steady o m) : Steady o (m.historyNext I) := by
  unfold Model.historyNext
  split
  · -- past the newest entry the line empties without ending the stepping: the candidates go
    refine Base.setInput h₀ hI ?_ "" (.inr rfl)
    exact { h.toBase with browsing := Nat.le_refl _ }
  · exact h.showHistory h₀ hI _

theorem Steady.submit (h : Steady o m) : Steady o (m.submit I).1 := by
  unfold Model.submit
  dsimp only
  split
  · exact h
  · -- the line is recorded and the history position moves past the newest entry
    generalize m.history.add (Blank.trim m.field.text) m.files = r
    obtain ⟨_, hist, fs⟩ := r
    dsimp only
    have hb : Base o { m with history := hist, files := fs, historyIdx := hist.size } :=
      { h.toBase with browsing := Nat.le_refl _ }
    have hin := hb.setInput h₀ hI "" (.inr rfl)
    split
    · rcases execute_fst ({ m with history := hist, files := fs, historyIdx := hist.size }.setInput I "")
        (Blank.trim m.field.text) with he | he
      · rw [he]
        exact hin
      · rw [he]
        exact hin.quit
    · dsimp only
      exact hin

theorem Steady.press (h : Steady o m) {p : Press} {fx : Option (List Effect)}
    (hp : m.press I p = .ok (m', fx)) : Steady o m' := by
  unfold Model.press at hp
  split at hp
  · -- Ctrl+C quits on an empty line and clears any other
    split at hp
    · obtain rfl := eq_of_pure hp
      exact h.quit
    · obtain rfl := eq_of_pure hp
      refine Base.setInput h₀ hI ?_ "" (.inl rfl)
      exact { h.toBase with browsing := Nat.le_refl _ }
  · split at hp
    · obtain rfl := eq_of_pure hp
      exact h.quit
    · obtain rfl := eq_of_pure hp
      exact h
  · -- Enter ends the stepping, or commits the line
    split at hp
    · obtain rfl := eq_of_pure hp
      exact ⟨{ h.toShown with }, fun hs => by cases hs⟩
    · rw [fst_of_pure hp]
      exact h.submit h₀ hI
  · obtain ⟨r, hr, hrm⟩ := ok_of_map hp
    cases hrm
    exact h.cycle hI hr
  · obtain ⟨r, hr, hrm⟩ := ok_of_map hp
    cases hrm
    exact h.cycle hI hr
  · obtain rfl := eq_of_pure hp
    exact h.historyPrev h₀ hI
  · obtain rfl := eq_of_pure hp
    exact h.historyNext h₀ hI
  · -- Esc restores the line typed before the stepping
    split at hp
    · obtain rfl := eq_of_pure hp
      refine Base.setInput h₀ hI ?_ m.typed (.inl rfl)
      exact { h.toBase with }
    · obtain rfl := eq_of_pure hp
      exact h
  · -- any other key edits the line
    obtain rfl := eq_of_pure hp
    refine Base.refresh_steady h₀ ?_ (.inl rfl)
    exact { h.toBase with field := hI.press _ _ _ h.field, browsing := Nat.le_refl _ }

theorem Steady.handle (h : Steady o m) {ev : Event} {fx : Option (List Effect)}
    (hu : m.handle I ev = .ok (m', fx)) : Steady o m' := by
  unfold Model.handle at hu
  split at hu
  · exact h.press h₀ hI hu
  · rename_i w _
    obtain rfl := eq_of_pure hu
    exact (h.withField { m.field with width := w - 2 - 2 } rfl rfl).resize w
  · obtain rfl := eq_of_pure hu
    exact h.withField _ (hI.fit _).1 (hI.fit _).2

end

theorem press_ok {p : Press} (ht : p.key ≠ .tab) (hb : p.key ≠ .backtab) :
    ∃ r, m.press I p = .ok r := by
  unfold Model.press
  split
  · split <;> exact ⟨_, rfl⟩
  · split <;> exact ⟨_, rfl⟩
  · split <;> exact ⟨_, rfl⟩
  · exact absurd ‹_› ht
  · exact absurd ‹_› hb
  · exact ⟨_, rfl⟩
  · exact ⟨_, rfl⟩
  · split <;> exact ⟨_, rfl⟩
  · exact ⟨_, rfl⟩

theorem Shown.update_error_iff (h : Shown o m) {ev : Event} :
    (∃ msg, m.handle I ev = .error msg) ↔
      (∃ p, ev = .press p ∧ (p.key = .tab ∨ p.key = .backtab)) ∧ m.candidates ≠ [] ∧
        m.field.size < m.wordEnd := by
  cases ev with
  | press p =>
    have hkey : (∃ q, Event.press p = .press q ∧ (q.key = .tab ∨ q.key = .backtab)) ↔
        (p.key = .tab ∨ p.key = .backtab) :=
      ⟨fun hx => by obtain ⟨q, hq, hk⟩ := hx; cases hq; exact hk, fun hk => ⟨p, rfl, hk⟩⟩
    rw [hkey]
    show (∃ msg, m.press I p = .error msg) ↔ _
    by_cases ht : p.key = .tab
    · have hp : m.press I p = (m.cycle I true).map (·, none) := by simp only [Model.press, ht]
      rw [hp, error_map_iff, h.cycle_error_iff]
      exact ⟨fun h => ⟨.inl ht, h⟩, fun h => h.2⟩
    by_cases hb : p.key = .backtab
    · have hp : m.press I p = (m.cycle I false).map (·, none) := by simp only [Model.press, hb]
      rw [hp, error_map_iff, h.cycle_error_iff]
      exact ⟨fun h => ⟨.inr hb, h⟩, fun h => h.2⟩
    obtain ⟨r, hr⟩ := press_ok ht hb
    rw [hr]
    exact ⟨fun hx => hx.elim fun _ he => (by cases he), fun hk => (hk.1.elim ht hb).elim⟩
  | resize w hh =>
    exact ⟨fun hx => hx.elim fun _ he => (by cases he), fun hx => hx.1.elim fun _ hq => (by cases hq.1)⟩
  | other =>
    exact ⟨fun hx => hx.elim fun _ he => (by cases he), fun hx => hx.1.elim fun _ hq => (by cases hq.1)⟩

theorem start_steady {e : Engine} (h₀ : Engine.create o = .ok e) (hist : History) (fs : Files) :
    Steady o (Model.start e hist fs) := by
  have hk : Field.Kept { width := 80 - 2 - 2 } := ⟨rfl, Nat.zero_le _, fun _ hc => by cases hc⟩
  -- the empty line is no command
  have hcmd : isCommand (Model.start e hist fs).field.text = false := rfl
  refine ⟨⟨⟨(Good.create h₀).openSession, start_sound e, hk, Nat.le_refl _, rfl,
    fun hne => (hne rfl).elim⟩, fun _ hc => (by cases hc), fun hne => (hne rfl).elim,
    fun hc => ?_, fun _ => rfl⟩, fun hs => (by cases hs)⟩
  rw [hcmd] at hc
  cases hc

/-- The states a prompt on an engine made with options `o` reaches from its start, by
messages each of which it handles without fail. -/
inductive Reaches (I : Input) (o : Options) : Model → Prop
  | start {e : Engine} (hist : History) (fs : Files) :
      Engine.create o = .ok e → Reaches I o (Model.start e hist fs)
  | step {m m' : Model} {fx : Option (List Effect)} (ev : Event) :
      Reaches I o m → m.handle I ev = .ok (m', fx) → Reaches I o m'

theorem Reaches.created (hr : Reaches I o m) : ∃ e₀, Engine.create o = .ok e₀ := by
  induction hr with
  | start _ _ h₀ => exact ⟨_, h₀⟩
  | step _ _ _ ih => exact ih

theorem Reaches.steady (hI : I.Lawful) (hr : Reaches I o m) : Steady o m := by
  obtain ⟨e₀, h₀⟩ := hr.created
  induction hr with
  | start hist fs h => exact start_steady h hist fs
  | step _ _ hu ih => exact ih.handle h₀ hI hu

/-- **The prompt's invariants.** For any text input that keeps what the prompt assumes of it, in
every state reached from the start: the field holds at most
4096 characters; the history position lies within the history; while stepping through the
candidates the chosen one is among them, unless they were emptied; on a command line the word
starts within the line and ends after it starts, and within the line unless the field is
full; any other line that is not empty is the session's text, and the outcome shown is that
of evaluating it on a new calculator. And the next message fails exactly when it is Tab or
Shift+Tab with candidates offered and the word's end past the line. -/
theorem prompt_invariant (hI : I.Lawful) (hr : Reaches I o m) :
    m.field.size ≤ 4096 ∧ m.historyIdx ≤ m.history.size ∧
      (m.stepping = true → (∃ i, m.chosen = some i ∧ i < m.candidates.length) ∨ m.candidates = []) ∧
      (isCommand m.field.text = true → m.wordStart ≤ m.wordEnd ∧ m.wordStart ≤ m.field.size ∧
        (m.wordEnd ≤ m.field.size ∨ m.field.size = 4096)) ∧
      (m.field.chars ≠ [] → isCommand m.field.text = false →
        m.session.text = m.field.text.toUTF8 ∧ m.outcome = oneShot o m.field.text.toUTF8) ∧
      ∀ ev, (∃ msg, m.handle I ev = .error msg) ↔
        (∃ p, ev = .press p ∧ (p.key = .tab ∨ p.key = .backtab)) ∧ m.candidates ≠ [] ∧
          m.field.size < m.wordEnd := by
  have h := hr.steady hI
  refine ⟨h.field.fits, h.browsing, h.cycling, fun hc => ?_, fun hne hc => ?_,
    fun _ => h.update_error_iff⟩
  · obtain ⟨hopen, hle, hend⟩ := h.bounds hc
    exact ⟨hle, hopen.le_length, hend⟩
  · have ht := h.evaluated hc
    have hne' : m.text ≠ "" := by
      rw [ht]
      exact fun he => hne (String.ofList_eq_empty_iff.1 he)
    rw [← ht]
    exact ⟨h.held, h.outcome hne'⟩

/-- A prompt on a new engine with the default options and the text input it runs with, after
':' is typed and Tab pressed: all five commands are offered and the first is chosen. -/
theorem prompt_invariant_tab :
    ∃ e₀ m₁ m₂, Engine.create {} = .ok e₀ ∧
      (Model.start e₀ {} {}).handle Field.input (.press { key := .runes [':'] false }) =
        .ok (m₁, none) ∧
      m₁.handle Field.input (.press { key := .tab }) = .ok (m₂, none) ∧
      m₂.stepping = true ∧ m₂.chosen = some 0 ∧ m₂.candidates.length = 5 ∧
      Field.input.Lawful ∧ Reaches Field.input {} m₂ ∧
        (m₂.field.size ≤ 4096 ∧ m₂.historyIdx ≤ m₂.history.size ∧
          (m₂.stepping = true →
            (∃ i, m₂.chosen = some i ∧ i < m₂.candidates.length) ∨ m₂.candidates = []) ∧
          (isCommand m₂.field.text = true → m₂.wordStart ≤ m₂.wordEnd ∧
            m₂.wordStart ≤ m₂.field.size ∧ (m₂.wordEnd ≤ m₂.field.size ∨ m₂.field.size = 4096)) ∧
          (m₂.field.chars ≠ [] → isCommand m₂.field.text = false →
            m₂.session.text = m₂.field.text.toUTF8 ∧ m₂.outcome = oneShot {} m₂.field.text.toUTF8) ∧
          ∀ ev, (∃ msg, m₂.handle Field.input ev = .error msg) ↔
            (∃ p, ev = .press p ∧ (p.key = .tab ∨ p.key = .backtab)) ∧ m₂.candidates ≠ [] ∧
              m₂.field.size < m₂.wordEnd) := by
  obtain ⟨e₀, hc⟩ : ∃ e₀, Engine.create {} = .ok e₀ := ⟨_, rfl⟩
  have hcolon : (Field.press { width := 76 } (Press.name { key := .runes [':'] false }) [':']).chars =
      [':'] := by decide +kernel
  have hword : commandWord (String.ofList [':']) = some ("", 1, 1) := by decide +kernel
  -- typing ':' opens a command line with the empty word, which every command completes
  obtain ⟨m₁, hm₁, hf₁, hc₁, hs₁, ha₁, hb₁⟩ : ∃ m₁,
      (Model.start e₀ {} {}).handle Field.input (.press { key := .runes [':'] false }) =
        .ok (m₁, none) ∧ m₁.field.chars = [':'] ∧ m₁.candidates = completions "" ∧
        m₁.stepping = false ∧ m₁.wordStart = 1 ∧ m₁.wordEnd = 1 := by
    refine ⟨_, rfl, ?_⟩
    rw [Model.refresh_of_command (w := "") (a := 1) (b := 1)]
    · exact ⟨hcolon, rfl, rfl, rfl, rfl⟩
    · show commandWord (String.ofList
        (Field.press { width := 76 } (Press.name { key := .runes [':'] false }) [':']).chars) = _
      rw [hcolon]
      exact hword
  -- the first Tab starts stepping at the first candidate
  obtain ⟨c, cs, hcs, hne⟩ : ∃ c cs, completions "" = c :: cs ∧ cs ≠ [] :=
    ⟨_, _, rfl, List.cons_ne_nil _ _⟩
  obtain ⟨m₂, hcyc, hs₂, hi₂, hc₂⟩ := cycle_first (I := Field.input) (hc₁.trans hcs) hne hs₁
    (by simp only [Field.size, hf₁, ha₁, hb₁]; decide)
  have hm₂ : m₁.handle Field.input (.press { key := .tab }) = .ok (m₂, none) := by
    show (m₁.cycle Field.input true).map (·, none) = _
    rw [hcyc]
    rfl
  have hr : Reaches Field.input {} m₂ := .step _ (.step _ (.start {} {} hc) hm₁) hm₂
  exact ⟨e₀, m₁, m₂, hc, hm₁, hm₂, hs₂, hi₂, by rw [hc₂, hc₁]; decide +kernel, Field.input_lawful,
    hr, prompt_invariant Field.input_lawful hr⟩

end LiveArith.Prompt
