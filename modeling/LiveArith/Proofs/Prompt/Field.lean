import LiveArith.Prompt.Model
import Mathlib.Tactic.SplitIfs

/-!
The text field keeps its shape under every key: a prompt's field has the limit 4096, holds at most
that many characters, and holds only characters the cleaning keeps as they are.
-/

set_option autoImplicit false

namespace LiveArith.Prompt.Field

def Plain (c : Char) : Prop := clean [c] = [c]

instance (c : Char) : Decidable (Plain c) := inferInstanceAs (Decidable (_ = _))

/-- The shape of a prompt's field. -/
structure Kept (f : Field) : Prop where
  limit : f.limit = 4096
  fits : f.size ≤ 4096
  plain : ∀ c ∈ f.chars, Plain c

theorem clean_append (a b : List Char) : clean (a ++ b) = clean a ++ clean b :=
  List.filterMap_append

theorem clean_of_plain {cs : List Char} (h : ∀ c ∈ cs, Plain c) : clean cs = cs := by
  induction cs with
  | nil => rfl
  | cons c cs ih =>
    rw [show c :: cs = [c] ++ cs from rfl, clean_append, h c List.mem_cons_self,
      ih fun d hd => h d (List.mem_cons_of_mem c hd)]

theorem plain_of_mem_clean {c : Char} {cs : List Char} (h : c ∈ clean cs) : Plain c := by
  obtain ⟨a, -, ha⟩ := List.mem_filterMap.1 h
  simp only at ha
  -- a kept character is a blank standing for a tab or line break, or itself
  split at ha
  · cases ha
    decide
  · split at ha
    · cases ha
    · rename_i h₁ h₂
      cases ha
      simp only [Plain, clean, List.filterMap_cons, List.filterMap_nil, if_neg h₁, if_neg h₂]

def Moves (g : Field → Field) : Prop := ∀ f, (g f).chars = f.chars ∧ (g f).limit = f.limit

theorem Moves.comp {g h : Field → Field} (hg : Moves g) (hh : Moves h) : Moves (g ∘ h) :=
  fun f => ⟨((hg (h f)).1.trans (hh f).1), ((hg (h f)).2.trans (hh f).2)⟩

theorem moves_fit : Moves fit := by
  intro f
  unfold fit
  dsimp only
  split_ifs <;> exact ⟨rfl, rfl⟩

theorem pos_fit (f : Field) : f.fit.pos = f.pos := by
  unfold fit
  dsimp only
  split_ifs <;> rfl

theorem moves_setCursor (p : Nat) : Moves (setCursor · p) :=
  fun f => moves_fit { f with pos := min p f.size }

theorem pos_setCursor (f : Field) (p : Nat) : (f.setCursor p).pos = min p f.size :=
  pos_fit _

theorem moves_backOverBlanks (n : Nat) : Moves (backOverBlanks n) := by
  induction n with
  | zero => exact fun f => ⟨rfl, rfl⟩
  | succ n ih =>
    intro f
    simp only [backOverBlanks]
    split
    · exact (ih.comp (moves_setCursor _)) f
    · exact ⟨rfl, rfl⟩

theorem moves_backOverWord (n : Nat) : Moves (backOverWord n) := by
  induction n with
  | zero => exact fun f => ⟨rfl, rfl⟩
  | succ n ih =>
    intro f
    simp only [backOverWord]
    split_ifs
    · exact ⟨rfl, rfl⟩
    · exact (ih.comp (moves_setCursor _)) f
    · exact moves_setCursor _ f

theorem moves_leftWhile (b : Bool) (n : Nat) : Moves (leftWhile b n) := by
  induction n with
  | zero => exact fun f => ⟨rfl, rfl⟩
  | succ n ih =>
    intro f
    simp only [leftWhile]
    split
    · exact (ih.comp (moves_setCursor _)) f
    · exact ⟨rfl, rfl⟩

theorem moves_rightWhile (b : Bool) (n : Nat) : Moves (rightWhile b n) := by
  induction n with
  | zero => exact fun f => ⟨rfl, rfl⟩
  | succ n ih =>
    intro f
    simp only [rightWhile]
    split
    · exact (ih.comp (moves_setCursor _)) f
    · exact ⟨rfl, rfl⟩

theorem moves_forwardOverBlanks (n : Nat) : Moves (forwardOverBlanks n) := by
  induction n with
  | zero => exact fun f => ⟨rfl, rfl⟩
  | succ n ih =>
    intro f
    simp only [forwardOverBlanks]
    split
    · exact (ih.comp (moves_setCursor _)) f
    · exact ⟨rfl, rfl⟩

theorem moves_wordBack : Moves wordBack := fun f =>
  ((moves_leftWhile false _).comp (moves_leftWhile true (f.size + 1))) f

theorem moves_wordForward : Moves wordForward := fun f =>
  ((moves_rightWhile false _).comp (moves_rightWhile true (f.size + 1))) f

theorem pos_backOverBlanks_le (n : Nat) (f : Field) : (backOverBlanks n f).pos ≤ f.pos := by
  induction n generalizing f with
  | zero => exact Nat.le_refl _
  | succ n ih =>
    simp only [backOverBlanks]
    split
    · have := ih (f.setCursor (f.pos - 1))
      rw [pos_setCursor] at this
      omega
    · exact Nat.le_refl _

theorem pos_backOverWord_le (n : Nat) (f : Field) : (backOverWord n f).pos ≤ f.pos + 1 := by
  induction n generalizing f with
  | zero => exact Nat.le_succ _
  | succ n ih =>
    simp only [backOverWord]
    split_ifs
    · exact Nat.le_succ _
    · have := ih (f.setCursor (f.pos - 1))
      rw [pos_setCursor] at this
      omega
    · rw [pos_setCursor]
      omega

theorem le_pos_forwardOverBlanks (n : Nat) (f : Field) : f.pos ≤ (forwardOverBlanks n f).pos := by
  induction n generalizing f with
  | zero => exact Nat.le_refl _
  | succ n ih =>
    simp only [forwardOverBlanks]
    split
    · rename_i h
      have := ih (f.setCursor (f.pos + 1))
      rw [pos_setCursor] at this
      have : f.pos < f.size := by simp only [Bool.and_eq_true, decide_eq_true_eq] at h; exact h.1
      omega
    · exact Nat.le_refl _

theorem le_pos_rightWhile (b : Bool) (n : Nat) (f : Field) : f.pos ≤ (rightWhile b n f).pos := by
  induction n generalizing f with
  | zero => exact Nat.le_refl _
  | succ n ih =>
    simp only [rightWhile]
    split
    · rename_i h
      have := ih (f.setCursor (f.pos + 1))
      rw [pos_setCursor] at this
      have : f.pos < f.size := by simp only [Bool.and_eq_true, decide_eq_true_eq] at h; exact h.1
      omega
    · exact Nat.le_refl _

namespace Kept

variable {f g : Field}

theorem move {m : Field → Field} (h : f.Kept) (hm : Moves m) : (m f).Kept := by
  obtain ⟨hc, hl⟩ := hm f
  refine ⟨hl.trans h.limit, ?_, hc ▸ h.plain⟩
  simp only [size, hc]
  exact h.fits

theorem fit (h : f.Kept) : f.fit.Kept := h.move moves_fit

theorem setCursor (h : f.Kept) (p : Nat) : (f.setCursor p).Kept := h.move (moves_setCursor p)

theorem part (h : f.Kept) (hl : g.limit = f.limit) (hn : g.size ≤ f.size)
    (hs : ∀ c ∈ g.chars, c ∈ f.chars) : g.Kept :=
  ⟨hl.trans h.limit, Nat.le_trans hn h.fits, fun c hc => h.plain c (hs c hc)⟩

theorem cut (h : f.Kept) {a b : Nat} (hab : a ≤ b) (hl : g.limit = f.limit)
    (hg : g.chars = f.chars.take a ++ f.chars.drop b) : g.Kept := by
  refine h.part hl ?_ fun c hc => ?_
  · simp only [size, hg, List.length_append, List.length_take, List.length_drop]
    omega
  · rw [hg, List.mem_append] at hc
    exact hc.elim List.mem_of_mem_take List.mem_of_mem_drop

theorem chars_replace (f : Field) (cs : List Char) :
    (f.replace cs).chars = if f.limit > 0 then cs.take f.limit else cs := by
  unfold Field.replace
  dsimp only
  generalize (if f.limit > 0 then cs.take f.limit else cs) = cs'
  rw [(moves_fit _).1]
  split
  · exact (moves_setCursor _ _).1
  · rfl

theorem limit_replace (f : Field) (cs : List Char) : (f.replace cs).limit = f.limit := by
  unfold Field.replace
  dsimp only
  generalize (if f.limit > 0 then cs.take f.limit else cs) = cs'
  rw [(moves_fit _).2]
  split
  · exact (moves_setCursor _ _).2
  · rfl

theorem replace (hl : g.limit = 4096) {cs : List Char} (hc : ∀ c ∈ cs, Plain c) :
    (g.replace cs).Kept := by
  have hcs : (g.replace cs).chars = cs.take 4096 := by
    rw [chars_replace, hl]
    rfl
  refine ⟨(limit_replace g cs).trans hl, ?_, ?_⟩
  · simp only [size, hcs, List.length_take]
    omega
  · rw [hcs]
    exact fun c hc' => hc c (List.mem_of_mem_take hc')

theorem chars_setText (hl : f.limit = 4096) (s : String) :
    (f.setText s).chars = (clean s.toList).take 4096 := by
  unfold Field.setText
  rw [chars_replace, hl]
  rfl

theorem setText (h : f.Kept) (s : String) : (f.setText s).Kept :=
  replace h.limit fun _ hc => plain_of_mem_clean hc

theorem insert (h : f.Kept) (cs : List Char) : (f.insert cs).Kept := by
  unfold Field.insert
  dsimp only
  split
  · exact h
  · -- the field is cut to its limit anyway; what is typed is clean
    refine replace ?_ fun c hc => ?_
    · exact h.limit
    simp only [List.mem_append] at hc
    rcases hc with (hc | hc) | hc
    · exact h.plain c (List.mem_of_mem_take hc)
    · split at hc
      · exact plain_of_mem_clean (List.mem_of_mem_take hc)
      · exact plain_of_mem_clean hc
    · exact h.plain c (List.mem_of_mem_drop hc)

theorem deleteBack (h : f.Kept) : f.deleteBack.Kept := by
  unfold Field.deleteBack
  dsimp only
  split
  · exact h
  · have hd : Kept { f with chars := f.chars.take (f.pos - 1) ++ f.chars.drop f.pos } :=
      h.cut (Nat.sub_le f.pos 1) rfl rfl
    split
    · exact hd.setCursor _
    · exact hd

theorem deleteForward (h : f.Kept) : f.deleteForward.Kept := by
  unfold Field.deleteForward
  split
  · exact h.cut (Nat.le_succ f.pos) rfl rfl
  · exact h

theorem deleteToEnd (h : f.Kept) : f.deleteToEnd.Kept := by
  have hd : Kept { f with chars := f.chars.take f.pos } :=
    h.part rfl (by simp only [size, List.length_take]; omega) fun _ hc => List.mem_of_mem_take hc
  exact hd.setCursor f.pos

theorem deleteToStart (h : f.Kept) : f.deleteToStart.Kept := by
  have hd : Kept { f with chars := f.chars.drop f.pos, offset := 0 } :=
    h.part rfl (by simp [size]) fun _ hc => List.mem_of_mem_drop hc
  exact hd.setCursor 0

theorem deleteWordBack (h : f.Kept) : f.deleteWordBack.Kept := by
  unfold Field.deleteWordBack
  dsimp only
  split
  · exact h
  · rename_i hp
    have hp : 0 < f.pos := by
      simp only [Bool.or_eq_true, beq_iff_eq, List.isEmpty_iff] at hp
      omega
    generalize hg : backOverWord (f.size + 1) (backOverBlanks (f.size + 1)
      (f.setCursor (f.pos - 1))) = g
    have hm : g.chars = f.chars ∧ g.limit = f.limit := by
      rw [← hg]
      exact ((moves_backOverWord _).comp ((moves_backOverBlanks _).comp (moves_setCursor _))) f
    -- the word removed starts where the cursor stepped back to, never right of it
    have hpos : g.pos ≤ f.pos := by
      have h₁ := pos_backOverWord_le (f.size + 1)
        (backOverBlanks (f.size + 1) (f.setCursor (f.pos - 1)))
      have h₂ := pos_backOverBlanks_le (f.size + 1) (f.setCursor (f.pos - 1))
      rw [pos_setCursor] at h₂
      rw [hg] at h₁
      omega
    split
    · refine h.part hm.2 ?_ fun _ hc => hm.1 ▸ List.mem_of_mem_take hc
      simp only [size, hm.1, List.length_take]
      omega
    · exact h.cut hpos hm.2 (by rw [hm.1])

theorem deleteWordForward (h : f.Kept) : f.deleteWordForward.Kept := by
  unfold Field.deleteWordForward
  dsimp only
  split
  · exact h
  · rename_i hp
    have hp : f.pos < f.size := by
      simp only [Bool.or_eq_true, decide_eq_true_eq, List.isEmpty_iff] at hp
      omega
    generalize hg : rightWhile false (f.size + 1) (forwardOverBlanks (f.size + 1)
      (f.setCursor (f.pos + 1))) = g
    have hm : g.chars = f.chars ∧ g.limit = f.limit := by
      rw [← hg]
      exact ((moves_rightWhile _ _).comp ((moves_forwardOverBlanks _).comp (moves_setCursor _))) f
    -- the word removed ends where the cursor stepped forward to, never left of it
    have hpos : f.pos ≤ g.pos := by
      have h₁ := le_pos_rightWhile false (f.size + 1)
        (forwardOverBlanks (f.size + 1) (f.setCursor (f.pos + 1)))
      have h₂ := le_pos_forwardOverBlanks (f.size + 1) (f.setCursor (f.pos + 1))
      rw [pos_setCursor] at h₂
      rw [hg] at h₁
      omega
    have hd : Kept { g with chars := g.chars.take f.pos ++ g.chars.drop g.pos } :=
      h.cut hpos hm.2 (by rw [hm.1])
    exact hd.setCursor f.pos

theorem ite {c : Prop} [Decidable c] {a b : Field} (ha : a.Kept) (hb : b.Kept) :
    (if c then a else b).Kept := by
  by_cases hc : c
  · rw [if_pos hc]
    exact ha
  · rw [if_neg hc]
    exact hb

theorem press (h : f.Kept) (name : String) (runes : List Char) : (f.press name runes).Kept := by
  unfold Field.press
  refine Kept.fit ?_
  -- one branch per binding, in the order the name is looked up
  apply Kept.ite h.deleteWordBack
  apply Kept.ite h.deleteBack
  apply Kept.ite (h.move moves_wordBack)
  apply Kept.ite (Kept.ite (h.setCursor _) h)
  apply Kept.ite (h.move moves_wordForward)
  apply Kept.ite (Kept.ite (h.setCursor _) h)
  apply Kept.ite (h.setCursor 0)
  apply Kept.ite h.deleteForward
  apply Kept.ite (h.setCursor f.size)
  apply Kept.ite h.deleteToEnd
  apply Kept.ite h.deleteToStart
  exact Kept.ite (Kept.ite h.deleteWordForward h) (h.insert runes)

end Kept

end LiveArith.Prompt.Field

namespace LiveArith.Prompt

open LiveArith.Prompt.Field

/-- What the prompt assumes of its text input, on a field whose limit is 4096 as the prompt's
is: setting the text cleans it, tabs and line breaks becoming blanks, and cuts it to the limit;
a key leaves the field within the limit and clean; and moving the cursor or the window changes
neither the characters nor the limit. -/
structure Input.Lawful (I : Input) : Prop where
  setText : ∀ f s, f.limit = 4096 →
    (I.setText f s).limit = 4096 ∧ (I.setText f s).chars = (clean s.toList).take 4096
  press : ∀ f name runes, f.Kept → (I.press f name runes).Kept
  setCursor : ∀ p, Moves (I.setCursor · p)
  fit : Moves I.fit

namespace Input.Lawful

variable {I : Input} {f : Field}

theorem setText_kept (hI : I.Lawful) (hl : f.limit = 4096) (s : String) : (I.setText f s).Kept := by
  obtain ⟨hl', hc⟩ := hI.setText f s hl
  refine ⟨hl', ?_, fun c hm => ?_⟩
  · simp only [size, hc, List.length_take]
    omega
  · rw [hc] at hm
    exact plain_of_mem_clean (List.mem_of_mem_take hm)

theorem chars_splice (hI : I.Lawful) (h : f.Kept) {a : Nat} (ha : a ≤ f.size) (b : Nat)
    {w : List Char} (hw : ∀ c ∈ w, Plain c) (p : Nat) :
    (I.setCursor (I.setText f (String.ofList (f.chars.take a ++ w ++ f.chars.drop b))) p).chars =
      f.chars.take a ++ (w ++ f.chars.drop b).take (4096 - a) := by
  have hplain : ∀ c ∈ f.chars.take a ++ w ++ f.chars.drop b, Plain c := by
    intro c hc
    simp only [List.mem_append] at hc
    rcases hc with (hc | hc) | hc
    · exact h.plain c (List.mem_of_mem_take hc)
    · exact hw c hc
    · exact h.plain c (List.mem_of_mem_drop hc)
  have ha' : a ≤ f.chars.length := ha
  rw [(hI.setCursor _ _).1, (hI.setText _ _ h.limit).2, String.toList_ofList, clean_of_plain hplain,
    List.append_assoc, List.take_append, List.take_take, Nat.min_eq_right (Nat.le_trans ha h.fits),
    List.length_take, Nat.min_eq_left ha']

end Input.Lawful

theorem Field.input_lawful : Field.input.Lawful where
  setText f s hl := ⟨(Kept.limit_replace f _).trans hl, Kept.chars_setText hl s⟩
  press _ _ _ h := h.press _ _
  setCursor := moves_setCursor
  fit := moves_fit

end LiveArith.Prompt
