import Mathlib.Data.List.Dedup
import Mathlib.Data.List.DropRight
import LiveArith.History
import LiveArith.Proofs.Files.ReadBack

/-!
A history kept in a file.
-/

set_option autoImplicit false

namespace LiveArith

namespace Blank

theorem trim_eq (s : String) :
    trim s = String.ofList ((s.toList.dropWhile isSpace).rdropWhile isSpace) := rfl

theorem trim_trim (s : String) : trim (trim s) = trim s := by
  -- the text without leading blanks starts at a non-blank, and so does every prefix of it
  let m := s.toList.dropWhile isSpace
  have hm : (trim s).toList = m.rdropWhile isSpace := by rw [trim_eq, String.toList_ofList]
  have hhead : (m.rdropWhile isSpace).dropWhile isSpace = m.rdropWhile isSpace := by
    rw [List.dropWhile_eq_self_iff]
    intro hl
    have hpre := List.rdropWhile_prefix isSpace m
    rw [List.IsPrefix.getElem hpre]
    exact List.dropWhile_get_zero_not isSpace s.toList (Nat.lt_of_lt_of_le hl hpre.length_le)
  calc trim (trim s)
      = String.ofList (((m.rdropWhile isSpace).dropWhile isSpace).rdropWhile isSpace) := by
        rw [trim_eq (trim s), hm]
    _ = String.ofList (m.rdropWhile isSpace) := by rw [hhead, List.rdropWhile_idempotent]
    _ = trim s := by rw [← hm, String.ofList_toList]

end Blank

namespace History

section Recent

variable {α : Type}

theorem dedup_concat [DecidableEq α] (xs : List α) (a : α) :
    (xs ++ [a]).dedup = xs.dedup.erase a ++ [a] := by
  induction xs with
  | nil => simp
  | cons x xs ih =>
    by_cases hx : x ∈ xs
    · rw [List.cons_append, List.dedup_cons_of_mem (List.mem_append_left _ hx), ih,
        List.dedup_cons_of_mem hx]
    · rw [List.dedup_cons_of_notMem hx]
      by_cases hxa : x = a
      · -- the old copy is the head, and no other copy is left to erase
        subst hxa
        rw [List.cons_append, List.dedup_cons_of_mem (by simp), ih,
          List.erase_of_not_mem (by simpa using hx), List.erase_cons_head]
      · rw [List.cons_append, List.dedup_cons_of_notMem (by simp [hx, hxa]), ih,
          List.erase_cons_tail (by simpa using hxa), List.cons_append]

theorem rtake_append_of_le {k : Nat} (pre : List α) {zs : List α} (h : k ≤ zs.length) :
    (pre ++ zs).rtake k = zs.rtake k := by
  simp only [List.rtake, List.length_append]
  rw [show pre.length + zs.length - k = pre.length + (zs.length - k) by omega,
    List.drop_length_add_append]

theorem rtake_of_length_le {k : Nat} {l : List α} (h : l.length ≤ k) : l.rtake k = l := by
  simp [List.rtake, Nat.sub_eq_zero_of_le h]

theorem getLast?_rtake {k : Nat} (hk : 0 < k) (l : List α) :
    (l.rtake k).getLast? = l.getLast? := by
  rw [List.rtake_eq_reverse_take_reverse, List.getLast?_reverse, List.head?_take, if_neg (by omega),
    List.head?_reverse]

theorem erase_concat_of_getLast? [DecidableEq α] {l : List α} {a : α} (hl : l.Nodup)
    (h : l.getLast? = some a) :
    l.erase a ++ [a] = l := by
  obtain ⟨ys, rfl⟩ := List.getLast?_eq_some_iff.1 h
  have ha : a ∉ ys := fun hy => (List.nodup_append.1 hl).2.2 a hy a (by simp) rfl
  rw [List.erase_append_right _ ha, List.erase_cons_head, List.append_nil]

theorem rtake_moveLast [DecidableEq α] {l : List α} (hl : l.Nodup) (a : α) (k : Nat) :
    (l.erase a ++ [a]).rtake k = ((l.rtake k).erase a ++ [a]).rtake k := by
  by_cases hk : l.length ≤ k
  · rw [show l.rtake k = l by simp [List.rtake, Nat.sub_eq_zero_of_le hk]]
  -- the newest `k` are a tail of the list; erasing leaves some list before what is left of them
  let pre := l.take (l.length - k)
  let suf := l.rtake k
  have hsplit : pre ++ suf = l := List.take_append_drop _ _
  have hsuf : suf.length = k := by simp [suf, List.rtake]; omega
  obtain ⟨P, hP⟩ : ∃ P, l.erase a = P ++ suf.erase a := by
    by_cases ha : a ∈ suf
    · have hpre : a ∉ pre := fun hp =>
        (List.nodup_append.1 (hsplit ▸ hl)).2.2 a hp a ha rfl
      exact ⟨pre, by rw [← hsplit, List.erase_append_right _ hpre]⟩
    · refine ⟨pre.erase a, ?_⟩
      rw [List.erase_of_not_mem ha, ← hsplit]
      by_cases hp : a ∈ pre
      · rw [List.erase_append_left _ hp]
      · rw [List.erase_of_not_mem hp, List.erase_of_not_mem (by simp [hp, ha])]
  have hlen : k ≤ (suf.erase a ++ [a]).length := by
    rw [List.length_append, List.length_erase]
    split <;> simp <;> omega
  rw [hP, List.append_assoc, rtake_append_of_le _ hlen]

end Recent

def kept (lines : List String) : List String := (lines.map Blank.trim).filter (· ≠ "")

def recent (limit : Nat) (lines : List String) : List String := (kept lines).dedup.rtake limit

theorem kept_concat (lines : List String) (line : String) :
    kept (lines ++ [line]) =
      kept lines ++ if Blank.trim line = "" then [] else [Blank.trim line] := by
  by_cases h : Blank.trim line = "" <;> simp [kept, List.filter_append, h]

theorem trim_eq (h : History) (hl : 0 < h.limit) :
    h.trim =
      ({ h with entries := h.entries.rtake h.limit }, decide (h.limit < h.entries.length)) := by
  unfold trim
  by_cases hle : h.entries.length ≤ h.limit
  · rw [if_pos (by simp [hle])]
    simp [List.rtake, Nat.sub_eq_zero_of_le hle, Nat.not_lt.2 hle]
  · rw [if_neg (by simp [hle]; omega)]
    simp [List.rtake]
    omega

theorem add_history (h : History) (line : String) (fs : Files) :
    (h.add line fs).2.1 =
      if (Blank.trim line).isEmpty || h.entries.getLast? == some (Blank.trim line) then h
      else ({ h with entries := h.entries.erase (Blank.trim line) ++ [Blank.trim line] } :
        History).trim.1 := by
  unfold add
  dsimp only
  by_cases hs : ((Blank.trim line).isEmpty || h.entries.getLast? == some (Blank.trim line)) = true
  · rw [if_pos hs, if_pos hs]
  · rw [if_neg hs, if_neg hs]
    split
    · rfl
    · split <;> rfl

theorem add_recent (h : History) {lines : List String} (hl : 0 < h.limit)
    (he : h.entries = recent h.limit lines) (line : String) (fs : Files) :
    (h.add line fs).2.1 = { h with entries := recent h.limit (lines ++ [line]) } := by
  have hD := List.nodup_dedup (kept lines)
  rw [add_history, recent, kept_concat]
  by_cases hblank : Blank.trim line = ""
  · -- a blank line is skipped
    rw [if_pos (by simp [hblank]), if_pos hblank, List.append_nil, ← recent, ← he]
  rw [if_neg hblank, dedup_concat]
  by_cases hlast : h.entries.getLast? = some (Blank.trim line)
  · -- a repeat of the newest entry is skipped, and is already last among the kept lines
    have hDlast : (kept lines).dedup.getLast? = some (Blank.trim line) := by
      rw [← getLast?_rtake hl, ← recent, ← he, hlast]
    rw [if_pos (by simp [hlast]), erase_concat_of_getLast? hD hDlast, ← recent, ← he]
  · rw [if_neg (by simp [hblank, hlast]),
      trim_eq { h with entries := h.entries.erase (Blank.trim line) ++ [Blank.trim line] } hl,
      he, recent, ← rtake_moveLast hD]

def fileText (entries : List String) : String := String.join (entries.map (· ++ "\n"))

theorem fileText_concat (entries : List String) (line : String) :
    fileText (entries ++ [line]) = fileText entries ++ (line ++ "\n") := by
  simp [fileText, String.join_append]

def Stored (fs₀ : Files) (p : String) (entries : List String) (fs : Files) : Prop :=
  entries = [] ∧ fs = fs₀ ∨ fs.read p = .ok (fileText entries)

theorem Stored.found {fs₀ fs : Files} {p : String} {entries : List String}
    (hs : Stored fs₀ p entries fs) (h₀ : (fs₀.read p).toOption = none) :
    (fs.read p).toOption.getD "" = fileText entries := by
  rcases hs with ⟨rfl, rfl⟩ | hr
  · rw [h₀]
    rfl
  · rw [hr]
    rfl

theorem write_of_mapError {fs fs' : Files} {p text : String} {append : Bool}
    (h : (fs.write p text append).mapError HistoryError.file = .ok fs') :
    fs.write p text append = .ok fs' := by
  cases hw : fs.write p text append with
  | error e => simp [hw] at h
  | ok r => simpa [hw] using h

theorem add_stored {h h' : History} {fs fs' fs₀ : Files} {p line : String}
    (hadd : h.add line fs = (.ok (), h', fs')) (hp : h.path = some p) (hl : 0 < h.limit)
    (h₀ : (fs₀.read p).toOption = none) (hs : Stored fs₀ p h.entries fs) :
    Stored fs₀ p h'.entries fs' := by
  unfold add at hadd
  dsimp only at hadd
  by_cases hskip :
      ((Blank.trim line).isEmpty || h.entries.getLast? == some (Blank.trim line)) = true
  · rw [if_pos hskip] at hadd
    cases hadd
    exact hs
  rw [if_neg hskip,
    trim_eq { h with entries := h.entries.erase (Blank.trim line) ++ [Blank.trim line] } hl] at hadd
  dsimp only at hadd
  rw [hp] at hadd
  dsimp only at hadd
  split at hadd
  · rename_i fs' hw
    simp only [Prod.mk.injEq, true_and] at hadd
    obtain ⟨rfl, rfl⟩ := hadd
    right
    split at hw
    · -- the whole file is rewritten
      rw [Files.write_read (write_of_mapError hw)]
      rfl
    · -- the line is appended: it was no entry, and no entry was dropped
      rename_i hmd
      simp only [Bool.or_eq_true, List.contains_iff_mem, decide_eq_true_eq, not_or, not_lt] at hmd
      have hE : (h.entries.erase (Blank.trim line) ++ [Blank.trim line]).rtake h.limit =
          h.entries ++ [Blank.trim line] := by
        rw [List.erase_of_not_mem hmd.1] at hmd ⊢
        exact rtake_of_length_le hmd.2
      rw [Files.write_read (write_of_mapError hw), if_pos rfl, hs.found h₀]
      show _ = Except.ok (fileText ((h.entries.erase _ ++ _).rtake h.limit))
      rw [hE, fileText_concat]
  · cases hadd

theorem splitOn_fileText {entries : List String} (h : ∀ x ∈ entries, '\n' ∉ x.toList) :
    (fileText entries).toList.splitOn '\n' = entries.map String.toList ++ [[]] := by
  induction entries with
  | nil => simp [fileText]
  | cons x xs ih =>
    have hx : (fileText (x :: xs)).toList = x.toList ++ '\n' :: (fileText xs).toList := by
      simp [fileText]
    rw [hx, List.splitOn_append_cons_self_of_not_mem (h x (by simp)),
      ih fun y hy => h y (by simp [hy])]
    rfl

theorem fileLines_go {entries : List String} (h : ∀ x ∈ entries, x.utf8ByteSize < maxLine) :
    fileLines.go (entries ++ [""]) = (entries, false) := by
  induction entries with
  | nil => rfl
  | cons x xs ih =>
    have hx := h x List.mem_cons_self
    rw [List.cons_append, fileLines.go, if_neg (by omega),
      ih fun y hy => h y (List.mem_cons_of_mem _ hy)]
    simp

theorem fileLines_fileText {entries : List String}
    (h : ∀ x ∈ entries, '\n' ∉ x.toList ∧ x.utf8ByteSize < maxLine) :
    fileLines (fileText entries) = (entries, false) := by
  have hlines : ((fileText entries).toList.splitOn '\n').map String.ofList = entries ++ [""] := by
    rw [splitOn_fileText fun x hx => (h x hx).1]
    simp [Function.comp_def]
  rw [fileLines, hlines, fileLines_go fun x hx => (h x hx).2]

theorem load_fileText {h : History} {fs : Files} {p : String} {entries : List String}
    (hp : h.path = some p) (hr : fs.read p = .ok (fileText entries))
    (hE : ∀ x ∈ entries,
      x ≠ "" ∧ Blank.trim x = x ∧ '\n' ∉ x.toList ∧ x.utf8ByteSize < maxLine)
    (hlen : entries.length ≤ h.limit) :
    h.load fs = (.ok (), { h with entries := entries }) := by
  have hkeep : (entries.map Blank.trim).filter (!·.isEmpty) = entries := by
    rw [List.map_congr_left fun x hx => (hE x hx).2.1, List.map_id', List.filter_eq_self]
    intro x hx
    simpa [String.isEmpty_iff] using (hE x hx).1
  unfold load
  rw [hp]
  dsimp only
  rw [Files.stat_of_read hr]
  dsimp only
  rw [hr]
  dsimp only
  rw [fileLines_fileText fun x hx => (hE x hx).2.2, hkeep]
  simp [trim, hlen]

theorem load_absent {h : History} {fs : Files} {p : String} {e : PathError} (hp : h.path = some p)
    (hs : fs.stat "open" p = .error e) (he : e.reason = .notExist) : h.load fs = (.ok (), h) := by
  unfold load
  rw [hp]
  dsimp only
  rw [hs]
  dsimp only
  rw [if_pos (by rw [he]; rfl)]

section Entries

variable {limit : Nat} {lines : List String}

theorem mem_recent {x : String} (hx : x ∈ recent limit lines) :
    x ≠ "" ∧ Blank.trim x = x := by
  have hk : x ∈ kept lines := List.mem_dedup.1 (List.mem_of_mem_drop hx)
  obtain ⟨hmap, hne⟩ := List.mem_filter.1 hk
  obtain ⟨y, -, rfl⟩ := List.mem_map.1 hmap
  exact ⟨by simpa using hne, Blank.trim_trim y⟩

theorem nodup_recent : (recent limit lines).Nodup :=
  (List.nodup_dedup _).sublist (List.drop_sublist _ _)

theorem length_recent_le : (recent limit lines).length ≤ limit := by
  simp only [recent, List.rtake, List.length_drop]
  omega

end Entries

/-- The histories and trees reached from `h₀` and `fs₀` by adding the lines in turn, every
addition succeeding. -/
inductive Adds (h₀ : History) (fs₀ : Files) : List String → History → Files → Prop
  | start : Adds h₀ fs₀ [] h₀ fs₀
  | add {lines : List String} {h h' : History} {fs fs' : Files} (line : String) :
      Adds h₀ fs₀ lines h fs → h.add line fs = (.ok (), h', fs') →
      Adds h₀ fs₀ (lines ++ [line]) h' fs'

theorem Adds.stored {h₀ h : History} {fs₀ fs : Files} {lines : List String} {p : String}
    (run : Adds h₀ fs₀ lines h fs) (hp : h₀.path = some p) (hl : 0 < h₀.limit)
    (he : h₀.entries = []) (h₀r : (fs₀.read p).toOption = none) :
    h = { h₀ with entries := recent h₀.limit lines } ∧ Stored fs₀ p h.entries fs := by
  induction run with
  | start =>
    refine ⟨?_, .inl ⟨he, rfl⟩⟩
    cases h₀
    simp_all [recent, kept]
  | @add ls h h' fs fs' line _ hadd ih =>
    obtain ⟨rfl, hs⟩ := ih
    have hstep := add_recent { h₀ with entries := recent h₀.limit ls } hl rfl line fs
    rw [hadd] at hstep
    exact ⟨hstep, add_stored hadd hp hl h₀r hs⟩

set_option maxRecDepth 100000 in
/-- A history kept in a file that is missing at first, after any lines were added with every
write succeeding: its entries are the lines added, trimmed, blank ones left out, each once at
the place of its latest addition, the newest thousand of them; they are not blank, trimmed,
distinct and within the limit; the file holds them one per line, or nothing was written yet;
and loading the file into a new history gives them back when no entry holds a line feed and
each is shorter than the longest line loading reads. -/
theorem added_history_persists {p : String} {fs₀ fs : Files} {lines : List String} {h : History}
    (absent : ∃ e, fs₀.stat "open" p = .error e ∧ e.reason = .notExist)
    (run : Adds { path := some p } fs₀ lines h fs) :
    h = { path := some p, entries := recent 1000 lines } ∧
      (∀ x ∈ h.entries, x ≠ "" ∧ Blank.trim x = x) ∧ h.entries.Nodup ∧
      h.entries.length ≤ h.limit ∧ Stored fs₀ p h.entries fs ∧
      ((∀ x ∈ h.entries, '\n' ∉ x.toList ∧ x.utf8ByteSize < maxLine) →
        ({ path := some p } : History).load fs = (.ok (), h)) := by
  obtain ⟨e, hs₀, he⟩ := absent
  have h₀r : (fs₀.read p).toOption = none := by
    simp only [Files.read, hs₀]
    rfl
  obtain ⟨hh, hs⟩ := run.stored rfl (Nat.zero_lt_succ _) rfl h₀r
  replace hh : h = { path := some p, entries := recent 1000 lines } := hh
  subst hh
  refine ⟨rfl, fun x hx => mem_recent hx, nodup_recent, length_recent_le, hs, fun hE => ?_⟩
  rcases hs with ⟨hnil, rfl⟩ | hr
  · -- nothing was added: the file is still missing
    rw [load_absent rfl hs₀ he]
    simp only at hnil
    rw [hnil]
  · exact load_fileText rfl hr (fun x hx => ⟨(mem_recent hx).1, (mem_recent hx).2, hE x hx⟩)
      length_recent_le

/-- Adding "a", " b " and "a" again to a history kept at a missing file: the second "a" moves
to the end, so the entries are "b" then "a" and the file is rewritten to hold them, where the
first two additions appended to it; loading the file gives the entries back. -/
theorem moved_line_history_reloads :
    (∃ e, ({} : Files).stat "open" "h" = .error e ∧ e.reason = .notExist) ∧
      Adds { path := some "h" } {} ["a", " b ", "a"] { path := some "h", entries := ["b", "a"] }
        (((({} : Files).set "h" (.file "a\n")).set "h" (.file "a\nb\n")).set "h"
          (.file "b\na\n")) ∧
      ({ path := some "h" } : History).load
          (((({} : Files).set "h" (.file "a\n")).set "h" (.file "a\nb\n")).set "h"
            (.file "b\na\n")) =
        (.ok (), { path := some "h", entries := ["b", "a"] }) := by
  have hres₀ : ({} : Files).resolve "h" = .error (.missing "h") := by
    rw [Files.resolve, show "h".startsWith "/" = false by decide +kernel,
      show Path.elements "h" = ["h"] by decide +kernel, if_neg Bool.false_ne_true,
      Files.walk_missing (by decide +kernel) (by decide +kernel) rfl]
    rfl
  have htar : ({} : Files).target "h" = .ok "h" := by
    rw [Files.target, show "h".startsWith "/" = false by decide +kernel,
      show Path.elements "h" = ["h"] by decide +kernel, if_neg Bool.false_ne_true,
      Files.walk_missing (by decide +kernel) (by decide +kernel) rfl]
    show Except.ok (Path.clean (Files.stepInto "" "h")) = _
    exact congrArg Except.ok (by decide +kernel)
  -- once "h" holds a file, the name resolves to itself
  have hstep : Files.stepInto "" "h" = "h" := by decide +kernel
  have hres : ∀ (fs : Files) (t : String), fs.node? "h" = some (.file t) →
      fs.resolve "h" = .ok "h" := by
    intro fs t hf
    rw [← hstep] at hf
    rw [Files.resolve, show "h".startsWith "/" = false by decide +kernel,
      show Path.elements "h" = ["h"] by decide +kernel, if_neg Bool.false_ne_true,
      Files.walk_file (by decide +kernel) (by decide +kernel) hf, if_pos List.isEmpty_nil,
      Files.walk.eq_1]
    exact congrArg Except.ok (by decide +kernel)
  have hset : ∀ (fs : Files) (t : String), (fs.set "h" (.file t)).node? "h" = some (.file t) := by
    intro fs t
    rw [Files.node?_set, if_pos (rfl : Path.clean "h" = Path.clean "h")]
  have hst : ({} : Files).stat "open" "h" = .error ⟨"open", "h", .notExist⟩ := by
    rw [Files.stat, hres₀]
    rfl
  have hw : ({} : Files).write "h" "a\n" true = .ok (({} : Files).set "h" (.file "a\n")) := by
    rw [Files.write, hst]
    dsimp only
    rw [htar]
  -- the first addition makes the file, the second appends to it
  have hadd₁ : ({ path := some "h" } : History).add "a" {} =
      (.ok (), { path := some "h", entries := ["a"] }, ({} : Files).set "h" (.file "a\n")) := by
    unfold History.add
    rw [show Blank.trim "a" = "a" by decide +kernel]
    simp [History.trim, hw]
  have hadd₂ : ({ path := some "h", entries := ["a"] } : History).add " b "
        (({} : Files).set "h" (.file "a\n")) =
      (.ok (), { path := some "h", entries := ["a", "b"] },
        (({} : Files).set "h" (.file "a\n")).set "h" (.file "a\nb\n")) := by
    have hw := Files.write_file (hres _ _ (hset {} "a\n")) (hset {} "a\n") "b\n" true
    unfold History.add
    rw [show Blank.trim " b " = "b" by decide +kernel]
    simp [History.trim, hw]
  -- the third moves "a" to the end, so the whole file is rewritten
  have hadd₃ : ({ path := some "h", entries := ["a", "b"] } : History).add "a"
        ((({} : Files).set "h" (.file "a\n")).set "h" (.file "a\nb\n")) =
      (.ok (), { path := some "h", entries := ["b", "a"] },
        ((({} : Files).set "h" (.file "a\n")).set "h" (.file "a\nb\n")).set "h"
          (.file "b\na\n")) := by
    have hw := Files.write_file (hres _ _ (hset (({} : Files).set "h" (.file "a\n")) "a\nb\n"))
      (hset (({} : Files).set "h" (.file "a\n")) "a\nb\n") "b\na\n" false
    unfold History.add
    rw [show Blank.trim "a" = "a" by decide +kernel]
    simp [History.trim, History.save, hw]
  have absent : ∃ e, ({} : Files).stat "open" "h" = .error e ∧ e.reason = .notExist :=
    ⟨_, hst, rfl⟩
  have run := Adds.add "a" (Adds.add " b " (Adds.add "a" Adds.start hadd₁) hadd₂) hadd₃
  exact ⟨absent, run, (added_history_persists absent run).2.2.2.2.2 (by decide +kernel)⟩

end History

end LiveArith
