import LiveArith.Files

/-!
Reading back what was written. After a successful write the path names a file holding the text
written, or, for an append, the old text followed by it. Replacing or appending to a file changes no
node the walk along the path looks at, apart from the file's text, which the walk never reads.
-/

set_option autoImplicit false

namespace LiveArith

namespace Path

theorem splitSlash_eq_splitOn (cs : List Char) : splitSlash cs = cs.splitOn '/' := by
  induction cs with
  | nil => rfl
  | cons c cs ih =>
    obtain ⟨r, rs, hr⟩ : ∃ r rs, cs.splitOn '/' = r :: rs := by
      cases h : cs.splitOn '/' with
      | nil => exact absurd h (List.splitOn_ne_nil _ _)
      | cons r rs => exact ⟨r, rs, rfl⟩
    rw [List.splitOn_cons_eq_if_modifyHead, splitSlash, ih, hr]
    by_cases hc : c = '/' <;> simp [hc]

theorem elements_eq (p : String) : elements p = (p.toList.splitOn '/').map String.ofList := by
  rw [elements, splitSlash_eq_splitOn]

theorem slash_not_mem_splitSlash (cs : List Char) : ∀ q ∈ splitSlash cs, '/' ∉ q := by
  induction cs with
  | nil => simp [splitSlash]
  | cons c cs ih =>
    rw [splitSlash_eq_splitOn, List.splitOn_cons_eq_if_modifyHead, ← splitSlash_eq_splitOn]
    obtain ⟨r, rs, hr⟩ : ∃ r rs, splitSlash cs = r :: rs := by
      cases h : splitSlash cs with
      | nil => exact absurd (splitSlash_eq_splitOn cs ▸ h) (List.splitOn_ne_nil _ _)
      | cons r rs => exact ⟨r, rs, rfl⟩
    rw [hr] at ih ⊢
    by_cases hc : c = '/'
    · intro q hq
      rw [if_pos (by simp [hc])] at hq
      rcases List.mem_cons.1 hq with rfl | hq
      · simp
      · exact ih q hq
    · intro q hq
      rw [if_neg (by simpa using hc)] at hq
      rcases List.mem_cons.1 hq with rfl | hq
      · simpa [Ne.symm hc] using ih r (List.mem_cons_self ..)
      · exact ih q (List.mem_cons_of_mem _ hq)

theorem slash_not_mem_of_mem_elements {p x : String} (h : x ∈ elements p) : '/' ∉ x.toList := by
  obtain ⟨cs, hcs, rfl⟩ := List.mem_map.1 h
  simpa using slash_not_mem_splitSlash _ cs hcs

theorem map_ofList_toList (xs : List String) : xs.map (String.ofList ∘ String.toList) = xs := by
  simp

theorem elements_intercalate {xs : List String} (hxs : xs ≠ [])
    (h : ∀ x ∈ xs, '/' ∉ x.toList) : elements ("/".intercalate xs) = xs := by
  rw [elements_eq, String.toList_intercalate, show "/".toList = ['/'] from rfl,
    List.splitOn_intercalate '/' (by simpa using h) (by simpa using hxs), List.map_map,
    map_ofList_toList]

def Plain (x : String) : Prop := x ≠ "" ∧ x ≠ "." ∧ x ≠ ".." ∧ '/' ∉ x.toList

def Kept (rooted : Bool) (kept : List String) : Prop :=
  ∃ names dots, kept = names ++ dots ∧ (∀ x ∈ names, Plain x) ∧
    (∀ x ∈ dots, x = "..") ∧ (rooted = true → dots = [])

theorem Kept.nil (rooted : Bool) : Kept rooted [] :=
  ⟨[], [], rfl, by simp, by simp, fun _ => rfl⟩

section Settle

variable {rooted : Bool}

theorem settle_append (xs ys kept : List String) :
    settle rooted (xs ++ ys) kept = settle rooted ys (settle rooted xs kept) := by
  fun_induction settle rooted xs kept <;> simp_all [settle]

theorem settle_plain {xs : List String} (h : ∀ x ∈ xs, Plain x) (kept : List String) :
    settle rooted xs kept = xs.reverse ++ kept := by
  induction xs generalizing kept with
  | nil => rfl
  | cons x xs ih =>
    obtain ⟨hx, hdot, hdots, -⟩ := h x (List.mem_cons_self ..)
    have hskip : (x.isEmpty || x == ".") = false := by simp [hx, hdot]
    simp only [settle]
    rw [if_neg (by simp [hskip]), if_neg (by simpa using hdots),
      ih (fun y hy => h y (List.mem_cons_of_mem _ hy))]
    simp

theorem settle_dots {xs kept : List String} (hr : rooted = false) (h : ∀ x ∈ xs, x = "..")
    (hk : ∀ x ∈ kept, x = "..") : settle rooted xs kept = xs.reverse ++ kept := by
  induction xs generalizing kept with
  | nil => rfl
  | cons x xs ih =>
    obtain rfl := h x (List.mem_cons_self ..)
    have hrest : ∀ y ∈ xs, y = ".." := fun y hy => h y (List.mem_cons_of_mem _ hy)
    have stacked : ∀ y ∈ ".." :: kept, y = ".." := by simpa using hk
    simp only [settle]
    rw [if_neg (by decide), if_pos (by decide)]
    cases kept with
    | nil => simpa [hr] using ih hrest stacked
    | cons k ks =>
      obtain rfl := hk k (List.mem_cons_self ..)
      simpa using ih hrest stacked

theorem settle_kept {es kept : List String} (hk : Kept rooted kept)
    (hes : ∀ e ∈ es, '/' ∉ e.toList) : Kept rooted (settle rooted es kept) := by
  induction es generalizing kept with
  | nil => exact hk
  | cons e es ih =>
    have hrest : ∀ x ∈ es, '/' ∉ x.toList := fun x hx => hes x (List.mem_cons_of_mem _ hx)
    obtain ⟨names, dots, rfl, hn, hd, hr⟩ := hk
    simp only [settle]
    split
    · exact ih ⟨names, dots, rfl, hn, hd, hr⟩ hrest
    rename_i hskip
    split
    · -- a `..` drops the newest name, or stacks on a run of `..`, or goes at the root
      rename_i hdot
      have he : e = ".." := by simpa using hdot
      cases names with
      | cons n ns =>
        have hn' : n ≠ ".." := (hn n (List.mem_cons_self ..)).2.2.1
        simp only [List.cons_append]
        rw [if_pos (by simpa using hn')]
        exact ih ⟨ns, dots, rfl, fun x hx => hn x (List.mem_cons_of_mem _ hx), hd, hr⟩ hrest
      | nil =>
        cases dots with
        | nil =>
          cases rooted
          · exact ih ⟨[], [e], rfl, by simp, by simpa using he, by simp⟩ hrest
          · exact ih (Kept.nil true) hrest
        | cons d ds =>
          have hd' : d = ".." := hd d (List.mem_cons_self ..)
          have hroot : rooted = false := by
            cases rooted
            · rfl
            · exact absurd (hr rfl) (List.cons_ne_nil _ _)
          simp only [List.nil_append]
          rw [if_neg (by simp [hd'])]
          refine ih ⟨[], e :: d :: ds, rfl, by simp, ?_, by simp [hroot]⟩ hrest
          intro x hx
          rcases List.mem_cons.1 hx with rfl | hx
          · exact he
          · exact hd x hx
    · rename_i hdot
      have hplain : Plain e := by
        refine ⟨?_, ?_, by simpa using hdot, hes e (List.mem_cons_self ..)⟩ <;>
          · intro h; simp [h] at hskip
      refine ih ⟨e :: names, dots, rfl, ?_, hd, hr⟩ hrest
      intro x hx
      rcases List.mem_cons.1 hx with rfl | hx
      · exact hplain
      · exact hn x hx

theorem settle_reverse {kept : List String} (h : Kept rooted kept) :
    settle rooted kept.reverse [] = kept := by
  obtain ⟨names, dots, rfl, hn, hd, hr⟩ := h
  have hrev : dots.reverse = dots := by
    rw [List.eq_replicate_iff.2 ⟨rfl, hd⟩, List.reverse_replicate]
  have hdots : settle rooted dots [] = dots := by
    cases rooted
    · rw [settle_dots rfl hd (by simp), hrev, List.append_nil]
    · rw [hr rfl]; rfl
  rw [List.reverse_append, settle_append, hrev, hdots,
    settle_plain (fun x hx => hn x (List.mem_reverse.1 hx)), List.reverse_reverse]

end Settle

def spell (rooted : Bool) (kept : List String) : String :=
  let body := "/".intercalate kept.reverse
  if rooted then "/" ++ body else if body.isEmpty then "." else body

theorem clean_eq_spell (p : String) :
    clean p = spell (p.startsWith "/") (settle (p.startsWith "/") (elements p) []) := rfl

theorem spell_clean {rooted : Bool} {kept : List String} (h : Kept rooted kept) :
    clean (spell rooted kept) = spell rooted kept := by
  have hslash : ∀ x ∈ kept.reverse, '/' ∉ x.toList := by
    obtain ⟨names, dots, rfl, hn, hd, -⟩ := h
    intro x hx
    rcases List.mem_append.1 (List.mem_reverse.1 hx) with hx | hx
    · exact (hn x hx).2.2.2
    · rw [hd x hx]; decide
  rw [clean_eq_spell]
  cases rooted with
  | true =>
    -- a rooted path spells as a slash, then its names joined by slashes
    have hroot : (spell true kept).startsWith "/" = true := by
      simp [spell, String.startsWith_string_iff]
    have helts : elements (spell true kept) = "" :: (if kept = [] then [""] else kept.reverse) := by
      rw [spell, if_pos rfl, elements_eq, String.toList_append, show "/".toList = ['/'] from rfl,
        List.singleton_append, List.splitOn_cons_eq_if_modifyHead, if_pos (by decide),
        List.map_cons, show String.ofList [] = "" from rfl]
      by_cases hk : kept = []
      · subst hk; rfl
      · rw [if_neg hk, String.toList_intercalate, show "/".toList = ['/'] from rfl,
          List.splitOn_intercalate '/' (by simpa using hslash) (by simpa using hk), List.map_map,
          map_ofList_toList]
    rw [hroot, helts]
    simp only [settle]
    rw [if_pos (by decide)]
    by_cases hk : kept = []
    · subst hk; rfl
    · rw [if_neg hk, settle_reverse h]
  | false =>
    by_cases hk : kept = []
    · -- the empty unrooted path spells as `.`, whose one element settles to nothing
      subst hk
      have hdot : spell false [] = "." := rfl
      have hroot : ".".startsWith "/" = false := by simp [String.startsWith_string_eq_false_iff]
      rw [hdot, hroot, show elements "." = ["."] from rfl]
      rfl
    -- an unrooted path spells as its elements joined by slashes, the first a name or `..`
    obtain ⟨x, xs, hx⟩ : ∃ x xs, kept.reverse = x :: xs := by
      cases h' : kept.reverse with
      | nil => exact absurd (List.reverse_eq_nil_iff.1 h') hk
      | cons x xs => exact ⟨x, xs, rfl⟩
    have hxne : x ≠ "" := by
      obtain ⟨names, dots, rfl, hn, hd, -⟩ := h
      have : x ∈ (names ++ dots).reverse := by rw [hx]; exact List.mem_cons_self ..
      rcases List.mem_append.1 (List.mem_reverse.1 this) with hm | hm
      · exact (hn x hm).1
      · rw [hd x hm]; decide
    have hbody : ("/".intercalate kept.reverse).isEmpty = false := by
      rw [Bool.eq_false_iff, ne_eq, String.isEmpty_iff, hx]
      intro h0
      have := congrArg String.toList h0
      rw [String.toList_intercalate] at this
      cases xs <;> simp_all
    have hspell : spell false kept = "/".intercalate kept.reverse := by
      simp [spell, hbody]
    have hroot : (spell false kept).startsWith "/" = false := by
      rw [hspell, String.startsWith_string_eq_false_iff, String.toList_intercalate, hx]
      have hxs : '/' ∉ x.toList := hslash x (by rw [hx]; exact List.mem_cons_self ..)
      obtain ⟨c, cs, hc⟩ : ∃ c cs, x.toList = c :: cs := by
        cases h' : x.toList with
        | nil => exact absurd (String.toList_inj.1 (by simpa using h')) hxne
        | cons c cs => exact ⟨c, cs, rfl⟩
      have hcne : c ≠ '/' := by intro hc'; rw [hc, hc'] at hxs; simp at hxs
      cases xs <;> simp [hc, Ne.symm hcne, show "/".toList = ['/'] from rfl]
    rw [hroot, hspell, elements_intercalate (by simp [hk]) hslash, settle_reverse h]
    exact hspell

theorem clean_clean (p : String) : clean (clean p) = clean p := by
  rw [clean_eq_spell p]
  exact spell_clean (settle_kept (Kept.nil _) fun _ => slash_not_mem_of_mem_elements)

end Path

namespace Files

def stepInto (dest e : String) : String :=
  if dest.isEmpty then e else if dest == "/" then "/" ++ e else dest ++ "/" ++ e

section Step

variable {fs : Files} {c : Bool} {hops : Nat} {dest e : String} {es : List String}

theorem walk_missing (hskip : ¬(e.isEmpty || e == ".") = true) (hdot : ¬(e == "..") = true)
    (h : fs.node? (stepInto dest e) = none) :
    fs.walk c hops dest (e :: es) =
      if (c && es.isEmpty) = true then .ok (Path.clean (stepInto dest e))
      else .error (.missing (stepInto dest e)) := by
  rw [walk.eq_2, if_neg hskip, if_neg hdot]
  simp only [stepInto] at h ⊢
  simp only [h]

theorem walk_dir (hskip : ¬(e.isEmpty || e == ".") = true) (hdot : ¬(e == "..") = true)
    (h : fs.node? (stepInto dest e) = some .dir) :
    fs.walk c hops dest (e :: es) = fs.walk c hops (stepInto dest e) es := by
  rw [walk.eq_2, if_neg hskip, if_neg hdot]
  simp only [stepInto] at h ⊢
  simp only [h]

theorem walk_link (hskip : ¬(e.isEmpty || e == ".") = true) (hdot : ¬(e == "..") = true)
    {target : String} (h : fs.node? (stepInto dest e) = some (.link target)) :
    fs.walk c (hops + 1) dest (e :: es) =
      if target.startsWith "/" = true then fs.walk c hops "/" (Path.elements target ++ es)
      else fs.walk c hops (linkBase (stepInto dest e)) (Path.elements target ++ es) := by
  rw [walk.eq_2, if_neg hskip, if_neg hdot]
  simp only [stepInto] at h ⊢
  simp only [h]

theorem walk_file (hskip : ¬(e.isEmpty || e == ".") = true) (hdot : ¬(e == "..") = true)
    {text : String} (h : fs.node? (stepInto dest e) = some (.file text)) :
    fs.walk c hops dest (e :: es) =
      if es.isEmpty = true then fs.walk c hops (stepInto dest e) es else .error .notDirectory := by
  rw [walk.eq_2, if_neg hskip, if_neg hdot]
  simp only [stepInto] at h ⊢
  simp only [h]

theorem walk_loop (hskip : ¬(e.isEmpty || e == ".") = true) (hdot : ¬(e == "..") = true)
    {target : String} (h : fs.node? (stepInto dest e) = some (.link target)) :
    fs.walk c 0 dest (e :: es) = .error .loop := by
  rw [walk.eq_2, if_neg hskip, if_neg hdot]
  simp only [stepInto] at h ⊢
  simp only [h]

end Step

def shape : PathNode → PathNode
  | .file _ => .file ""
  | n => n

section Congr

variable {fs fs' : Files} (h : ∀ k, (fs'.node? k).map shape = (fs.node? k).map shape) {k : String}
include h

theorem node?_none_congr (hk : fs.node? k = none) : fs'.node? k = none := by
  simpa [hk] using h k

theorem node?_dir_congr (hk : fs.node? k = some .dir) : fs'.node? k = some .dir := by
  obtain ⟨n, hn, hs⟩ := Option.map_eq_some_iff.1 (hk ▸ h k)
  cases n <;> simp_all [shape]

theorem node?_link_congr {t : String} (hk : fs.node? k = some (.link t)) :
    fs'.node? k = some (.link t) := by
  obtain ⟨n, hn, hs⟩ := Option.map_eq_some_iff.1 (hk ▸ h k)
  cases n <;> simp_all [shape]

theorem node?_file_congr {t : String} (hk : fs.node? k = some (.file t)) :
    ∃ t', fs'.node? k = some (.file t') := by
  obtain ⟨n, hn, hs⟩ := Option.map_eq_some_iff.1 (hk ▸ h k)
  cases n <;> simp_all [shape]

theorem walk_congr (c : Bool) (hops : Nat) (dest : String) (es : List String) :
    fs'.walk c hops dest es = fs.walk c hops dest es := by
  fun_induction fs.walk c hops dest es with
  | case1 hops dest => rw [walk.eq_1]
  | case2 hops dest e es hskip ih => rw [walk.eq_2, if_pos hskip, ih]
  | case3 hops dest e es hskip hdot ih => rw [walk.eq_2, if_neg hskip, if_pos hdot, ih]
  | case4 hops dest e es hskip hdot d hd hc =>
    rw [walk_missing hskip hdot (node?_none_congr h hd), if_pos hc]; rfl
  | case5 hops dest e es hskip hdot d hd hc =>
    rw [walk_missing hskip hdot (node?_none_congr h hd), if_neg hc]; rfl
  | case6 hops dest e es hskip hdot d hd ih =>
    rw [walk_dir hskip hdot (node?_dir_congr h hd)]; exact ih
  | case7 hops dest e es hskip hdot d t hd hes ih =>
    obtain ⟨t', ht'⟩ := node?_file_congr h hd
    rw [walk_file hskip hdot ht', if_pos hes]; exact ih
  | case8 hops dest e es hskip hdot d t hd hes =>
    obtain ⟨t', ht'⟩ := node?_file_congr h hd
    rw [walk_file hskip hdot ht', if_neg hes]
  | case9 dest e es hskip hdot d t hd =>
    rw [walk_loop hskip hdot (node?_link_congr h hd)]
  | case10 dest e es hskip hdot d t hd hops more ht ih =>
    rw [walk_link hskip hdot (node?_link_congr h hd), if_pos ht]; exact ih
  | case11 dest e es hskip hdot d t hd hops more ht ih =>
    rw [walk_link hskip hdot (node?_link_congr h hd), if_neg ht]; exact ih

end Congr

theorem lookup_filter_key (l : List (String × PathNode)) (key a : String) :
    (l.filter (·.1 != key)).lookup a = if a = key then none else l.lookup a := by
  induction l with
  | nil => simp
  | cons x l ih =>
    obtain ⟨k, v⟩ := x
    by_cases hk : k = key
    · -- the dropped pair is the one the key would find
      subst hk
      rw [List.filter_cons, if_neg (by simp), ih]
      by_cases ha : a = k
      · simp [ha]
      · simp [ha, List.lookup_cons, (beq_eq_false_iff_ne).2 ha]
    · rw [List.filter_cons, if_pos (by simpa using hk), List.lookup_cons, List.lookup_cons, ih]
      by_cases ha : a = k
      · subst ha; simp [hk]
      · simp [(beq_eq_false_iff_ne).2 ha]

theorem node?_set (fs : Files) (p k : String) (n : PathNode) :
    (fs.set p n).node? k = if Path.clean k = Path.clean p then some n else fs.node? k := by
  simp only [node?, set, List.lookup_append, lookup_filter_key, List.lookup_cons]
  by_cases hk : Path.clean k = Path.clean p
  · simp [hk]
  · simp [hk, (beq_eq_false_iff_ne).2 hk]

theorem node?_of_clean {fs : Files} {k k' : String} (h : Path.clean k = Path.clean k') :
    fs.node? k = fs.node? k' := by
  simp only [node?, h]

theorem node?_set_of_none {fs : Files} {r k : String} {n m : PathNode} (hr : fs.node? r = none)
    (hk : fs.node? k = some n) : (fs.set r m).node? k = some n := by
  rw [node?_set, if_neg]
  · exact hk
  · intro hc
    rw [node?_of_clean hc, hr] at hk
    cases hk

theorem walk_create {fs : Files} {hops : Nat} {dest r : String} {es : List String} (t : String)
    (h : fs.walk true hops dest es = .ok r)
    (hne : fs.walk false hops dest es ≠ .ok r ∨ fs.node? r = none) :
    fs.node? r = none ∧ (fs.set r (.file t)).walk false hops dest es = .ok r := by
  fun_induction fs.walk true hops dest es with
  | case1 hops dest =>
    have hw : fs.walk false hops dest [] = .ok r := by rw [walk.eq_1]; exact h
    rcases hne with hne | hr
    · exact absurd hw hne
    · exact ⟨hr, by rw [walk.eq_1]; exact h⟩
  | case2 hops dest e es hskip ih =>
    rw [walk.eq_2, if_pos hskip] at hne
    obtain ⟨hr, hw⟩ := ih h hne
    exact ⟨hr, by rw [walk.eq_2, if_pos hskip, hw]⟩
  | case3 hops dest e es hskip hdot ih =>
    rw [walk.eq_2, if_neg hskip, if_pos hdot] at hne
    obtain ⟨hr, hw⟩ := ih h hne
    exact ⟨hr, by rw [walk.eq_2, if_neg hskip, if_pos hdot, hw]⟩
  | case4 hops dest e es hskip hdot d hd hc =>
    -- the missing last element: the walk ends at its clean path, where the file goes
    cases h
    have hes : es = [] := by simpa using hc
    have hr : fs.node? (Path.clean d) = none := (node?_of_clean (Path.clean_clean d)).trans hd
    have hf : (fs.set (Path.clean d) (.file t)).node? (stepInto dest e) = some (.file t) := by
      rw [node?_set, if_pos (show Path.clean (stepInto dest e) = Path.clean (Path.clean d) from
        (Path.clean_clean d).symm)]
    refine ⟨hr, ?_⟩
    rw [walk_file hskip hdot hf, if_pos (by simp [hes]), hes, walk.eq_1]
    rfl
  | case5 hops dest e es hskip hdot d hd hc => cases h
  | case6 hops dest e es hskip hdot d hd ih =>
    rw [walk_dir hskip hdot hd] at hne
    obtain ⟨hr, hw⟩ := ih h hne
    exact ⟨hr, by rw [walk_dir hskip hdot (node?_set_of_none hr hd)]; exact hw⟩
  | case7 hops dest e es hskip hdot d text hd hes ih =>
    rw [walk_file hskip hdot hd, if_pos hes] at hne
    obtain ⟨hr, hw⟩ := ih h hne
    exact ⟨hr, by rw [walk_file hskip hdot (node?_set_of_none hr hd), if_pos hes]; exact hw⟩
  | case8 hops dest e es hskip hdot d text hd hes => cases h
  | case9 dest e es hskip hdot d target hd => cases h
  | case10 dest e es hskip hdot d target hd hops more ht ih =>
    rw [walk_link hskip hdot hd, if_pos ht] at hne
    obtain ⟨hr, hw⟩ := ih h hne
    exact ⟨hr, by rw [walk_link hskip hdot (node?_set_of_none hr hd), if_pos ht]; exact hw⟩
  | case11 dest e es hskip hdot d target hd hops more ht ih =>
    rw [walk_link hskip hdot hd, if_neg ht] at hne
    obtain ⟨hr, hw⟩ := ih h hne
    exact ⟨hr, by rw [walk_link hskip hdot (node?_set_of_none hr hd), if_neg ht]; exact hw⟩

section MapError

variable {ε ε' α : Type} (f : ε → ε')

@[simp] theorem mapError_ok (a : α) : (Except.ok a : Except ε α).mapError f = .ok a := rfl

@[simp] theorem mapError_error (e : ε) :
    (Except.error e : Except ε α).mapError f = .error (f e) := rfl

end MapError

theorem read_of_resolve {fs : Files} {p r t : String} (hr : fs.resolve p = .ok r)
    (hf : fs.node? r = some (.file t)) : fs.read p = .ok t := by
  simp only [read, stat, hr, mapError_ok, bind, Except.bind, hf]

theorem stat_of_read {fs : Files} {p t : String} (h : fs.read p = .ok t) :
    fs.stat "open" p = .ok (.file t) := by
  unfold read at h
  split at h
  · cases h
  · rename_i t' hs
    cases h
    exact hs
  · cases h

theorem shape_set_file {fs : Files} {r old : String} (hf : fs.node? r = some (.file old))
    (t : String) : ∀ k, ((fs.set r (.file t)).node? k).map shape = (fs.node? k).map shape := by
  intro k
  rw [node?_set]
  split
  · rename_i hk
    rw [node?_of_clean hk, hf]
    rfl
  · rfl

theorem write_read {fs fs' : Files} {p text : String} {append : Bool}
    (h : fs.write p text append = .ok fs') :
    fs'.read p = .ok ((if append then (fs.read p).toOption.getD "" else "") ++ text) := by
  unfold write at h
  cases hs : fs.stat "open" p with
  | error e =>
    -- nothing to open: the file is made where the creating walk ends
    rw [hs] at h
    cases ht : fs.target p with
    | error _ => simp [ht] at h
    | ok r =>
      simp only [ht, Except.ok.injEq] at h
      subst h
      have hne : fs.resolve p ≠ .ok r ∨ fs.node? r = none := by
        by_cases hr : fs.resolve p = .ok r
        · right
          cases hn : fs.node? r with
          | none => rfl
          | some n => simp [stat, hr, bind, Except.bind, hn] at hs
        · exact .inl hr
      obtain ⟨-, hw⟩ := walk_create text ht hne
      have hread : (fs.read p).toOption = none := by simp only [read, hs]; rfl
      rw [read_of_resolve hw (by rw [node?_set, if_pos rfl]), hread]
      cases append <;> rfl
  | ok n =>
    cases n with
    | dir => simp [hs] at h
    | link _ => simp [hs] at h
    | file old =>
      -- an existing file: the walk to it sees the same nodes after its text changes
      rw [hs] at h
      cases hr : fs.resolve p with
      | error _ => simp [hr] at h
      | ok r =>
        simp only [hr, Except.ok.injEq] at h
        subst h
        have hf : fs.node? r = some (.file old) := by
          cases hn : fs.node? r with
          | none => simp [stat, hr, bind, Except.bind, hn] at hs
          | some n => simpa [stat, hr, bind, Except.bind, hn] using hs
        have hw : (fs.set r (.file (if append then old ++ text else text))).resolve p = .ok r :=
          (walk_congr (shape_set_file hf _) ..).trans hr
        rw [read_of_resolve hw (by rw [node?_set, if_pos rfl]), read_of_resolve hr hf]
        cases append <;> rfl

theorem write_file {fs : Files} {p old : String} (hp : fs.resolve p = .ok p)
    (hf : fs.node? p = some (.file old)) (text : String) (append : Bool) :
    fs.write p text append = .ok (fs.set p (.file (if append then old ++ text else text))) := by
  have hs : fs.stat "open" p = .ok (.file old) := by
    simp only [stat, hp, mapError_ok, bind, Except.bind, hf]
  rw [write, hs]
  dsimp only
  rw [hp]

end Files

end LiveArith
