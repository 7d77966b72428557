import BlockVocabulary.FileTree
import Mathlib.Data.List.Induction
import Mathlib.Tactic.Common

/-!
Paths, places and the keys of places.

A path is cut at its slashes into names, which are followed one after the other to the place that the
path means. The key of a place spells the names on the way to it, each with a slash behind it but the
last, so the way can be read back: different places have different keys, and a key goes on after
another with a slash only if it is of a place further down.
-/

namespace BlockVocabulary

/-- A name that leads down into a directory. -/
def IsName (name : String) : Prop :=
  name ≠ "" ∧ name ≠ "." ∧ name ≠ ".." ∧ '/' ∉ name.toList

instance (name : String) : Decidable (IsName name) := inferInstanceAs (Decidable (_ ∧ _))

/-- The second key goes on after the first with a slash. -/
def Under (f k : String) : Prop := f.toList ++ ['/'] <+: k.toList

lemma isPrefixOf_slash {f k : String} : (f ++ "/").isPrefixOf k = true ↔ Under f k := by
  unfold String.isPrefixOf Under
  rw [String.startsWith_string_iff, String.toList_append]
  rfl

lemma not_under_self (f : String) : ¬Under f f := by
  intro h
  have hlength := h.length_le
  simp only [List.length_append, List.length_singleton] at hlength
  omega

/-! ### Words with a mark behind them -/

section

variable {α : Type} {c : α}

lemma prefix_of_marked {a b s t : List α} (ha : c ∉ a) (hb : c ∉ b)
    (h : a ++ c :: s <+: b ++ c :: t) : a = b ∧ s <+: t := by
  induction a generalizing b with
  | nil =>
    cases b with
    | nil => exact ⟨rfl, (List.cons_prefix_cons.mp h).2⟩
    | cons y b => exact absurd (List.cons_prefix_cons.mp h).1 (by rintro rfl; simp at hb)
  | cons x a ih =>
    cases b with
    | nil => exact absurd (List.cons_prefix_cons.mp h).1 (by rintro rfl; simp at ha)
    | cons y b =>
      obtain ⟨rfl, hrest⟩ := List.cons_prefix_cons.mp h
      rw [List.mem_cons, not_or] at ha hb
      obtain ⟨rfl, hs⟩ := ih ha.2 hb.2 hrest
      exact ⟨rfl, hs⟩

/-- As many copies stand in front of two lists without them, where one goes on after the other. -/
lemma prefix_of_replicate {l l' : List α} {m n : ℕ} (hl : c ∉ l) (hl' : c ∉ l')
    (hne : l ≠ []) (h : List.replicate m c ++ l <+: List.replicate n c ++ l') :
    m = n ∧ l <+: l' := by
  induction m generalizing n with
  | zero =>
    cases n with
    | zero => exact ⟨rfl, h⟩
    | succ n =>
      obtain ⟨x, l, rfl⟩ := List.exists_cons_of_ne_nil hne
      exact absurd (List.cons_prefix_cons.mp h).1 (by rintro rfl; simp at hl)
  | succ m ih =>
    cases n with
    | zero => exact absurd (h.subset (by simp [List.replicate_succ])) hl'
    | succ n =>
      obtain ⟨rfl, hs⟩ := ih (List.cons_prefix_cons.mp h).2
      exact ⟨rfl, hs⟩

end

/-- Names as a key spells them, each with a slash behind it. -/
def slashed (names : List String) : List Char := names.flatMap (·.toList ++ ['/'])

lemma prefix_of_slashed {l m : List String} (hl : ∀ name ∈ l, '/' ∉ name.toList)
    (hm : ∀ name ∈ m, '/' ∉ name.toList) (h : slashed l <+: slashed m) : l <+: m := by
  induction l generalizing m with
  | nil => exact List.nil_prefix
  | cons x l ih =>
    cases m with
    | nil => simp [slashed] at h
    | cons y m =>
      simp only [slashed, List.flatMap_cons, List.append_assoc, List.singleton_append] at h
      obtain ⟨hxy, h⟩ := prefix_of_marked (hl x (by simp)) (hm y (by simp)) h
      rw [String.toList_injective hxy]
      exact List.cons_prefix_cons.mpr ⟨rfl, ih (fun n hn => hl n (by simp [hn]))
        (fun n hn => hm n (by simp [hn])) h⟩

namespace Place

/-- The names on the way to a place, first up and then down. -/
def way (p : Place) : List String := List.replicate p.above ".." ++ p.names

lemma toList_intercalate_slash {names : List String} (h : names ≠ []) :
    ("/".intercalate names).toList ++ ['/'] = slashed names := by
  induction names with
  | nil => contradiction
  | cons x names ih =>
    cases names with
    | nil => simp [slashed]
    | cons y names =>
      rw [String.intercalate_cons_cons, String.toList_append, String.toList_append,
        List.append_assoc, ih (by simp)]
      simp [slashed]

lemma toList_join_replicate (n : ℕ) :
    (String.join (List.replicate n "../")).toList = slashed (List.replicate n "..") := by
  rw [String.toList_join]
  induction n with
  | zero => rfl
  | succ n ih =>
    rw [List.replicate_succ, List.replicate_succ, List.flatMap_cons, ih]
    rfl

lemma slashed_way_of_ne_nil {p : Place} (h : p.names ≠ []) :
    slashed p.way = p.key.toList ++ ['/'] := by
  rw [key, String.toList_append, List.append_assoc, toList_intercalate_slash h,
    toList_join_replicate, way]
  simp [slashed]

lemma key_prefix_slashed_way (p : Place) : p.key.toList <+: slashed p.way := by
  by_cases h : p.names = []
  · rw [key, String.toList_append, toList_join_replicate, way, h]
    simp
  · rw [slashed_way_of_ne_nil h]
    exact List.prefix_append _ _

lemma not_mem_way {p : Place} (h : ∀ name ∈ p.names, IsName name) :
    ∀ name ∈ p.way, '/' ∉ name.toList := by
  intro name hname
  rcases List.mem_append.mp hname with hup | hdown
  · rw [List.eq_of_mem_replicate hup]
    decide
  · exact (h name hdown).2.2.2

lemma ext {p q : Place} (above : p.above = q.above) (names : p.names = q.names) : p = q := by
  cases p
  cases q
  simp_all

variable {p q : Place} (hp : ∀ name ∈ p.names, IsName name) (hq : ∀ name ∈ q.names, IsName name)
  (hne : p.names ≠ [])

include hp hq hne

lemma prefix_of_slashed_way (h : slashed p.way <+: slashed q.way) :
    p.above = q.above ∧ p.names <+: q.names :=
  prefix_of_replicate (fun hup => (hp _ hup).2.2.1 rfl) (fun hup => (hq _ hup).2.2.1 rfl)
    hne (prefix_of_slashed (not_mem_way hp) (not_mem_way hq) h)

/-- Different places have different keys. -/
lemma eq_of_key_eq (hne' : q.names ≠ []) (h : p.key = q.key) : p = q := by
  have hway : slashed p.way = slashed q.way := by
    rw [slashed_way_of_ne_nil hne, slashed_way_of_ne_nil hne', h]
  obtain ⟨habove, hnames⟩ := prefix_of_slashed_way hp hq hne (hway ▸ List.prefix_rfl)
  obtain ⟨-, hnames'⟩ := prefix_of_slashed_way hq hp hne' (hway ▸ List.prefix_rfl)
  exact ext habove (hnames.eq_of_length_le hnames'.length_le)

/-- A key that goes on after another with a slash is of a place further down. -/
lemma inside_of_under (h : Under p.key q.key) :
    p.above = q.above ∧ ∃ name, p.names ++ [name] <+: q.names := by
  have hway : slashed p.way <+: slashed q.way := by
    rw [slashed_way_of_ne_nil hne]
    exact h.trans (key_prefix_slashed_way q)
  obtain ⟨habove, rest, hrest⟩ := prefix_of_slashed_way hp hq hne hway
  cases rest with
  | nil =>
    have hpq : p = q := ext habove (by simpa using hrest)
    exact absurd (hpq ▸ h) (not_under_self _)
  | cons name rest => exact ⟨habove, name, rest, by simpa using hrest⟩

end Place

/-! ### Paths -/

namespace FileTree

lemma splitSlashes_eq_cons (cs : List Char) : ∃ name names, splitSlashes cs = name :: names := by
  cases cs with
  | nil => exact ⟨_, _, rfl⟩
  | cons c cs =>
    rw [splitSlashes]
    split
    · exact ⟨_, _, rfl⟩
    · cases splitSlashes cs <;> exact ⟨_, _, rfl⟩

lemma splitSlashes_append_slash (cs ds : List Char) :
    splitSlashes (cs ++ '/' :: ds) = splitSlashes cs ++ splitSlashes ds := by
  induction cs with
  | nil => rfl
  | cons c cs ih =>
    rw [List.cons_append, splitSlashes, splitSlashes, ih]
    obtain ⟨name, names, h⟩ := splitSlashes_eq_cons cs
    split <;> simp [h]

lemma splitSlashes_of_not_mem {cs : List Char} (h : '/' ∉ cs) : splitSlashes cs = [cs] := by
  induction cs with
  | nil => rfl
  | cons c cs ih =>
    rw [List.mem_cons, not_or] at h
    rw [splitSlashes, if_neg (Ne.symm h.1), ih h.2]

lemma not_mem_of_mem_splitSlashes {cs name : List Char} (h : name ∈ splitSlashes cs) :
    '/' ∉ name := by
  induction cs generalizing name with
  | nil => simp_all [splitSlashes]
  | cons c cs ih =>
    obtain ⟨first, names, hcs⟩ := splitSlashes_eq_cons cs
    rw [splitSlashes, hcs] at h
    rw [hcs] at ih
    split at h
    · rcases List.mem_cons.mp h with rfl | h
      · simp
      · exact ih h
    · rename_i hc
      rcases List.mem_cons.mp h with rfl | h
      · simpa [Ne.symm hc] using ih (List.mem_cons_self)
      · exact ih (List.mem_cons_of_mem _ h)

lemma isName_of_mem_steps {path name : String} (h : name ∈ steps path) (hup : name ≠ "..") :
    IsName name := by
  obtain ⟨hmem, hkept⟩ := List.mem_filter.mp h
  obtain ⟨cs, hcs, rfl⟩ := List.mem_map.mp hmem
  simp only [Bool.and_eq_true, decide_eq_true_eq] at hkept
  exact ⟨hkept.1, hkept.2, hup, by simpa using not_mem_of_mem_splitSlashes hcs⟩

/-- A path in a directory that is not the empty path has a slash in front of its last name. -/
lemma toList_joinPath (directory name : String) :
    directory = "" ∧ joinPath directory name = name ∨
      ∃ ds, (joinPath directory name).toList = ds ++ '/' :: name.toList ∧
        (directory.toList = ds ∧ ds ≠ [] ∨ directory.toList = ds ++ ['/']) := by
  unfold joinPath
  by_cases hempty : directory = ""
  · exact .inl ⟨hempty, by simp [hempty]⟩
  by_cases hlast : directory.toList.getLast? = some '/'
  · obtain ⟨ds, hds⟩ := List.getLast?_eq_some_iff.mp hlast
    exact .inr ⟨ds, by simp [hds], .inr hds⟩
  · exact .inr ⟨directory.toList, by simp [hempty, hlast], .inl ⟨rfl, by simpa using hempty⟩⟩

/-- The path of a name in a directory takes one more step than the path of the directory. -/
lemma steps_joinPath (directory : String) {name : String} (h : IsName name) :
    steps (joinPath directory name) = steps directory ++ [name] := by
  have hname : splitSlashes name.toList = [name.toList] := splitSlashes_of_not_mem h.2.2.2
  unfold steps
  rcases toList_joinPath directory name with ⟨rfl, hpath⟩ | ⟨ds, hpath, ⟨hds, -⟩ | hds⟩
  · rw [hpath, hname]
    simp [splitSlashes, h.1, h.2.1]
  · rw [hpath, splitSlashes_append_slash, hname, hds]
    simp [h.1, h.2.1]
  · rw [hpath, splitSlashes_append_slash, hname, hds, splitSlashes_append_slash]
    simp [splitSlashes, h.1, h.2.1]

lemma start_joinPath (t : FileTree) (directory : String) {name : String} (h : IsName name) :
    t.start (joinPath directory name) = t.start directory := by
  have hhead : (joinPath directory name).toList.head? = some '/' ↔
      directory.toList.head? = some '/' := by
    rcases toList_joinPath directory name with ⟨rfl, hpath⟩ | ⟨ds, hpath, ⟨hds, hne⟩ | hds⟩
    · rw [hpath]
      simpa using fun hslash => h.2.2.2 (List.mem_of_head? hslash)
    · obtain ⟨c, cs, rfl⟩ := List.exists_cons_of_ne_nil hne
      simp [hpath, hds]
    · cases ds <;> simp [hpath, hds]
  simp only [start, hhead]

end FileTree

lemma Place.mem_names_parent {depth : ℕ} {p : Place} {name : String}
    (h : name ∈ (p.parent depth).names) : name ∈ p.names := by
  obtain ⟨above, names⟩ := p
  cases names with
  | nil => simp [parent] at h
  | cons first names => exact List.dropLast_subset _ h

/-- The place one step further. -/
def Place.follow (depth : ℕ) (p : Place) (name : String) : Place :=
  if name = ".." then p.parent depth else p.child name

namespace FileTree

/-- The place that a path means, whatever stands on the way to it. -/
def destination (t : FileTree) (path : String) : Place :=
  (steps path).foldl (Place.follow t.depth) (t.start path)

lemma destination_congr {t t' : FileTree} (h : t'.depth = t.depth) (path : String) :
    t'.destination path = t.destination path := by
  unfold destination start
  rw [h]

lemma destination_joinPath (t : FileTree) (directory : String) {name : String} (h : IsName name) :
    t.destination (joinPath directory name) = (t.destination directory).child name := by
  rw [destination, steps_joinPath directory h, start_joinPath t directory h, List.foldl_append,
    List.foldl_cons, List.foldl_nil, Place.follow, if_neg h.2.2.1, destination]

lemma destination_joinPath_ne (t : FileTree) (directory : String) {name name' : String}
    (h : IsName name) (h' : IsName name') (hne : name ≠ name') :
    t.destination (joinPath directory name) ≠ t.destination (joinPath directory name') := by
  rw [destination_joinPath t directory h, destination_joinPath t directory h']
  intro heq
  exact hne (by simpa using List.append_cancel_left (congrArg Place.names heq))

lemma isName_of_mem_destination {t : FileTree} {path name : String}
    (h : name ∈ (t.destination path).names) : IsName name := by
  unfold destination at h
  generalize hsteps : steps path = names at h
  have hnames : ∀ name ∈ names, name ≠ ".." → IsName name :=
    fun name hname => isName_of_mem_steps (hsteps ▸ hname)
  clear hsteps
  -- By induction from the last step: a step adds itself, or takes the last name away.
  induction names using List.reverseRecOn generalizing name with
  | nil => simp [start] at h
  | append_singleton names last ih =>
    have ih := fun {name} hname => @ih name hname fun n hn => hnames n (by simp [hn])
    rw [List.foldl_append, List.foldl_cons, List.foldl_nil, Place.follow] at h
    split at h
    · exact ih (Place.mem_names_parent h)
    · rcases List.mem_append.mp h with h | h
      · exact ih h
      · obtain rfl := List.mem_singleton.mp h
        exact hnames _ (by simp) ‹_›

end FileTree

end BlockVocabulary
