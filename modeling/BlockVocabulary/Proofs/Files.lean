import BlockVocabulary.Proofs.FirstFailure
import BlockVocabulary.Proofs.Places

/-!
What calls on files leave as it was.

A tree holds bytes under a path if the path leads through directories to a file with these bytes. No
call takes a directory away, so a path goes on leading where it led. A directory is made only where
nothing is, and a write gives one place new content, so what a tree holds at other places stays. A
call that is made again finds its work done, as long as what it left is there.
-/

namespace BlockVocabulary

namespace Table

variable {α : Type} (t : Table α)

lemma mem_keys_insert {k k' : String} {v : α} :
    k' ∈ (t.insert k v).keys ↔ k' = k ∨ k' ∈ t.keys := by
  by_cases h : k' = k
  · simp [mem_keys, h]
  · simp [mem_keys, h, t.get?_insert_of_ne v h]

lemma insert_eq_self {k : String} {v : α} (h : t.get? k = some v) : t.insert k v = t := by
  refine ext_get? fun k' => ?_
  by_cases hk : k' = k
  · rw [hk, get?_insert_self, h]
  · rw [t.get?_insert_of_ne v hk]

end Table

namespace FileTree

variable {t t' : FileTree} {p q : Place} {path content : String} {bytes : ByteArray}

lemma isDirectory_iff : t.isDirectory p = true ↔
    p.names = [] ∨ p.key ∈ t.made ∨ ∃ k ∈ t.files.keys, Under p.key k := by
  simp [isDirectory, isPrefixOf_slash, or_assoc]

lemma names_ne_nil_of_not_isDirectory (h : t.isDirectory p = false) : p.names ≠ [] := by
  intro hnil
  simp [isDirectory, hnil] at h

/-! ### Ways through a tree -/

/-- A tree that has at least the directories of another. -/
structure Extends (t t' : FileTree) : Prop where
  depth : t'.depth = t.depth
  directories : ∀ p, t.isDirectory p = true → t'.isDirectory p = true

lemma Extends.refl (t : FileTree) : Extends t t := ⟨rfl, fun _ h => h⟩

lemma Extends.trans {t₁ t₂ t₃ : FileTree} (h : Extends t₁ t₂) (h' : Extends t₂ t₃) :
    Extends t₁ t₃ :=
  ⟨h'.depth.trans h.depth, fun p hp => h'.directories p (h.directories p hp)⟩

lemma step_eq_ok {name : String} : t.step p name = .ok q ↔
    t.isDirectory p = true ∧ (name = ".." ∨ name.utf8ByteSize ≤ longestName) ∧
      q = p.follow t.depth name := by
  unfold step Place.follow
  split_ifs with hdir hup hlong
  · simp [hdir, hup, Except.ok.injEq, eq_comm (a := q)]
  · simp [hup, Nat.not_le.mpr hlong]
  · simp [hdir, Nat.not_lt.mp hlong, eq_comm (a := q)]
  all_goals simp [hdir]

lemma walk_mono (h : Extends t t') {names : List String} (hrun : names.foldlM t.step p = .ok q) :
    names.foldlM t'.step p = .ok q := by
  induction names generalizing p with
  | nil => exact hrun
  | cons name names ih =>
    obtain ⟨r, hr, hrun⟩ := foldlM_cons_eq_ok.mp hrun
    obtain ⟨hdir, hlong, rfl⟩ := step_eq_ok.mp hr
    refine foldlM_cons_eq_ok.mpr ⟨_, step_eq_ok.mpr ⟨h.directories p hdir, hlong, ?_⟩, ih hrun⟩
    rw [h.depth]

lemma resolve_eq_ok : t.resolve path = .ok p ↔
    (path ≠ "" ∧ path.utf8ByteSize ≤ longestPath) ∧
      (steps path).foldlM t.step (t.start path) = .ok p := by
  unfold resolve
  split_ifs with hempty hlong
  · simp [hempty]
  · simp [Nat.not_le.mpr hlong]
  · simp [hempty, Nat.not_lt.mp hlong]

lemma resolve_mono (h : Extends t t') (hrun : t.resolve path = .ok p) :
    t'.resolve path = .ok p := by
  obtain ⟨hpath, hwalk⟩ := resolve_eq_ok.mp hrun
  refine resolve_eq_ok.mpr ⟨hpath, ?_⟩
  rw [start, h.depth]
  exact walk_mono h hwalk

lemma eq_destination_of_resolve (h : t.resolve path = .ok p) : p = t.destination path := by
  obtain ⟨-, hwalk⟩ := resolve_eq_ok.mp h
  unfold destination
  generalize t.start path = start, steps path = names at hwalk ⊢
  induction names generalizing start with
  | nil => exact (foldlM_nil_eq_ok.mp hwalk).symm
  | cons name names ih =>
    obtain ⟨r, hr, hwalk⟩ := foldlM_cons_eq_ok.mp hwalk
    obtain ⟨-, -, rfl⟩ := step_eq_ok.mp hr
    exact ih _ hwalk

/-- All directories around a place are there. -/
def Enclosed (t : FileTree) (p : Place) : Prop :=
  ∀ names name, names ++ [name] <+: p.names → t.isDirectory ⟨p.above, names⟩ = true

lemma enclosed_step {name : String} (hp : t.Enclosed p) (h : t.step p name = .ok q) :
    t.Enclosed q := by
  obtain ⟨hdir, -, rfl⟩ := step_eq_ok.mp h
  unfold Place.follow
  split
  · obtain ⟨above, names⟩ := p
    cases names with
    | nil => intro names name hpre; simp [Place.parent] at hpre
    | cons first names =>
      exact fun names' name hpre => hp names' name (hpre.trans <| List.dropLast_prefix _)
  · intro names name' hpre
    rcases List.prefix_concat_iff.mp hpre with heq | hpre
    · obtain ⟨rfl, -⟩ := List.append_inj' heq rfl
      exact hdir
    · exact hp names name' hpre

lemma enclosed_of_resolve (h : t.resolve path = .ok p) : t.Enclosed p := by
  refine foldlM_invariant (fun _ _ _ => enclosed_step) (resolve_eq_ok.mp h).2 ?_
  intro names name hpre
  simp [start] at hpre

/-! ### What a tree holds -/

/-- A path leads to a file with these bytes. -/
structure Holds (t : FileTree) (path : String) (bytes : ByteArray) : Prop where
  leads : t.resolve path = .ok (t.destination path)
  file : t.isDirectory (t.destination path) = false
  content : t.files.get? (t.destination path).key = some bytes

lemma read_of_resolve (h : t.resolve path = .ok p) :
    t.read path =
      if t.isDirectory p then .error .isADirectory
      else (t.files.get? p.key).elim (.error .noSuchFile) fun bytes =>
        if asksDirectory path then .error .notADirectory
        else (String.fromUTF8? bytes).elim (.error .notText) .ok := by
  simp only [read, h, bind, Except.bind, throw, throwThe, MonadExceptOf.throw]
  cases t.files.get? p.key with
  | none => rfl
  | some bytes =>
    simp only [Option.elim]
    cases String.fromUTF8? bytes <;> rfl

lemma exists_holds_of_read {text : String} (h : t.read path = .ok text) :
    ∃ bytes, t.Holds path bytes := by
  obtain ⟨p, hp, -⟩ := bind_eq_ok.mp h
  obtain rfl := eq_destination_of_resolve hp
  rw [read_of_resolve hp] at h
  split at h
  · contradiction
  · rename_i hdir
    cases hcontent : t.files.get? (t.destination path).key with
    | none => simp [hcontent] at h
    | some bytes => exact ⟨bytes, hp, by simpa using hdir, hcontent⟩

lemma read_congr (h : t.Holds path bytes) (h' : t'.Holds path bytes) :
    t'.read path = t.read path := by
  rw [read_of_resolve h.leads, read_of_resolve h'.leads, h.file, h'.file, h.content, h'.content]

/-! ### Writing a file -/

/-- A tree with new content at a place. -/
def put (t : FileTree) (p : Place) (bytes : ByteArray) : FileTree :=
  { t with files := t.files.insert p.key bytes }

lemma write_eq_ok : t.write path content = .ok t' ↔
    (t.resolve path = .ok (t.destination path) ∧ t.isDirectory (t.destination path) = false) ∧
      asksDirectory path = false ∧ t' = t.put (t.destination path) content.toUTF8 := by
  unfold write
  rw [bind_eq_ok]
  constructor
  · rintro ⟨p, hp, h⟩
    obtain rfl := eq_destination_of_resolve hp
    split at h
    · contradiction
    · rename_i hno
      rw [Bool.or_eq_true, not_or, Bool.not_eq_true, Bool.not_eq_true] at hno
      exact ⟨⟨hp, hno.1⟩, hno.2, (Except.ok.inj h).symm⟩
  · rintro ⟨⟨hp, hdir⟩, hasks, rfl⟩
    refine ⟨_, hp, ?_⟩
    rw [hdir, hasks]
    rfl

lemma isDirectory_put : (t.put q bytes).isDirectory p = true ↔
    t.isDirectory p = true ∨ Under p.key q.key := by
  simp only [isDirectory_iff, put, Table.mem_keys_insert]
  constructor
  · rintro (h | h | ⟨k, rfl | hk, h⟩)
    · exact .inl (.inl h)
    · exact .inl (.inr (.inl h))
    · exact .inr h
    · exact .inl (.inr (.inr ⟨k, hk, h⟩))
  · rintro ((h | h | ⟨k, hk, h⟩) | h)
    · exact .inl h
    · exact .inr (.inl h)
    · exact .inr (.inr ⟨k, .inr hk, h⟩)
    · exact .inr (.inr ⟨_, .inl rfl, h⟩)

lemma extends_put (t : FileTree) (p : Place) (bytes : ByteArray) : Extends t (t.put p bytes) :=
  ⟨rfl, fun _ h => isDirectory_put.mpr (.inl h)⟩

lemma extends_of_write (h : t.write path content = .ok t') : Extends t t' := by
  obtain ⟨-, -, rfl⟩ := write_eq_ok.mp h
  exact extends_put _ _ _

/-- A written file is held. -/
lemma holds_of_write (h : t.write path content = .ok t') : t'.Holds path content.toUTF8 := by
  obtain ⟨⟨hp, hdir⟩, -, rfl⟩ := write_eq_ok.mp h
  have hext := extends_put t (t.destination path) content.toUTF8
  have hdest := destination_congr hext.depth path
  refine ⟨hdest ▸ resolve_mono hext hp, ?_, ?_⟩
  · rw [hdest, ← Bool.not_eq_true, isDirectory_put, hdir]
    simp [not_under_self]
  · rw [hdest]
    exact Table.get?_insert_self _ _ _

/-- A write makes no directory of the place that a path means. -/
lemma isDirectory_destination_of_write {other : String} (h : t.write path content = .ok t')
    (hfile : t.isDirectory (t.destination other) = false) :
    t'.isDirectory (t.destination other) = false := by
  obtain ⟨⟨hp, hdir⟩, -, rfl⟩ := write_eq_ok.mp h
  rw [← Bool.not_eq_true, isDirectory_put, hfile]
  rintro (hfalse | hunder)
  · contradiction
  · -- A file put below the place would have found a directory there.
    obtain ⟨habove, name, hpre⟩ := Place.inside_of_under (fun _ => isName_of_mem_destination)
      (fun _ => isName_of_mem_destination) (names_ne_nil_of_not_isDirectory hfile) hunder
    have hdir := enclosed_of_resolve hp _ _ hpre
    rw [← habove] at hdir
    exact absurd hdir (by simpa using hfile)

/-- A write leaves alone what the tree holds at any other place. -/
lemma Holds.write {other : String} (hold : t.Holds other bytes) (h : t.write path content = .ok t')
    (hne : t.destination path ≠ t.destination other) : t'.Holds other bytes := by
  have hext := extends_of_write h
  have hdest := destination_congr hext.depth other
  refine ⟨hdest ▸ resolve_mono hext hold.leads,
    hdest ▸ isDirectory_destination_of_write h hold.file, ?_⟩
  obtain ⟨⟨-, hdir⟩, -, rfl⟩ := write_eq_ok.mp h
  rw [hdest, ← hold.content]
  refine Table.get?_insert_of_ne _ _ fun hkey => hne ?_
  exact (Place.eq_of_key_eq (fun _ => isName_of_mem_destination)
    (fun _ => isName_of_mem_destination) (names_ne_nil_of_not_isDirectory hold.file)
    (names_ne_nil_of_not_isDirectory hdir) hkey).symm

/-- A write to a file that holds the content already changes nothing. -/
lemma Holds.write_again (hold : t.Holds path content.toUTF8) (hpath : asksDirectory path = false) :
    t.write path content = .ok t := by
  refine write_eq_ok.mpr ⟨⟨hold.leads, hold.file⟩, hpath, ?_⟩
  rw [put, Table.insert_eq_self _ hold.content]

/-- What is written is read again. -/
lemma read_of_holds (hold : t.Holds path content.toUTF8) (hpath : asksDirectory path = false) :
    t.read path = .ok content := by
  have htext : String.fromUTF8? content.toUTF8 = some content := dif_pos content.isValidUTF8
  rw [read_of_resolve hold.leads, hold.file, hold.content, Option.elim_some, hpath, htext]
  rfl

/-- Whether a file can be written has nothing to do with what is written. -/
lemma exists_write_eq_ok_iff : (∃ t', t.write path content = .ok t') ↔
    (t.resolve path = .ok (t.destination path) ∧ t.isDirectory (t.destination path) = false) ∧
      asksDirectory path = false := by
  simp only [write_eq_ok, ← and_assoc, exists_and_left, exists_eq, and_true]

/-- A write hinders no other write. -/
lemma exists_write_of_write {other content' : String} (h : t.write path content = .ok t')
    (hother : ∃ t₁, t.write other content' = .ok t₁) : ∃ t₁, t'.write other content' = .ok t₁ := by
  obtain ⟨⟨hp, hdir⟩, hasks⟩ := exists_write_eq_ok_iff.mp hother
  have hext := extends_of_write h
  have hdest := destination_congr hext.depth other
  refine exists_write_eq_ok_iff.mpr ⟨⟨hdest ▸ resolve_mono hext hp, ?_⟩, hasks⟩
  exact hdest ▸ isDirectory_destination_of_write h hdir

/-! ### Making directories -/

/-- A tree in which a directory was made. -/
def make (t : FileTree) (p : Place) : FileTree := { t with made := t.made ++ [p.key] }

lemma isDirectory_make : (t.make q).isDirectory p = true ↔
    t.isDirectory p = true ∨ p.key = q.key := by
  simp only [isDirectory_iff, make, List.mem_append, List.mem_singleton]
  rw [or_right_comm (b := p.key = q.key), ← or_assoc]

lemma extends_make (t : FileTree) (p : Place) : Extends t (t.make p) :=
  ⟨rfl, fun _ h => isDirectory_make.mpr (.inl h)⟩

/-- What a step makes is a directory where neither a directory nor a file is. -/
lemma Making.step_eq_ok {m m' : Making} {name : String} (h : m.step name = .ok m') :
    m.tree.step m.place name = .ok m'.place ∧
      (m'.tree = m.tree ∨ m.tree.isFile m'.place = false ∧ m'.tree = m.tree.make m'.place) := by
  obtain ⟨place, hplace, h⟩ := bind_eq_ok.mp h
  split at h
  · obtain rfl := Except.ok.inj h
    exact ⟨hplace, .inl rfl⟩
  split at h
  · split at h
    · contradiction
    · obtain rfl := Except.ok.inj h
      exact ⟨hplace, .inl rfl⟩
  · rename_i hfile
    obtain rfl := Except.ok.inj h
    exact ⟨hplace, .inr ⟨by simpa using hfile, rfl⟩⟩

lemma Making.step_of_isDirectory {m : Making} {name : String}
    (h : m.tree.step m.place name = .ok p) (hdir : m.tree.isDirectory p = true) :
    m.step name = .ok { m with place := p } := by
  rw [Making.step, h]
  simp only [bind, Except.bind, hdir]
  rfl

lemma Making.extends_step {m m' : Making} {name : String} (h : m.step name = .ok m') :
    Extends m.tree m'.tree := by
  rcases (step_eq_ok h).2 with heq | ⟨-, heq⟩
  · exact heq ▸ Extends.refl _
  · exact heq ▸ extends_make _ _

lemma Making.extends_run {m m' : Making} {names : List String}
    (h : names.foldlM Making.step m = .ok m') : Extends m.tree m'.tree :=
  foldlM_invariant (P := fun m' => Extends m.tree m'.tree)
    (fun _ _ _ hext hstep => hext.trans (extends_step hstep)) h (Extends.refl _)

/-- A run that ends in a directory walked through directories only. -/
lemma Making.isDirectory_of_run {m m' : Making} {names : List String}
    (h : names.foldlM Making.step m = .ok m') (hdir : m'.tree.isDirectory m'.place = true) :
    m'.tree.isDirectory m.place = true := by
  cases names with
  | nil => exact foldlM_nil_eq_ok.mp h ▸ hdir
  | cons name names =>
    obtain ⟨m₁, hstep, -⟩ := foldlM_cons_eq_ok.mp h
    exact (extends_run h).directories _ (FileTree.step_eq_ok.mp (step_eq_ok hstep).1).1

/-- A run again, on a tree that has at least the directories that the first one left. -/
lemma Making.run_again {m m' : Making} {names : List String}
    (h : names.foldlM Making.step m = .ok m') (hdir : m'.tree.isDirectory m'.place = true)
    (hext : Extends m'.tree t) :
    names.foldlM Making.step { tree := t, place := m.place, begun := false } =
      .ok { tree := t, place := m'.place, begun := false } := by
  induction names generalizing m with
  | nil => rw [foldlM_nil_eq_ok.mp h, List.foldlM_nil]; rfl
  | cons name names ih =>
    obtain ⟨m₁, hstep, hrun⟩ := foldlM_cons_eq_ok.mp h
    have hback : Extends m.tree t := (extends_run h).trans hext
    obtain ⟨hfrom, hlong, hplace⟩ := FileTree.step_eq_ok.mp (step_eq_ok hstep).1
    refine foldlM_cons_eq_ok.mpr ⟨_, step_of_isDirectory (p := m₁.place) ?_ ?_, ih hrun⟩
    · exact FileTree.step_eq_ok.mpr ⟨hback.directories _ hfrom, hlong, hback.depth ▸ hplace⟩
    · exact hext.directories _ (isDirectory_of_run hrun hdir)

/-- The names on a path whose directories are made where they are missing. -/
def missingNames (path : String) : List String :=
  if endsInDot path then (steps path).dropLast else steps path

lemma makeDirectories_eq_ok : t.makeDirectories path = .ok t' ↔
    (path = "" ∧ t' = t) ∨ (path ≠ "" ∧ path.utf8ByteSize ≤ longestPath) ∧
      ∃ m : Making, (missingNames path).foldlM Making.step { tree := t, place := t.start path } =
          .ok m ∧
        ∃ p, ((steps path).drop (missingNames path).length).foldlM m.tree.step m.place = .ok p ∧
          m.tree.isDirectory p = true ∧ t' = m.tree := by
  unfold makeDirectories
  by_cases hempty : path = ""
  · simp [hempty, pure, Except.pure, eq_comm (a := t')]
  by_cases hlong : longestPath < path.utf8ByteSize
  · simp [hempty, Nat.not_le.mpr hlong, hlong, throw, throwThe, MonadExceptOf.throw, bind,
      Except.bind]
  simp only [hempty, hlong, if_false]
  constructor
  · intro h
    obtain ⟨m, hrun, h⟩ := bind_eq_ok.mp h
    obtain ⟨p, hwalk, h⟩ := bind_eq_ok.mp h
    refine .inr ⟨⟨hempty, Nat.not_lt.mp hlong⟩, m, hrun, p, hwalk, ?_⟩
    split at h
    · exact ⟨‹_›, (Except.ok.inj h).symm⟩
    · split at h <;> contradiction
  · rintro (⟨hfalse, -⟩ | ⟨-, m, hrun, p, hwalk, hdir, rfl⟩)
    · exact absurd hfalse id
    · refine bind_eq_ok.mpr ⟨m, hrun, bind_eq_ok.mpr ⟨p, hwalk, ?_⟩⟩
      simp [hdir, pure, Except.pure]

lemma extends_of_makeDirectories (h : t.makeDirectories path = .ok t') : Extends t t' := by
  rcases makeDirectories_eq_ok.mp h with ⟨-, rfl⟩ | ⟨-, m, hrun, -, -, -, rfl⟩
  · exact Extends.refl _
  · exact Making.extends_run hrun

/-- Nothing but directories is made. -/
lemma eq_of_makeDirectories (h : t.makeDirectories path = .ok t') :
    t' = { t with made := t'.made } := by
  rcases makeDirectories_eq_ok.mp h with ⟨-, rfl⟩ | ⟨-, m, hrun, -, -, -, rfl⟩
  · rfl
  · refine foldlM_invariant (P := fun m => m.tree = { t with made := m.tree.made }) ?_ hrun rfl
    intro m name m' hm hstep
    rcases (Making.step_eq_ok hstep).2 with heq | ⟨-, heq⟩
    · rwa [heq]
    · rw [heq, make, hm]

lemma Holds.make (hold : t.Holds path bytes) (hfile : t.isFile p = false) :
    (t.make p).Holds path bytes := by
  have hdest := destination_congr (extends_make t p).depth path
  refine ⟨hdest ▸ resolve_mono (extends_make t p) hold.leads, ?_, hdest ▸ hold.content⟩
  rw [hdest, ← Bool.not_eq_true, isDirectory_make, hold.file]
  rintro (hfalse | hkey)
  · contradiction
  · simp [isFile, Table.contains, ← hkey, hold.content] at hfile

/-- Making directories leaves alone what the tree holds. -/
lemma Holds.makeDirectories {directory : String} (hold : t.Holds path bytes)
    (h : t.makeDirectories directory = .ok t') : t'.Holds path bytes := by
  rcases makeDirectories_eq_ok.mp h with ⟨-, rfl⟩ | ⟨-, m, hrun, -, -, -, rfl⟩
  · exact hold
  · refine foldlM_invariant (P := fun m => m.tree.Holds path bytes) ?_ hrun hold
    intro m name m' hold hstep
    rcases (Making.step_eq_ok hstep).2 with heq | ⟨hfile, heq⟩
    · exact heq ▸ hold
    · exact heq ▸ hold.make hfile

/-- Directories that were made are not made again. -/
lemma makeDirectories_again {t₁ : FileTree} (h : t.makeDirectories path = .ok t₁)
    (hext : Extends t₁ t') : t'.makeDirectories path = .ok t' := by
  rcases makeDirectories_eq_ok.mp h with ⟨hempty, -⟩ | ⟨hpath, m, hrun, p, hwalk, hdir, rfl⟩
  · exact makeDirectories_eq_ok.mpr (.inl ⟨hempty, rfl⟩)
  have hmdir : m.tree.isDirectory m.place = true := by
    revert hwalk
    cases (steps path).drop (missingNames path).length with
    | nil => exact fun hwalk => foldlM_nil_eq_ok.mp hwalk ▸ hdir
    | cons name names =>
      intro hwalk
      obtain ⟨_, hstep, -⟩ := foldlM_cons_eq_ok.mp hwalk
      exact (step_eq_ok.mp hstep).1
  have hdepth := (Making.extends_run hrun).trans hext
  refine makeDirectories_eq_ok.mpr (.inr ⟨hpath, ⟨t', m.place, false⟩, ?_, p, walk_mono hext hwalk,
    hext.directories p hdir, rfl⟩)
  have hagain := Making.run_again hrun hmdir hext
  rwa [start, hdepth.depth]

end FileTree

end BlockVocabulary
