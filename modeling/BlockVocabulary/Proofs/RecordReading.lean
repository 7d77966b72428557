import BlockVocabulary.Json.Decode
import BlockVocabulary.Proofs.FirstFailure

/-!
Reading records.

The members of an object are set one after the other, and so are the items of a list under the names
of the fields in their places. An object is read exactly if no field is given twice, every member can
be set and nothing required is missing; a list is read exactly if it is not too long, every item can
be set and the list reaches far enough. Where a field takes a value or refuses it regardless of the
fields set before, records that differ in values taken alike are read alike, and so are lists that
differ in items read alike.
-/

namespace BlockVocabulary

namespace RecordFormat

variable {α : Type} (f : RecordFormat α) {x y : α} {members : List (String × Json)}
  {items : List Json}

/-- Sets the named values one after the other. -/
def setAll (x : α) (named : List (String × Json)) : Decoded α :=
  named.foldlM (fun x m => f.set m.1 m.2 x) x

/-- The members under the names of the fields. -/
def renamed (members : List (String × Json)) : List (String × Json) :=
  members.map fun m => (f.rename m.1, m.2)

/-- The fields that members give, each as often as it is given. -/
def given (members : List (String × Json)) : List String :=
  ((f.renamed members).map (·.1)).filter (· ∈ f.fields)

/-! ### Which values are read -/

lemma take_eq (seen : List String) (m : String × Json) : f.take (seen, x) m =
    if f.rename m.1 ∈ seen ∧ f.rename m.1 ∈ f.fields then .error (.duplicateField (f.rename m.1))
    else (f.set (f.rename m.1) m.2 x).map (f.rename m.1 :: seen, ·) := by
  unfold take
  split_ifs with htwice
  · simp [htwice, throw, throwThe, MonadExceptOf.throw, bind, Except.bind]
  · simp only [htwice, if_false]
    cases f.set (f.rename m.1) m.2 x <;> rfl

lemma take_eq_ok {seen seen' : List String} {m : String × Json} :
    f.take (seen, x) m = .ok (seen', y) ↔
      (f.rename m.1 ∈ f.fields → f.rename m.1 ∉ seen) ∧
        f.set (f.rename m.1) m.2 x = .ok y ∧ seen' = f.rename m.1 :: seen := by
  rw [take_eq, ← not_and']
  split_ifs with htwice
  · simp [htwice]
  · cases f.set (f.rename m.1) m.2 x <;>
      simp [htwice, Except.map, eq_comm (a := seen'), and_comm]

/-- A further member keeps the fields apart if it is no field, or one that is new. -/
lemma given_cons_apart (m : String × Json) (seen : List String) :
    ((f.given (m :: members)).Nodup ∧ ∀ name ∈ f.given (m :: members), name ∉ seen) ↔
      (f.rename m.1 ∈ f.fields → f.rename m.1 ∉ seen) ∧
        (f.given members).Nodup ∧ ∀ name ∈ f.given members, name ∉ f.rename m.1 :: seen := by
  have hfields : ∀ name ∈ f.given members, name ∈ f.fields := by
    intro name hname
    simpa using (List.mem_filter.mp hname).2
  by_cases hm : f.rename m.1 ∈ f.fields
  · have hcons : f.given (m :: members) = f.rename m.1 :: f.given members := by
      simp [given, renamed, hm]
    simp only [hcons, List.nodup_cons, List.mem_cons, not_or]
    grind
  · have hcons : f.given (m :: members) = f.given members := by
      simp [given, renamed, hm]
    simp only [hcons, List.mem_cons, not_or]
    grind

lemma foldlM_take_eq_ok {seen seen' : List String} :
    members.foldlM f.take (seen, x) = .ok (seen', y) ↔
      ((f.given members).Nodup ∧ ∀ name ∈ f.given members, name ∉ seen) ∧
        f.setAll x (f.renamed members) = .ok y ∧
        seen' = ((f.renamed members).map (·.1)).reverse ++ seen := by
  induction members generalizing seen x with
  | nil => simp [given, renamed, setAll, pure, Except.pure, eq_comm, and_comm]
  | cons m members ih =>
    have hsplit : f.setAll x (f.renamed (m :: members)) = .ok y ↔
        ∃ z, f.set (f.rename m.1) m.2 x = .ok z ∧ f.setAll z (f.renamed members) = .ok y :=
      foldlM_cons_eq_ok
    have hnames : ((f.renamed (m :: members)).map (·.1)).reverse ++ seen =
        ((f.renamed members).map (·.1)).reverse ++ f.rename m.1 :: seen := by
      simp [renamed]
    rw [foldlM_cons_eq_ok, given_cons_apart, hsplit, hnames]
    constructor
    · rintro ⟨⟨seen₁, z⟩, hm, hrest⟩
      obtain ⟨hnew, hset, rfl⟩ := f.take_eq_ok.mp hm
      obtain ⟨hapart, hall, hseen⟩ := ih.mp hrest
      exact ⟨⟨hnew, hapart⟩, ⟨z, hset, hall⟩, hseen⟩
    · rintro ⟨⟨hnew, hapart⟩, ⟨z, hset, hall⟩, hseen⟩
      exact ⟨(_, z), f.take_eq_ok.mpr ⟨hnew, hset, rfl⟩, ih.mpr ⟨hapart, hall, hseen⟩⟩

/-- **Which objects are read.** -/
lemma ofMembers_eq_ok : f.ofMembers members = .ok x ↔
    (f.given members).Nodup ∧ f.setAll f.start (f.renamed members) = .ok x ∧
      ∀ name ∈ f.required, name ∈ (f.renamed members).map (·.1) := by
  unfold ofMembers
  rw [bind_eq_ok]
  constructor
  · rintro ⟨⟨seen, y⟩, hrun, hend⟩
    obtain ⟨⟨hnodup, -⟩, hall, rfl⟩ := f.foldlM_take_eq_ok.mp hrun
    dsimp only at hend
    split at hend
    · contradiction
    · rename_i hfind
      obtain rfl := Except.ok.inj hend
      exact ⟨hnodup, hall, by simpa [List.find?_eq_none] using hfind⟩
  · rintro ⟨hnodup, hall, hrequired⟩
    refine ⟨_, f.foldlM_take_eq_ok.mpr ⟨⟨hnodup, by simp⟩, hall, rfl⟩, ?_⟩
    have hfind : f.required.find?
        (· ∉ ((f.renamed members).map (·.1)).reverse ++ []) = none := by
      simpa [List.find?_eq_none] using hrequired
    simp only [hfind]
    rfl

/-- **Which lists are read.** -/
lemma ofItems_eq_ok : f.ofItems items = .ok x ↔
    items.length ≤ f.fields.length ∧ f.setAll f.start (f.fields.zip items) = .ok x ∧
      ∀ name ∈ f.fields.drop items.length, name ∉ f.reached := by
  unfold ofItems
  rw [bind_eq_ok]
  constructor
  · rintro ⟨y, hrun, hend⟩
    split at hend
    · contradiction
    · rename_i hfind
      split at hend
      · contradiction
      · rename_i hlength
        obtain rfl := Except.ok.inj hend
        exact ⟨Nat.not_lt.mp hlength, hrun, by simpa [List.find?_eq_none] using hfind⟩
  · rintro ⟨hlength, hall, hreached⟩
    refine ⟨x, hall, ?_⟩
    have hfind : (f.fields.drop items.length).find? (· ∈ f.reached) = none := by
      simpa [List.find?_eq_none] using hreached
    simp only [hfind, if_neg (Nat.not_lt.mpr hlength)]
    rfl

/-- What holds at the start and is kept by setting a field holds of what is read. -/
lemma read_invariant {P : α → Prop} (hstart : P f.start)
    (hset : ∀ name v x y, P x → f.set name v x = .ok y → P y) {v : Json} (h : f.read v = .ok x) :
    P x := by
  have hall : ∀ {named}, f.setAll f.start named = .ok x → P x := fun hrun =>
    foldlM_invariant (fun x m y hx hy => hset m.1 m.2 x y hx hy) hrun hstart
  rcases v with _ | _ | _ | _ | items | members
  case object => exact hall (f.ofMembers_eq_ok.mp h).2.1
  case list => exact hall (f.ofItems_eq_ok.mp h).2.1
  all_goals contradiction

/-! ### Records that are read alike -/

/-- Both values are taken by a field, or refused for the same reason, whatever was set before. -/
def TakenAlike (name : String) (v w : Json) : Prop :=
  ∀ x y, Alike (fun _ _ => True) (f.set name v x) (f.set name w y)

variable {f}

lemma alike_ofMembers {members' : List (String × Json)}
    (h : List.Forall₂ (fun m m' => m.1 = m'.1 ∧ f.TakenAlike (f.rename m.1) m.2 m'.2)
      members members') :
    Alike (fun _ _ => True) (f.ofMembers members) (f.ofMembers members') := by
  have hrun : Alike (fun s s' => s.1 = s'.1) (members.foldlM f.take ([], f.start))
      (members'.foldlM f.take ([], f.start)) := by
    refine Alike.foldlM (fun s s' m m' hs hm => ?_) h rfl
    obtain ⟨seen, x⟩ := s
    obtain ⟨seen', y⟩ := s'
    obtain ⟨name, v⟩ := m
    obtain ⟨name', w⟩ := m'
    obtain ⟨rfl, htaken⟩ := hm
    obtain rfl : seen = seen' := hs
    rw [take_eq, take_eq]
    split_ifs
    · exact .error _
    · exact (htaken x y).bind fun _ _ _ => .ok rfl
  refine hrun.bind fun s s' hs => ?_
  obtain ⟨seen, x⟩ := s
  obtain ⟨seen', y⟩ := s'
  obtain rfl : seen = seen' := hs
  dsimp only
  split
  · exact .error _
  · exact .ok trivial

lemma alike_ofItems {items' : List Json}
    (h : List.Forall₂ (fun m m' => m.1 = m'.1 ∧ f.TakenAlike m.1 m.2 m'.2)
      (f.fields.zip items) (f.fields.zip items'))
    (hlength : items.length = items'.length) :
    Alike (fun _ _ => True) (f.ofItems items) (f.ofItems items') := by
  unfold ofItems
  rw [hlength]
  refine (Alike.foldlM (S := fun _ _ => True) (fun x y m m' _ hm => ?_) h trivial).bind
    fun _ _ _ => ?_
  · obtain ⟨name, v⟩ := m
    obtain ⟨name', w⟩ := m'
    obtain ⟨rfl, htaken⟩ := hm
    exact htaken x y
  · split
    · exact .error _
    · split_ifs
      · exact .error _
      · exact .ok trivial

end RecordFormat

/-- What is read from a list is read from its items. -/
lemma exists_of_mem_list {α : Type} {read : Json → Decoded α} {v : Json} {xs : List α}
    (h : Decode.list read v = .ok xs) {x : α} (hx : x ∈ xs) : ∃ w, read w = .ok x := by
  cases v with
  | list items => exact exists_of_mem_mapM h hx
  | _ => contradiction

/-! ### One value in the place of another -/

/-- The values differ in one item of a list, in the way told. -/
inductive InItem (R : Json → Json → Prop) : Json → Json → Prop
  | intro {before after : List Json} {v w : Json} (h : R v w) :
      InItem R (.list (before ++ v :: after)) (.list (before ++ w :: after))

/-- The values differ in one field of a record, in the way told. The record is an object, or a list of
the fields in order. -/
inductive InField (fields : List String) (name : String) (R : Json → Json → Prop) :
    Json → Json → Prop
  | member {before after : List (String × Json)} {v w : Json} (h : R v w) :
      InField fields name R (.object (before ++ (name, v) :: after))
        (.object (before ++ (name, w) :: after))
  | item {before after : List Json} {v w : Json} (hplace : fields[before.length]? = some name)
      (h : R v w) :
      InField fields name R (.list (before ++ v :: after)) (.list (before ++ w :: after))

/-- Values that are read or refused alike. -/
abbrev ReadAlike {ε α : Type} (read : Json → Except ε α) (v w : Json) : Prop :=
  Alike (fun _ _ => True) (read v) (read w)

lemma forall₂_replaced {α : Type} {R : α → α → Prop} (hrefl : ∀ a, R a a) {a b : α} (h : R a b)
    (before after : List α) : List.Forall₂ R (before ++ a :: after) (before ++ b :: after) :=
  List.rel_append (List.forall₂_same.mpr fun a _ => hrefl a)
    (.cons h (List.forall₂_same.mpr fun a _ => hrefl a))

lemma readAlike_list {α : Type} {read : Json → Decoded α} {R : Json → Json → Prop}
    (hread : ∀ v w, R v w → ReadAlike read v w) {v w : Json} (h : InItem R v w) :
    ReadAlike (Decode.list read) v w := by
  rcases h with @⟨before, after, v, w, h⟩
  have hitems : List.Forall₂ (ReadAlike read) (before ++ v :: after) (before ++ w :: after) :=
    forall₂_replaced (fun v => .refl (fun _ => trivial) _) (hread v w h) before after
  exact (Alike.mapM hitems).mono fun _ _ _ => trivial

lemma readAlike_record {α : Type} {f : RecordFormat α} {name : String} {R : Json → Json → Prop}
    (hblind : ∀ name v, f.TakenAlike name v v) (hname : f.rename name = name)
    (hset : ∀ v w, R v w → f.TakenAlike name v w) {v w : Json} (h : InField f.fields name R v w) :
    ReadAlike f.read v w := by
  rcases h with @⟨before, after, v, w, h⟩ | @⟨before, after, v, w, hplace, h⟩
  · refine RecordFormat.alike_ofMembers (forall₂_replaced (fun m => ⟨rfl, hblind _ _⟩) ⟨rfl, ?_⟩ _ _)
    rw [hname]
    exact hset v w h
  · refine RecordFormat.alike_ofItems ?_ (by simp)
    obtain ⟨hlt, hplace⟩ := List.getElem?_eq_some_iff.mp hplace
    have hfields : f.fields = f.fields.take before.length ++
        name :: f.fields.drop (before.length + 1) := by
      rw [← hplace, List.getElem_cons_drop, List.take_append_drop]
    have hlength : (f.fields.take before.length).length = before.length := by
      rw [List.length_take, Nat.min_eq_left (Nat.le_of_lt hlt)]
    rw [hfields, List.zip_append hlength, List.zip_append hlength, List.zip_cons_cons,
      List.zip_cons_cons]
    exact forall₂_replaced (fun m => ⟨rfl, hblind _ _⟩) ⟨rfl, hset v w h⟩ _ _

end BlockVocabulary
