/-!
Lists of named values in strictly increasing order of name, and tables made of them.

Names are compared code point by code point, which is also the order of their UTF-8 bytes.
A table is determined by its lookups: two tables that answer every name alike are equal.
-/

namespace BlockVocabulary

namespace Keyed

variable {α : Type}

/-- Puts `v` under `k`, in its place; a value already there is replaced. -/
def insert (k : String) (v : α) : List (String × α) → List (String × α)
  | [] => [(k, v)]
  | (k', v') :: rest =>
    if k < k' then (k, v) :: (k', v') :: rest
    else if k = k' then (k, v) :: rest
    else (k', v') :: insert k v rest

/-- The list with the given entries put in one after the other, so the last of a name counts. -/
def ofList (entries : List (String × α)) : List (String × α) :=
  entries.foldl (fun l e => insert e.1 e.2 l) []

/-- Strictly increasing names. -/
def Sorted (l : List (String × α)) : Prop := l.Pairwise (fun a b => a.1 < b.1)

theorem lt_of_not_lt_of_ne {a b : String} (h : ¬a < b) (hne : a ≠ b) : b < a := by
  apply Decidable.byContradiction
  intro h'
  exact hne (String.le_antisymm (String.not_lt.1 h') (String.not_lt.1 h))

theorem mem_insert {k : String} {v : α} {e : String × α} {l : List (String × α)} :
    e ∈ insert k v l → e = (k, v) ∨ e ∈ l := by
  induction l with
  | nil => simp [insert]
  | cons hd tl ih =>
    obtain ⟨k', v'⟩ := hd
    rw [insert]
    split
    · simp
    · split
      · simp only [List.mem_cons]
        rintro (h | h)
        · exact .inl h
        · exact .inr (.inr h)
      · simp only [List.mem_cons]
        rintro (h | h)
        · exact .inr (.inl h)
        · exact (ih h).elim .inl (.inr ∘ .inr)

theorem sorted_nil : Sorted ([] : List (String × α)) := List.Pairwise.nil

theorem sorted_insert (k : String) (v : α) {l : List (String × α)} (h : Sorted l) :
    Sorted (insert k v l) := by
  induction l with
  | nil => simp [insert, Sorted]
  | cons hd tl ih =>
    obtain ⟨k', v'⟩ := hd
    have hd' : ∀ e ∈ tl, k' < e.1 := fun e he => List.rel_of_pairwise_cons h he
    have tl' : Sorted tl := List.Pairwise.of_cons h
    rw [insert]
    split
    · rename_i hlt
      refine List.Pairwise.cons ?_ h
      rintro e he
      rcases List.mem_cons.1 he with rfl | he
      · exact hlt
      · exact String.lt_trans hlt (hd' e he)
    · split
      · rename_i heq
        subst heq
        exact List.Pairwise.cons hd' tl'
      · rename_i hlt hne
        refine List.Pairwise.cons ?_ (ih tl')
        intro e he
        rcases mem_insert he with rfl | he
        · exact lt_of_not_lt_of_ne hlt hne
        · exact hd' e he

theorem sorted_ofList (entries : List (String × α)) : Sorted (ofList entries) := by
  suffices h : ∀ l : List (String × α), Sorted l →
      Sorted (entries.foldl (fun l e => insert e.1 e.2 l) l) from h [] sorted_nil
  induction entries with
  | nil => exact fun l hl => hl
  | cons e es ih => exact fun l hl => ih _ (sorted_insert e.1 e.2 hl)

theorem lookup_insert_self (k : String) (v : α) (l : List (String × α)) :
    (insert k v l).lookup k = some v := by
  induction l with
  | nil => simp [insert]
  | cons hd tl ih =>
    obtain ⟨k', v'⟩ := hd
    rw [insert]
    split
    · simp
    · split
      · simp
      · rename_i hne
        rw [List.lookup_cons, beq_false_of_ne hne]
        exact ih

theorem lookup_insert_of_ne {k k' : String} (v : α) (h : k' ≠ k) (l : List (String × α)) :
    (insert k v l).lookup k' = l.lookup k' := by
  induction l with
  | nil => simp [insert, List.lookup_cons, beq_false_of_ne h]
  | cons hd tl ih =>
    obtain ⟨k₀, v₀⟩ := hd
    rw [insert]
    split
    · rw [List.lookup_cons, beq_false_of_ne h]
    · split
      · rename_i heq
        subst heq
        rw [List.lookup_cons, List.lookup_cons, beq_false_of_ne h]
      · rw [List.lookup_cons, List.lookup_cons, ih]

theorem lookup_insert (k k' : String) (v : α) (l : List (String × α)) :
    (insert k v l).lookup k' = ([(k, v)].lookup k').or (l.lookup k') := by
  by_cases h : k' = k
  · subst h
    simp [lookup_insert_self]
  · simp [lookup_insert_of_ne v h, List.lookup_cons, beq_false_of_ne h]

/-- Of several entries under one name the last is found. -/
theorem lookup_ofList (entries : List (String × α)) (k : String) :
    (ofList entries).lookup k = entries.reverse.lookup k := by
  suffices h : ∀ l : List (String × α),
      (entries.foldl (fun l e => insert e.1 e.2 l) l).lookup k =
        (entries.reverse.lookup k).or (l.lookup k) from by simpa [ofList] using h []
  induction entries with
  | nil => simp
  | cons e es ih =>
    intro l
    rw [List.foldl_cons, ih, lookup_insert, List.reverse_cons, List.lookup_append, Option.or_assoc]

theorem lookup_eq_none_of_forall_lt {k : String} {l : List (String × α)}
    (h : ∀ e ∈ l, k < e.1) : l.lookup k = none := by
  induction l with
  | nil => rfl
  | cons hd tl ih =>
    have hlt := h hd (by simp)
    have hne : k ≠ hd.1 := fun e => String.lt_irrefl k (e ▸ hlt)
    rw [List.lookup_cons, beq_false_of_ne hne]
    exact ih fun e he => h e (by simp [he])

theorem lookup_cons_fst (e : String × α) (l : List (String × α)) :
    (e :: l).lookup e.1 = some e.2 := by
  obtain ⟨k, v⟩ := e
  simp

/-- In a sorted list every entry is found. -/
theorem lookup_of_mem {l : List (String × α)} (hl : Sorted l) {e : String × α} (h : e ∈ l) :
    l.lookup e.1 = some e.2 := by
  induction l with
  | nil => cases h
  | cons hd tl ih =>
    rcases List.mem_cons.1 h with rfl | htl
    · exact lookup_cons_fst e tl
    · have hne : e.1 ≠ hd.1 := fun he =>
        String.lt_irrefl e.1 (by simpa [he] using List.rel_of_pairwise_cons hl htl)
      rw [List.lookup_cons, beq_false_of_ne hne]
      exact ih (List.Pairwise.of_cons hl) htl

/-- In a sorted list that was put into another order every name is answered as before. -/
theorem lookup_of_perm {l m : List (String × α)} (hl : Sorted l) (h : m.Perm l) (k : String) :
    m.lookup k = l.lookup k := by
  rcases hm : m.lookup k with _ | v
  · rw [List.lookup_eq_none_iff] at hm
    exact (List.lookup_eq_none_iff.mpr fun e he => hm e (h.mem_iff.mpr he)).symm
  · obtain ⟨l₁, l₂, rfl, -⟩ := List.lookup_eq_some_iff.mp hm
    have hmem : (k, v) ∈ l := h.mem_iff.mp (by simp)
    exact (lookup_of_mem hl hmem).symm

/-- Sorted lists that answer every name alike are equal. -/
theorem eq_of_lookup_eq {l m : List (String × α)} (hl : Sorted l) (hm : Sorted m)
    (h : ∀ k, l.lookup k = m.lookup k) : l = m := by
  induction l generalizing m with
  | nil =>
    cases m with
    | nil => rfl
    | cons b bs => simpa [lookup_cons_fst] using h b.1
  | cons a as ih =>
    cases m with
    | nil => simpa [lookup_cons_fst] using h a.1
    | cons b bs =>
      have ha : ∀ e ∈ as, a.1 < e.1 := fun e he => List.rel_of_pairwise_cons hl he
      have hb : ∀ e ∈ bs, b.1 < e.1 := fun e he => List.rel_of_pairwise_cons hm he
      have hk : a.1 = b.1 := by
        apply Decidable.byContradiction
        intro hne
        by_cases hlt : a.1 < b.1
        · have hnone : (b :: bs).lookup a.1 = none := by
            apply lookup_eq_none_of_forall_lt
            intro e he
            rcases List.mem_cons.1 he with rfl | he
            · exact hlt
            · exact String.lt_trans hlt (hb e he)
          simp [← h, lookup_cons_fst] at hnone
        · have hgt := lt_of_not_lt_of_ne hlt hne
          have hnone : (a :: as).lookup b.1 = none := by
            apply lookup_eq_none_of_forall_lt
            intro e he
            rcases List.mem_cons.1 he with rfl | he
            · exact hgt
            · exact String.lt_trans hgt (ha e he)
          simp [h, lookup_cons_fst] at hnone
      have hv : a.2 = b.2 := by
        have := h a.1
        rw [lookup_cons_fst, hk, lookup_cons_fst] at this
        exact Option.some.inj this
      have htl : as = bs := by
        refine ih (List.Pairwise.of_cons hl) (List.Pairwise.of_cons hm) fun k => ?_
        by_cases he : k = a.1
        · rw [he, lookup_eq_none_of_forall_lt ha, hk, lookup_eq_none_of_forall_lt hb]
        · have := h k
          rwa [List.lookup_cons, List.lookup_cons, ← hk, beq_false_of_ne he] at this
      rw [htl, show a = b from Prod.ext hk hv]

end Keyed

/-- Values under distinct names, kept in the order of the names. -/
structure Table (α : Type) where
  entries : List (String × α)
  sorted : Keyed.Sorted entries

namespace Table

variable {α : Type}

def empty : Table α := ⟨[], Keyed.sorted_nil⟩

instance : Inhabited (Table α) := ⟨empty⟩

def insert (t : Table α) (k : String) (v : α) : Table α :=
  ⟨Keyed.insert k v t.entries, Keyed.sorted_insert k v t.sorted⟩

def ofList (entries : List (String × α)) : Table α :=
  ⟨Keyed.ofList entries, Keyed.sorted_ofList entries⟩

def get? (t : Table α) (k : String) : Option α := t.entries.lookup k

def contains (t : Table α) (k : String) : Bool := (t.get? k).isSome

def size (t : Table α) : Nat := t.entries.length

def keys (t : Table α) : List String := t.entries.map (·.1)

def values (t : Table α) : List α := t.entries.map (·.2)

@[simp] theorem get?_empty (k : String) : (empty : Table α).get? k = none := rfl

@[simp] theorem get?_insert_self (t : Table α) (k : String) (v : α) :
    (t.insert k v).get? k = some v :=
  Keyed.lookup_insert_self k v t.entries

theorem get?_insert_of_ne (t : Table α) {k k' : String} (v : α) (h : k' ≠ k) :
    (t.insert k v).get? k' = t.get? k' :=
  Keyed.lookup_insert_of_ne v h t.entries

theorem mem_keys {t : Table α} {k : String} : k ∈ t.keys ↔ (t.get? k).isSome = true := by
  simp only [get?, keys, List.lookup_isSome_iff, List.mem_map, beq_iff_eq, eq_comm (a := k)]

theorem sorted_keys (t : Table α) : t.keys.Pairwise (· < ·) := List.pairwise_map.2 t.sorted

/-- A table is determined by its lookups. -/
theorem ext_get? {t u : Table α} (h : ∀ k, t.get? k = u.get? k) : t = u := by
  obtain ⟨l, hl⟩ := t
  obtain ⟨m, hm⟩ := u
  obtain rfl : l = m := Keyed.eq_of_lookup_eq hl hm h
  rfl

/-- The entries of a table may be put in again in any order. -/
theorem ofList_of_perm {t : Table α} {entries : List (String × α)} (h : entries.Perm t.entries) :
    ofList entries = t :=
  ext_get? fun k => by
    rw [ofList, get?, Keyed.lookup_ofList,
      Keyed.lookup_of_perm t.sorted ((List.reverse_perm entries).trans h), get?]

end Table

end BlockVocabulary
