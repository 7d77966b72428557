import BlockVocabulary.Proofs.RecordReading
import Mathlib.Data.List.Forall2
import Mathlib.Data.List.Pairwise
import Mathlib.Data.List.Perm.Basic

/-!
Reading what was written, in whatever order objects list their members.

A writer lists the members of an object as the record declares its fields, and a value that comes
from a text lists them by name. What is said here of a reader holds for all these orders. A record
is read back if each of its members sets one field, whatever was set before, and setting different
fields can be done in any order.
-/

namespace BlockVocabulary

/-- The same value, with the members of its objects in some order. -/
inductive Json.Rearranged : Json → Json → Prop
  | refl (v : Json) : Rearranged v v
  | list {items items' : List Json} (h : List.Forall₂ Rearranged items items') :
      Rearranged (.list items) (.list items')
  | object {members members' listed : List (String × Json)}
      (hnames : members.map (·.1) = members'.map (·.1))
      (hvalues : List.Forall₂ Rearranged (members.map (·.2)) (members'.map (·.2)))
      (hlisted : members'.Perm listed) : Rearranged (.object members) (.object listed)

/-- The reader takes the value for `a`, in whatever order its objects list their members. -/
def Recovers {α : Type} (read : Json → Decoded α) (v : Json) (a : α) : Prop :=
  ∀ w, v.Rearranged w → read w = .ok a

section

variable {α β : Type}

/-! ### Related lists -/

/-- Lists are related if their keys are the same and their values are related. -/
lemma forall₂_of_map {γ : Type} {R : β → β → Prop} {key : α → γ} {value : α → β} {l m : List α}
    (hkeys : l.map key = m.map key) (hvalues : List.Forall₂ R (l.map value) (m.map value)) :
    List.Forall₂ (fun a b => key a = key b ∧ R (value a) (value b)) l m := by
  induction l generalizing m with
  | nil =>
    cases m with
    | nil => exact .nil
    | cons b m => cases hvalues
  | cons a l ih =>
    cases m with
    | nil => cases hvalues
    | cons b m =>
      obtain ⟨hkey, hkeys⟩ := List.cons.inj hkeys
      obtain ⟨hvalue, hvalues⟩ := List.forall₂_cons.mp hvalues
      exact .cons ⟨hkey, hvalue⟩ (ih hkeys hvalues)

/-- Two lists related to a third one are related to each other. -/
lemma forall₂_through {γ : Type} {R : α → β → Prop} {S : α → γ → Prop} {T : β → γ → Prop}
    (h : ∀ a b c, R a b → S a c → T b c) {l : List α} {m : List β} {n : List γ}
    (hm : List.Forall₂ R l m) (hn : List.Forall₂ S l n) : List.Forall₂ T m n := by
  induction hm generalizing n with
  | nil =>
    cases hn
    exact .nil
  | cons hab _ ih =>
    cases hn with
    | cons hac hrest => exact .cons (h _ _ _ hab hac) (ih hrest)

/-! ### Rearranged values -/

lemma rearranged_list {items : List Json} {w : Json} (h : (Json.list items).Rearranged w) :
    ∃ items', w = .list items' ∧ List.Forall₂ Json.Rearranged items items' := by
  cases h with
  | refl => exact ⟨items, rfl, List.forall₂_same.mpr fun v _ => .refl v⟩
  | list h => exact ⟨_, rfl, h⟩

lemma rearranged_object {members : List (String × Json)} {w : Json}
    (h : (Json.object members).Rearranged w) :
    ∃ members' listed, w = .object listed ∧
      List.Forall₂ (fun m m' => m.1 = m'.1 ∧ m.2.Rearranged m'.2) members members' ∧
      members'.Perm listed := by
  cases h with
  | refl =>
    exact ⟨members, members, rfl, List.forall₂_same.mpr fun m _ => ⟨rfl, .refl m.2⟩, .refl _⟩
  | object hnames hvalues hlisted => exact ⟨_, _, rfl, forall₂_of_map hnames hvalues, hlisted⟩

/-! ### Values that are no records -/

lemma recovers_string (s : String) : Recovers Decode.string (.text s) s := by
  rintro _ ⟨⟩
  rfl

lemma recovers_bool (b : Bool) : Recovers Decode.bool (.bool b) b := by
  rintro _ ⟨⟩
  rfl

lemma recovers_natBelow {bound n : ℕ} (h : n < bound) (expected : String) :
    Recovers (Decode.natBelow bound expected) (Json.nat n) n := by
  rintro _ ⟨⟩
  have hrange : 0 ≤ (n : Int) ∧ (n : Int) < bound := ⟨Int.natCast_nonneg n, by exact_mod_cast h⟩
  rw [Json.nat, Decode.natBelow, if_pos hrange, Int.toNat_natCast]

lemma recovers_none (read : Json → Decoded α) : Recovers (Decode.nullable read) .null none := by
  rintro _ ⟨⟩
  rfl

lemma recovers_some {read : Json → Decoded α} (hnull : ∀ a, read .null ≠ .ok a) {v : Json} {a : α}
    (h : Recovers read v a) : Recovers (Decode.nullable read) v (some a) := by
  intro w hw
  have hread := h w hw
  unfold Decode.nullable
  split
  · exact absurd hread (hnull a)
  · rw [hread]
    rfl

lemma recovers_variant {names : List String} {ofName? : String → Option α} {name : String} {a : α}
    (h : ofName? name = some a) : Recovers (Decode.variant names ofName?) (.text name) a := by
  rintro _ ⟨⟩
  rw [Decode.variant, Decode.variant.pick, h]

lemma recovers_list {read : Json → Decoded α} {write : α → Json} {l : List α}
    (h : ∀ a ∈ l, Recovers read (write a) a) :
    Recovers (Decode.list read) (.list (l.map write)) l := by
  intro w hw
  obtain ⟨items, rfl, hitems⟩ := rearranged_list hw
  rw [List.forall₂_map_left_iff] at hitems
  clear hw
  change items.mapM read = .ok l
  induction hitems with
  | nil => rfl
  | cons hv _ ih =>
    obtain ⟨ha, hrest⟩ := List.forall_mem_cons.mp h
    rw [List.mapM_cons, ha _ hv, ih hrest]
    rfl

lemma foldlM_insert_eq_ok {read : Json → Decoded α} {members : List (String × Json)}
    {entries : List (String × α)}
    (h : List.Forall₂ (fun m e => m.1 = e.1 ∧ read m.2 = .ok e.2) members entries) (t : Table α) :
    members.foldlM (fun t m => do return t.insert m.1 (← read m.2)) t =
      .ok (entries.foldl (fun t e => t.insert e.1 e.2) t) := by
  induction h generalizing t with
  | nil => rfl
  | cons hm _ ih =>
    obtain ⟨hname, hvalue⟩ := hm
    rw [List.foldlM_cons, hname, hvalue]
    exact ih _

lemma foldl_insert_empty (entries : List (String × α)) :
    entries.foldl (fun t e => t.insert e.1 e.2) Table.empty = Table.ofList entries := by
  have hentries : ∀ t : Table α, (entries.foldl (fun t e => t.insert e.1 e.2) t).entries =
      entries.foldl (fun l e => Keyed.insert e.1 e.2 l) t.entries := by
    induction entries with
    | nil => exact fun _ => rfl
    | cons e entries ih => exact fun t => ih (t.insert e.1 e.2)
  exact Table.ext_get? fun k => congrArg (List.lookup k) (hentries Table.empty)

/-- The entries of a table may come in any order. -/
lemma recovers_table {read : Json → Decoded α} (write : α → Json) {t : Table α}
    (h : ∀ e ∈ t.entries, Recovers read (write e.2) e.2) :
    Recovers (Decode.table read) (.object (t.entries.map fun e => (e.1, write e.2))) t := by
  intro w hw
  obtain ⟨members, listed, rfl, hmembers, hlisted⟩ := rearranged_object hw
  rw [List.forall₂_map_left_iff] at hmembers
  have hread : List.Forall₂ (fun (m : String × Json) (e : String × α) =>
      m.1 = e.1 ∧ read m.2 = .ok e.2) members t.entries :=
    (((List.forall₂_and_left _ _).mpr ⟨h, hmembers⟩).imp fun e m hm =>
      ⟨hm.2.1.symm, hm.1 m.2 hm.2.2⟩).flip
  obtain ⟨entries, hentries, hperm⟩ := List.perm_comp_forall₂ hlisted.symm hread
  rw [Decode.table, foldlM_insert_eq_ok hentries, foldl_insert_empty, Table.ofList_of_perm hperm]

/-! ### Records -/

variable {f : RecordFormat α}

/-- A member of the name and the value updates a record, whatever was set in it before. -/
def RecordFormat.Sets (f : RecordFormat α) (name : String) (v : Json) (update : α → α) : Prop :=
  ∀ w, v.Rearranged w → ∀ x, f.set name w x = .ok (update x)

lemma sets_of_recovers (f : RecordFormat α) (name : String) {read : Json → Decoded β} {v : Json}
    {b : β} (put : β → α → α)
    (hset : ∀ w x, f.set name w x = read w >>= fun b => pure (put b x))
    (h : Recovers read v b) : f.Sets name v (put b) := by
  intro w hw x
  rw [hset, h w hw]
  rfl

/-- The members make the updates, one each; they give all that is required, nothing twice, and the
order of the updates does not matter. -/
structure RecordFormat.Written (f : RecordFormat α) (members : List (String × Json))
    (updates : List (α → α)) : Prop where
  sets : List.Forall₂ (fun m update => f.Sets m.1 m.2 update) members updates
  apart : (members.map (·.1)).Nodup
  required : ∀ name ∈ f.required, name ∈ members.map (·.1)
  commute : updates.Pairwise fun u u' => ∀ x, u (u' x) = u' (u x)

/-- A member that is left out when there is nothing to say makes its update when it is there. -/
lemma RecordFormat.Written.optional {members : List (String × Json)} {updates : List (α → α)}
    (h : f.Written members updates) {name : String} {write : β → Json} {o : Option β}
    (put : β → α → α) (hset : ∀ b ∈ o, f.Sets name (write b) (put b))
    (hnew : name ∉ members.map (·.1))
    (hcommute : ∀ update ∈ updates, ∀ b x, update (put b x) = put b (update x)) :
    f.Written (members ++ Json.optional name write o) (updates ++ (o.map put).toList) := by
  cases o with
  | none => simpa [Json.optional] using h
  | some b =>
    refine ⟨List.rel_append h.sets (.cons (hset b rfl) .nil), ?_, fun n hn => ?_, ?_⟩
    · rw [Json.optional, List.map_append, List.map_singleton]
      refine List.nodup_append.mpr ⟨h.apart, by simp, fun a ha c hc => ?_⟩
      obtain rfl := List.mem_singleton.mp hc
      exact fun heq => hnew (heq ▸ ha)
    · rw [List.map_append]
      exact List.mem_append_left _ (h.required n hn)
    · refine List.pairwise_append.mpr ⟨h.commute, List.pairwise_singleton _ _, ?_⟩
      rintro update hu _ (_ | ⟨_, ⟨⟩⟩)
      exact hcommute update hu b

lemma RecordFormat.Written.foldl_eq_of_perm {members : List (String × Json)}
    {updates updates' : List (α → α)} (h : f.Written members updates) (hp : updates'.Perm updates)
    (x : α) :
    updates'.foldl (fun x update => update x) x = updates.foldl (fun x update => update x) x := by
  have hsymm : Std.Symm fun u u' : α → α => ∀ x, u (u' x) = u' (u x) :=
    ⟨fun _ _ hcommute x => (hcommute x).symm⟩
  refine hp.foldl_eq' (fun u hu u' hu' y => ?_) x
  exact h.commute.forall_of_forall (fun _ _ _ => rfl) (hp.subset hu') (hp.subset hu) y

lemma setAll_eq_ok_of_forall₂ {members : List (String × Json)} {updates : List (α → α)}
    (h : List.Forall₂ (fun m update => ∀ x, f.set m.1 m.2 x = .ok (update x)) members updates)
    (x : α) : f.setAll x members = .ok (updates.foldl (fun x update => update x) x) := by
  induction h generalizing x with
  | nil => rfl
  | cons hm _ ih =>
    rw [RecordFormat.setAll, List.foldlM_cons, hm x]
    exact ih _

/-- **A record is read back** from its members in any order. -/
lemma recovers_record {members : List (String × Json)} {updates : List (α → α)} {x : α}
    (h : f.Written members updates) (hrename : f.rename = id)
    (hx : updates.foldl (fun x update => update x) f.start = x) :
    Recovers f.read (.object members) x := by
  intro w hw
  obtain ⟨members', listed, rfl, hmembers, hlisted⟩ := rearranged_object hw
  have hsets : List.Forall₂ (fun m update => ∀ x, f.set m.1 m.2 x = .ok (update x)) members'
      updates :=
    forall₂_through (fun m m' update hm hset => hm.1 ▸ hset m'.2 hm.2) hmembers h.sets
  obtain ⟨updates', hsets', hupdates⟩ := List.perm_comp_forall₂ hlisted.symm hsets
  have hnames : (listed.map (·.1)).Perm (members.map (·.1)) := by
    have heq : members.map (·.1) = members'.map (·.1) := by
      rw [← List.forall₂_eq_eq_eq, List.forall₂_map_left_iff, List.forall₂_map_right_iff]
      exact hmembers.imp fun _ _ hm => hm.1
    exact heq ▸ hlisted.symm.map _
  have hrenamed : f.renamed listed = listed := by simp [RecordFormat.renamed, hrename]
  refine f.ofMembers_eq_ok.mpr ⟨?_, ?_, ?_⟩
  · rw [RecordFormat.given, hrenamed]
    exact (hnames.nodup_iff.mpr h.apart).filter _
  · rw [hrenamed, setAll_eq_ok_of_forall₂ hsets', h.foldl_eq_of_perm hupdates, hx]
  · rw [hrenamed]
    exact fun name hname => hnames.mem_iff.mpr (h.required name hname)

end

end BlockVocabulary
