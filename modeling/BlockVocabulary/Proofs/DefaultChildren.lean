import BlockVocabulary.Toolbox
import Mathlib.Data.List.Induction
import Mathlib.Data.List.Nodup
import Mathlib.Tactic.Common

/-!
The default children that a reference carries.

A reference goes through the rows of its schema, and a later default child of a connection name
takes the place of an earlier one. An input is looked up at the first row of its name instead. The
two agree on every name that is not repeated.
-/

namespace BlockVocabulary

lemma getLast?_filterMap {α β : Type} {f : α → Option β} {l : List α}
    (h : ∀ a ∈ l, (f a).isSome) : (l.filterMap f).getLast? = l.getLast?.bind f := by
  rcases List.eq_nil_or_concat l with rfl | ⟨l', a, rfl⟩
  · rfl
  · obtain ⟨b, hb⟩ := Option.isSome_iff_exists.mp (h a (by simp))
    simp [List.filterMap_append, hb]

namespace BlockSchema

/-- The names of the connections, repeated ones included. -/
def connectionNames (s : BlockSchema) : List String := s.rows.filterMap (·.connectionName?)

end BlockSchema

/-- The default child that a row declares for a connection name. -/
def Row.shadowOf? (r : Row) (name : String) : Option String :=
  if r.connectionName? = some name then r.shadow? else none

/-- The default children declared for a connection name, in the order of the rows. -/
def BlockSchema.shadows (s : BlockSchema) (name : String) : List String :=
  s.rows.filterMap (·.shadowOf? name)

namespace BlockReference

/-- With the default child that a row declares. -/
def withRow (r : BlockReference) (row : Row) : BlockReference :=
  match row.connectionName?, row.shadow? with
  | some name, some shadow => r.withShadow name shadow
  | _, _ => r

lemma ofSchema_eq (s : BlockSchema) :
    ofSchema s = s.rows.foldl withRow { type := s.type } := rfl

@[simp] lemma type_withRow (r : BlockReference) (row : Row) : (r.withRow row).type = r.type := by
  unfold withRow
  split <;> rfl

lemma get?_inputs_withRow (r : BlockReference) (row : Row) (name : String) :
    (r.withRow row).inputs.get? name = (row.shadowOf? name).or (r.inputs.get? name) := by
  rcases hn : row.connectionName? with _ | k
  · simp [withRow, Row.shadowOf?, hn]
  · rcases hs : row.shadow? with _ | shadow
    · simp [withRow, Row.shadowOf?, hn, hs]
    · by_cases hk : k = name
      · subst hk
        simp [withRow, withShadow, Row.shadowOf?, hn, hs]
      · simp [withRow, withShadow, Row.shadowOf?, hn, hs, hk,
          Table.get?_insert_of_ne _ _ (Ne.symm hk)]

@[simp] lemma type_ofSchema (s : BlockSchema) : (ofSchema s).type = s.type := by
  suffices h : ∀ (rows : List Row) (r : BlockReference), (rows.foldl withRow r).type = r.type from
    h s.rows _
  intro rows
  induction rows with
  | nil => exact fun r => rfl
  | cons row rows ih =>
    intro r
    rw [List.foldl_cons, ih, type_withRow]

/-- **Of the default children declared for a name the last counts.** -/
lemma get?_inputs_ofSchema (s : BlockSchema) (name : String) :
    (ofSchema s).inputs.get? name = (s.shadows name).getLast? := by
  rw [ofSchema_eq, BlockSchema.shadows]
  induction s.rows using List.reverseRecOn with
  | nil => rfl
  | append_singleton rows row ih =>
    rw [List.foldl_append, List.foldl_cons, List.foldl_nil, get?_inputs_withRow, ih,
      List.filterMap_append, List.getLast?_append]
    rcases hs : row.shadowOf? name <;> simp [hs]

end BlockReference

/-- With at most one row of the name, the first such row is the one that declares its child. -/
lemma shadows_eq_toList {s : BlockSchema} {name : String} (h : s.connectionNames.count name ≤ 1) :
    s.shadows name = ((s.input? name).bind Row.shadow?).toList := by
  unfold BlockSchema.connectionNames at h
  unfold BlockSchema.shadows BlockSchema.input?
  generalize s.rows = rows at h ⊢
  induction rows with
  | nil => rfl
  | cons row rows ih =>
    by_cases hrow : row.connectionName? = some name
    · -- no further row has the name
      have hnone : rows.filterMap (·.shadowOf? name) = [] := by
        have h0 : (rows.filterMap (·.connectionName?)).count name = 0 := by
          simpa [List.filterMap_cons, hrow] using h
        rw [List.filterMap_eq_nil_iff]
        intro row' hmem
        have hne : row'.connectionName? ≠ some name := fun hn =>
          List.count_eq_zero.mp h0 (List.mem_filterMap.mpr ⟨row', hmem, hn⟩)
        exact if_neg hne
      rw [List.find?_cons_of_pos (by simpa using hrow), Option.bind_some, List.filterMap_cons,
        show row.shadowOf? name = row.shadow? from if_pos hrow, hnone]
      rcases row.shadow? with _ | shadow <;> rfl
    · have hle : (rows.filterMap (·.connectionName?)).count name ≤ 1 := by
        refine Nat.le_trans ?_ h
        rcases hn : row.connectionName? with _ | k <;> simp [hn, List.count_cons]
      have hrow' : row.shadowOf? name = none := if_neg hrow
      rw [List.find?_cons_of_neg (by simpa using hrow), ← ih hle, List.filterMap_cons, hrow']

/-- A reference agrees with its schema on every name that is not repeated. -/
lemma get?_inputs_eq_input? {s : BlockSchema} {name : String}
    (h : s.connectionNames.count name ≤ 1) :
    (BlockReference.ofSchema s).inputs.get? name = (s.input? name).bind Row.shadow? := by
  rw [BlockReference.get?_inputs_ofSchema, shadows_eq_toList h]
  rcases (s.input? name).bind Row.shadow? with _ | shadow <;> rfl

/-- The rows of a connection name that declare a default child. -/
def BlockSchema.declaring (s : BlockSchema) (name : String) : List Row :=
  s.rows.filter fun row => row.connectionName? = some name ∧ row.shadow?.isSome

lemma shadows_eq_declaring (s : BlockSchema) (name : String) :
    s.shadows name = (s.declaring name).filterMap Row.shadow? := by
  rw [BlockSchema.shadows, BlockSchema.declaring, List.filterMap_filter]
  congr 1
  funext row
  by_cases hn : row.connectionName? = some name <;> rcases hs : row.shadow? with _ | shadow <;>
    simp [Row.shadowOf?, hn, hs]

/-- The last row that declares a default child for a name decides. -/
lemma get?_inputs_eq_getLast?_declaring (s : BlockSchema) (name : String) :
    (BlockReference.ofSchema s).inputs.get? name =
      (s.declaring name).getLast?.bind Row.shadow? := by
  have hall : ∀ row ∈ s.declaring name, row.shadow?.isSome := by
    intro row hrow
    have hdeclares := (List.mem_filter.mp hrow).2
    exact (of_decide_eq_true hdeclares).2
  rw [BlockReference.get?_inputs_ofSchema, shadows_eq_declaring, getLast?_filterMap hall]

lemma mem_keys_inputs_iff (s : BlockSchema) (name : String) :
    name ∈ (BlockReference.ofSchema s).inputs.keys ↔
      ∃ row ∈ s.rows, row.connectionName? = some name ∧ row.shadow?.isSome := by
  have hdeclares : ∀ row ∈ s.rows, row.shadowOf? name ≠ none ↔
      row.connectionName? = some name ∧ row.shadow?.isSome := by
    intro row _
    by_cases hn : row.connectionName? = some name <;>
      simp [Row.shadowOf?, hn, Option.isSome_iff_ne_none]
  rw [Table.mem_keys, BlockReference.get?_inputs_ofSchema, List.getLast?_isSome,
    BlockSchema.shadows, ne_eq, List.filterMap_eq_nil_iff]
  push Not
  exact exists_congr fun row => and_congr_right (hdeclares row)

/-- **Which default children a reference carries.** It carries one for a connection name if and
only if a row of the name declares one, and that of the last such row. If no two rows have one
connection name, it carries for every name the default child of the input of that name, and none
where this input has none. -/
theorem inputs_ofSchema (s : BlockSchema) :
    let inputs := (BlockReference.ofSchema s).inputs
    (∀ name, name ∈ inputs.keys ↔
      ∃ row ∈ s.rows, row.connectionName? = some name ∧ row.shadow?.isSome) ∧
    (∀ name, inputs.get? name = (s.declaring name).getLast?.bind Row.shadow?) ∧
    (s.connectionNames.Nodup → ∀ name,
      inputs.get? name = (s.input? name).bind Row.shadow? ∧
      ∀ row, s.input? name = some row → row.shadow? = none → name ∉ inputs.keys) := by
  refine ⟨mem_keys_inputs_iff s, get?_inputs_eq_getLast?_declaring s, fun hnodup name => ?_⟩
  have hagree := get?_inputs_eq_input? (List.nodup_iff_count_le_one.mp hnodup name)
  refine ⟨hagree, fun row hrow hnone hkey => ?_⟩
  rw [Table.mem_keys, hagree, hrow, Option.bind_some, hnone] at hkey
  cases hkey

/-- Four rows of one connection name, of which the first and the third declare a default child. -/
def repeatedRows : BlockSchema where
  type := "pick"
  rows :=
    [⟨.value "AT" none (some "one"), []⟩, ⟨.statement "AT" none, []⟩,
      ⟨.value "AT" (some "Number") (some "two"), []⟩, ⟨.value "AT" none none, []⟩]
  shape := .statement
  colour := defaultColour

/-- Rows of different connection names, and rows without a connection between them. -/
def distinctRows : BlockSchema :=
  { repeatedRows with
    rows :=
      [⟨.value "AT" none (some "one"), []⟩, Row.dummy, ⟨.statement "DO" none, []⟩, Row.dummy] }

theorem inputs_ofSchema_rows :
    ((BlockReference.ofSchema repeatedRows).inputs.get? "AT" = some "two" ∧
      (repeatedRows.input? "AT").bind Row.shadow? = some "one") ∧
    distinctRows.connectionNames.Nodup ∧
    (BlockReference.ofSchema distinctRows).inputs.get? "AT" = some "one" ∧
    (distinctRows.input? "DO").isSome ∧
    "DO" ∉ (BlockReference.ofSchema distinctRows).inputs.keys := by
  obtain ⟨-, hlast, -⟩ := inputs_ofSchema repeatedRows
  obtain ⟨-, -, hdistinct⟩ := inputs_ofSchema distinctRows
  have hnodup : distinctRows.connectionNames.Nodup := by decide
  exact ⟨⟨hlast "AT", rfl⟩, hnodup, (hdistinct hnodup "AT").1, rfl,
    (hdistinct hnodup "DO").2 _ rfl rfl⟩

end BlockVocabulary
