import Mathlib.Data.List.Forall2
import Mathlib.Tactic.Common

/-!
Computations that stop at their first failure.

Such a computation succeeds exactly if all its steps do. Two of them are alike if they fail for the
same reason or succeed with results that are related; being alike passes from the steps to the whole.
-/

namespace BlockVocabulary

variable {ε α β γ δ : Type}

lemma bind_eq_ok {x : Except ε α} {f : α → Except ε β} {b : β} :
    x >>= f = .ok b ↔ ∃ a, x = .ok a ∧ f a = .ok b := by
  cases x <;> simp [bind, Except.bind]

lemma foldlM_cons_eq_ok {f : β → α → Except ε β} {a : α} {l : List α} {b b' : β} :
    (a :: l).foldlM f b = .ok b' ↔ ∃ c, f b a = .ok c ∧ l.foldlM f c = .ok b' := by
  rw [List.foldlM_cons, bind_eq_ok]

lemma foldlM_nil_eq_ok {f : β → α → Except ε β} {b b' : β} :
    ([] : List α).foldlM f b = .ok b' ↔ b = b' := by
  rw [List.foldlM_nil]
  exact Except.ok.injEq b b' ▸ Iff.rfl

/-- What every step keeps a whole run keeps. -/
lemma foldlM_invariant {f : β → α → Except ε β} {P : β → Prop}
    (hstep : ∀ b a b', P b → f b a = .ok b' → P b') {l : List α} {b b' : β}
    (hrun : l.foldlM f b = .ok b') (hb : P b) : P b' := by
  induction l generalizing b with
  | nil => exact foldlM_nil_eq_ok.mp hrun ▸ hb
  | cons a l ih =>
    obtain ⟨c, hc, hrun⟩ := foldlM_cons_eq_ok.mp hrun
    exact ih hrun (hstep b a c hb hc)

/-- What comes out of a list of steps comes out of one of them. -/
lemma exists_of_mem_mapM {f : α → Except ε β} {l : List α} {l' : List β}
    (hrun : l.mapM f = .ok l') {b : β} (hb : b ∈ l') : ∃ a, f a = .ok b := by
  induction l generalizing l' with
  | nil =>
    obtain rfl := Except.ok.inj hrun
    cases hb
  | cons a l ih =>
    rw [List.mapM_cons] at hrun
    obtain ⟨c, hc, hrun⟩ := bind_eq_ok.mp hrun
    obtain ⟨cs, hcs, hrun⟩ := bind_eq_ok.mp hrun
    obtain rfl := Except.ok.inj hrun
    rcases List.mem_cons.mp hb with rfl | hb
    · exact ⟨a, hc⟩
    · exact ih hcs hb

/-! ### Computations that are alike -/

/-- Both fail for the same reason, or both succeed and their results are related. -/
inductive Alike (S : α → β → Prop) : Except ε α → Except ε β → Prop
  | error (e : ε) : Alike S (.error e) (.error e)
  | ok {a : α} {b : β} (h : S a b) : Alike S (.ok a) (.ok b)

namespace Alike

variable {S : α → β → Prop} {T : γ → δ → Prop}

lemma refl {S : α → α → Prop} (h : ∀ a, S a a) (x : Except ε α) : Alike S x x := by
  cases x with
  | error e => exact .error e
  | ok a => exact .ok (h a)

lemma self (x : Except ε α) : Alike (fun _ _ => True) x x := refl (fun _ => trivial) x

lemma mono {S' : α → β → Prop} {x : Except ε α} {y : Except ε β} (h : Alike S x y)
    (hS : ∀ a b, S a b → S' a b) : Alike S' x y := by
  cases h with
  | error e => exact .error e
  | ok h => exact .ok (hS _ _ h)

lemma bind {x : Except ε α} {y : Except ε β} {f : α → Except ε γ} {g : β → Except ε δ}
    (h : Alike S x y) (hfg : ∀ a b, S a b → Alike T (f a) (g b)) :
    Alike T (x >>= f) (y >>= g) := by
  cases h with
  | error e => exact .error e
  | ok h => exact hfg _ _ h

lemma mapError {ε' : Type} {x : Except ε α} {y : Except ε β} (h : Alike S x y) (f : ε → ε') :
    Alike S (x.mapError f) (y.mapError f) := by
  cases h with
  | error e => exact .error (f e)
  | ok h => exact .ok h

/-- The reason for a failure is the same. -/
lemma eq_error_iff {x : Except ε α} {y : Except ε β} (h : Alike S x y) (e : ε) :
    x = .error e ↔ y = .error e := by
  cases h <;> simp

lemma isOk_eq {x : Except ε α} {y : Except ε β} (h : Alike S x y) : x.isOk = y.isOk := by
  cases h <;> rfl

/-- Runs of steps that are alike, from starts that are related. -/
lemma foldlM {R : γ → δ → Prop} {f : α → γ → Except ε α} {g : β → δ → Except ε β}
    (hstep : ∀ a b c d, S a b → R c d → Alike S (f a c) (g b d)) {l : List γ} {l' : List δ}
    (hl : List.Forall₂ R l l') {a : α} {b : β} (hab : S a b) :
    Alike S (l.foldlM f a) (l'.foldlM g b) := by
  induction hl generalizing a b with
  | nil => exact .ok hab
  | cons hcd _ ih => exact (hstep a b _ _ hab hcd).bind fun _ _ => ih

lemma mapM {f : γ → Except ε α} {g : δ → Except ε β} {l : List γ} {l' : List δ}
    (hl : List.Forall₂ (fun c d => Alike S (f c) (g d)) l l') :
    Alike (List.Forall₂ S) (l.mapM f) (l'.mapM g) := by
  induction hl with
  | nil => exact .ok .nil
  | cons hcd _ ih =>
    rw [List.mapM_cons, List.mapM_cons]
    exact hcd.bind fun _ _ hab => ih.bind fun _ _ htl => .ok (.cons hab htl)

end Alike

end BlockVocabulary
