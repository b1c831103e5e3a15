import Mathlib.Data.List.Forall2

/-!
# Traversals that may fail

An action that may fail is run on the elements of a list, one after another. If it never fails, the
results stand side by side with the elements; otherwise the first failure counts.

## Main results

* `mapM_eq_ok_iff`, `mapM_eq_error_iff`: what a traversal gives
* `mapM_flatMap`: a traversal of many lists, one after another
-/

namespace FeatureDocs

variable {ε α β γ : Type} {f : α → Except ε β} {l : List α} {e : ε}

theorem eq_ok_of_toOption {x : Except ε α} {a : α} (h : x.toOption = some a) : x = .ok a := by
  cases x with
  | error e => cases h
  | ok b => exact congrArg Except.ok (Option.some.inj h)

theorem exists_eq_ok_iff {x : Except ε α} : (∃ a, x = .ok a) ↔ ∀ e, ¬ x = .error e := by
  cases x <;> simp

theorem map_eq_ok_iff {x : Except ε α} {g : α → β} {b : β} :
    x.map g = .ok b ↔ ∃ a, x = .ok a ∧ g a = b := by
  cases x <;> simp [Except.map]

theorem map_eq_error_iff {x : Except ε α} {g : α → β} : x.map g = .error e ↔ x = .error e := by
  cases x <;> simp [Except.map]

theorem mapM_cons_ok {a : α} {b : β} (h : f a = .ok b) :
    (a :: l).mapM f = (l.mapM f).map (b :: ·) := by
  rw [List.mapM_cons, h]
  cases l.mapM f <;> rfl

theorem mapM_cons_error {a : α} (h : f a = .error e) : (a :: l).mapM f = .error e := by
  rw [List.mapM_cons, h]
  rfl

/-- A traversal succeeds where the action does on every element, with the results side by side. -/
theorem mapM_eq_ok_iff {bs : List β} :
    l.mapM f = .ok bs ↔ List.Forall₂ (fun a b => f a = .ok b) l bs := by
  induction l generalizing bs with
  | nil => simp [pure, Except.pure, eq_comm]
  | cons a l ih =>
    rw [List.forall₂_cons_left_iff]
    rcases ha : f a with e | b
    · simp [mapM_cons_error ha]
    · rw [mapM_cons_ok ha, map_eq_ok_iff]
      simp [ih, eq_comm]

/-- A traversal fails with the error of the first element on which the action fails. -/
theorem mapM_eq_error_iff :
    l.mapM f = .error e ↔ ∃ before a after, l = before ++ a :: after ∧
      (∀ b ∈ before, ∃ c, f b = .ok c) ∧ f a = .error e := by
  induction l with
  | nil => simp [pure, Except.pure]
  | cons a l ih =>
    rcases ha : f a with e' | b
    · rw [mapM_cons_error ha]
      constructor
      · rintro ⟨⟩
        exact ⟨[], a, l, rfl, by simp, ha⟩
      · rintro ⟨before, c, after, hsplit, hbefore, hc⟩
        -- Nothing stands before the element, since the first one fails.
        rcases before with _ | ⟨d, before⟩
        · obtain ⟨rfl, -⟩ := List.cons.inj hsplit
          obtain rfl := Except.error.inj (ha.symm.trans hc)
          rfl
        · obtain ⟨rfl, -⟩ := List.cons.inj hsplit
          obtain ⟨y, hy⟩ := hbefore a List.mem_cons_self
          rw [ha] at hy
          cases hy
    · rw [mapM_cons_ok ha, map_eq_error_iff, ih]
      constructor
      · rintro ⟨before, c, after, rfl, hbefore, hc⟩
        exact ⟨a :: before, c, after, rfl, List.forall_mem_cons.mpr ⟨⟨b, ha⟩, hbefore⟩, hc⟩
      · rintro ⟨before, c, after, hsplit, hbefore, hc⟩
        rcases before with _ | ⟨d, before⟩
        · obtain ⟨rfl, -⟩ := List.cons.inj hsplit
          rw [ha] at hc
          cases hc
        · obtain ⟨rfl, rfl⟩ := List.cons.inj hsplit
          exact ⟨before, c, after, rfl, (List.forall_mem_cons.mp hbefore).2, hc⟩

theorem mapM_congr {g : α → Except ε β} (h : ∀ a ∈ l, f a = g a) : l.mapM f = l.mapM g := by
  induction l with
  | nil => rfl
  | cons a l ih =>
    obtain ⟨ha, hl⟩ := List.forall_mem_cons.mp h
    rw [List.mapM_cons, List.mapM_cons, ha, ih hl]

/-- What is done with each result can be done with all of them in the end. -/
theorem mapM_map_result (h : β → γ) :
    (l.mapM fun a => (f a).map h) = (l.mapM f).map (List.map h) := by
  induction l with
  | nil => rfl
  | cons a l ih =>
    rw [List.mapM_cons, List.mapM_cons, ih]
    cases f a <;> cases l.mapM f <;> rfl

/-- A traversal of many lists, one after another. -/
theorem mapM_flatMap (g : γ → List α) (cs : List γ) :
    (cs.flatMap g).mapM f = (cs.mapM fun c => (g c).mapM f).map List.flatten := by
  induction cs with
  | nil => rfl
  | cons c cs ih =>
    rw [List.flatMap_cons, List.mapM_append, List.mapM_cons, ih]
    cases (g c).mapM f <;> cases cs.mapM fun c => (g c).mapM f <;> rfl

end FeatureDocs
