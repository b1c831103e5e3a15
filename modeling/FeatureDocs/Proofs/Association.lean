import Mathlib.Data.List.Forall2
import Mathlib.Data.List.Nodup

/-!
# Association lists

Looking up a key in a list of pairs that holds each key once, and a partner in a list that goes
side by side with another.
-/

namespace FeatureDocs

/-- Every element has a partner beside it. -/
theorem exists_partner {α β : Type} {R : α → β → Prop} {l : List α} {u : List β}
    (h : List.Forall₂ R l u) {a : α} (ha : a ∈ l) : ∃ b ∈ u, R a b := by
  induction h with
  | nil => simp at ha
  | @cons a' b l u hfirst _ ih =>
    rcases List.mem_cons.mp ha with rfl | ha
    · exact ⟨b, List.mem_cons_self, hfirst⟩
    · obtain ⟨c, hc, hR⟩ := ih ha
      exact ⟨c, List.mem_cons_of_mem _ hc, hR⟩

/-- Two maps of one list go side by side as their values do. -/
theorem forall₂_map_same {α β γ : Type} {R : β → γ → Prop} {f : α → β} {g : α → γ} {l : List α}
    (h : ∀ a ∈ l, R (f a) (g a)) : List.Forall₂ R (l.map f) (l.map g) := by
  rw [List.forall₂_map_left_iff, List.forall₂_map_right_iff, List.forall₂_same]
  exact h

variable {α β : Type} [BEq α] [LawfulBEq α]

/-- A key that a list holds once leads to its value. -/
theorem lookup_eq_some_iff_mem {l : List (α × β)} {a : α} {b : β} (h : (l.map Prod.fst).Nodup) :
    l.lookup a = some b ↔ (a, b) ∈ l := by
  constructor
  · intro hlookup
    obtain ⟨before, after, rfl, -⟩ := List.lookup_eq_some_iff.mp hlookup
    simp
  · intro hmem
    obtain ⟨before, after, rfl⟩ := List.append_of_mem hmem
    refine List.lookup_eq_some_iff.mpr ⟨before, after, rfl, fun x hx => ?_⟩
    rw [List.map_append, List.map_cons, List.nodup_middle, List.nodup_cons] at h
    rw [bne_iff_ne]
    intro heq
    exact h.1 (List.mem_append_left _ (List.mem_map.mpr ⟨x, hx, heq.symm⟩))

end FeatureDocs
