import FeatureDocs.Proofs.Disk.Reordered
import FeatureDocs.Step.Source
import Mathlib.Data.List.Lex

/-!
# The order of paths

Paths are compared by their components, and names by their bytes. This is not the order of the
paths as texts: `a/x` stands before `a-b`, since `a` does, although `-` is less than `/`. A walk
that takes the entries of every directory in the order of their names, and what is below an entry
right behind it, goes through all paths in this order.

## Main definitions

* `Component.Before`, `Path.Before`: the order of components and of paths
* `Entry.inOrder`: an entry whose directories are listed in the order of names

## Main results

* `Entry.reordered_inOrder`: only the listing orders change
* `Entry.pairwise_inOrder`: the walk through all entries goes in the order of their names
-/

namespace FeatureDocs

/-! ## Names -/

/-- Names are compared by their bytes, as lists are. -/
theorem nameLe_iff {m n : Name} : nameLe m n = true ↔ m ≤ n := by
  induction m generalizing n with
  | nil => simp [nameLe]
  | cons a m ih =>
    cases n with
    | nil => simp [nameLe]
    | cons b n =>
      rw [List.cons_le_cons_iff, ← ih]
      simp [nameLe]

theorem nameLe_trans {l m n : Name} (h : nameLe l m = true) (h' : nameLe m n = true) :
    nameLe l n = true :=
  nameLe_iff.mpr (List.le_trans (nameLe_iff.mp h) (nameLe_iff.mp h'))

theorem nameLe_total (m n : Name) : (nameLe m n || nameLe n m) = true := by
  rw [Bool.or_eq_true, nameLe_iff, nameLe_iff]
  exact List.le_total m n

theorem lt_of_nameLe {m n : Name} (h : nameLe m n = true) (hne : m ≠ n) : m < n := by
  by_contra hlt
  exact hne (List.le_antisymm (nameLe_iff.mp h) (List.not_lt.mp hlt))

/-! ## Paths -/

namespace Component

/-- The place of a kind of component among the others. -/
def rank : Component → Nat
  | root => 0
  | here => 1
  | up => 2
  | name _ => 3

/-- A component stands before another: the root before `.`, that before `..`, and that before
names, which stand in the order of their bytes. -/
def Before : Component → Component → Prop
  | name m, name n => m < n
  | c, d => c.rank < d.rank

theorem Before.asymm {c d : Component} (h : c.Before d) : ¬ d.Before c := by
  cases c <;> cases d
  case name.name m n => exact List.lt_asymm h
  all_goals exact Nat.lt_asymm h

instance : Std.Asymm Before where
  asymm _ _ := Before.asymm

end Component

/-- A path stands before another in the order of their components. -/
def Path.Before (p q : Path) : Prop := List.Lex Component.Before p.components q.components

theorem Path.Before.asymm {p q : Path} (h : p.Before q) : ¬ q.Before p :=
  Std.Asymm.asymm (r := List.Lex Component.Before) _ _ h

/-- Paths below one directory stand in the order of the names that lead to them. -/
theorem Path.before_along (p : Path) {ms ns : List Name} (hms : ∀ n ∈ ms, isEntryName n = true)
    (hns : ∀ n ∈ ns, isEntryName n = true) (h : List.Lex (· < ·) ms ns) :
    (p.along ms).Before (p.along ns) := by
  rw [Before, components_along p hms, components_along p hns]
  refine List.Lex.append_left _ ?_ _
  clear hms hns
  induction h with
  | nil => exact .nil
  | cons _ ih => exact .cons ih
  | rel h => exact .rel h

/-! ## Listing in order -/

namespace Entry

/-- The order of the entries of a directory by their names. -/
def byName {β : Type} (x y : Name × β) : Bool := nameLe x.1 y.1

mutual

/-- The entry, with every directory listed in the order of names. -/
def inOrder : Entry → Entry
  | directory entries => directory ((inOrderAll entries).mergeSort byName)
  | file content => file content
  | link target => link target
  | denied operation => denied operation

/-- The entries of a directory, with every directory below them listed in the order of names. -/
def inOrderAll : List (Name × Entry) → List (Name × Entry)
  | [] => []
  | entry :: entries => inOrderNamed entry :: inOrderAll entries

/-- An entry of a directory, with every directory below it listed in the order of names. -/
def inOrderNamed : Name × Entry → Name × Entry
  | (n, e) => (n, e.inOrder)

end

theorem inOrderAll_eq_map (entries : List (Name × Entry)) :
    inOrderAll entries = entries.map inOrderNamed := by
  induction entries with
  | nil => rfl
  | cons entry entries ih => rw [inOrderAll, ih, List.map_cons]

/-- The entries of a directory may be sorted before what is below them. -/
theorem inOrder_directory (entries : List (Name × Entry)) :
    (directory entries).inOrder = directory ((entries.mergeSort byName).map inOrderNamed) := by
  rw [inOrder, inOrderAll_eq_map, List.map_mergeSort]
  rintro ⟨m, d⟩ - ⟨n, e⟩ -
  rfl

/-- Only the listing orders change. -/
theorem reordered_inOrder (e : Entry) : e.Reordered e.inOrder := by
  induction e using Entry.induction with
  | file content | link target | denied operation => exact .refl _
  | directory entries ih =>
    rw [inOrder_directory]
    refine Reordered.listing_of_forall₂ (List.mergeSort_perm entries byName).symm ?_
    rw [List.forall₂_map_right_iff, List.forall₂_same]
    rintro ⟨n, e⟩ hmem
    exact ⟨rfl, ih n e (List.mem_mergeSort.mp hmem)⟩

/-- Only directories have a listing order. -/
theorem Reordered.eq_of_ne_directory {e e' : Entry} (h : e.Reordered e')
    (hne : ∀ entries, e' ≠ directory entries) : e = e' := by
  induction h with
  | refl e => rfl
  | trans _ _ ih ih' =>
    obtain rfl := ih' hne
    exact ih hne
  | listing hperm => exact absurd rfl (hne _)
  | inside before after n _ _ => exact absurd rfl (hne _)

/-- The same names lead to what is no directory. -/
theorem descend_inOrder_iff {e d : Entry} (h : e.wellFormed = true) {ns : List Name}
    (hd : ∀ entries, d ≠ directory entries) :
    e.inOrder.descend ns = .ok d ↔ e.descend ns = .ok d := by
  rcases (reordered_inOrder e).descend h ns with ⟨cause, he, he'⟩ | ⟨c, c', he, he', hc⟩
  · simp [he, he']
  · rw [he, he', Except.ok.injEq, Except.ok.injEq]
    constructor
    · rintro rfl
      exact hc.eq_of_ne_directory hd
    · rintro rfl
      exact hc.symm.eq_of_ne_directory hd

/-- The names of a directory in order increase, since each stands there once. -/
theorem pairwise_mergeSort_byName {entries : List (Name × Entry)}
    (h : (entries.map Prod.fst).Nodup) :
    (entries.mergeSort byName).Pairwise fun x y => x.1 < y.1 := by
  have htrans : ∀ x y z : Name × Entry,
      byName x y = true → byName y z = true → byName x z = true := fun _ _ _ => nameLe_trans
  have htotal : ∀ x y : Name × Entry, (byName x y || byName y x) = true := fun _ _ =>
    nameLe_total _ _
  have hsorted := List.pairwise_mergeSort htrans htotal entries
  have hnodup := ((List.mergeSort_perm entries byName).map Prod.fst).nodup_iff.mpr h
  exact hsorted.imp₂ (fun _ _ => lt_of_nameLe) (List.pairwise_map.mp hnodup)

/-- **The walk through all entries goes in the order of their names.** -/
theorem pairwise_inOrder {e : Entry} (h : e.wellFormed = true) :
    (e.inOrder.descendants.map Prod.fst).Pairwise (List.Lex (· < ·)) := by
  induction e using Entry.induction with
  | file content | link target | denied operation => simp [inOrder, descendants]
  | directory entries ih =>
    rw [inOrder_directory, descendants, List.map_cons, List.pairwise_cons]
    constructor
    · -- The directory itself comes before all that is below it.
      intro ns hns
      obtain ⟨⟨ns, d⟩, hd, rfl⟩ := List.mem_map.mp hns
      obtain ⟨n, e, ms, -, -, rfl⟩ := mem_descendantsOfAll_iff.mp hd
      exact .nil
    · rw [descendantsOfAll_eq_flatMap, List.flatMap_map, List.map_flatMap, List.pairwise_flatMap]
      constructor
      · rintro ⟨n, e⟩ hmem
        rw [List.mem_mergeSort] at hmem
        have hbelow := ih n e hmem (wellFormed_entry h hmem).2
        rw [inOrderNamed, descendantsNamed, List.map_map]
        rw [List.pairwise_map] at hbelow ⊢
        exact hbelow.imp fun hlt => .cons hlt
      · -- What is below one entry comes before what is below the next.
        rw [wellFormed, Bool.and_eq_true, decide_eq_true_iff] at h
        refine (pairwise_mergeSort_byName h.1).imp ?_
        rintro ⟨m, d⟩ ⟨n, e⟩ hlt ms hms ns hns
        obtain ⟨⟨_, _⟩, hmx, rfl⟩ := List.mem_map.mp hms
        obtain ⟨⟨_, _⟩, hmy, rfl⟩ := List.mem_map.mp hns
        obtain ⟨ms, -, rfl⟩ := mem_descendantsNamed_iff.mp hmx
        obtain ⟨ns, -, rfl⟩ := mem_descendantsNamed_iff.mp hmy
        exact .rel hlt

end Entry

end FeatureDocs
