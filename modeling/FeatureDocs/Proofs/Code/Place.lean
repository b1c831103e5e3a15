import FeatureDocs.Proofs.Code.Function
import Mathlib.Data.List.Basic

/-!
# The places of functions

Modules hold items, so items are a forest, and a function has a place in it: the number of its item
in the list that holds it, behind the numbers of the modules around that. The lexicographic order
of places is the order in which functions stand in a source. Going through the items lists every
function, at its place and in this order.

## Main definitions

* `functionAt?`: the function at a place, with the modules that were entered on the way
* `Item.locatedFrom`: the functions of items together with their places
* `Declares`: trees declare a function inside modules

## Main results

* `map_snd_locatedFrom`: forgetting the places leaves the functions of the items
* `mem_locatedFrom_zero_iff`: what is listed is what stands at the places
* `pairwise_locatedFrom`: places are listed in order
* `declares_of_functionAt?`: what stands at a place of a source is declared by its trees
-/

namespace FeatureDocs.Code

variable {n i : Nat} {place : List Nat} {f : Function} {x : List Nat × Function}

/-- The function inside one more module. -/
def Function.within (name : String) (f : Function) : Function :=
  { f with modulePath := name :: f.modulePath }

/-- The function at a place in an item: the item itself, or a function inside it, which the numbers
lead to. -/
def Item.functionIn? : List Nat → Item → Option Function
  | [], function attributes name source => some ⟨[], attributes, name, source⟩
  | i :: place, module name items =>
    (items[i]?.bind (functionIn? place)).map (Function.within name)
  | _, _ => none

/-- The function at a place among items. -/
def functionAt? (items : List Item) : List Nat → Option Function
  | [] => none
  | i :: place => items[i]?.bind (Item.functionIn? place)

theorem Item.functionIn?_module (name : String) (inner : List Item) (place : List Nat) :
    (module name inner).functionIn? place =
      (functionAt? inner place).map (Function.within name) := by
  cases place <;> rfl

/-- A place among items is one in the first item, or one among the others. -/
theorem functionAt?_cons {item : Item} {items : List Item}
    (h : functionAt? (item :: items) place = some f) :
    (∃ tail, item.functionIn? tail = some f) ∨ ∃ later, functionAt? items later = some f := by
  rcases place with _ | ⟨_ | i, tail⟩
  · cases h
  · exact Or.inl ⟨tail, h⟩
  · exact Or.inr ⟨i :: tail, h⟩

namespace Item

mutual

/-- The functions of an item with their places, where the item itself has the number `n`. -/
def located (n : Nat) : Item → List (List Nat × Function)
  | function attributes name source => [([n], ⟨[], attributes, name, source⟩)]
  | module name items => (locatedFrom 0 items).map fun x => (n :: x.1, x.2.within name)
  | other => []

/-- The functions of items with their places, where the items are numbered from `n` on. -/
def locatedFrom (n : Nat) : List Item → List (List Nat × Function)
  | [] => []
  | item :: items => item.located n ++ locatedFrom (n + 1) items

end

/-! ## What is listed -/

mutual

/-- One more module around an item stands around its functions. -/
theorem functions_cons (name : String) (modulePath : List String) :
    ∀ i : Item, i.functions (name :: modulePath) = (i.functions modulePath).map (·.within name)
  | function _ _ _ | other => rfl
  | module inner items => by
    rw [functions, functions, List.cons_append, functionsOfAll_cons]

theorem functionsOfAll_cons (name : String) (modulePath : List String) :
    ∀ is : List Item, functionsOfAll (name :: modulePath) is =
      (functionsOfAll modulePath is).map (·.within name)
  | [] => rfl
  | i :: is => by
    rw [functionsOfAll, functionsOfAll, List.map_append, functions_cons, functionsOfAll_cons]

end

mutual

theorem map_snd_located (n : Nat) : ∀ i : Item, (i.located n).map Prod.snd = i.functions []
  | function _ _ _ | other => rfl
  | module name items => by
    rw [located, functions, List.nil_append, functionsOfAll_cons, ← map_snd_locatedFrom 0 items,
      List.map_map, List.map_map]
    rfl

/-- Forgetting the places leaves the functions. -/
theorem map_snd_locatedFrom (n : Nat) :
    ∀ is : List Item, (locatedFrom n is).map Prod.snd = functionsOfAll [] is
  | [] => rfl
  | i :: is => by
    rw [locatedFrom, functionsOfAll, List.map_append, map_snd_located, map_snd_locatedFrom]

end

/-! ## Where it is listed -/

/-- The places of an item's functions start with the number of the item, -/
theorem exists_tail_of_mem_located {item : Item} (hx : x ∈ item.located n) :
    ∃ tail, x.1 = n :: tail := by
  cases item with
  | function attributes name source => exact ⟨[], by rw [List.mem_singleton.mp hx]⟩
  | module name items =>
    obtain ⟨y, -, rfl⟩ := List.mem_map.mp hx
    exact ⟨y.1, rfl⟩
  | other => cases hx

/-- and those further on start with larger numbers. -/
theorem exists_head_of_mem_locatedFrom {items : List Item} (hx : x ∈ locatedFrom n items) :
    ∃ i tail, n ≤ i ∧ x.1 = i :: tail := by
  induction items generalizing n with
  | nil => cases hx
  | cons item items ih =>
    rcases List.mem_append.mp hx with hx | hx
    · obtain ⟨tail, htail⟩ := exists_tail_of_mem_located hx
      exact ⟨n, tail, le_rfl, htail⟩
    · obtain ⟨i, tail, hi, htail⟩ := ih hx
      exact ⟨i, tail, Nat.le_of_succ_le hi, htail⟩

mutual

theorem mem_located_iff (n : Nat) : ∀ (item : Item) (place : List Nat) (f : Function),
    (n :: place, f) ∈ item.located n ↔ item.functionIn? place = some f
  | function attributes name source, place, f => by
    cases place <;> simp [located, Item.functionIn?, eq_comm]
  | module name inner, place, f => by
    rw [located, List.mem_map]
    constructor
    · rintro ⟨⟨tail, g⟩, hg, heq⟩
      obtain ⟨⟨-, rfl⟩, rfl⟩ := heq
      -- What is listed stands behind the number of an item inside.
      obtain ⟨i, place, -, rfl⟩ := exists_head_of_mem_locatedFrom hg
      rw [← Nat.zero_add i, mem_locatedFrom_iff] at hg
      rw [functionIn?_module, hg, Option.map_some]
    · intro h
      rw [functionIn?_module, Option.map_eq_some_iff] at h
      obtain ⟨g, hg, rfl⟩ := h
      cases place with
      | nil => cases hg
      | cons i place =>
        rw [← mem_locatedFrom_iff 0, Nat.zero_add] at hg
        exact ⟨_, hg, rfl⟩
  | other, place, f => by
    cases place <;> simp [located, Item.functionIn?]

/-- What is listed stands at its place. -/
theorem mem_locatedFrom_iff (n : Nat) :
    ∀ (items : List Item) (i : Nat) (place : List Nat) (f : Function),
      ((n + i) :: place, f) ∈ locatedFrom n items ↔ functionAt? items (i :: place) = some f
  | [], i, place, f => by simp [locatedFrom, functionAt?]
  | item :: items, 0, place, f => by
    rw [locatedFrom, List.mem_append, Nat.add_zero, mem_located_iff]
    apply or_iff_left
    -- The places of later items start with larger numbers.
    intro hlater
    obtain ⟨i, tail, hi, heq⟩ := exists_head_of_mem_locatedFrom hlater
    obtain ⟨rfl, -⟩ := List.cons.inj heq
    exact absurd hi (Nat.not_succ_le_self n)
  | item :: items, i + 1, place, f => by
    rw [locatedFrom, List.mem_append, ← Nat.succ_add_eq_add_succ, mem_locatedFrom_iff]
    apply or_iff_right
    intro hfirst
    obtain ⟨tail, heq⟩ := exists_tail_of_mem_located hfirst
    have := (List.cons.inj heq).1
    omega

end

/-- The functions of items are listed at their places, and nothing else is. -/
theorem mem_locatedFrom_zero_iff {items : List Item} :
    (place, f) ∈ locatedFrom 0 items ↔ functionAt? items place = some f := by
  rcases place with _ | ⟨i, place⟩
  · constructor
    · intro h
      obtain ⟨i, tail, -, heq⟩ := exists_head_of_mem_locatedFrom h
      cases heq
    · intro h
      cases h
  · rw [← mem_locatedFrom_iff 0 items i, Nat.zero_add]

/-- The functions of items are those that stand at some place. -/
theorem mem_functionsOfAll_iff {items : List Item} :
    f ∈ functionsOfAll [] items ↔ ∃ place, functionAt? items place = some f := by
  rw [← map_snd_locatedFrom 0, List.mem_map]
  constructor
  · rintro ⟨x, hx, rfl⟩
    exact ⟨x.1, mem_locatedFrom_zero_iff.mp hx⟩
  · rintro ⟨place, hf⟩
    exact ⟨(place, f), mem_locatedFrom_zero_iff.mpr hf, rfl⟩

/-! ## The order of the places -/

mutual

theorem pairwise_located (n : Nat) : ∀ item : Item, (item.located n).Pairwise fun x y => x.1 < y.1
  | function _ _ _ => List.pairwise_singleton _ _
  | module name items => by
    rw [located, List.pairwise_map]
    exact (pairwise_locatedFrom 0 items).imp fun h => List.cons_lt_cons_self.mpr h
  | other => List.Pairwise.nil

/-- Places are listed in order. -/
theorem pairwise_locatedFrom (n : Nat) :
    ∀ items : List Item, (locatedFrom n items).Pairwise fun x y => x.1 < y.1
  | [] => List.Pairwise.nil
  | item :: items => by
    rw [locatedFrom, List.pairwise_append]
    refine ⟨pairwise_located n item, pairwise_locatedFrom (n + 1) items, fun x hx y hy => ?_⟩
    obtain ⟨tail, hx⟩ := exists_tail_of_mem_located hx
    obtain ⟨i, tail', hi, hy⟩ := exists_head_of_mem_locatedFrom hy
    rw [hx, hy]
    exact List.cons_lt_cons_iff.mpr (Or.inl hi)

end

end Item

/-! ## Declarations

A place says where a function stands among items, of which nothing is known but what was read. In
the trees that they were read from, the function stands behind its keyword, either among the trees
of the source or in the braces of a module. What is in the braces of an implementation, a trait or
a body, or is given to a macro, stands in a group that no module's name precedes, and a module
without braces holds nothing. -/

/-- Trees declare a function of a name, whose source starts at its keyword, inside the modules of a
path. -/
inductive Declares (name : String) (source : List Char) : List Tree → List String → Prop
  | function {ts : List Tree} {start : List Char}
      (h : [.identifier "fn" source, .identifier name start] <:+: ts) : Declares name source ts []
  | within {ts body : List Tree} {outer : String} {keyword start : List Char} {path : List String}
      (h : [.identifier "mod" keyword, .identifier outer start, .group .brace body] <:+: ts)
      (hbody : Declares name source body path) : Declares name source ts (outer :: path)

section Declared

variable {ts us : List Tree}

theorem Declares.mono {name : String} {source : List Char} {path : List String}
    (h : Declares name source ts path) (hts : ts <:+: us) : Declares name source us path := by
  cases h with
  | function h => exact .function (h.trans hts)
  | within h hbody => exact .within (h.trans hts) hbody

/-- Where an item stands, its function is declared. The item is no module, for what a module holds
is still to be read when its head has been. -/
theorem declares_of_standsIn {item : Item}
    (h : Head.StandsIn (.item item) ts) (hf : item.functionIn? place = some f) :
    Declares f.name f.source ts f.modulePath := by
  cases h with
  | function h =>
    cases place with
    | nil =>
      obtain rfl := Option.some.inj hf
      exact .function h
    | cons i place => cases hf
  | other => cases place <;> cases hf

/-- The functions of items are declared by the trees that the items were read from. -/
theorem declares_itemsWithin {bound : Nat} {items : List Item}
    (h : itemsWithin bound ts = some items) (hf : functionAt? items place = some f) :
    Declares f.name f.source ts f.modulePath := by
  fun_induction itemsWithin bound ts generalizing items place f with
  | case1 =>
    cases h
    cases place <;> cases hf
  | case2 | case3 | case6 => cases h
  | case4 bound ts _ item rest hhead ih =>
    obtain ⟨later, hlater, rfl⟩ := Option.map_eq_some_iff.mp h
    rcases functionAt?_cons hf with ⟨tail, htail⟩ | ⟨place, hplace⟩
    · exact declares_of_standsIn (foundIn_head? hhead).2 htail
    · exact (ih hlater hplace).mono (foundIn_head? hhead).1.isInfix
  | case5 bound ts _ name content rest hhead inner later hlater hinner ihinner ihlater =>
    obtain rfl := Option.some.inj h
    rcases functionAt?_cons hf with ⟨tail, htail⟩ | ⟨place, hplace⟩
    · -- The function is one of the module's, and so declared in what its braces end in.
      rw [Item.functionIn?_module, Option.map_eq_some_iff] at htail
      obtain ⟨g, hg, rfl⟩ := htail
      cases (foundIn_head? hhead).2 with
      | module hbraces hcontent =>
        exact .within hbraces ((ihinner hinner hg).mono hcontent.isInfix)
    · exact (ihlater hlater hplace).mono (foundIn_head? hhead).1.isInfix

/-- **The functions of a source are declared by its trees**, within the modules that are around
them. -/
theorem declares_of_functionAt? {source : List Char} {items : List Item}
    (h : Item.ofSource? source = some items)
    (hf : functionAt? items place = some f) :
    ∃ ts, Tree.ofSource? (sourceText source) = some ts ∧
      Declares f.name f.source ts f.modulePath := by
  unfold Item.ofSource? at h
  split at h
  · cases h
  · rename_i ts hts
    split at h
    · cases h
    · rename_i inner us hinner
      exact ⟨ts, hts,
        (declares_itemsWithin h hf).mono (suffix_of_innerAttributes hinner).isInfix⟩

end Declared

end FeatureDocs.Code
