import FeatureDocs.Proofs.Path

/-!
# Where a path leads by its text alone

The components of a path tell where it leads if no link stands in the way: `.` stays, and `..` takes
back the name before it, or climbs where there is none. A path that is put behind another one goes
on from where that leads, in whatever spelling.

What a path above or a file name tells depends on the last component only. It is no name if the path
is spelled with `.` or `..` at the end, or is the root.

## Main definitions

* `Path.resolved`: the components that are left once `.` and `..` are resolved

## Main results

* `Path.resolved_join`: a relative path goes on from where the other one leads
* `Path.fileName?_eq_some_iff`, `Path.length_components_parent?`: the file name and the path above,
  by the components
* `Component.prefix_after_iff`: the one way to leave a place by one more component
-/

namespace FeatureDocs

/-- What is left of a path with one more component, if the others are resolved. Above the root there
is nothing, and above the place where a relative path starts there is no name to take back. -/
def Component.after (above : List Component) : Component → List Component
  | here => above
  | up =>
    match above.getLast? with
    | some (name _) => above.dropLast
    | some root => above
    | _ => above ++ [up]
  | root => above ++ [root]
  | name n => above ++ [name n]

/-- The components of a path once `.` and `..` are resolved by the text alone. -/
def Path.resolved (p : Path) : List Component := p.components.foldl Component.after []

namespace Component

theorem foldl_after_names (above : List Component) (ns : List Name) :
    (ns.map name).foldl after above = above ++ ns.map name := by
  induction ns generalizing above with
  | nil => simp
  | cons n ns ih =>
    rw [List.map_cons, List.foldl_cons, ih, after, List.append_assoc]
    rfl

/-- Each `..` takes back one name. -/
theorem foldl_after_up (above : List Component) (ns : List Name) :
    (List.replicate ns.length up).foldl after (above ++ ns.map name) = above := by
  induction ns using List.reverseRecOn with
  | nil => simp
  | append_singleton ns n ih =>
    have hback : after (above ++ (ns ++ [n]).map name) up = above ++ ns.map name := by
      rw [List.map_append, List.map_singleton, ← List.append_assoc, after, List.getLast?_concat]
      exact List.dropLast_concat
    rw [List.length_append, List.length_singleton, List.replicate_succ, List.foldl_cons, hback, ih]

/-- Only the components of pieces say where a relative path leads. -/
theorem foldl_after_filter {cs : List Component} (h : root ∉ cs) (above : List Component) :
    (cs.filter isOfPiece).foldl after above = cs.foldl after above := by
  induction cs generalizing above with
  | nil => rfl
  | cons c cs ih =>
    rw [List.mem_cons, not_or] at h
    rw [List.foldl_cons]
    cases c with
    | root => exact absurd rfl h.1
    | here => exact ih h.2 above
    | up => exact ih h.2 (after above up)
    | name n => exact ih h.2 (after above (name n))

/-- **One more component leaves a place only if it is `..`** and there is a name to take back. -/
theorem prefix_after_iff {above : List Component} {c : Component} :
    above <+: after above c ↔ (c = up → ∀ n, above.getLast? ≠ some (name n)) := by
  cases c with
  | root | name n => simp [after]
  | here => simp [after]
  | up =>
    simp only [forall_const]
    rcases List.eq_nil_or_concat' above with rfl | ⟨front, last, rfl⟩
    · simp [after]
    · rw [after, List.getLast?_concat]
      cases last with
      | name n =>
        -- What is left is shorter.
        have hshort : ¬ front ++ [name n] <+: front := fun h => by
          have hlength := h.length_le
          rw [List.length_append, List.length_singleton] at hlength
          omega
        simpa using hshort
      | root => simp
      | here | up => simp

end Component

namespace Path

/-! ## The last component -/

/-- The pieces behind the lead of a path are its last ones. -/
theorem exists_pieces_eq_append_view (p : Path) : ∃ front, pieces p.bytes = front ++ p.view.2 := by
  -- The lead takes a first piece that is empty or `.`, and nothing else.
  rcases p.view_cases with ⟨hbytes, hview⟩ | ⟨s, hbytes, hview⟩ | ⟨ns, hpieces, hview⟩ |
    ⟨n, ns, -, hpieces, hview⟩
  · exact ⟨[], by rw [hview, hbytes]; rfl⟩
  · exact ⟨[[]], by rw [hview, hbytes, pieces_slash]; rfl⟩
  · exact ⟨[hereName], by rw [hview, hpieces]; rfl⟩
  · exact ⟨[], by rw [hview, hpieces]; rfl⟩

/-- A path whose last component is a name is that far spelled by its pieces. -/
theorem components_concat {p : Path} {front : List Name} {n : Name}
    (h : dropVoidEnd p.view.2 = front ++ [n]) : ∃ c, component? n = some c ∧
      p.components = p.view.1.components ++ front.filterMap component? ++ [c] := by
  have hvoid := isVoid_getLast_dropVoidEnd h
  obtain ⟨c, hc⟩ : ∃ c, component? n = some c := by
    rw [← Option.ne_none_iff_exists', Ne, component?_eq_none_iff, hvoid]
    simp
  refine ⟨c, hc, ?_⟩
  rw [components_of_view (Prod.eta p.view).symm, ← filterMap_dropVoidEnd, h,
    List.filterMap_append, ← List.append_assoc, List.filterMap_cons_some hc, List.filterMap_nil]

/-- A path without such pieces has at most the component of its lead. -/
theorem components_of_dropVoidEnd_eq_nil {p : Path} (h : dropVoidEnd p.view.2 = []) :
    p.components = p.view.1.components := by
  rw [components_of_view (Prod.eta p.view).symm, ← filterMap_dropVoidEnd, h,
    List.filterMap_nil, List.append_nil]

/-- **The file name is the last component**, if that is a name. -/
theorem fileName?_eq_some_iff {p : Path} {n : Name} :
    p.fileName? = some n ↔ p.components.getLast? = some (.name n) := by
  rw [fileName?]
  rcases List.eq_nil_or_concat' (dropVoidEnd p.view.2) with hnil | ⟨front, m, hm⟩
  · rw [components_of_dropVoidEnd_eq_nil hnil, hnil]
    cases p.view.1 <;> simp [Lead.components]
  · obtain ⟨c, hc, hcomponents⟩ := components_concat hm
    rw [hcomponents, hm, List.getLast?_concat, List.getLast?_concat]
    rcases (component?_cases hc).2 with ⟨rfl, rfl⟩ | ⟨rfl, hup⟩
    · simp
    · simp [hup]

/-- Only the root and the empty path have no path above. -/
theorem components_of_parent?_eq_none {p : Path} (h : p.parent? = none) :
    p.bytes = [] ∨ p.components = [.root] := by
  rw [parent?] at h
  cases hend : dropVoidEnd p.view.2 with
  | cons n rest => simp [hend] at h
  | nil =>
    simp only [hend, ite_eq_right_iff, reduceCtorEq, imp_false] at h
    rw [components_of_dropVoidEnd_eq_nil hend]
    rcases p.view_cases with ⟨hbytes, -⟩ | ⟨s, -, hview⟩ | ⟨ns, -, hview⟩ | ⟨n, ns, hn, -, hview⟩
    · exact Or.inl hbytes
    · exact Or.inr (by rw [hview]; rfl)
    · exact absurd (by rw [hview]) h
    · -- The first piece is not void, so it is left.
      rw [hview, dropVoidEnd, List.reverse_eq_nil_iff, List.dropWhile_eq_nil_iff] at hend
      have hvoid := hend n (by simp)
      simp [hn] at hvoid

theorem components_of_empty {p : Path} (h : p.bytes = []) : p.components = [] := by
  obtain rfl : p = ⟨[]⟩ := congrArg Path.mk h
  rfl

/-- The path above has one component less, as far as there are any. -/
theorem length_components_parent? (p : Path) :
    (p.parent?.map fun q => q.components.length).getD 0 = p.components.length - 1 := by
  cases h : p.parent? with
  | none =>
    rcases components_of_parent?_eq_none h with hempty | hroot
    · simp [components_of_empty hempty]
    · simp [hroot]
  | some q =>
    obtain ⟨c, hc⟩ := components_parent? h
    simp [hc]

/-- Only behind a component of its own does a path have a path above. -/
theorem exists_components_parent? {p : Path} (h : p.bytes ≠ []) :
    ∃ c, p.components = (p.parent?.getD ⟨[]⟩).components ++ [c] := by
  cases hparent : p.parent? with
  | none => exact ⟨.root, (components_of_parent?_eq_none hparent).resolve_left h⟩
  | some q => exact components_parent? hparent

/-- Above a path that ends with a name is the path without it. -/
theorem exists_parent? {p : Path} {cs : List Component} {n : Name}
    (h : p.components = cs ++ [.name n]) : ∃ q, p.parent? = some q ∧ q.components = cs := by
  cases hparent : p.parent? with
  | none =>
    rcases components_of_parent?_eq_none hparent with hempty | hroot
    · simp [components_of_empty hempty] at h
    · have hlast := congrArg List.getLast? (hroot.symm.trans h)
      simp at hlast
  | some q =>
    obtain ⟨c, hc⟩ := components_parent? hparent
    exact ⟨q, rfl, (List.append_inj' (hc.symm.trans h) rfl).1⟩

/-! ## Resolving -/

theorem root_not_mem_components {p : Path} (h : p.isAbsolute = false) :
    Component.root ∉ p.components := by
  rw [components_eq, List.mem_append, not_or]
  constructor
  · intro hmem
    have hlead : p.components.head? = some .root := by
      rw [components_eq]
      cases hlead : p.view.1 <;> simp_all [Lead.components]
    simp [isAbsolute_iff.mpr hlead] at h
  · intro hmem
    obtain ⟨n, -, hn⟩ := List.mem_filterMap.mp hmem
    rcases (component?_cases hn).2 with ⟨hc, -⟩ | ⟨hc, -⟩ <;> simp at hc

/-- The names among the components of a path are those that an entry may have. -/
theorem isEntryName_of_mem_components {p : Path} {n : Name} (h : .name n ∈ p.components) :
    isEntryName n = true := by
  rw [components_eq, List.mem_append] at h
  -- No lead is a name, and a piece has no slash.
  rcases h with hlead | hpiece
  · cases hview : p.view.1 <;> simp [hview, Lead.components] at hlead
  · obtain ⟨m, hm, hcomponent⟩ := List.mem_filterMap.mp hpiece
    rcases (component?_cases hcomponent).2 with ⟨hup, -⟩ | ⟨hname, -⟩
    · simp at hup
    · obtain rfl := Component.name.inj hname
      exact isEntryName_iff.mpr ⟨hcomponent, not_mem_of_mem_pieces hm⟩

/-- **A relative path goes on from where the path before it leads.** -/
theorem resolved_join (p : Path) {q : Path} (h : q.isAbsolute = false) :
    (p.join q).resolved = q.components.foldl Component.after p.resolved := by
  by_cases hp : p.bytes = []
  · rw [join_of_empty hp, resolved, resolved, components_of_empty hp]
    rfl
  · -- The join drops the `.` of the path behind, which leads nowhere.
    rw [resolved, components_join hp h, List.foldl_append,
      Component.foldl_after_filter (root_not_mem_components h)]
    rfl

end Path

end FeatureDocs
