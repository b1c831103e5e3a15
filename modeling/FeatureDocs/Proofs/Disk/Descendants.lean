import FeatureDocs.Proofs.Disk.Lookup

/-!
# The entries below an entry

An entry and all entries below it, each with the names that lead to it, parents first and the
entries of a directory in listing order. On a well-formed disk no two of them have the same names,
and the names lead to an entry exactly if it is one of them. A walk that starts from a path reaches
each by a path of its own.

## Main definitions

* `Entry.descendants`: an entry and all entries below it
* `Path.along`, `Disk.visits`: paths that go on with names, and those that a walk visits

## Main results

* `Entry.mem_descendants_iff`, `Entry.nodup_descendants`: every entry is listed, and once only
* `Disk.mem_visits_iff`, `Disk.nodup_visits`: every entry is visited, and once only
-/

namespace FeatureDocs

namespace Entry

mutual

/-- An entry and all entries below it, each with the names that lead to it. -/
def descendants : Entry → List (List Name × Entry)
  | directory entries => ([], directory entries) :: descendantsOfAll entries
  | file content => [([], file content)]
  | link target => [([], link target)]
  | denied operation => [([], denied operation)]

/-- The entries of a directory and all entries below them. -/
def descendantsOfAll : List (Name × Entry) → List (List Name × Entry)
  | [] => []
  | entry :: entries => descendantsNamed entry ++ descendantsOfAll entries

/-- An entry of a directory and all entries below it. -/
def descendantsNamed : Name × Entry → List (List Name × Entry)
  | (n, e) => e.descendants.map fun (ns, d) => (n :: ns, d)

end

/-- Induction over file trees: a directory may use what is known of its entries. -/
theorem induction {motive : Entry → Prop} (file : ∀ content, motive (file content))
    (directory : ∀ entries, (∀ n e, (n, e) ∈ entries → motive e) → motive (directory entries))
    (link : ∀ target, motive (link target)) (denied : ∀ operation, motive (denied operation)) :
    ∀ e, motive e
  | .file content => file content
  | .directory entries => directory entries fun n e hmem =>
    have : sizeOf e < 1 + sizeOf entries := by
      have hlt := List.sizeOf_lt_of_mem hmem
      rw [Prod.mk.sizeOf_spec] at hlt
      omega
    induction file directory link denied e
  | .link target => link target
  | .denied operation => denied operation

theorem descendantsOfAll_eq_flatMap (entries : List (Name × Entry)) :
    descendantsOfAll entries = entries.flatMap descendantsNamed := by
  induction entries with
  | nil => rfl
  | cons entry entries ih => rw [descendantsOfAll, List.flatMap_cons, ih]

theorem mem_descendantsNamed_iff {entry : Name × Entry} {ns : List Name} {d : Entry} :
    (ns, d) ∈ descendantsNamed entry ↔
      ∃ ms, (ms, d) ∈ entry.2.descendants ∧ ns = entry.1 :: ms := by
  obtain ⟨n, e⟩ := entry
  rw [descendantsNamed, List.mem_map]
  constructor
  · rintro ⟨⟨ms, d'⟩, hd, heq⟩
    obtain ⟨rfl, rfl⟩ := Prod.mk.inj heq
    exact ⟨ms, hd, rfl⟩
  · rintro ⟨ms, hd, rfl⟩
    exact ⟨(ms, d), hd, rfl⟩

theorem mem_descendantsOfAll_iff {entries : List (Name × Entry)} {ns : List Name} {d : Entry} :
    (ns, d) ∈ descendantsOfAll entries ↔
      ∃ n e ms, (n, e) ∈ entries ∧ (ms, d) ∈ e.descendants ∧ ns = n :: ms := by
  rw [descendantsOfAll_eq_flatMap, List.mem_flatMap]
  constructor
  · rintro ⟨⟨n, e⟩, hmem, h⟩
    obtain ⟨ms, hd, rfl⟩ := mem_descendantsNamed_iff.mp h
    exact ⟨n, e, ms, hmem, hd, rfl⟩
  · rintro ⟨n, e, ms, hmem, hd, rfl⟩
    exact ⟨(n, e), hmem, mem_descendantsNamed_iff.mpr ⟨ms, hd, rfl⟩⟩

/-- What is below an entry of a directory is below the directory. -/
theorem mem_descendants_directory {entries : List (Name × Entry)} {n : Name} {e d : Entry}
    {ns : List Name} (hmem : (n, e) ∈ entries) (hd : (ns, d) ∈ e.descendants) :
    (n :: ns, d) ∈ (directory entries).descendants := by
  rw [descendants, List.mem_cons, mem_descendantsOfAll_iff]
  exact Or.inr ⟨n, e, ns, hmem, hd, rfl⟩

/-- **The entries below an entry are those that names lead to.** -/
theorem mem_descendants_iff {e d : Entry} {ns : List Name} (h : e.wellFormed = true) :
    (ns, d) ∈ e.descendants ↔ e.descend ns = .ok d := by
  induction e using Entry.induction generalizing ns with
  | file content | link target | denied operation =>
    cases ns <;> simp [descendants, descend, child, bind, Except.bind, eq_comm]
  | directory entries ih =>
    rw [descendants, List.mem_cons, mem_descendantsOfAll_iff]
    cases ns with
    | nil => simp [descend, eq_comm]
    | cons n ns =>
      simp only [Prod.mk.injEq, reduceCtorEq, false_and, false_or, List.cons.injEq, descend]
      -- The first name is that of an entry, and the others lead on from there.
      constructor
      · rintro ⟨m, e, ms, hmem, hd, rfl, rfl⟩
        rw [(child_eq_ok_iff h).mpr hmem]
        exact (ih _ _ hmem (wellFormed_entry h hmem).2).mp hd
      · intro hd
        cases hc : (directory entries).child n with
        | error cause => simp [hc, bind, Except.bind] at hd
        | ok e =>
          rw [hc] at hd
          have hmem := (child_eq_ok_iff h).mp hc
          exact ⟨n, e, ns, hmem, (ih _ _ hmem (wellFormed_entry h hmem).2).mpr hd, rfl, rfl⟩

/-- **No two entries below an entry have the same names.** -/
theorem nodup_descendants {e : Entry} (h : e.wellFormed = true) :
    (e.descendants.map Prod.fst).Nodup := by
  induction e using Entry.induction with
  | file content | link target | denied operation => simp [descendants]
  | directory entries ih =>
    rw [descendants, List.map_cons, List.nodup_cons]
    constructor
    · -- The names of everything below start with that of an entry, so they are not empty.
      intro hmem
      obtain ⟨⟨ns, d⟩, hd, rfl⟩ := List.mem_map.mp hmem
      obtain ⟨n, e, ms, -, -, hns⟩ := mem_descendantsOfAll_iff.mp hd
      simp at hns
    · rw [descendantsOfAll_eq_flatMap, List.map_flatMap, List.nodup_flatMap]
      constructor
      · rintro ⟨n, e⟩ hmem
        rw [descendantsNamed, List.map_map]
        have hn := (ih n e hmem (wellFormed_entry h hmem).2).map (List.cons_injective (a := n))
        rwa [List.map_map] at hn
      · -- Entries of different names have nothing below them in common.
        rw [wellFormed, Bool.and_eq_true, decide_eq_true_iff] at h
        refine (List.pairwise_map.mp h.1).imp fun {x y} hne ns hx hy => hne ?_
        obtain ⟨⟨_, _⟩, hmx, rfl⟩ := List.mem_map.mp hx
        obtain ⟨⟨_, _⟩, hmy, heq⟩ := List.mem_map.mp hy
        obtain ⟨ms, -, hnx⟩ := mem_descendantsNamed_iff.mp hmx
        obtain ⟨ms', -, hny⟩ := mem_descendantsNamed_iff.mp hmy
        exact (List.cons.inj (hnx.symm.trans (heq.symm.trans hny))).1

end Entry

/-- The path that goes on from a directory with names. -/
def Path.along (p : Path) (ns : List Name) : Path := ns.foldl Path.entry p

@[simp] theorem Path.along_nil (p : Path) : p.along [] = p := rfl

@[simp] theorem Path.along_cons (p : Path) (n : Name) (ns : List Name) :
    p.along (n :: ns) = (p.entry n).along ns := rfl

theorem Path.components_along (p : Path) {ns : List Name} (hns : ∀ n ∈ ns, isEntryName n = true) :
    (p.along ns).components = p.components ++ ns.map .name := by
  induction ns generalizing p with
  | nil => simp
  | cons n ns ih =>
    obtain ⟨hn, hns⟩ := List.forall_mem_cons.mp hns
    rw [Path.along_cons, ih _ hns, Path.components_entry p hn, List.append_assoc]
    rfl

theorem Entry.isEntryName_of_mem_descendants {e d : Entry} {ns : List Name}
    (h : e.wellFormed = true) (hd : (ns, d) ∈ e.descendants) : ∀ n ∈ ns, isEntryName n = true := by
  induction e using Entry.induction generalizing ns with
  | file content | link target | denied operation =>
    obtain ⟨rfl, -⟩ := Prod.mk.inj (List.mem_singleton.mp hd)
    simp
  | directory entries ih =>
    rw [descendants, List.mem_cons, mem_descendantsOfAll_iff] at hd
    rcases hd with hd | ⟨m, e, ms, hmem, hd, rfl⟩
    · obtain ⟨rfl, -⟩ := Prod.mk.inj hd
      simp
    · obtain ⟨hm, he⟩ := wellFormed_entry h hmem
      exact List.forall_mem_cons.mpr ⟨hm, ih m e hmem he hd⟩

theorem Entry.wellFormed_descend {e d : Entry} {ns : List Name} (h : e.wellFormed = true)
    (hd : e.descend ns = .ok d) : d.wellFormed = true := by
  induction ns generalizing e with
  | nil => exact Except.ok.inj hd ▸ h
  | cons n ns ih =>
    rw [descend] at hd
    cases hc : e.child n with
    | error cause => simp [hc, bind, Except.bind] at hd
    | ok c =>
      rw [hc] at hd
      cases e with
      | directory entries =>
        exact ih (wellFormed_entry h ((child_eq_ok_iff h).mp hc)).2 hd
      | file content | link target | denied operation => simp [child] at hc

namespace Disk

/-- **The path of each entry leads to it.** -/
theorem Finds.along {disk : Disk} {p : Path} {place ns : List Name} {e d : Entry}
    (h : disk.Finds p place e) (hwf : e.wellFormed = true) (hd : (ns, d) ∈ e.descendants) :
    disk.Finds (p.along ns) (place ++ ns) d := by
  induction e using Entry.induction generalizing p place ns with
  | file content | link target | denied operation =>
    simp only [Entry.descendants, List.mem_singleton, Prod.mk.injEq] at hd
    obtain ⟨rfl, rfl⟩ := hd
    simpa using h
  | directory entries ih =>
    rw [Entry.descendants, List.mem_cons, Entry.mem_descendantsOfAll_iff] at hd
    rcases hd with hd | ⟨n, e, ms, hmem, hd, rfl⟩
    · obtain ⟨rfl, rfl⟩ := Prod.mk.inj hd
      simpa using h
    · have hentry := ih n e hmem (h.entry hwf hmem) (Entry.wellFormed_entry hwf hmem).2 hd
      rw [List.append_assoc, List.singleton_append] at hentry
      rwa [Path.along_cons]

/-- The path of each entry below a directory leads to it, also where a link leads to the
directory. -/
theorem Reaches.along {disk : Disk} {p : Path} {place ns : List Name} {n : Name} {e d : Entry}
    (h : disk.Reaches p place e) (hwf : e.wellFormed = true) (hd : (n :: ns, d) ∈ e.descendants) :
    disk.Finds (p.along (n :: ns)) (place ++ n :: ns) d := by
  cases e with
  | file content | link target | denied operation => simp [Entry.descendants] at hd
  | directory entries =>
    rw [Entry.descendants, List.mem_cons, Entry.mem_descendantsOfAll_iff] at hd
    rcases hd with hd | ⟨m, e, ms, hmem, hd, heq⟩
    · simp at hd
    · obtain ⟨rfl, rfl⟩ := List.cons.inj heq
      have hentry := (h.entry hwf hmem).along (Entry.wellFormed_entry hwf hmem).2 hd
      rwa [List.append_assoc, List.singleton_append] at hentry

/-- The paths that a walk from a path visits: those of all entries below the entry that it finds,
and only the path itself if it finds none. -/
def visits (disk : Disk) (p : Path) : List Path :=
  match disk.inspect p with
  | .error _ => [p]
  | .ok (_, e) => e.descendants.map fun x => p.along x.1

theorem visits_eq {disk : Disk} {p : Path} {place : List Name} {e : Entry}
    (h : disk.inspect p = .ok (place, e)) :
    disk.visits p = e.descendants.map fun x => p.along x.1 := by
  rw [visits, h]

/-- What is visited: a path for each entry that names lead to. -/
theorem mem_visits_iff {disk : Disk} {p q : Path} {place : List Name} {e : Entry}
    (hdisk : disk.root.wellFormed = true) (h : disk.inspect p = .ok (place, e)) :
    q ∈ disk.visits p ↔
      ∃ ns d, e.descend ns = .ok d ∧ q = p.along ns ∧ disk.Finds q (place ++ ns) d := by
  obtain ⟨hfinds, -⟩ := inspect_eq_ok_iff.mp h
  have hwf := Entry.wellFormed_descend hdisk hfinds.2
  rw [visits_eq h, List.mem_map]
  constructor
  · rintro ⟨⟨ns, d⟩, hmem, rfl⟩
    exact ⟨ns, d, (Entry.mem_descendants_iff hwf).mp hmem, rfl, hfinds.along hwf hmem⟩
  · rintro ⟨ns, d, hd, rfl, -⟩
    exact ⟨(ns, d), (Entry.mem_descendants_iff hwf).mpr hd, rfl⟩

/-- No two visited paths lead to one place: different names lead to different places. -/
theorem nodup_places {disk : Disk} {p : Path} (hdisk : disk.root.wellFormed = true) :
    ((disk.visits p).map (disk.locate false)).Nodup := by
  cases h : disk.inspect p with
  | error cause => simp [visits, h]
  | ok found =>
    obtain ⟨place, e⟩ := found
    obtain ⟨hfinds, -⟩ := inspect_eq_ok_iff.mp h
    have hwf := Entry.wellFormed_descend hdisk hfinds.2
    rw [visits_eq h, List.map_map]
    have hnames := List.pairwise_map.mp (Entry.nodup_descendants hwf)
    refine List.pairwise_map.mpr (hnames.imp_of_mem ?_)
    intro x y hx hy hne heq
    -- The names behind the common front are equal if the places are.
    rw [Function.comp_apply, Function.comp_apply, (hfinds.along hwf hx).1, (hfinds.along hwf hy).1,
      Except.ok.injEq, List.append_cancel_left_eq] at heq
    exact hne heq

/-- No path is visited twice. -/
theorem nodup_visits {disk : Disk} {p : Path} (hdisk : disk.root.wellFormed = true) :
    (disk.visits p).Nodup :=
  (nodup_places hdisk).of_map _

end Disk

end FeatureDocs
