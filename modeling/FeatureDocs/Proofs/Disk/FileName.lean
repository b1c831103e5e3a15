import FeatureDocs.Proofs.Disk.Lookup
import FeatureDocs.Proofs.Path.Resolved

/-!
# Where the last piece of a path leads

If a path leads somewhere, its last piece was looked up in a directory: a file name is that of an
entry there, and whatever is spelled without a file name at the end is a directory.

## Main results

* `Disk.Finds.exists_named`: the file name of a path is that of an entry
* `Disk.Finds.isDirectory_of_fileName?_eq_none`: a path without a file name leads to a directory
-/

namespace FeatureDocs

/-- What stands above an entry is a directory that holds it. -/
theorem Entry.exists_above {e d : Entry} {ns : List Name} {n : Name}
    (h : e.descend (ns ++ [n]) = .ok d) :
    ∃ entries, e.descend ns = .ok (.directory entries) ∧ (n, d) ∈ entries := by
  cases ha : e.descend ns with
  | error cause => simp [descend_append, ha, bind, Except.bind] at h
  | ok above =>
    rw [descend_snoc ha] at h
    cases above with
    | directory entries =>
      rw [child] at h
      cases hl : entries.lookup n with
      | none => simp [hl] at h
      | some c =>
        rw [hl] at h
        obtain rfl := Except.ok.inj h
        obtain ⟨before, after, rfl, -⟩ := List.lookup_eq_some_iff.mp hl
        exact ⟨_, rfl, by simp⟩
    | file content | link target | denied operation => simp [child] at h

namespace Path

/-- The last piece of a path is its file name, unless it is void or `..`. -/
theorem fileName?_of_pieces {p : Path} {front : List Name} {n : Name}
    (h : pieces p.bytes = front ++ [n]) (hn : (isVoid n || n == upName) = false) :
    p.fileName? = some n := by
  have hcomponent : component? n = some (.name n) := by
    rw [Bool.or_eq_false_iff, beq_eq_false_iff_ne] at hn
    simp [component?, hn.1, hn.2]
  rw [fileName?_eq_some_iff, components_eq, h, List.filterMap_append,
    List.filterMap_cons_some hcomponent, List.filterMap_nil, ← List.append_assoc,
    List.getLast?_concat]

/-- The file name is a piece, and only void ones come behind it. -/
theorem exists_pieces_of_fileName? {p : Path} {n : Name} (h : p.fileName? = some n) :
    (isVoid n || n == upName) = false ∧
      ∃ front voids, pieces p.bytes = front ++ n :: voids := by
  rw [fileName?] at h
  rcases List.eq_nil_or_concat' (dropVoidEnd p.view.2) with hnil | ⟨front, m, hm⟩
  · simp [hnil] at h
  · rw [hm, List.getLast?_concat] at h
    simp only [Option.ite_none_left_eq_some, Option.some.injEq] at h
    obtain ⟨hup, rfl⟩ := h
    have hvoid := isVoid_getLast_dropVoidEnd hm
    obtain ⟨voids, hvoids⟩ := prefix_dropVoidEnd p.view.2
    obtain ⟨lead, hpieces⟩ := p.exists_pieces_eq_append_view
    refine ⟨by simp [hvoid, hup], lead ++ front, voids, ?_⟩
    rw [hpieces, ← hvoids, hm]
    simp

end Path

namespace Disk

variable {disk : Disk} {p : Path} {place : List Name} {e : Entry}

/-- The last pieces of a path are looked up from some place. -/
theorem Finds.exists_locateFrom (h : disk.Finds p place e) {front rest : List Name}
    (hp : Path.pieces p.bytes = front ++ rest) (hrest : rest ≠ []) :
    ∃ links stop, disk.locateFrom false links stop rest = .ok place := by
  obtain ⟨hlocate, -⟩ := h
  rw [locate] at hlocate
  split at hlocate
  · simp at hlocate
  · obtain ⟨reached, -, hgo⟩ := disk.locateFrom_append maxLinks
      (if p.isAbsolute then [] else disk.workingDirectory) front
    rw [hp, hgo false rest hrest] at hlocate
    cases reached with
    | error cause => simp [bind, Except.bind] at hlocate
    | ok found => exact ⟨found.1, found.2, hlocate⟩

/-- **The file name of a path that leads somewhere is that of an entry.** -/
theorem Finds.exists_named (h : disk.Finds p place e) {n : Name} (hn : p.fileName? = some n) :
    ∃ dir d, disk.root.descend (dir ++ [n]) = .ok d := by
  obtain ⟨hplain, front, voids, hpieces⟩ := Path.exists_pieces_of_fileName? hn
  obtain ⟨links, stop, hlocate⟩ := h.exists_locateFrom hpieces (List.cons_ne_nil _ _)
  rw [locateFrom] at hlocate
  cases hd : disk.root.descend stop with
  | error cause => simp [hd] at hlocate
  | ok d =>
    -- A name is looked up among the entries of the place that is reached.
    simp only [hd, hplain, Bool.false_eq_true, if_false] at hlocate
    cases hc : d.child n with
    | error cause => simp [hc] at hlocate
    | ok c => exact ⟨stop, c, by rw [Entry.descend_snoc hd, hc]⟩

/-- The place above a directory is one, and so is the top. -/
theorem isDirectory_above {root d : Entry} {ns : List Name} (hd : root.descend ns = .ok d)
    (hdir : d.isDirectory = true) (h : root.descend ns.dropLast = .ok e) :
    e.isDirectory = true := by
  rcases List.eq_nil_or_concat' ns with rfl | ⟨above, m, rfl⟩
  · exact Except.ok.inj (hd.symm.trans h) ▸ hdir
  · obtain ⟨entries, habove, -⟩ := Entry.exists_above hd
    rw [List.dropLast_concat, habove] at h
    exact Except.ok.inj h ▸ rfl

/-- **A path without a file name leads to a directory.** -/
theorem Finds.isDirectory_of_fileName?_eq_none (h : disk.Finds p place e)
    (hn : p.fileName? = none) : e.isDirectory = true := by
  obtain ⟨front, l, hpieces⟩ : ∃ front l, Path.pieces p.bytes = front ++ [l] :=
    ⟨_, _, (List.dropLast_append_getLast (Path.pieces_ne_nil p.bytes)).symm⟩
  have hlast : (Path.isVoid l || l == upName) = true := by
    rw [← Bool.not_eq_false]
    intro hplain
    simp [Path.fileName?_of_pieces hpieces hplain] at hn
  obtain ⟨links, stop, hlocate⟩ := h.exists_locateFrom hpieces (List.cons_ne_nil _ _)
  have he := h.2
  rw [locateFrom] at hlocate
  cases hd : disk.root.descend stop with
  | error cause => simp [hd] at hlocate
  | ok d =>
    -- The last piece was looked up in a directory, and stays there or goes to the one above.
    simp only [hd, hlast, if_true] at hlocate
    split at hlocate
    · rename_i hdir
      rw [locateFrom] at hlocate
      rw [← Except.ok.inj hlocate] at he
      split at he
      · exact isDirectory_above hd hdir he
      · exact Except.ok.inj (hd.symm.trans he) ▸ hdir
    · simp at hlocate

end Disk

end FeatureDocs
