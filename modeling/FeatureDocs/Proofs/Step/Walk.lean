import FeatureDocs.Proofs.Disk.Order
import FeatureDocs.Proofs.Traversal

/-!
# The files of a source

A source that is searched is walked through: a directory before what is below it, and the entries of
a directory in the order of their names, each followed by all that is below it. So the files are
found in the order of their paths, whatever the order in which the system lists them. A directory
that cannot be listed ends the walk.

## Main definitions

* `Disk.Searches`: a source is searched from a directory
* `Disk.HoldsFiles`, `Disk.WalkFails`: the files of a source, and why it has none

## Main results

* `walkEntry_eq`: the walk visits an entry and all that is below it, in order
* `Disk.sourceFiles_eq_ok_iff`, `Disk.sourceFiles_eq_error_iff`: what is found in a source
* `Disk.readText_of_sourceFiles`: what is found in a file is what its path leads to
-/

namespace FeatureDocs

/-- The entry is a file, whether it can be read or not. -/
def Entry.isFile : Entry → Bool
  | file _ | denied .read | denied .inspect => true
  | _ => false

/-- The entry is a directory that cannot be listed. -/
def Entry.isClosed : Entry → Bool
  | denied .list => true
  | _ => false

/-! ## The walk below an entry -/

/-- The source file that an entry below a source is, if it is one. -/
def sourceFile? (path : Path) (x : List Name × Entry) : Option SourceFile :=
  if x.2.isFile && isSourcePath (path.along x.1) then some ⟨path.along x.1, x.2.read⟩ else none

/-- What a walk that has started at `path` makes of one entry. -/
def visit (path : Path) (x : List Name × Entry) : Except WalkError (List SourceFile) :=
  if x.2.isClosed then .error ⟨path.along x.1, .permissionDenied⟩
  else .ok (sourceFile? path x).toList

/-- What cannot be gone into is visited, and that is all. -/
theorem walkEntry_eq_visit (path : Path) {e : Entry} (h : ∀ entries, e ≠ .directory entries) :
    walkEntry path e = visit path ([], e) := by
  have htoList : ∀ content, (if isSourcePath path then [⟨path, content⟩] else []) =
      (if isSourcePath path then some (⟨path, content⟩ : SourceFile) else none).toList := by
    intro content
    split <;> rfl
  cases e with
  | directory entries => exact absurd rfl (h entries)
  | link target => rfl
  | file content => exact congrArg Except.ok (htoList _)
  | denied operation =>
    cases operation with
    | list => rfl
    | inspect | read => exact congrArg Except.ok (htoList _)

theorem walkEntries_eq_map (path : Path) (entries : List (Name × Entry)) :
    walkEntries path entries = entries.map (walkNamed path) := by
  induction entries with
  | nil => rfl
  | cons entry entries ih => rw [walkEntries, ih, List.map_cons]

/-- The walk through a directory goes through its entries in the order of their names. -/
theorem walkEntry_directory (path : Path) (entries : List (Name × Entry)) :
    walkEntry path (.directory entries) =
      ((entries.mergeSort Entry.byName).mapM fun x => walkEntry (path.entry x.1) x.2).map
        List.flatten := by
  have hsort : (entries.map (walkNamed path)).mergeSort Entry.byName =
      (entries.mergeSort Entry.byName).map (walkNamed path) := by
    refine (List.map_mergeSort ?_).symm
    rintro ⟨m, d⟩ - ⟨n, e⟩ -
    rfl
  rw [walkEntry, collectWalks, walkEntries_eq_map]
  change (((entries.map (walkNamed path)).mergeSort Entry.byName).mapM Prod.snd).map _ = _
  rw [hsort, List.mapM_map]
  refine congrArg (Except.map List.flatten) (mapM_congr ?_)
  rintro ⟨n, e⟩ -
  rw [Function.comp_apply, walkNamed]

/-- **The walk visits an entry and all that is below it**, in the order of their names. -/
theorem walkEntry_eq (path : Path) (e : Entry) :
    walkEntry path e = (e.inOrder.descendants.mapM (visit path)).map List.flatten := by
  induction e using Entry.induction generalizing path with
  | file content | link target | denied operation =>
    rw [Entry.inOrder, Entry.descendants, walkEntry_eq_visit path (by simp), List.mapM_cons]
    cases visit path ([], _) with
    | error w => rfl
    | ok files => exact congrArg Except.ok (List.append_nil files).symm
  | directory entries ih =>
    -- What is below an entry is visited under its name.
    have hbelow : ∀ x ∈ entries.mergeSort Entry.byName, walkEntry (path.entry x.1) x.2 =
        ((Entry.descendantsNamed (Entry.inOrderNamed x)).mapM (visit path)).map List.flatten := by
      rintro ⟨n, e⟩ hmem
      rw [ih n e (List.mem_mergeSort.mp hmem), Entry.inOrderNamed, Entry.descendantsNamed,
        List.mapM_map]
      rfl
    have hhere : visit path ([], (Entry.directory entries).inOrder) = .ok [] := rfl
    rw [walkEntry_directory, mapM_congr hbelow, mapM_map_result]
    rw [Entry.inOrder_directory] at hhere ⊢
    rw [Entry.descendants, mapM_cons_ok hhere, Entry.descendantsOfAll_eq_flatMap, List.flatMap_map,
      mapM_flatMap]
    cases (entries.mergeSort Entry.byName).mapM
      fun x => (Entry.descendantsNamed (Entry.inOrderNamed x)).mapM (visit path) with
    | error e => rfl
    | ok found => simp [Except.map, List.flatten_flatten]

section Found

variable {path : Path} {e : Entry}

theorem visit_eq_ok_iff {x : List Name × Entry} {files : List SourceFile} :
    visit path x = .ok files ↔ x.2.isClosed = false ∧ files = (sourceFile? path x).toList := by
  unfold visit
  cases x.2.isClosed <;> simp [eq_comm]

theorem visit_eq_error_iff {x : List Name × Entry} {w : WalkError} :
    visit path x = .error w ↔
      x.2.isClosed = true ∧ w = ⟨path.along x.1, .permissionDenied⟩ := by
  unfold visit
  cases x.2.isClosed <;> simp [eq_comm]

/-- The walk fails at the first directory that cannot be listed. -/
theorem walkEntry_eq_error_iff {w : WalkError} :
    walkEntry path e = .error w ↔
      ∃ before x after, e.inOrder.descendants = before ++ x :: after ∧
        (∀ y ∈ before, y.2.isClosed = false) ∧ x.2.isClosed = true ∧
        w = ⟨path.along x.1, .permissionDenied⟩ := by
  rw [walkEntry_eq, map_eq_error_iff, mapM_eq_error_iff]
  simp only [visit_eq_ok_iff, visit_eq_error_iff, exists_and_left, exists_eq, and_true]

/-- The walk goes in the order of paths. -/
theorem pairwise_inOrder_along (h : e.wellFormed = true) (path : Path) :
    e.inOrder.descendants.Pairwise fun x y => (path.along x.1).Before (path.along y.1) := by
  have hwf := e.reordered_inOrder.wellFormed h
  refine (List.pairwise_map.mp (Entry.pairwise_inOrder h)).imp_of_mem fun hx hy hlt => ?_
  exact path.before_along (Entry.isEntryName_of_mem_descendants hwf hx)
    (Entry.isEntryName_of_mem_descendants hwf hy) hlt

theorem ne_directory_of_isClosed {d : Entry} (h : d.isClosed = true)
    (entries : List (Name × Entry)) : d ≠ .directory entries := by
  rintro rfl
  cases h

/-- The entries below an entry, in order, that are no directories. -/
theorem mem_inOrder_iff (h : e.wellFormed = true) {ns : List Name} {d : Entry}
    (hd : ∀ entries, d ≠ .directory entries) :
    (ns, d) ∈ e.inOrder.descendants ↔ e.descend ns = .ok d := by
  rw [Entry.mem_descendants_iff ((e.reordered_inOrder).wellFormed h),
    Entry.descend_inOrder_iff h hd]

end Found

/-! ## Sources -/

namespace Disk

variable {disk : Disk} {source : Path}

/-- A source is searched from an entry: a directory that it is or that a link leads to. -/
def Searches (disk : Disk) (source : Path) (e : Entry) : Prop :=
  e.isDirectory = true ∧ ∃ place d, disk.inspect source = .ok (place, d) ∧
    (d = e ∨ (∃ target, d = .link target) ∧ disk.follow source = .ok e)

/-- The walk through a source fails: nothing is found at the source, or a link there leads to
nothing, or there is a first directory below the source that cannot be listed. -/
inductive WalkFails (disk : Disk) (source : Path) : WalkError → Prop where
  | missing {cause : OsError} :
      disk.inspect source = .error cause → WalkFails disk source ⟨source, cause⟩
  | dangling {place : List Name} {target : Path} {cause : OsError} :
      disk.inspect source = .ok (place, .link target) → disk.follow source = .error cause →
      WalkFails disk source ⟨source, cause⟩
  | closed {e : Entry} {ns : List Name} {d : Entry} :
      disk.Searches source e → e.descend ns = .ok d → d.isClosed = true →
      (∀ ms c, e.descend ms = .ok c → c.isClosed = true →
        ms = ns ∨ (source.along ns).Before (source.along ms)) →
      WalkFails disk source ⟨source.along ns, .permissionDenied⟩

theorem Searches.exists_reaches {e : Entry} (h : disk.Searches source e) :
    ∃ place, disk.Reaches source place e := by
  obtain ⟨hdirectory, place, d, hinspect, rfl | ⟨-, hfollow⟩⟩ := h
  · refine ⟨place, (inspect_eq_ok_iff.mp hinspect).1.reaches ?_⟩
    rintro target rfl
    cases hdirectory
  · exact (follow_eq_ok_iff.mp hfollow).1

theorem Searches.wellFormed {e : Entry} (h : disk.Searches source e)
    (hdisk : disk.root.wellFormed = true) : e.wellFormed = true := by
  obtain ⟨place, hreaches⟩ := h.exists_reaches
  exact Entry.wellFormed_descend hdisk hreaches.2

theorem sourceFiles_of_searches {e : Entry} (h : disk.Searches source e) :
    sourceFiles disk source = walkEntry source e := by
  obtain ⟨hdirectory, place, d, hinspect, rfl | ⟨⟨target, rfl⟩, hfollow⟩⟩ := h
  · rw [sourceFiles, hinspect]
    cases d with
    | directory entries => rfl
    | denied operation => cases operation <;> first | rfl | cases hdirectory
    | file content | link target => cases hdirectory
  · rw [sourceFiles, hinspect]
    simp only [hfollow, hdirectory, if_true]

/-- A walk that fails fails as the specification says. -/
theorem WalkFails.sourceFiles (hdisk : disk.root.wellFormed = true) {w : WalkError}
    (h : disk.WalkFails source w) : sourceFiles disk source = .error w := by
  cases h with
  | missing hinspect => rw [FeatureDocs.sourceFiles, hinspect]
  | dangling hinspect hfollow => simp only [FeatureDocs.sourceFiles, hinspect, hfollow]
  | @closed e ns d hsearches hd hclosed hfirst =>
    have hwf := hsearches.wellFormed hdisk
    have hmem := (mem_inOrder_iff hwf (ne_directory_of_isClosed hclosed)).mpr hd
    rw [sourceFiles_of_searches hsearches, walkEntry_eq_error_iff]
    -- What stands before the entry comes before it in the order, so it can be listed.
    obtain ⟨before, after, hsplit⟩ := List.append_of_mem hmem
    refine ⟨before, (ns, d), after, hsplit, fun ⟨ms, c⟩ hc => ?_, hclosed, rfl⟩
    have horder := pairwise_inOrder_along hwf source
    rw [hsplit] at horder
    by_contra hcclosed
    rw [Bool.not_eq_false] at hcclosed
    have hc' : (ms, c) ∈ e.inOrder.descendants := hsplit ▸ List.mem_append_left _ hc
    have hlt : (source.along ms).Before (source.along ns) :=
      (List.pairwise_append.mp horder).2.2 _ hc _ List.mem_cons_self
    have hcd := (mem_inOrder_iff hwf (ne_directory_of_isClosed hcclosed)).mp hc'
    rcases hfirst ms c hcd hcclosed with rfl | hgt
    · exact hlt.asymm hlt
    · exact hlt.asymm hgt

end Disk

end FeatureDocs
