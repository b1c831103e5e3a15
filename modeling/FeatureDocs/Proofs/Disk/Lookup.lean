import FeatureDocs.Disk
import FeatureDocs.Proofs.Association
import FeatureDocs.Proofs.Path

/-!
# Looking up the entries of a directory

Whoever lists a directory knows its entries by the path of the directory with a name put behind it.
On a well-formed disk the lookup of such a path leads to the entry of that name: the way to the
directory is the same as before, and a link on it is followed again, now that something comes after
it. The limit on links does no harm, because the way takes no more of them than it did before.

## Main definitions

* `Entry.wellFormed`: directories that hold each name once, and names only
* `Disk.Finds`: a path leads to an entry, which is not followed if it is a link
* `Disk.Reaches`: a path leads to an entry behind all links

## Main results

* `Disk.locateFrom_append`: the lookup of a path goes on where the lookup of its front ends
* `Disk.Reaches.entry`: a path with a name behind it leads to the entry of that name
-/

namespace FeatureDocs

namespace Entry

mutual

/-- Every directory holds each name once, and no name that is none. -/
def wellFormed : Entry → Bool
  | directory entries => decide (entries.map Prod.fst).Nodup && wellFormedAll entries
  | file _ | link _ | denied _ => true

/-- The entries of a directory have names and are well-formed. -/
def wellFormedAll : List (Name × Entry) → Bool
  | [] => true
  | entry :: entries => wellFormedNamed entry && wellFormedAll entries

/-- An entry has a name and is well-formed. -/
def wellFormedNamed : Name × Entry → Bool
  | (n, e) => isEntryName n && e.wellFormed

end

theorem wellFormed_of_mem {entries : List (Name × Entry)} {n : Name} {e : Entry}
    (h : wellFormedAll entries = true) (hmem : (n, e) ∈ entries) :
    isEntryName n = true ∧ e.wellFormed = true := by
  induction entries with
  | nil => simp at hmem
  | cons entry entries ih =>
    rw [wellFormedAll, Bool.and_eq_true] at h
    rcases List.mem_cons.mp hmem with rfl | hmem
    · simpa [wellFormedNamed] using h.1
    · exact ih h.2 hmem

/-- The entries of a well-formed directory have names and are well-formed. -/
theorem wellFormed_entry {entries : List (Name × Entry)} {n : Name} {e : Entry}
    (h : (directory entries).wellFormed = true) (hmem : (n, e) ∈ entries) :
    isEntryName n = true ∧ e.wellFormed = true := by
  rw [wellFormed, Bool.and_eq_true] at h
  exact wellFormed_of_mem h.2 hmem

/-- The entries of a well-formed directory are found by their names. -/
theorem child_eq_ok_iff {entries : List (Name × Entry)} {n : Name} {e : Entry}
    (h : (directory entries).wellFormed = true) :
    (directory entries).child n = .ok e ↔ (n, e) ∈ entries := by
  rw [wellFormed, Bool.and_eq_true, decide_eq_true_iff] at h
  rw [← lookup_eq_some_iff_mem h.1, child]
  cases entries.lookup n <;> simp

theorem descend_append (e : Entry) (ns ms : List Name) :
    e.descend (ns ++ ms) = (e.descend ns >>= fun d => d.descend ms) := by
  induction ns generalizing e with
  | nil => rfl
  | cons n ns ih =>
    rw [List.cons_append, descend, descend]
    cases e.child n with
    | error cause => rfl
    | ok d => exact ih d

theorem descend_snoc {e d : Entry} {ns : List Name} (h : e.descend ns = .ok d) (n : Name) :
    e.descend (ns ++ [n]) = d.child n := by
  rw [descend_append, h]
  change (d.child n >>= fun c => c.descend []) = d.child n
  cases d.child n <;> rfl

end Entry

/-! ## Lookup -/

namespace Disk

/-- **The lookup of a path goes on where the lookup of its front ends.** All links of the front are
followed, those at its end too; the result of that is where the rest starts, with the links that may
still be followed. -/
theorem locateFrom_append (disk : Disk) (links : Nat) (place ns : List Name) :
    ∃ front : Except OsError (Nat × List Name),
      disk.locateFrom true links place ns = front.map Prod.snd ∧
      ∀ follow rest, rest ≠ [] → disk.locateFrom follow links place (ns ++ rest) =
        (front >>= fun (left, stop) => disk.locateFrom follow left stop rest) := by
  -- A step looks at the first piece, and otherwise only at whether it is the last one and may stop
  -- at a link. At the front links are followed, and behind it there is always another piece.
  fun_induction locateFrom disk true links place ns with
  | case1 links place => exact ⟨.ok (links, place), rfl, fun _ _ _ => rfl⟩
  | case2 links place n ns cause hd =>
    refine ⟨.error cause, rfl, fun follow rest _ => ?_⟩
    rw [List.cons_append, locateFrom, hd]
    rfl
  | case3 links place n ns e hd hn he ih =>
    obtain ⟨front, h, hrest⟩ := ih
    refine ⟨front, h, fun follow rest hne => ?_⟩
    rw [List.cons_append, locateFrom, hd]
    simp only [hn, he, if_true]
    exact hrest follow rest hne
  | case4 links place n ns e hd hn he =>
    refine ⟨.error .notDirectory, rfl, fun follow rest _ => ?_⟩
    rw [List.cons_append, locateFrom, hd]
    simp only [hn, he, if_true]
    rfl
  | case5 links place n ns e hd hn cause hc =>
    refine ⟨.error cause, rfl, fun follow rest _ => ?_⟩
    rw [List.cons_append, locateFrom, hd]
    simp only [hn, hc]
    rfl
  | case6 links place n ns e hd hn target hc hend => simp at hend
  | case7 place n ns e hd hn target hc _ =>
    refine ⟨.error .tooManyLinks, rfl, fun follow rest hne => ?_⟩
    rw [List.cons_append, locateFrom, hd]
    simp [hn, hc, hne, bind, Except.bind]
  | case8 place n ns e hd hn target hc _ links ih =>
    obtain ⟨front, h, hrest⟩ := ih
    refine ⟨front, h, fun follow rest hne => ?_⟩
    have hmore : (ns ++ rest).isEmpty = false := by simp [hne]
    rw [List.cons_append, locateFrom, hd]
    simp only [hn, hc, hmore, Bool.false_and, Bool.false_eq_true, if_false, ← List.append_assoc]
    exact hrest follow rest hne
  | case9 links place n ns e hd hn d hlink hc ih =>
    obtain ⟨front, h, hrest⟩ := ih
    refine ⟨front, h, fun follow rest hne => ?_⟩
    rw [List.cons_append, locateFrom, hd]
    simp only [hn, hc, Bool.false_eq_true, if_false]
    exact hrest follow rest hne

/-- A lookup that has found no link has followed every link. -/
theorem locateFrom_follow {disk : Disk} {links : Nat} {place ns stop : List Name} {e : Entry}
    (h : disk.locateFrom false links place ns = .ok stop) (he : disk.root.descend stop = .ok e)
    (hlink : ∀ target, e ≠ .link target) : disk.locateFrom true links place ns = .ok stop := by
  fun_induction locateFrom disk false links place ns with
  | case1 links place => simpa [locateFrom] using h
  | case2 | case4 | case5 | case7 => simp at h
  | case3 links place n ns d hd hn hdir ih =>
    rw [locateFrom, hd]
    simp only [hn, hdir, if_true]
    exact ih h
  | case6 links place n ns d hd hn target hc hend =>
    -- The only step that does not follow a link ends at it.
    obtain rfl := Except.ok.inj h
    rw [Entry.descend_snoc hd, hc] at he
    exact absurd (Except.ok.inj he).symm (hlink target)
  | case8 place n ns d hd hn target hc hend links ih =>
    rw [locateFrom, hd]
    simp only [hn, hc, Bool.not_true, Bool.and_false, Bool.false_eq_true, if_false]
    exact ih h
  | case9 links place n ns d hd hn c hlink' hc ih =>
    rw [locateFrom, hd]
    simp only [hn, hc, Bool.false_eq_true, if_false]
    exact ih h

/-! ## Entries of a directory -/

/-- A path leads to an entry, which is not followed if it is a link. -/
def Finds (disk : Disk) (p : Path) (place : List Name) (e : Entry) : Prop :=
  disk.locate false p = .ok place ∧ disk.root.descend place = .ok e

theorem inspect_eq_ok_iff {disk : Disk} {p : Path} {place : List Name} {e : Entry} :
    disk.inspect p = .ok (place, e) ↔ disk.Finds p place e ∧ e ≠ .denied .inspect := by
  unfold inspect Finds
  cases disk.locate false p with
  | error cause => simp [bind, Except.bind]
  | ok stop =>
    simp only [bind, Except.bind, Except.ok.injEq]
    cases hd : disk.root.descend stop with
    | error cause =>
      simp only [reduceCtorEq, false_iff]
      rintro ⟨⟨rfl, h⟩, -⟩
      simp [hd] at h
    | ok d =>
      dsimp only
      split
      · simp only [throw, throwThe, MonadExceptOf.throw, reduceCtorEq, false_iff]
        rintro ⟨⟨rfl, h⟩, hne⟩
        exact hne (Except.ok.inj (h.symm.trans hd))
      · rename_i hne
        simp only [pure, Except.pure, Except.ok.injEq, Prod.mk.injEq]
        constructor
        · rintro ⟨rfl, rfl⟩
          exact ⟨⟨rfl, hd⟩, hne⟩
        · rintro ⟨⟨rfl, h⟩, -⟩
          exact ⟨rfl, Except.ok.inj (hd.symm.trans h)⟩

theorem Finds.inspect_denied {disk : Disk} {p : Path} {place : List Name}
    (h : disk.Finds p place (.denied .inspect)) : disk.inspect p = .error .permissionDenied := by
  simp [inspect, h.1, h.2, bind, Except.bind, throw, throwThe, MonadExceptOf.throw]

theorem Finds.bytes_ne_nil {disk : Disk} {p : Path} {place : List Name} {e : Entry}
    (h : disk.Finds p place e) : p.bytes ≠ [] := by
  intro hp
  simp [Finds, locate, hp] at h

/-- A void piece at the end of a path names the directory in front of it. -/
theorem locateFrom_void {disk : Disk} {follow : Bool} {links : Nat} {place stop : List Name}
    (h : disk.locateFrom follow links place [[]] = .ok stop) : place = stop := by
  rw [locateFrom] at h
  cases hd : disk.root.descend place with
  | error cause => simp [hd] at h
  | ok e =>
    have hup : (([] : Name) == upName) = false := by decide
    simp only [hd, hup, Path.isVoid, List.isEmpty_nil, Bool.true_or, if_true, Bool.false_eq_true,
      if_false] at h
    split at h
    · simpa [locateFrom] using h
    · simp at h

/-- The lookup of the name of an entry that is no link goes on from the entry. -/
theorem locateFrom_cons_name {disk : Disk} {follow : Bool} {links : Nat} {place rest : List Name}
    {n : Name} {d e : Entry} (hd : disk.root.descend place = .ok d) (hn : isEntryName n = true)
    (he : d.child n = .ok e) (hlink : ∀ target, e ≠ .link target) :
    disk.locateFrom follow links place (n :: rest) =
      disk.locateFrom follow links (place ++ [n]) rest := by
  have hplain : (Path.isVoid n || n == upName) = false := by
    obtain ⟨hvoid, hup⟩ := not_void_of_isEntryName hn
    simp [hvoid, hup]
  rw [locateFrom, hd]
  simp only [hplain, Bool.false_eq_true, if_false, he]

/-- The name of an entry, looked up in its directory. -/
theorem locateFrom_name {disk : Disk} {links : Nat} {place : List Name} {n : Name} {d e : Entry}
    (hd : disk.root.descend place = .ok d) (hn : isEntryName n = true) (he : d.child n = .ok e) :
    disk.locateFrom false links place [n] = .ok (place ++ [n]) := by
  have hplain : (Path.isVoid n || n == upName) = false := by
    obtain ⟨hvoid, hup⟩ := not_void_of_isEntryName hn
    simp [hvoid, hup]
  rw [locateFrom, hd]
  simp only [hplain, Bool.false_eq_true, if_false, he, List.isEmpty_nil, Bool.not_false,
    Bool.and_self, if_true]
  -- The last piece is the end of the lookup, whether it is a link or not.
  cases e <;> simp [locateFrom]

/-- A path that leads to no link is followed to the same place. -/
theorem Finds.locate_follow {disk : Disk} {p : Path} {place : List Name} {e : Entry}
    (h : disk.Finds p place e) (hlink : ∀ target, e ≠ .link target) :
    disk.locate true p = .ok place := by
  have hne := List.isEmpty_eq_false_iff.mpr h.bytes_ne_nil
  obtain ⟨hlocate, hd⟩ := h
  simp only [locate, hne, Bool.false_eq_true, if_false] at hlocate ⊢
  exact locateFrom_follow hlocate hd hlink

/-- A path leads to an entry behind all links. -/
def Reaches (disk : Disk) (p : Path) (place : List Name) (e : Entry) : Prop :=
  disk.locate true p = .ok place ∧ disk.root.descend place = .ok e

theorem Finds.reaches {disk : Disk} {p : Path} {place : List Name} {e : Entry}
    (h : disk.Finds p place e) (hlink : ∀ target, e ≠ .link target) : disk.Reaches p place e :=
  ⟨h.locate_follow hlink, h.2⟩

/-- **A path with a name behind it leads to the entry of that name**, if the path leads to a
directory that has one. -/
theorem Reaches.entry {disk : Disk} {p : Path} {place : List Name} {entries : List (Name × Entry)}
    {n : Name} {e : Entry} (h : disk.Reaches p place (.directory entries))
    (hwf : (Entry.directory entries).wellFormed = true) (hmem : (n, e) ∈ entries) :
    disk.Finds (p.entry n) (place ++ [n]) e := by
  have hchild := (Entry.child_eq_ok_iff hwf).mpr hmem
  have hn := (Entry.wellFormed_entry hwf hmem).1
  obtain ⟨hlocate, hd⟩ := h
  have hne : p.bytes ≠ [] := by
    intro hp
    simp [locate, hp] at hlocate
  obtain ⟨hbytes, habs⟩ := Path.entry_bytes hne hn
  obtain ⟨ns, hentry, hp⟩ := Path.pieces_entry hne hn
  refine ⟨?_, by rw [Entry.descend_snoc hd, hchild]⟩
  simp only [locate, List.isEmpty_eq_false_iff.mpr hne, List.isEmpty_eq_false_iff.mpr hbytes,
    Bool.false_eq_true, if_false, habs, hentry] at hlocate ⊢
  generalize (if p.isAbsolute = true then [] else disk.workingDirectory) = start at hlocate ⊢
  obtain ⟨front, hfront, hrest⟩ := disk.locateFrom_append maxLinks start ns
  -- In both spellings of the directory the front ends at its place.
  have hstop : ∃ left, front = .ok (left, place) := by
    rcases hp with hp | hp
    · rw [hp, hfront] at hlocate
      cases front with
      | error cause => simp [Except.map] at hlocate
      | ok front => exact ⟨front.1, by rw [← Except.ok.inj hlocate]⟩
    · rw [hp, hrest true [[]] (by simp)] at hlocate
      cases front with
      | error cause => simp [bind, Except.bind] at hlocate
      | ok front => exact ⟨front.1, by rw [← locateFrom_void hlocate]⟩
  obtain ⟨left, rfl⟩ := hstop
  rw [hrest false [n] (by simp)]
  exact locateFrom_name hd hn hchild

theorem Finds.entry {disk : Disk} {p : Path} {place : List Name} {entries : List (Name × Entry)}
    {n : Name} {e : Entry} (h : disk.Finds p place (.directory entries))
    (hwf : (Entry.directory entries).wellFormed = true) (hmem : (n, e) ∈ entries) :
    disk.Finds (p.entry n) (place ++ [n]) e :=
  (h.reaches (by simp)).entry hwf hmem

theorem follow_eq_ok_iff {disk : Disk} {p : Path} {e : Entry} :
    disk.follow p = .ok e ↔ (∃ place, disk.Reaches p place e) ∧ e ≠ .denied .inspect := by
  unfold follow Reaches
  cases disk.locate true p with
  | error cause => simp [bind, Except.bind]
  | ok stop =>
    simp only [bind, Except.bind, Except.ok.injEq, exists_eq_left']
    cases hd : disk.root.descend stop with
    | error cause => simp
    | ok d =>
      dsimp only
      split
      · simp only [throw, throwThe, MonadExceptOf.throw, reduceCtorEq, Except.ok.injEq, false_iff]
        rintro ⟨rfl, hne⟩
        exact hne rfl
      · rename_i hne
        simp only [pure, Except.pure, Except.ok.injEq]
        exact ⟨fun h => ⟨h, h ▸ hne⟩, fun h => h.1⟩

/-- The text of what a path leads to. -/
theorem Reaches.readText {disk : Disk} {p : Path} {place : List Name} {e : Entry}
    (h : disk.Reaches p place e) : disk.readText p = (e.read >>= textOf) := by
  simp [Disk.readText, h.1, h.2, bind, Except.bind]

/-- The text of a file that a path leads to. -/
theorem Finds.readText {disk : Disk} {p : Path} {place : List Name} {content : List UInt8}
    (h : disk.Finds p place (.file content)) : disk.readText p = textOf content :=
  (h.reaches (by simp)).readText

end Disk

end FeatureDocs
