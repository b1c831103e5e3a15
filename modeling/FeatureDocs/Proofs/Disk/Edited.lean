import FeatureDocs.Proofs.Disk.Descendants
import FeatureDocs.Proofs.Disk.Through

/-!
# Disks that differ in one file

Two disks are the same but for one file, which has other bytes in the second or is not there. Then
every lookup takes the same steps and ends alike, unless it is a lookup of that very file or leads
through it. So a path that does not lead to the file has the same text on both, if it has one.

## Main definitions

* `Entry.Edited`, `Disk.Edited`: some entries of one directory stand for others
* `Disk.NoLinkLeadsTo`: no path to a link leads to a place
* `Disk.leadsTo`: a path leads to a place

## Main results

* `Disk.Edited.finish`: lookups on both disks
* `Disk.Edited.inspect`: what is found at a path on both disks
* `Disk.Edited.readText`: texts on both disks
-/

namespace FeatureDocs

/-- The second entry is the first one with some entries `new` in place of `old` in the directory at
a place below it. -/
inductive Entry.Edited (old new : List (Name × Entry)) : List Name → Entry → Entry → Prop
  | here (before after : List (Name × Entry)) :
      Edited old new [] (.directory (before ++ old ++ after)) (.directory (before ++ new ++ after))
  | inside (before after : List (Name × Entry)) (n : Name) {dir : List Name} {e e' : Entry} :
      Edited old new dir e e' →
      Edited old new (n :: dir) (.directory (before ++ (n, e) :: after))
        (.directory (before ++ (n, e') :: after))

/-- The second disk is the first one with some entries in place of others in one directory. -/
structure Disk.Edited (old new : List (Name × Entry)) (dir : List Name) (disk disk' : Disk) :
    Prop where
  root : Entry.Edited old new dir disk.root disk'.root
  workingDirectory : disk'.workingDirectory = disk.workingDirectory

/-- No link leads to a place: wherever a path finds a link, following it ends elsewhere. -/
def Disk.NoLinkLeadsTo (disk : Disk) (place : List Name) : Prop :=
  ∀ p q target, disk.Finds p q (.link target) → disk.locate true p ≠ .ok place

/-- A path leads to a place, without following a link at its end. -/
def Disk.leadsTo (disk : Disk) (place : List Name) (p : Path) : Bool :=
  match disk.locate false p with
  | .ok found => found == place
  | .error _ => false

theorem Disk.leadsTo_iff {disk : Disk} {place : List Name} {p : Path} :
    disk.leadsTo place p = true ↔ disk.locate false p = .ok place := by
  unfold leadsTo
  cases disk.locate false p <;> simp

namespace Entry

/-- What a lookup sees of an entry: nothing of what a file or directory holds. -/
def face : Entry → Entry
  | file _ => file []
  | directory _ => directory []
  | e => e

theorem isDirectory_of_face {e e' : Entry} (h : e.face = e'.face) :
    e.isDirectory = e'.isDirectory := by
  cases e <;> cases e' <;> simp_all [face, isDirectory]

theorem isDirectory_of_child {e c : Entry} {n : Name} (h : e.child n = .ok c) :
    e.isDirectory = true := by
  cases e <;> simp_all [child, isDirectory]

/-- Answers with one face are the same refusal, or entries with one face. -/
theorem face_cases {answer answer' : Except OsError Entry}
    (h : answer.map face = answer'.map face) :
    (∃ cause, answer = .error cause ∧ answer' = .error cause) ∨
      ∃ d d', answer = .ok d ∧ answer' = .ok d' ∧ d.face = d'.face := by
  cases answer with
  | error cause =>
    cases answer' with
    | error cause' => exact Or.inl ⟨cause, rfl, by simpa [Except.map, eq_comm] using h⟩
    | ok d' => simp [Except.map] at h
  | ok d =>
    cases answer' with
    | error cause' => simp [Except.map] at h
    | ok d' => exact Or.inr ⟨d, d', rfl, rfl, by simpa [Except.map] using h⟩

theorem link_of_face {e : Entry} {target : Path} (h : e.face = link target) : e = link target := by
  cases e <;> simp_all [face]

/-! ## Names in an edited directory -/

theorem lookup_append_of_not_mem {entries more : List (Name × Entry)} {n : Name}
    (h : n ∉ entries.map Prod.fst) : (entries ++ more).lookup n = more.lookup n := by
  rw [List.lookup_append]
  have hnone : entries.lookup n = none := by
    rw [List.lookup_eq_none_iff]
    intro x hx
    rw [bne_iff_ne]
    exact fun heq => h (heq ▸ List.mem_map_of_mem hx)
  rw [hnone, Option.none_or]

/-- Entries of other names in the middle of a directory do not matter. -/
theorem lookup_middle {before middle after : List (Name × Entry)} {n : Name}
    (h : n ∉ middle.map Prod.fst) :
    (before ++ middle ++ after).lookup n = (before ++ after).lookup n := by
  rw [List.append_assoc, List.lookup_append, lookup_append_of_not_mem h, List.lookup_append]

/-- A name stands in a well-formed directory once. -/
theorem not_mem_of_wellFormed {before after : List (Name × Entry)} {n : Name} {e : Entry}
    (h : (directory (before ++ (n, e) :: after)).wellFormed = true) :
    n ∉ before.map Prod.fst ∧ n ∉ after.map Prod.fst := by
  rw [wellFormed, Bool.and_eq_true, decide_eq_true_iff, List.map_append, List.map_cons,
    List.nodup_middle, List.nodup_cons, List.mem_append, not_or] at h
  exact h.1.1

/-- The entry of a name that no entry before has. -/
theorem child_middle {before after : List (Name × Entry)} {n : Name} (e : Entry)
    (h : n ∉ before.map Prod.fst) :
    (directory (before ++ (n, e) :: after)).child n = .ok e := by
  rw [child, lookup_append_of_not_mem h, List.lookup_cons, beq_self_eq_true]

section

variable {n : Name} {content : List UInt8} {new : List (Name × Entry)} {dir : List Name}
  {e e' : Entry}

/-- Whoever follows names in an entry and in its edited form comes to a directory above the edit, or
to the same entry, unless the names lead to the edited file or through it. -/
theorem Edited.descend (h : Edited [(n, .file content)] new dir e e') (hwf : e.wellFormed = true)
    (hnew : ∀ x ∈ new, ∃ c, x = (n, .file c)) (ns : List Name) :
    (∃ rest d d', dir = ns ++ rest ∧ e.descend ns = .ok d ∧ e'.descend ns = .ok d' ∧
        Edited [(n, .file content)] new rest d d') ∨
      dir ++ [n] <+: ns ∨ ¬ ns <+: dir ++ [n] ∧ e.descend ns = e'.descend ns := by
  induction h generalizing ns with
  | here before after =>
    cases ns with
    | nil => exact Or.inl ⟨[], _, _, rfl, rfl, rfl, .here before after⟩
    | cons m ns =>
      by_cases hm : m = n
      · subst hm
        exact Or.inr (Or.inl (by simp))
      · -- Other names are found among the other entries.
        have hold : m ∉ [(n, Entry.file content)].map Prod.fst := by simpa using hm
        have hnone : m ∉ new.map Prod.fst := by
          intro hmem
          obtain ⟨x, hx, rfl⟩ := List.mem_map.mp hmem
          obtain ⟨c, rfl⟩ := hnew x hx
          exact hm rfl
        refine Or.inr (Or.inr ⟨by simp [hm], ?_⟩)
        simp only [Entry.descend, child, lookup_middle hold, lookup_middle hnone]
  | @inside before after k dir d d' hd ih =>
    -- The edit lies further down, so the names lead past it unless they start on its way.
    cases ns with
    | nil => exact Or.inl ⟨k :: dir, _, _, rfl, rfl, rfl, .inside before after k hd⟩
    | cons m ns =>
      have hmem : (k, d) ∈ before ++ (k, d) :: after := by simp
      have hk := not_mem_of_wellFormed hwf
      by_cases hm : m = k
      · subst hm
        simp only [Entry.descend, child_middle _ hk.1, bind, Except.bind]
        rcases ih (wellFormed_entry hwf hmem).2 ns with
          ⟨rest, c, c', rfl, hc, hc', hedit⟩ | hbelow | ⟨hother, heq⟩
        · exact Or.inl ⟨rest, c, c', rfl, hc, hc', hedit⟩
        · exact Or.inr (Or.inl (by simpa using hbelow))
        · exact Or.inr (Or.inr ⟨by simpa using hother, heq⟩)
      · have hdir : m ∉ [(k, d)].map Prod.fst := by simpa using hm
        have hdir' : m ∉ [(k, d')].map Prod.fst := by simpa using hm
        have hmiddle : (before ++ [(k, d)] ++ after).lookup m = _ := lookup_middle hdir
        have hmiddle' : (before ++ [(k, d')] ++ after).lookup m = _ := lookup_middle hdir'
        rw [List.append_assoc, List.singleton_append] at hmiddle hmiddle'
        refine Or.inr (Or.inr ⟨by simp [hm], ?_⟩)
        simp only [Entry.descend, child, hmiddle, hmiddle']

/-- The edited file is where it is said to be. -/
theorem Edited.descend_file (h : Edited [(n, .file content)] new dir e e')
    (hwf : e.wellFormed = true) : e.descend (dir ++ [n]) = .ok (.file content) := by
  induction h with
  | here before after =>
    rw [List.append_assoc, List.singleton_append] at hwf ⊢
    rw [List.nil_append, Entry.descend, child_middle _ (not_mem_of_wellFormed hwf).1]
    rfl
  | @inside before after k dir d d' hd ih =>
    have hmem : (k, d) ∈ before ++ (k, d) :: after := by simp
    rw [List.cons_append, Entry.descend, child_middle _ (not_mem_of_wellFormed hwf).1]
    exact ih (wellFormed_entry hwf hmem).2

/-- In its place stands what is new. -/
theorem Edited.descend_new (h : Edited [(n, .file content)] new dir e e')
    (hwf : e.wellFormed = true) :
    e'.descend (dir ++ [n]) =
      match new.lookup n with
      | some d => .ok d
      | none => .error .notFound := by
  induction h with
  | here before after =>
    rw [List.append_assoc, List.singleton_append] at hwf
    obtain ⟨hbefore, hafter⟩ := not_mem_of_wellFormed hwf
    have hnone : after.lookup n = none := by
      have happend : (after ++ []).lookup n = _ := lookup_append_of_not_mem hafter
      rwa [List.append_nil] at happend
    rw [List.nil_append, Entry.descend, child, List.append_assoc, lookup_append_of_not_mem hbefore,
      List.lookup_append, hnone, Option.or_none]
    cases new.lookup n <;> rfl
  | @inside before after k dir d d' hd ih =>
    have hmem : (k, d) ∈ before ++ (k, d) :: after := by simp
    rw [List.cons_append, Entry.descend, child_middle _ (not_mem_of_wellFormed hwf).1]
    exact ih (wellFormed_entry hwf hmem).2

/-- Only directories are edited. -/
theorem Edited.eq_directory {old : List (Name × Entry)} (h : Edited old new dir e e') :
    ∃ entries entries', e = directory entries ∧ e' = directory entries' := by
  cases h with
  | here before after => exact ⟨_, _, rfl, rfl⟩
  | inside before after k hd => exact ⟨_, _, rfl, rfl⟩

theorem wellFormedAll_append (entries more : List (Name × Entry)) :
    wellFormedAll (entries ++ more) = (wellFormedAll entries && wellFormedAll more) := by
  induction entries with
  | nil => rw [List.nil_append, wellFormedAll, Bool.true_and]
  | cons entry entries ih =>
    rw [List.cons_append, wellFormedAll, wellFormedAll, ih, Bool.and_assoc]

/-- Other bytes in a file do not matter to the names of a file tree. -/
theorem Edited.wellFormed {content' : List UInt8}
    (h : Edited [(n, .file content)] [(n, .file content')] dir e e') :
    e'.wellFormed = e.wellFormed := by
  induction h with
  | here before after =>
    simp [Entry.wellFormed, wellFormedAll_append, wellFormedAll, wellFormedNamed]
  | inside before after k hd ih =>
    simp [Entry.wellFormed, wellFormedAll_append, wellFormedAll, wellFormedNamed, ih]

end

end Entry

namespace Disk

/-! ## Lookups -/

section

variable {n : Name} {content : List UInt8} {new : List (Name × Entry)} {dir : List Name}
  {disk disk' : Disk}

/-- At every place a lookup sees the same on both disks, unless the file was there and is not in the
second. -/
theorem Edited.face_descend (h : disk.Edited [(n, .file content)] new dir disk')
    (hdisk : disk.root.wellFormed = true) (hnew : ∀ x ∈ new, ∃ c, x = (n, .file c))
    (q : List Name) :
    (disk.root.descend q).map Entry.face = (disk'.root.descend q).map Entry.face ∨
      new = [] ∧ dir ++ [n] <+: q ∧ disk'.root.descend q = .error .notFound := by
  rcases h.root.descend hdisk hnew q with ⟨rest, d, d', -, hd, hd', hedit⟩ | ⟨more, rfl⟩ |
    ⟨-, heq⟩
  · obtain ⟨entries, entries', rfl, rfl⟩ := hedit.eq_directory
    exact Or.inl (by rw [hd, hd']; rfl)
  · -- At the file, and below it, all depends on whether there is a new one.
    have hold := Entry.descend_file_append (h.root.descend_file hdisk) more
    have hplace := h.root.descend_new hdisk
    cases new with
    | nil =>
      refine Or.inr ⟨rfl, List.prefix_append _ _, ?_⟩
      rw [Entry.descend_append, hplace]
      rfl
    | cons x new =>
      obtain ⟨c, rfl⟩ := hnew x List.mem_cons_self
      rw [List.lookup_cons, beq_self_eq_true] at hplace
      rw [hold, Entry.descend_file_append hplace]
      exact Or.inl (by split <;> rfl)
  · exact Or.inl (by rw [heq])

/-- A directory of the first disk is one on the second. -/
theorem Edited.descend_directory (h : disk.Edited [(n, .file content)] new dir disk')
    (hdisk : disk.root.wellFormed = true) (hnew : ∀ x ∈ new, ∃ c, x = (n, .file c))
    {place : List Name} {e : Entry} (hd : disk.root.descend place = .ok e)
    (hdir : e.isDirectory = true) :
    ∃ e', disk'.root.descend place = .ok e' ∧ e'.isDirectory = true := by
  rcases h.face_descend hdisk hnew place with hface | ⟨-, ⟨more, rfl⟩, -⟩
  · rw [hd] at hface
    rcases Entry.face_cases hface with ⟨_, hcause, -⟩ | ⟨d, e', hok, hd', hsame⟩
    · simp at hcause
    · obtain rfl := Except.ok.inj hok
      exact ⟨e', hd', Entry.isDirectory_of_face hsame ▸ hdir⟩
  · -- The file is no directory, and nothing is below it.
    rw [Entry.descend_file_append (h.root.descend_file hdisk)] at hd
    split at hd
    · obtain rfl := Except.ok.inj hd
      simp [Entry.isDirectory] at hdir
    · simp at hd

/-- An entry of a directory has the same face on the second disk, or it is the file and is lost. -/
theorem Edited.child (h : disk.Edited [(n, .file content)] new dir disk')
    (hdisk : disk.root.wellFormed = true) (hnew : ∀ x ∈ new, ∃ c, x = (n, .file c))
    {place : List Name} {m : Name} {e c : Entry} (hd : disk.root.descend place = .ok e)
    (hc : e.child m = .ok c) :
    ∃ e', disk'.root.descend place = .ok e' ∧
      ((∃ c', e'.child m = .ok c' ∧ c.face = c'.face) ∨
        new = [] ∧ place ++ [m] = dir ++ [n] ∧ c = .file content ∧
          e'.child m = .error .notFound) := by
  obtain ⟨e', hd', -⟩ := h.descend_directory hdisk hnew hd (Entry.isDirectory_of_child hc)
  refine ⟨e', hd', ?_⟩
  rcases h.face_descend hdisk hnew (place ++ [m]) with hface | ⟨hnone, ⟨more, hmore⟩, hlost⟩
  · rw [Entry.descend_snoc hd, Entry.descend_snoc hd', hc] at hface
    rcases Entry.face_cases hface with ⟨_, hcause, -⟩ | ⟨_, c', hok, hc', hsame⟩
    · simp at hcause
    · obtain rfl := Except.ok.inj hok
      exact Or.inl ⟨c', hc', hsame⟩
  · rw [Entry.descend_snoc hd'] at hlost
    have hfile := Entry.descend_file_append (h.root.descend_file hdisk) more
    rw [hmore, Entry.descend_snoc hd, hc] at hfile
    split at hfile
    · rename_i hend
      rw [hend, List.append_nil] at hmore
      exact Or.inr ⟨hnone, hmore.symm, Except.ok.inj hfile, hlost⟩
    · simp at hfile

/-- **A step on the first disk is one on the second**, unless it goes to the file and that is
lost. -/
theorem Edited.step (h : disk.Edited [(n, .file content)] new dir disk')
    (hdisk : disk.root.wellFormed = true) (hnew : ∀ x ∈ new, ∃ c, x = (n, .file c)) {follow : Bool}
    {s t : Lookup} (hstep : disk.LookupStep follow s t) :
    disk'.LookupStep follow s t ∨
      new = [] ∧ disk'.finish follow s = .error .notFound ∧ t.place = dir ++ [n] := by
  cases hstep with
  | stay hd hdir hvoid =>
    obtain ⟨e', hd', hdir'⟩ := h.descend_directory hdisk hnew hd hdir
    exact Or.inl (.stay hd' hdir' hvoid)
  | up hd hdir =>
    obtain ⟨e', hd', hdir'⟩ := h.descend_directory hdisk hnew hd hdir
    exact Or.inl (.up hd' hdir')
  | name hd hm hc hlink =>
    obtain ⟨e', hd', ⟨c', hc', hsame⟩ | ⟨hnone, hplace, -, hlost⟩⟩ := h.child hdisk hnew hd hc
    · refine Or.inl (.name hd' hm hc' fun target htarget => hlink target ?_)
      exact Entry.link_of_face (hsame.trans (congrArg Entry.face htarget))
    · refine Or.inr ⟨hnone, ?_, hplace⟩
      rw [Disk.finish, locateFrom, hd']
      simp only [hm, hlost, Bool.false_eq_true, if_false]
  | link hd hm hc hend =>
    obtain ⟨e', hd', ⟨c', hc', hsame⟩ | ⟨-, -, hfile, -⟩⟩ := h.child hdisk hnew hd hc
    · obtain rfl := Entry.link_of_face hsame.symm
      exact Or.inl (.link hd' hm hc' hend)
    · cases hfile

/-- If no step is possible with a name, it is refused alike on both disks, or the lookup ends at a
link that both have, unless it has come to the file and the file is lost. -/
theorem Edited.finish_of_name (h : disk.Edited [(n, .file content)] new dir disk')
    (hdisk : disk.root.wellFormed = true) (hnew : ∀ x ∈ new, ∃ c, x = (n, .file c)) {follow : Bool}
    {links : Nat} {place rest : List Name} {m : Name} {d d' : Entry}
    (hd : disk.root.descend place = .ok d) (hd' : disk'.root.descend place = .ok d')
    (hm : (Path.isVoid m || m == upName) = false)
    (hstop : ∀ t, ¬ disk.LookupStep follow ⟨links, place, m :: rest⟩ t) :
    disk.finish follow ⟨links, place, m :: rest⟩ = disk'.finish follow ⟨links, place, m :: rest⟩ ∨
      new = [] ∧ disk'.finish follow ⟨links, place, m :: rest⟩ = .error .notFound ∧
        dir ++ [n] <+: place := by
  rw [Disk.finish, Disk.finish, locateFrom, locateFrom, hd, hd']
  simp only [hm, Bool.false_eq_true, if_false]
  rcases h.face_descend hdisk hnew (place ++ [m]) with hchild | ⟨hnone, hbelow, hlost⟩
  · rw [Entry.descend_snoc hd, Entry.descend_snoc hd'] at hchild
    rcases Entry.face_cases hchild with ⟨cause, hc, hc'⟩ | ⟨c, c', hc, hc', hsame⟩
    · exact Or.inl (by rw [hc, hc'])
    cases c with
    | file _ | directory _ | denied _ => exact absurd (.name hd hm hc (by simp)) (hstop _)
    | link target =>
      obtain rfl := Entry.link_of_face hsame.symm
      by_cases hend : (rest.isEmpty && !follow) = true
      · exact Or.inl (by simp [hc, hc', hend])
      · rw [Bool.not_eq_true] at hend
        -- Only the limit on links can keep the lookup from following this one.
        cases links with
        | zero => exact Or.inl (by simp [hc, hc', hend])
        | succ links => exact absurd (.link hd hm hc hend) (hstop _)
  · rw [Entry.descend_snoc hd'] at hlost
    rcases List.prefix_concat_iff.mp hbelow with hfile | hbelow
    · have hc := h.root.descend_file hdisk
      rw [hfile, Entry.descend_snoc hd] at hc
      exact absurd (.name hd hm hc (by simp)) (hstop _)
    · exact Or.inr ⟨hnone, by rw [hlost], hbelow⟩

/-- Where no step is possible a lookup ends alike on both disks, unless it has come to the file with
pieces left and the file is lost. -/
theorem Edited.finish_of_no_step (h : disk.Edited [(n, .file content)] new dir disk')
    (hdisk : disk.root.wellFormed = true) (hnew : ∀ x ∈ new, ∃ c, x = (n, .file c)) {follow : Bool}
    {s : Lookup} (hstop : ∀ t, ¬ disk.LookupStep follow s t) :
    disk.finish follow s = disk'.finish follow s ∨
      new = [] ∧ disk'.finish follow s = .error .notFound ∧ dir ++ [n] <+: s.place ∧
        s.pieces ≠ [] := by
  obtain ⟨links, place, _ | ⟨m, rest⟩⟩ := s
  · exact Or.inl (by rw [Disk.finish, Disk.finish, locateFrom, locateFrom])
  rcases h.face_descend hdisk hnew place with hplace | ⟨hnone, hbelow, hlost⟩
  swap
  · exact Or.inr ⟨hnone, by rw [Disk.finish, locateFrom, hlost], hbelow, List.cons_ne_nil m rest⟩
  rcases Entry.face_cases hplace with ⟨cause, hd, hd'⟩ | ⟨d, d', hd, hd', hface⟩
  · exact Or.inl (by rw [Disk.finish, Disk.finish, locateFrom, locateFrom, hd, hd'])
  by_cases hm : (Path.isVoid m || m == upName) = true
  · -- From a directory there is a step for a piece that is no name.
    have hdir : d.isDirectory = false := by
      rw [Bool.eq_false_iff]
      intro hdir
      rw [Bool.or_eq_true, beq_iff_eq] at hm
      rcases hm with hvoid | rfl
      · exact hstop _ (.stay hd hdir hvoid)
      · exact hstop _ (.up hd hdir)
    rw [Disk.finish, Disk.finish, locateFrom, locateFrom, hd, hd']
    exact Or.inl (by simp [hm, hdir, ← Entry.isDirectory_of_face hface])
  · rw [Bool.not_eq_true] at hm
    rcases h.finish_of_name hdisk hnew hd hd' hm hstop with heq | ⟨hnone, hlost, hbelow⟩
    · exact Or.inl heq
    · exact Or.inr ⟨hnone, hlost, hbelow, List.cons_ne_nil m rest⟩

/-- **Lookups end alike on both disks**, unless the second has lost the file. Then a lookup that
comes to the file, or goes on from there, fails because there is nothing. -/
theorem Edited.finish (h : disk.Edited [(n, .file content)] new dir disk')
    (hdisk : disk.root.wellFormed = true) (hnew : ∀ x ∈ new, ∃ c, x = (n, .file c)) (follow : Bool)
    (s : Lookup) :
    disk.finish follow s = disk'.finish follow s ∨
      new = [] ∧ disk'.finish follow s = .error .notFound ∧
        (disk.finish follow s = .ok (dir ++ [n]) ∨ disk.ComesThrough follow (dir ++ [n]) s) := by
  -- A followed link puts its target in front of what is left to do, so that the links come first in
  -- the measure, and the pieces second.
  by_cases hsome : ∃ t, disk.LookupStep follow s t
  · obtain ⟨t, hstep⟩ := hsome
    have hless := hstep.decreases
    rw [hstep.finish_eq]
    rcases h.step hdisk hnew hstep with hstep' | ⟨hnone, hlost, hplace⟩
    · rw [hstep'.finish_eq]
      rcases Edited.finish h hdisk hnew follow t with heq | ⟨hnone, hlost, hfile | hthrough⟩
      · exact Or.inl heq
      · exact Or.inr ⟨hnone, hlost, Or.inl hfile⟩
      · exact Or.inr ⟨hnone, hlost, Or.inr (hthrough.head hstep)⟩
    · refine Or.inr ⟨hnone, hlost, ?_⟩
      by_cases hend : t.pieces = []
      · exact Or.inl (by rw [Disk.finish, hend, locateFrom, hplace])
      · exact Or.inr ⟨t, .single hstep, hplace ▸ List.prefix_rfl, hend⟩
  · rcases h.finish_of_no_step hdisk hnew (not_exists.mp hsome) with
      heq | ⟨hnone, hlost, hplace⟩
    · exact Or.inl heq
    · exact Or.inr ⟨hnone, hlost, Or.inr ⟨s, .refl, hplace⟩⟩
termination_by (s.links, s.pieces.length)
decreasing_by exact hless

/-- Once the file is lost, a lookup that has led through it fails because there is nothing. -/
theorem Edited.finish_of_comesThrough (h : disk.Edited [(n, .file content)] [] dir disk')
    (hdisk : disk.root.wellFormed = true) {follow : Bool} {s : Lookup}
    (hthrough : disk.ComesThrough follow (dir ++ [n]) s) :
    disk'.finish follow s = .error .notFound := by
  obtain ⟨t, hsteps, ⟨more, hmore⟩, hpieces⟩ := hthrough
  induction hsteps using Relation.ReflTransGen.head_induction_on with
  | refl =>
    obtain ⟨m, rest, hrest⟩ := List.exists_cons_of_ne_nil hpieces
    rw [Disk.finish, hrest, locateFrom, ← hmore, Entry.descend_append, h.root.descend_new hdisk]
    rfl
  | head hstep _ ih =>
    rcases h.step hdisk (by simp) hstep with hstep' | ⟨-, hlost, -⟩
    · exact hstep'.finish_eq.trans ih
    · exact hlost

theorem Edited.lookupOf {old : List (Name × Entry)} (h : disk.Edited old new dir disk') (p : Path) :
    disk'.lookupOf p = disk.lookupOf p := by
  rw [Disk.lookupOf, Disk.lookupOf, h.workingDirectory]

theorem Edited.locate (h : disk.Edited [(n, .file content)] new dir disk')
    (hdisk : disk.root.wellFormed = true) (hnew : ∀ x ∈ new, ∃ c, x = (n, .file c)) (follow : Bool)
    (p : Path) :
    disk.locate follow p = disk'.locate follow p ∨
      new = [] ∧ disk'.locate follow p = .error .notFound ∧
        (disk.locate follow p = .ok (dir ++ [n]) ∨ disk.LeadsThrough follow (dir ++ [n]) p) := by
  by_cases hp : p.bytes = []
  · exact Or.inl (by simp [Disk.locate, hp])
  · rw [locate_eq_finish hp, locate_eq_finish hp, h.lookupOf]
    rcases h.finish hdisk hnew follow (disk.lookupOf p) with
      heq | ⟨hnone, hlost, hfile | hthrough⟩
    · exact Or.inl heq
    · exact Or.inr ⟨hnone, hlost, Or.inl hfile⟩
    · exact Or.inr ⟨hnone, hlost, Or.inr ⟨hp, hthrough⟩⟩

/-- Once the file is lost, a path that leads through it is located nowhere. -/
theorem Edited.locate_of_leadsThrough (h : disk.Edited [(n, .file content)] [] dir disk')
    (hdisk : disk.root.wellFormed = true) {follow : Bool} {p : Path}
    (hp : disk.LeadsThrough follow (dir ++ [n]) p) :
    disk'.locate follow p = .error .notFound := by
  rw [locate_eq_finish hp.1, h.lookupOf]
  exact h.finish_of_comesThrough hdisk hp.2

/-- Paths lead to the same places as long as the file is there. -/
theorem Edited.leadsTo (h : disk.Edited [(n, .file content)] new dir disk')
    (hdisk : disk.root.wellFormed = true) (hnew : ∀ x ∈ new, ∃ c, x = (n, .file c))
    (hsome : new ≠ []) : disk'.leadsTo = disk.leadsTo := by
  funext place p
  rcases h.locate hdisk hnew false p with heq | ⟨hnone, -⟩
  · rw [Disk.leadsTo, Disk.leadsTo, heq]
  · exact absurd hnone hsome

/-! ## What is found -/

/-- What a path leads to on two disks of which the second has entries `new` in place of a file. -/
inductive Sight (n : Name) (content : List UInt8) (new : List (Name × Entry)) (dir : List Name)
    (disk disk' : Disk) (p : Path) : Prop
  /-- The path leads nowhere on either disk. -/
  | fails {cause : OsError} : disk.inspect p = .error cause → disk'.inspect p = .error cause →
      Sight n content new dir disk disk' p
  /-- The path leads to a directory above the file. -/
  | above {start rest : List Name} {e e' : Entry} : dir = start ++ rest →
      disk.inspect p = .ok (start, e) → disk'.inspect p = .ok (start, e') →
      Entry.Edited [(n, .file content)] new rest e e' → Sight n content new dir disk disk' p
  /-- The path leads to an entry that is not above the file, nor the file. -/
  | elsewhere {start : List Name} {e : Entry} : ¬ start <+: dir ++ [n] →
      disk.inspect p = .ok (start, e) → disk'.inspect p = .ok (start, e) →
      Sight n content new dir disk disk' p
  /-- The path leads to the file. -/
  | file : disk.inspect p = .ok (dir ++ [n], .file content) →
      (disk'.inspect p = match new.lookup n with
        | some d => .ok (dir ++ [n], d)
        | none => .error .notFound) → Sight n content new dir disk disk' p
  /-- The path leads through the file, which is lost. -/
  | through : new = [] → disk.LeadsThrough false (dir ++ [n]) p →
      Sight n content new dir disk disk' p

/-- No path is located below the file. -/
theorem Edited.eq_nil_of_locate (h : disk.Edited [(n, .file content)] new dir disk')
    (hdisk : disk.root.wellFormed = true) {follow : Bool} {p : Path} {more : List Name}
    (hp : disk.locate follow p = .ok (dir ++ [n] ++ more)) : more = [] := by
  by_contra hmore
  obtain ⟨e, he⟩ := exists_of_locate hp
  rw [Entry.descend_file_append (h.root.descend_file hdisk), if_neg hmore] at he
  cases he

/-- A path that is located at the file on both disks. -/
theorem Edited.sight_file (h : disk.Edited [(n, .file content)] new dir disk')
    (hdisk : disk.root.wellFormed = true) (hnew : ∀ x ∈ new, ∃ c, x = (n, .file c)) {p : Path}
    (hp : disk.locate false p = .ok (dir ++ [n])) (hp' : disk'.locate false p = .ok (dir ++ [n])) :
    Sight n content new dir disk disk' p := by
  refine .file (inspect_eq_ok_iff.mpr ⟨⟨hp, h.root.descend_file hdisk⟩, by simp⟩) ?_
  have hd' := h.root.descend_new hdisk
  cases hlookup : new.lookup n with
  | none =>
    -- On the second disk the path is located where there is an entry.
    obtain ⟨e, he⟩ := exists_of_locate hp'
    simp [he, hlookup] at hd'
  | some d =>
    rw [hlookup] at hd'
    obtain ⟨before, after, rfl, -⟩ := List.lookup_eq_some_iff.mp hlookup
    obtain ⟨c, hc⟩ := hnew (n, d) (by simp)
    obtain rfl := (Prod.mk.inj hc).2
    exact inspect_eq_ok_iff.mpr ⟨⟨hp', hd'⟩, by simp⟩

/-- A path that is located at one place on both disks, which is not above the file. -/
theorem sight_elsewhere {p : Path} {place : List Name} (hp : disk.locate false p = .ok place)
    (hp' : disk'.locate false p = .ok place) (hother : ¬ place <+: dir ++ [n])
    (hsame : disk.root.descend place = disk'.root.descend place) :
    Sight n content new dir disk disk' p := by
  obtain ⟨e, hd⟩ := exists_of_locate hp
  by_cases hdenied : e = .denied .inspect
  · subst hdenied
    exact .fails (Finds.inspect_denied ⟨hp, hd⟩) (Finds.inspect_denied ⟨hp', hsame ▸ hd⟩)
  · exact .elsewhere hother (inspect_eq_ok_iff.mpr ⟨⟨hp, hd⟩, hdenied⟩)
      (inspect_eq_ok_iff.mpr ⟨⟨hp', hsame ▸ hd⟩, hdenied⟩)

/-- **A path leads to the same on both disks**, or to the file, or to a directory above it; or it
leads through the file, which the second disk has lost. -/
theorem Edited.inspect (h : disk.Edited [(n, .file content)] new dir disk')
    (hdisk : disk.root.wellFormed = true) (hnew : ∀ x ∈ new, ∃ c, x = (n, .file c)) (p : Path) :
    Sight n content new dir disk disk' p := by
  rcases h.locate hdisk hnew false p with heq | ⟨rfl, hnone, hfile | hthrough⟩
  · -- Both lookups end at one place, and what is there decides.
    cases hp : disk.locate false p with
    | error cause =>
      exact .fails (inspect_of_locate_error hp) (inspect_of_locate_error (heq ▸ hp))
    | ok place =>
      have hp' := heq ▸ hp
      rcases h.root.descend hdisk hnew place with ⟨rest, d, d', hdir, hd, hd', hedit⟩ |
        ⟨more, hmore⟩ | ⟨hother, hsame⟩
      · obtain ⟨entries, entries', rfl, rfl⟩ := hedit.eq_directory
        exact .above hdir (inspect_eq_ok_iff.mpr ⟨⟨hp, hd⟩, by simp⟩)
          (inspect_eq_ok_iff.mpr ⟨⟨hp', hd'⟩, by simp⟩) hedit
      · obtain rfl := h.eq_nil_of_locate hdisk (hmore ▸ hp)
        rw [List.append_nil] at hmore
        subst hmore
        exact h.sight_file hdisk hnew hp hp'
      · exact sight_elsewhere hp hp' hother hsame
  · -- The file is lost, so the second lookup already fails.
    exact .file (inspect_eq_ok_iff.mpr ⟨⟨hfile, h.root.descend_file hdisk⟩, by simp⟩)
      (inspect_of_locate_error hnone)
  · exact .through rfl hthrough

/-! ## Texts -/

theorem NoLinkLeadsTo.locate_ne {place : List Name} (hlinks : disk.NoLinkLeadsTo place) {p : Path}
    {q : List Name} {e : Entry} (h : disk.Finds p q e) (hq : q ≠ place) :
    disk.locate true p ≠ .ok place := by
  cases e with
  | link target => exact hlinks p q target h
  | file _ | directory _ | denied _ =>
    rw [h.locate_follow (by simp), Ne, Except.ok.injEq]
    exact hq

/-- Without links there is none that leads to a place. -/
theorem noLinkLeadsTo_of_forall (hdisk : disk.root.wellFormed = true)
    (h : ∀ x ∈ disk.root.descendants, ∀ target, x.2 ≠ .link target) (place : List Name) :
    disk.NoLinkLeadsTo place := by
  intro p q target hfinds
  have hmem := (Entry.mem_descendants_iff hdisk).mpr hfinds.2
  exact absurd rfl (h _ hmem target)

/-- **A path that does not lead to the file has the same text on both disks**, if it has one. -/
theorem Edited.readText (h : disk.Edited [(n, .file content)] new dir disk')
    (hdisk : disk.root.wellFormed = true) (hnew : ∀ x ∈ new, ∃ c, x = (n, .file c)) {p : Path}
    (hp : disk.locate true p ≠ .ok (dir ++ [n])) :
    (disk.readText p).toOption = (disk'.readText p).toOption := by
  rw [Disk.readText, Disk.readText]
  rcases h.locate hdisk hnew true p with heq | ⟨-, hnone, hfile | hthrough⟩
  · rw [← heq]
    cases hlocate : disk.locate true p with
    | error cause => rfl
    | ok place =>
      simp only [bind, Except.bind]
      rcases h.root.descend hdisk hnew place with ⟨rest, d, d', -, hd, hd', hedit⟩ |
        ⟨more, hmore⟩ | ⟨-, hsame⟩
      · obtain ⟨entries, entries', rfl, rfl⟩ := hedit.eq_directory
        rw [hd, hd']
        rfl
      · obtain rfl := h.eq_nil_of_locate hdisk (hmore ▸ hlocate)
        rw [List.append_nil] at hmore
        exact absurd (hmore ▸ hlocate) hp
      · rw [hsame]
  · exact absurd hfile hp
  · rw [hthrough.locate (h.root.descend_file hdisk), hnone]
    rfl

end

end Disk

end FeatureDocs
