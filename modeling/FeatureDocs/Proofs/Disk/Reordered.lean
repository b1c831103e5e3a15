import FeatureDocs.Proofs.Disk.Edited

/-!
# Disks that differ in their listing orders

The order in which a directory lists its entries is up to the system. As long as every name stands
in its directory once, no lookup depends on it: names lead to entries that again differ in their
listing orders only, so every path leads to the same place and every file has the same text.

## Main definitions

* `Entry.Reordered`, `Disk.Reordered`: entries and disks with other listing orders
* `Disk.SameFaces`: all that a lookup sees is the same on two disks

## Main results

* `Disk.Reordered.locate`, `Disk.Reordered.readText`: lookups and texts on both disks
* `Disk.Reordered.inspect`: what is found at a path on both disks
-/

namespace FeatureDocs

/-- Two entries that differ only in the order in which they, and the directories below them, list
their entries. -/
inductive Entry.Reordered : Entry → Entry → Prop
  | refl (e : Entry) : Reordered e e
  | trans {e₁ e₂ e₃ : Entry} : Reordered e₁ e₂ → Reordered e₂ e₃ → Reordered e₁ e₃
  | listing {entries entries' : List (Name × Entry)} :
      entries.Perm entries' → Reordered (.directory entries) (.directory entries')
  | inside (before after : List (Name × Entry)) (n : Name) {e e' : Entry} :
      Reordered e e' →
      Reordered (.directory (before ++ (n, e) :: after)) (.directory (before ++ (n, e') :: after))

/-- Two disks that differ in their listing orders only. -/
structure Disk.Reordered (disk disk' : Disk) : Prop where
  root : Entry.Reordered disk.root disk'.root
  workingDirectory : disk'.workingDirectory = disk.workingDirectory

/-- A key that a list holds once leads to the same value in any order. -/
theorem lookup_perm {α β : Type} [BEq α] [LawfulBEq α] {l l' : List (α × β)} (h : l.Perm l')
    (hnodup : (l.map Prod.fst).Nodup) (a : α) : l.lookup a = l'.lookup a := by
  have hnodup' := (h.map Prod.fst).nodup_iff.mp hnodup
  ext b
  rw [lookup_eq_some_iff_mem hnodup, lookup_eq_some_iff_mem hnodup', h.mem_iff]

namespace Entry

/-! ## Names in a reordered directory -/

theorem wellFormedAll_iff {entries : List (Name × Entry)} :
    wellFormedAll entries = true ↔ ∀ x ∈ entries, wellFormedNamed x = true := by
  induction entries with
  | nil => simp [wellFormedAll]
  | cons entry entries ih => rw [wellFormedAll, Bool.and_eq_true, ih, List.forall_mem_cons]

theorem Reordered.symm {e e' : Entry} (h : e.Reordered e') : e'.Reordered e := by
  induction h with
  | refl e => exact .refl e
  | trans _ _ ih ih' => exact ih'.trans ih
  | listing hperm => exact .listing hperm.symm
  | inside before after n _ ih => exact .inside before after n ih

/-- The entries of a directory may be reordered all at once, each in itself and among each other. -/
theorem Reordered.listing_of_forall₂ {entries middle entries' : List (Name × Entry)}
    (hperm : entries.Perm middle)
    (h : List.Forall₂ (fun x y => x.1 = y.1 ∧ x.2.Reordered y.2) middle entries') :
    (directory entries).Reordered (directory entries') := by
  refine (Reordered.listing hperm).trans ?_
  clear hperm
  -- One entry after the other, with those in front already done.
  have hfront : ∀ front, (Entry.directory (front ++ middle)).Reordered
      (.directory (front ++ entries')) := by
    induction h with
    | nil => exact fun front => .refl _
    | @cons x y middle entries' hfirst _ ih =>
      intro front
      obtain ⟨n, e⟩ := x
      obtain ⟨_, e'⟩ := y
      obtain ⟨rfl, he⟩ := hfirst
      have hrest := ih (front ++ [(n, e')])
      rw [← List.append_cons, ← List.append_cons] at hrest
      exact (Reordered.inside front middle n he).trans hrest
  exact hfront []

/-- Each name still stands in its directory once. -/
theorem Reordered.wellFormed {e e' : Entry} (h : e.Reordered e') (hwf : e.wellFormed = true) :
    e'.wellFormed = true := by
  induction h with
  | refl e => exact hwf
  | trans _ _ ih ih' => exact ih' (ih hwf)
  | listing hperm =>
    simp only [Entry.wellFormed, Bool.and_eq_true, decide_eq_true_iff, wellFormedAll_iff] at hwf ⊢
    exact ⟨(hperm.map Prod.fst).nodup_iff.mp hwf.1, fun x hx => hwf.2 x (hperm.mem_iff.mpr hx)⟩
  | inside before after n _ ih =>
    simp only [Entry.wellFormed, Bool.and_eq_true, decide_eq_true_iff, List.map_append,
      List.map_cons, wellFormedAll_append, wellFormedAll, wellFormedNamed] at hwf ⊢
    exact ⟨hwf.1, hwf.2.1, ⟨hwf.2.2.1.1, ih hwf.2.2.1.2⟩, hwf.2.2.2⟩

/-- **Names lead to the same refusal, or to entries that differ in their listing orders only.** -/
theorem Reordered.descend {e e' : Entry} (h : e.Reordered e') (hwf : e.wellFormed = true)
    (ns : List Name) :
    (∃ cause, e.descend ns = .error cause ∧ e'.descend ns = .error cause) ∨
      ∃ d d', e.descend ns = .ok d ∧ e'.descend ns = .ok d' ∧ d.Reordered d' := by
  induction h generalizing ns with
  | refl e =>
    cases hd : e.descend ns with
    | error cause => exact Or.inl ⟨cause, rfl, rfl⟩
    | ok d => exact Or.inr ⟨d, d, rfl, rfl, .refl d⟩
  | trans h _ ih ih' =>
    -- The entry between gives one answer to both halves.
    rcases ih hwf ns with ⟨cause, hfirst, hmid⟩ | ⟨d₁, d₂, hfirst, hmid, h₁₂⟩
    · rcases ih' (h.wellFormed hwf) ns with ⟨cause', hmid', hlast⟩ | ⟨_, _, hmid', -⟩
      · exact Or.inl ⟨cause', by rw [hfirst, ← hmid, hmid'], hlast⟩
      · simp [hmid] at hmid'
    · rcases ih' (h.wellFormed hwf) ns with ⟨_, hmid', -⟩ | ⟨d₂', d₃, hmid', hlast, h₂₃⟩
      · simp [hmid] at hmid'
      · obtain rfl := Except.ok.inj (hmid.symm.trans hmid')
        exact Or.inr ⟨d₁, d₃, hfirst, hlast, h₁₂.trans h₂₃⟩
  | @listing entries entries' hperm =>
    cases ns with
    | nil => exact Or.inr ⟨_, _, rfl, rfl, .listing hperm⟩
    | cons n ns =>
      -- The name leads to the same entry on both sides.
      have hlookup : entries.lookup n = entries'.lookup n := by
        rw [Entry.wellFormed, Bool.and_eq_true, decide_eq_true_iff] at hwf
        exact lookup_perm hperm hwf.1 n
      have hsame : (directory entries).descend (n :: ns) =
          (directory entries').descend (n :: ns) := by
        rw [Entry.descend, Entry.descend, child, child, hlookup]
      rw [hsame]
      cases hd : (directory entries').descend (n :: ns) with
      | error cause => exact Or.inl ⟨cause, rfl, rfl⟩
      | ok d => exact Or.inr ⟨d, d, rfl, rfl, .refl d⟩
  | @inside before after k e e' h ih =>
    cases ns with
    | nil => exact Or.inr ⟨_, _, rfl, rfl, .inside before after k h⟩
    | cons n ns =>
      have hk := not_mem_of_wellFormed hwf
      by_cases hn : n = k
      · -- The names go on in the entry that is reordered inside.
        subst hn
        have hmem : (n, e) ∈ before ++ (n, e) :: after := by simp
        simp only [Entry.descend, child_middle _ hk.1, bind, Except.bind]
        exact ih (wellFormed_entry hwf hmem).2 ns
      · -- Any other name is that of another entry.
        have hsame : ∀ d, (before ++ (k, d) :: after).lookup n = (before ++ after).lookup n := by
          intro d
          have hmiddle : n ∉ [(k, d)].map Prod.fst := by simpa using hn
          have hlookup : (before ++ [(k, d)] ++ after).lookup n = _ := lookup_middle hmiddle
          rwa [List.append_assoc, List.singleton_append] at hlookup
        simp only [Entry.descend, child, hsame]
        cases hd : (before ++ after).lookup n with
        | none => exact Or.inl ⟨.notFound, rfl, rfl⟩
        | some d =>
          simp only [bind, Except.bind]
          cases hd' : d.descend ns with
          | error cause => exact Or.inl ⟨cause, rfl, rfl⟩
          | ok c => exact Or.inr ⟨c, c, rfl, rfl, .refl c⟩

/-- The order of a listing does not show from outside. -/
theorem Reordered.face {e e' : Entry} (h : e.Reordered e') : e.face = e'.face := by
  induction h with
  | refl e => rfl
  | trans _ _ ih ih' => exact ih.trans ih'
  | listing hperm => rfl
  | inside before after n _ _ => rfl

theorem denied_of_face {e : Entry} {operation : Operation} (h : e.face = denied operation) :
    e = denied operation := by
  cases e <;> simp_all [Entry.face]

/-- Only files have bytes, and they are the same. -/
theorem Reordered.read {e e' : Entry} (h : e.Reordered e') : e.read = e'.read := by
  induction h with
  | refl e => rfl
  | trans _ _ ih ih' => exact ih.trans ih'
  | listing hperm => rfl
  | inside before after n _ _ => rfl

end Entry

namespace Disk

variable {disk disk' : Disk}

/-! ## Lookups -/

/-- At every place of two disks are entries with the same face, or the same refusal. -/
def SameFaces (disk disk' : Disk) : Prop :=
  ∀ q, (disk.root.descend q).map Entry.face = (disk'.root.descend q).map Entry.face

/-- What a lookup meets in a directory on two disks with the same faces. -/
theorem child_congr (h : disk.SameFaces disk') {place : List Name} {e : Entry}
    (hd : disk.root.descend place = .ok e) :
    ∃ e', disk'.root.descend place = .ok e' ∧ e.isDirectory = e'.isDirectory ∧
      ∀ n, (e.child n).map Entry.face = (e'.child n).map Entry.face := by
  rcases Entry.face_cases (h place) with ⟨_, hnone, -⟩ | ⟨d, e', hsome, hd', hface⟩
  · simp [hd] at hnone
  · obtain rfl := Except.ok.inj (hd.symm.trans hsome)
    refine ⟨e', hd', Entry.isDirectory_of_face hface, fun n => ?_⟩
    have hchild := h (place ++ [n])
    rwa [Entry.descend_snoc hd, Entry.descend_snoc hd'] at hchild

/-- A link is the same on both disks. -/
theorem link_congr (h : disk.SameFaces disk') {place : List Name} {e : Entry}
    (hd : disk.root.descend place = .ok e) {n : Name} {target : Path}
    (hc : e.child n = .ok (.link target)) :
    ∃ e', disk'.root.descend place = .ok e' ∧ e'.child n = .ok (.link target) := by
  obtain ⟨e', hd', -, hchild⟩ := child_congr h hd
  rcases Entry.face_cases (hchild n) with ⟨_, hnone, -⟩ | ⟨d, c', hsome, hc', hface⟩
  · simp [hc] at hnone
  · obtain rfl := Except.ok.inj (hc.symm.trans hsome)
    exact ⟨e', hd', by rw [hc', Entry.link_of_face hface.symm]⟩

/-- **A lookup sees the faces of entries only.** -/
theorem locateFrom_congr (h : disk.SameFaces disk') (follow : Bool) (links : Nat)
    (place ns : List Name) :
    disk.locateFrom follow links place ns = disk'.locateFrom follow links place ns := by
  -- Each branch is taken by the face of what stands at the place, or of its child.
  fun_induction disk.locateFrom follow links place ns with
  | case1 links place => rw [locateFrom]
  | case2 links place n ns cause hd =>
    rcases Entry.face_cases (h place) with ⟨cause', hsame, hd'⟩ | ⟨_, _, hsome, -⟩
    · obtain rfl := Except.error.inj (hd.symm.trans hsame)
      rw [locateFrom, hd']
    · simp [hd] at hsome
  | case3 links place n ns e hd hn hdir ih =>
    obtain ⟨e', hd', hsame, -⟩ := child_congr h hd
    rw [locateFrom, hd']
    simp only [hn, ← hsame, hdir, if_true]
    exact ih
  | case4 links place n ns e hd hn hdir =>
    obtain ⟨e', hd', hsame, -⟩ := child_congr h hd
    rw [locateFrom, hd']
    simp [hn, ← hsame, hdir]
  | case5 links place n ns e hd hn cause hc =>
    obtain ⟨e', hd', -, hchild⟩ := child_congr h hd
    rcases Entry.face_cases (hchild n) with ⟨cause', hsame, hc'⟩ | ⟨_, _, hsome, -⟩
    · obtain rfl := Except.error.inj (hc.symm.trans hsame)
      rw [locateFrom, hd']
      simp [hn, hc']
    · simp [hc] at hsome
  | case6 links place n ns e hd hn target hc hend =>
    obtain ⟨e', hd', hc'⟩ := link_congr h hd hc
    rw [locateFrom, hd']
    simp [hn, hc', hend]
  | case7 place n ns e hd hn target hc hend =>
    obtain ⟨e', hd', hc'⟩ := link_congr h hd hc
    rw [locateFrom, hd']
    simp [hn, hc', hend]
  | case8 place n ns e hd hn target hc hend links ih =>
    obtain ⟨e', hd', hc'⟩ := link_congr h hd hc
    rw [locateFrom, hd']
    simp only [hn, hc', hend, Bool.false_eq_true, if_false]
    exact ih
  | case9 links place n ns e hd hn c hlink hc ih =>
    obtain ⟨e', hd', -, hchild⟩ := child_congr h hd
    rcases Entry.face_cases (hchild n) with ⟨_, hnone, -⟩ | ⟨d, c', hsome, hc', hface⟩
    · simp [hc] at hnone
    · obtain rfl := Except.ok.inj (hc.symm.trans hsome)
      -- There is no link on the other disk either.
      have hlink' : ∀ target, c' ≠ .link target := by
        rintro target rfl
        exact hlink target (Entry.link_of_face hface)
      rw [locateFrom, hd']
      simp only [hn, hc', Bool.false_eq_true, if_false]
      cases c' with
      | link target => exact absurd rfl (hlink' target)
      | file _ | directory _ | denied _ => exact ih

/-! ## What is found -/

theorem Reordered.wellFormed (h : disk.Reordered disk') (hdisk : disk.root.wellFormed = true) :
    disk'.root.wellFormed = true :=
  h.root.wellFormed hdisk

/-- **Every path leads to the same place.** -/
theorem Reordered.locate (h : disk.Reordered disk') (hdisk : disk.root.wellFormed = true)
    (follow : Bool) (p : Path) : disk.locate follow p = disk'.locate follow p := by
  have hface : disk.SameFaces disk' := by
    intro q
    rcases h.root.descend hdisk q with ⟨cause, hd, hd'⟩ | ⟨d, d', hd, hd', hdd⟩
    · rw [hd, hd']
    · rw [hd, hd', Except.map, Except.map, hdd.face]
  rw [Disk.locate, Disk.locate, h.workingDirectory]
  split
  · rfl
  · exact locateFrom_congr hface follow _ _ _

/-- **Every file has the same text.** -/
theorem Reordered.readText (h : disk.Reordered disk') (hdisk : disk.root.wellFormed = true)
    (p : Path) : disk.readText p = disk'.readText p := by
  rw [Disk.readText, Disk.readText, h.locate hdisk]
  cases disk'.locate true p with
  | error cause => rfl
  | ok place =>
    simp only [bind, Except.bind]
    rcases h.root.descend hdisk place with ⟨cause, hd, hd'⟩ | ⟨d, d', hd, hd', hdd⟩
    · rw [hd, hd']
    · simp only [hd, hd', hdd.read]

/-- A path leads to the same refusal on both disks, or to entries that differ in their listing
orders only. -/
theorem Reordered.inspect (h : disk.Reordered disk') (hdisk : disk.root.wellFormed = true)
    (p : Path) :
    (∃ cause, disk.inspect p = .error cause ∧ disk'.inspect p = .error cause) ∨
      ∃ place e e', disk.inspect p = .ok (place, e) ∧ disk'.inspect p = .ok (place, e') ∧
        e.Reordered e' := by
  cases hp : disk.locate false p with
  | error cause =>
    exact Or.inl ⟨cause, inspect_of_locate_error hp,
      inspect_of_locate_error ((h.locate hdisk false p).symm.trans hp)⟩
  | ok place =>
    have hp' := (h.locate hdisk false p).symm.trans hp
    rcases h.root.descend hdisk place with ⟨_, hd, -⟩ | ⟨e, e', hd, hd', hee⟩
    · obtain ⟨e, he⟩ := exists_of_locate hp
      simp [hd] at he
    · -- Only what may not be inspected is found and refused.
      by_cases hdenied : e = .denied .inspect
      · subst hdenied
        obtain rfl : e' = .denied .inspect := Entry.denied_of_face hee.face.symm
        exact Or.inl ⟨.permissionDenied, Finds.inspect_denied ⟨hp, hd⟩,
          Finds.inspect_denied ⟨hp', hd'⟩⟩
      · have hallowed : e' ≠ .denied .inspect := by
          rintro rfl
          exact hdenied (Entry.denied_of_face hee.face)
        exact Or.inr ⟨place, e, e', inspect_eq_ok_iff.mpr ⟨⟨hp, hd⟩, hdenied⟩,
          inspect_eq_ok_iff.mpr ⟨⟨hp', hd'⟩, hallowed⟩, hee⟩

end Disk

end FeatureDocs
