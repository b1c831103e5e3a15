import FeatureDocs.Proofs.Disk.Lookup
import Mathlib.Logic.Relation

/-!
# Lookups step by step

A lookup takes one step for a piece: it stays in a directory or goes to the one above, it goes on to
an entry, or it puts the target of a link in front of the pieces that are left. It ends where no
step is possible. One that comes to a file with pieces left ends there, since a file is no
directory; the path leads through the file then, be it by its own pieces or by those of a link.

## Main definitions

* `Lookup`, `Disk.finish`: what is left of a lookup, and how it ends
* `Disk.LookupStep`: the steps of a lookup
* `Disk.ComesThrough`, `Disk.LeadsThrough`: lookups and paths that lead through a place

## Main results

* `Disk.LookupStep.finish_eq`, `Disk.LookupStep.decreases`: a lookup ends as its steps lead it
* `Disk.exists_of_locate`: a path is located where there is an entry
* `Disk.LeadsThrough.locate`: no path leads through a file to an entry
-/

namespace FeatureDocs

namespace Entry

theorem exists_descend_dropLast {e d : Entry} {ns : List Name} (h : e.descend ns = .ok d) :
    ∃ c, e.descend ns.dropLast = .ok c := by
  rcases ns.eq_nil_or_concat' with rfl | ⟨front, n, rfl⟩
  · exact ⟨d, h⟩
  · rw [descend_append] at h
    rw [List.dropLast_concat]
    cases hfront : e.descend front with
    | error cause => simp [hfront, bind, Except.bind] at h
    | ok c => exact ⟨c, rfl⟩

/-- Nothing is below a file. -/
theorem descend_file_append {e : Entry} {ns : List Name} {content : List UInt8}
    (h : e.descend ns = .ok (.file content)) (more : List Name) :
    e.descend (ns ++ more) = if more = [] then .ok (.file content) else .error .notDirectory := by
  rw [descend_append, h]
  cases more <;> rfl

end Entry

/-- What is left of a lookup: the links that may be followed, the place that it has come to, and the
pieces to be looked up from there. -/
structure Lookup where
  links : Nat
  place : List Name
  pieces : List Name

namespace Disk

/-- How a lookup ends. -/
def finish (disk : Disk) (follow : Bool) (s : Lookup) : Except OsError (List Name) :=
  disk.locateFrom follow s.links s.place s.pieces

/-- The lookup of a path. -/
def lookupOf (disk : Disk) (p : Path) : Lookup :=
  ⟨maxLinks, if p.isAbsolute then [] else disk.workingDirectory, Path.pieces p.bytes⟩

theorem locate_eq_finish {disk : Disk} {follow : Bool} {p : Path} (hp : p.bytes ≠ []) :
    disk.locate follow p = disk.finish follow (disk.lookupOf p) := by
  rw [locate, List.isEmpty_eq_false_iff.mpr hp]
  rfl

/-- The steps of a lookup. With `follow`, a link at the end is followed. -/
inductive LookupStep (disk : Disk) (follow : Bool) : Lookup → Lookup → Prop
  /-- A void piece names the directory that the lookup is in. -/
  | stay {links : Nat} {place rest : List Name} {n : Name} {e : Entry} :
      disk.root.descend place = .ok e → e.isDirectory = true → Path.isVoid n = true →
      LookupStep disk follow ⟨links, place, n :: rest⟩ ⟨links, place, rest⟩
  /-- Two dots name the directory above. -/
  | up {links : Nat} {place rest : List Name} {e : Entry} :
      disk.root.descend place = .ok e → e.isDirectory = true →
      LookupStep disk follow ⟨links, place, upName :: rest⟩ ⟨links, place.dropLast, rest⟩
  /-- A name leads to an entry of the directory. -/
  | name {links : Nat} {place rest : List Name} {n : Name} {e d : Entry} :
      disk.root.descend place = .ok e → (Path.isVoid n || n == upName) = false →
      e.child n = .ok d → (∀ target, d ≠ .link target) →
      LookupStep disk follow ⟨links, place, n :: rest⟩ ⟨links, place ++ [n], rest⟩
  /-- A link is followed if something comes after it, or if links at the end are. -/
  | link {links : Nat} {place rest : List Name} {n : Name} {e : Entry} {target : Path} :
      disk.root.descend place = .ok e → (Path.isVoid n || n == upName) = false →
      e.child n = .ok (.link target) → (rest.isEmpty && !follow) = false →
      LookupStep disk follow ⟨links + 1, place, n :: rest⟩
        ⟨links, if target.isAbsolute then [] else place, Path.pieces target.bytes ++ rest⟩

/-- A lookup comes to a place, or to one below it, with pieces left. -/
def ComesThrough (disk : Disk) (follow : Bool) (place : List Name) (s : Lookup) : Prop :=
  ∃ t, Relation.ReflTransGen (disk.LookupStep follow) s t ∧ place <+: t.place ∧ t.pieces ≠ []

/-- A path leads through a place: its lookup comes there before its end. -/
def LeadsThrough (disk : Disk) (follow : Bool) (place : List Name) (p : Path) : Prop :=
  p.bytes ≠ [] ∧ disk.ComesThrough follow place (disk.lookupOf p)

variable {disk : Disk} {follow : Bool} {s t : Lookup}

/-! ## Steps -/

/-- **A lookup ends as its steps lead it.** -/
theorem LookupStep.finish_eq (h : disk.LookupStep follow s t) :
    disk.finish follow s = disk.finish follow t := by
  unfold finish
  cases h with
  | @stay links place rest n e hd hdir hvoid =>
    have hup : (n == upName) = false := by
      rw [beq_eq_false_iff_ne]
      rintro rfl
      exact absurd hvoid (by decide)
    rw [locateFrom, hd]
    simp [hdir, hvoid, hup]
  | up hd hdir =>
    rw [locateFrom, hd]
    simp [hdir]
  | name hd hn hc hlink =>
    rw [locateFrom, hd]
    simp only [hn, hc, Bool.false_eq_true, if_false]
  | link hd hn hc hend =>
    rw [locateFrom, hd]
    simp only [hn, hc, hend, Bool.false_eq_true, if_false]

/-- A step follows one of the links, or else looks up one of the pieces. -/
theorem LookupStep.decreases (h : disk.LookupStep follow s t) :
    Prod.Lex (· < ·) (· < ·) (t.links, t.pieces.length) (s.links, s.pieces.length) := by
  cases h with
  | stay | up | name => exact .right _ (Nat.lt_succ_self _)
  | link => exact .left _ _ (Nat.lt_succ_self _)

/-! ## Where lookups end -/

/-- A lookup ends at an entry, unless it has not begun and nothing is where it stands. -/
theorem exists_of_locateFrom {links : Nat} {place ns stop : List Name}
    (h : disk.locateFrom follow links place ns = .ok stop)
    (hplace : ns = [] → ∃ e, disk.root.descend place = .ok e) :
    ∃ e, disk.root.descend stop = .ok e := by
  fun_induction locateFrom disk follow links place ns with
  | case1 links place =>
    obtain rfl := Except.ok.inj h
    exact hplace rfl
  | case2 | case4 | case5 | case7 => simp at h
  | case3 links place n ns e hd hn hdir ih =>
    refine ih h fun _ => ?_
    split
    · exact Entry.exists_descend_dropLast hd
    · exact ⟨e, hd⟩
  | case6 links place n ns e hd hn target hc hend =>
    obtain rfl := Except.ok.inj h
    exact ⟨_, (Entry.descend_snoc hd n).trans hc⟩
  | case8 place n ns e hd hn target hc hend links ih =>
    refine ih h fun _ => ?_
    split
    · exact ⟨disk.root, rfl⟩
    · exact ⟨e, hd⟩
  | case9 links place n ns e hd hn d hlink hc ih =>
    exact ih h fun _ => ⟨d, (Entry.descend_snoc hd n).trans hc⟩

/-- **A path is located where there is an entry.** -/
theorem exists_of_locate {p : Path} {place : List Name} (h : disk.locate follow p = .ok place) :
    ∃ e, disk.root.descend place = .ok e := by
  unfold locate at h
  split at h
  · simp at h
  · exact exists_of_locateFrom h fun hnil => absurd hnil (Path.pieces_ne_nil _)

theorem inspect_of_locate_error {p : Path} {cause : OsError}
    (hp : disk.locate false p = .error cause) : disk.inspect p = .error cause := by
  simp [inspect, hp, bind, Except.bind]

/-! ## Lookups through a file -/

variable {place : List Name}

theorem ComesThrough.head (hstep : disk.LookupStep follow s t)
    (h : disk.ComesThrough follow place t) : disk.ComesThrough follow place s := by
  obtain ⟨u, hsteps, hu⟩ := h
  exact ⟨u, hsteps.head hstep, hu⟩

/-- A lookup that has come to a file with pieces left ends there. -/
theorem finish_at_file {content : List UInt8}
    (hfile : disk.root.descend place = .ok (.file content)) (hplace : place <+: s.place)
    (hpieces : s.pieces ≠ []) : disk.finish follow s = .error .notDirectory := by
  obtain ⟨more, hmore⟩ := hplace
  obtain ⟨n, rest, hrest⟩ := List.exists_cons_of_ne_nil hpieces
  rw [finish, hrest, locateFrom, ← hmore, Entry.descend_file_append hfile]
  by_cases hend : more = []
  · simp [hend, Entry.isDirectory, Entry.child]
  · simp [hend]

/-- **No lookup gets through a file.** -/
theorem ComesThrough.finish_eq {content : List UInt8} (h : disk.ComesThrough follow place s)
    (hfile : disk.root.descend place = .ok (.file content)) :
    disk.finish follow s = .error .notDirectory := by
  obtain ⟨t, hsteps, hplace, hpieces⟩ := h
  induction hsteps using Relation.ReflTransGen.head_induction_on with
  | refl => exact finish_at_file hfile hplace hpieces
  | head hstep _ ih => exact hstep.finish_eq.trans ih

/-- A path that leads through a file is located nowhere. -/
theorem LeadsThrough.locate {content : List UInt8} {p : Path}
    (h : disk.LeadsThrough follow place p)
    (hfile : disk.root.descend place = .ok (.file content)) :
    disk.locate follow p = .error .notDirectory :=
  (locate_eq_finish h.1).trans (h.2.finish_eq hfile)

end Disk

end FeatureDocs
