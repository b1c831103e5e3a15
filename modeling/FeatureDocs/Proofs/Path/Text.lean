import FeatureDocs.Proofs.Json.Model
import FeatureDocs.Proofs.Path.OfString

/-!
# Paths that are texts

A slash is the encoding of a character and occurs in that of no other. So the pieces of a text are
texts, and so is whatever is spelled from such pieces: what is left of a path behind a base, and one
path behind another.

## Main definitions

* `Utf8.IsText`: a sequence of bytes is the encoding of a text

## Main results

* `Path.isText_stripPrefix?`, `Path.isText_join`: what is made of texts is a text
-/

namespace FeatureDocs

/-- A sequence of bytes is the encoding of a text. -/
def Utf8.IsText (bytes : List UInt8) : Prop := ∃ s, bytes = encode s

/-- Bytes without a slash go on with the present piece. -/
theorem Path.piecesFrom_append_of_not_mem {s : List UInt8} (h : slash ∉ s) (current : Name)
    (t : List UInt8) : piecesFrom current (s ++ t) = piecesFrom (s.reverse ++ current) t := by
  induction s generalizing current with
  | nil => rfl
  | cons b s ih =>
    rw [List.mem_cons, not_or] at h
    rw [List.cons_append, piecesFrom, if_neg (Ne.symm h.1), ih h.2]
    simp

namespace Utf8

theorem IsText.append {s t : List UInt8} (hs : IsText s) (ht : IsText t) : IsText (s ++ t) := by
  obtain ⟨s, rfl⟩ := hs
  obtain ⟨t, rfl⟩ := ht
  exact ⟨s ++ t, (encode_append s t).symm⟩

theorem isText_slash : IsText [slash] := ⟨['/'], by decide⟩

theorem IsText.intercalate {ns : List Name} (h : ∀ n ∈ ns, IsText n) :
    IsText (List.intercalate [slash] ns) := by
  induction ns with
  | nil => exact ⟨[], rfl⟩
  | cons n ns ih =>
    obtain ⟨hn, hns⟩ := List.forall_mem_cons.mp h
    cases ns with
    | nil => simpa using hn
    | cons m ns =>
      rw [List.intercalate_cons_cons]
      exact (hn.append isText_slash).append (ih hns)

/-- A text is cut at its slashes only. -/
theorem isText_of_mem_piecesFrom {s t : List Char} {n : Name}
    (h : n ∈ Path.piecesFrom (encode t).reverse (encode s)) : IsText n := by
  induction s generalizing t with
  | nil =>
    have hn : n = (encode t).reverse.reverse := List.mem_singleton.mp h
    exact ⟨t, by rw [hn, List.reverse_reverse]⟩
  | cons c s ih =>
    rw [encode_cons] at h
    by_cases hc : slash ∈ encodeChar c
    · rw [encodeChar_eq_of_mem (by decide) hc, List.singleton_append, Path.piecesFrom, if_pos rfl,
        List.reverse_reverse, List.mem_cons] at h
      rcases h with rfl | h
      · exact ⟨t, rfl⟩
      · exact ih (t := []) h
    · -- The bytes of any other character stay together.
      refine ih (t := t ++ [c]) ?_
      rw [Path.piecesFrom_append_of_not_mem hc, ← List.reverse_append] at h
      simpa [encode_append, encode] using h

end Utf8

namespace Path

variable {p q base : Path}

theorem isText_iff : p.isText = true ↔ Utf8.IsText p.bytes := by
  rw [isText, text?, Option.isSome_map, Option.isSome_iff_exists]
  exact exists_congr fun s => Utf8.decode?_eq_some_iff

theorem isText_ofString (s : String) : (ofString s).isText = true := isText_iff.mpr ⟨_, rfl⟩

theorem isText_of_mem_pieces {n : Name} (hp : p.isText = true) (hn : n ∈ pieces p.bytes) :
    Utf8.IsText n := by
  obtain ⟨s, hs⟩ := isText_iff.mp hp
  rw [hs] at hn
  exact Utf8.isText_of_mem_piecesFrom (t := []) hn

/-- The pieces behind what leads a path are pieces of it. -/
theorem view_subset_pieces (p : Path) : p.view.2 ⊆ pieces p.bytes := by
  unfold view
  split
  · rename_i heq
    rw [heq]
    exact List.subset_cons_self _ _
  · rename_i heq
    rw [heq]
    split
    · exact List.subset_cons_self _ _
    · exact List.Subset.refl _
  · exact List.nil_subset _

theorem isText_ofView {lead : Lead} {ns : List Name} (h : ∀ n ∈ ns, Utf8.IsText n) :
    (ofView lead ns).isText = true := by
  rw [isText_iff]
  cases lead with
  | nothing => exact .intercalate h
  | root => exact Utf8.isText_slash.append (.intercalate h)
  | here => exact .intercalate (List.forall_mem_cons.mpr ⟨⟨['.'], by decide⟩, h⟩)

/-- What is left behind a base is spelled from pieces of the path. -/
theorem exists_ofView_of_stripPrefix? (h : p.stripPrefix? base = some q) :
    ∃ lead, ∃ ns ⊆ p.view.2, q = ofView lead ns := by
  have hend : ∀ ns : List Name, dropVoidEnd ns ⊆ ns := fun ns => (prefix_dropVoidEnd ns).subset
  rcases hview : p.view with ⟨lead, ns⟩
  rw [stripPrefix?, hview] at h
  dsimp only at h
  cases hbase : base.components with
  | nil =>
    rw [hbase] at h
    exact ⟨lead, dropVoidEnd ns, hend ns, (Option.some.inj h).symm⟩
  | cons c cs =>
    rw [hbase, Option.map_eq_some_iff] at h
    obtain ⟨rest, hrest, rfl⟩ := h
    have hstrip : ∃ cs, stripComponents cs ns = some rest := by
      cases lead with
      | nothing => exact ⟨_, hrest⟩
      | root | here => exact ⟨cs, (Option.ite_none_right_eq_some.mp hrest).2⟩
    obtain ⟨cs, hcs⟩ := hstrip
    obtain ⟨front, rfl, -⟩ := stripComponents_eq_some hcs
    exact ⟨.nothing, _, fun n hn => List.mem_append_right front
      ((List.dropWhile_suffix isVoid).subset (hend _ hn)), rfl⟩

theorem isText_stripPrefix? (hp : p.isText = true) (h : p.stripPrefix? base = some q) :
    q.isText = true := by
  obtain ⟨lead, ns, hns, rfl⟩ := exists_ofView_of_stripPrefix? h
  exact isText_ofView fun n hn => isText_of_mem_pieces hp (p.view_subset_pieces (hns hn))

theorem isText_join (hp : p.isText = true) (hq : q.isText = true) : (p.join q).isText = true := by
  rw [isText_iff] at hp hq
  unfold join
  split
  · exact isText_iff.mpr hq
  · split
    · exact isText_iff.mpr (hp.append hq)
    · exact isText_iff.mpr (hp.append (Utf8.isText_slash.append hq))

theorem isText_followedBy (hp : p.isText = true) (suffix : String) :
    (p.followedBy suffix).isText = true :=
  isText_iff.mpr ((isText_iff.mp hp).append ⟨_, rfl⟩)

end Path

end FeatureDocs
