import FeatureDocs.Proofs.Path.Resolved
import FeatureDocs.Proofs.Text.Decoding

/-!
# Paths of texts

The slashes of a text are those of its encoding, so the path of texts with slashes between them has
a component for each, and the path of some `../` goes up as often. A name as it is shown is a name
again: showing replaces malformed bytes, and neither a slash nor a full stop can come of that.

## Main definitions

* `Component.ofText`: the component of the name that a text is

## Main results

* `Path.components_ofString_here`, `Path.components_ofString_up`: the components of such paths
* `isEntryName_displayName`: a shown name is a name
-/

namespace FeatureDocs

/-- The component of the name that a text is. -/
def Component.ofText (s : String) : Component := .name (Utf8.encode s.toList)

/-! ## Slashes -/

namespace Utf8

theorem encode_injective {s t : List Char} (h : encode s = encode t) : s = t := by
  rw [← decodeLossy_encode s, h, decodeLossy_encode]

/-- A byte below `0x80` in the encoding of a character is all of it. -/
theorem encodeChar_eq_of_mem {c : Char} {b : UInt8} (hb : b.toNat < 0x80) (h : b ∈ encodeChar c) :
    encodeChar c = [b] := by
  have hc := valid_toNat c
  -- The bytes of a longer encoding have their highest bit set.
  have hbyte : ∀ m, 0x80 ≤ m → m < 256 → 0x80 ≤ (UInt8.ofNat m).toNat := by
    intro m hm hm'
    rwa [UInt8.toNat_ofNat_of_lt' hm']
  have hlong : ∀ bytes : List UInt8, (∀ x ∈ bytes, 0x80 ≤ x.toNat) → b ∉ bytes :=
    fun _ hbytes hmem => Nat.not_lt.mpr (hbytes b hmem) hb
  unfold encodeChar at h ⊢
  dsimp only at h ⊢
  split at h
  · rename_i hone
    rw [if_pos hone, List.mem_singleton.mp h]
  · repeat' split at h
    all_goals
      refine absurd h (hlong _ ?_)
      simp only [List.forall_mem_cons, List.not_mem_nil, IsEmpty.forall_iff, implies_true, and_true]
      and_intros <;> exact hbyte _ (by omega) (by omega)

/-- The slashes of a text are those of its encoding. -/
theorem slash_mem_encode_iff {s : List Char} : slash ∈ encode s ↔ '/' ∈ s := by
  rw [encode, List.mem_flatMap]
  constructor
  · rintro ⟨c, hc, hmem⟩
    have heq : encode [c] = encode ['/'] := by
      rw [encode_cons, encodeChar_eq_of_mem (by decide) hmem]
      rfl
    rwa [List.singleton_inj.mp (encode_injective heq)] at hc
  · exact fun h => ⟨'/', h, by decide⟩

/-- Slashes between texts are slashes between their encodings. -/
theorem encode_intercalate (texts : List String) :
    encode (String.intercalate "/" texts).toList =
      List.intercalate [slash] (texts.map fun s => encode s.toList) := by
  induction texts with
  | nil => rfl
  | cons s texts ih =>
    cases texts with
    | nil => simp
    | cons t texts =>
      rw [String.intercalate_cons_cons, String.toList_append, String.toList_append, encode_append,
        encode_append, ih, List.map_cons, List.map_cons, List.map_cons, List.intercalate_cons_cons]
      rfl

end Utf8

/-! ## Shown names -/

theorem displayName_encode (s : String) : Path.displayName (Utf8.encode s.toList) = s := by
  rw [Path.displayName, Utf8.decodeLossy_encode, String.ofList_toList]

/-- Only a text without the replacement character is shown for no other bytes. -/
theorem eq_of_encode_displayName {n : Name} {t : List Char} (ht : '\ufffd' ∉ t)
    (h : Utf8.encode (Path.displayName n).toList = Utf8.encode t) : n = Utf8.encode t := by
  rw [Path.displayName, String.toList_ofList] at h
  exact Utf8.eq_encode_of_decodeLossy (Utf8.encode_injective h) ht

/-- **A shown name is a name.** -/
theorem isEntryName_displayName {n : Name} (hn : isEntryName n = true) :
    isEntryName (Utf8.encode (Path.displayName n).toList) = true := by
  have hslash : slash ∉ Utf8.encode (Path.displayName n).toList := by
    rw [Utf8.slash_mem_encode_iff, Path.displayName, String.toList_ofList]
    intro hmem
    -- The slash is shown for itself, so the name has one.
    have hbytes := Utf8.infix_of_mem_decodeLossy hmem (by decide)
    exact not_mem_of_isEntryName hn (hbytes.subset (by decide))
  have hdots : ∀ t : List Char, '\ufffd' ∉ t → n ≠ Utf8.encode t →
      Utf8.encode (Path.displayName n).toList ≠ Utf8.encode t :=
    fun t ht hne h => hne (eq_of_encode_displayName ht h)
  simp only [isEntryName, Bool.and_eq_true, Bool.not_eq_true', bne_iff_ne,
    List.isEmpty_eq_false_iff] at hn ⊢
  exact ⟨⟨⟨hdots [] (by simp) hn.1.1.1, by simpa using hslash⟩, hdots ['.'] (by decide) hn.1.2⟩,
    hdots ['.', '.'] (by decide) hn.2⟩

namespace Path

/-! ## Components -/

/-- The path of names with slashes between them, from a place itself. -/
theorem components_ofString_here {texts : List String} (hne : texts ≠ [])
    (h : ∀ s ∈ texts, isEntryName (Utf8.encode s.toList) = true) :
    (ofString ("./" ++ String.intercalate "/" texts)).components =
      .here :: texts.map Component.ofText := by
  have hpieces : pieces (ofString ("./" ++ String.intercalate "/" texts)).bytes =
      hereName :: texts.map fun s => Utf8.encode s.toList := by
    have hnames : pieces (Utf8.encode (String.intercalate "/" texts).toList) =
        texts.map fun s => Utf8.encode s.toList := by
      rw [Utf8.encode_intercalate]
      refine pieces_intercalate (by simpa using hne) fun n hn => ?_
      obtain ⟨s, hs, rfl⟩ := List.mem_map.mp hn
      exact not_mem_of_isEntryName (h s hs)
    rw [ofString, String.toList_append, Utf8.encode_append, ← hnames]
    exact pieces_append_slash hereName _
  have hview : (ofString ("./" ++ String.intercalate "/" texts)).view =
      (.here, texts.map fun s => Utf8.encode s.toList) := by
    rw [view, hpieces]
    rfl
  rw [components_of_view hview, List.filterMap_map]
  refine congrArg (Component.here :: ·) ?_
  rw [← List.filterMap_eq_map]
  exact List.filterMap_congr fun s hs => component?_of_isEntryName (h s hs)

theorem isAbsolute_of_head? {p : Path} {c : Component} {cs : List Component}
    (h : p.components = c :: cs) (hc : c ≠ .root) : p.isAbsolute = false := by
  rw [← Bool.not_eq_true, isAbsolute_iff, h]
  simpa using hc

/-- A path from a place itself, put behind another. It keeps its `.` if that is empty. -/
theorem components_join_here (p : Path) {q : Path} {texts : List String}
    (hq : q.components = .here :: texts.map Component.ofText) :
    (p.join q).components =
      (if p.bytes = [] then [.here] else p.components) ++ texts.map Component.ofText := by
  split
  · rename_i hp
    rw [join_of_empty hp, hq]
    rfl
  · rename_i hp
    have hnames : (texts.map Component.ofText).filter Component.isOfPiece =
        texts.map Component.ofText := by
      rw [List.filter_eq_self]
      intro c hc
      obtain ⟨s, -, rfl⟩ := List.mem_map.mp hc
      rfl
    rw [components_join hp (isAbsolute_of_head? hq (by simp)), hq]
    exact congrArg _ hnames

/-- The path that goes up some steps. -/
theorem components_ofString_up (k : Nat) :
    (ofString (String.join (List.replicate k "../"))).components = List.replicate k .up := by
  have hpieces : pieces (ofString (String.join (List.replicate k "../"))).bytes =
      List.replicate k upName ++ [[]] := by
    induction k with
    | zero => rfl
    | succ k ih =>
      rw [List.replicate_succ, String.join_cons, ofString, String.toList_append,
        Utf8.encode_append, List.replicate_succ, List.cons_append, ← ih]
      exact pieces_append_slash upName _
  have hlead : (ofString (String.join (List.replicate k "../"))).view.1 = .nothing := by
    cases k with
    | zero => rfl
    | succ k =>
      rw [view, hpieces, List.replicate_succ]
      rfl
  have hup : component? upName = some .up := by decide
  rw [components_eq, hlead, hpieces, List.filterMap_append, List.filterMap_replicate_of_some hup]
  exact List.append_nil _

end Path

end FeatureDocs
