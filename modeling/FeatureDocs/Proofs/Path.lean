import FeatureDocs.Path
import Mathlib.Data.List.DropRight

/-!
# The components of paths

The components of a path tell which place it names, and each operation on paths can be read off
them: an entry adds its name, a path behind another adds its components, the path above drops the
last one, and stripping a base leaves what follows the components of the base.

Spellings differ by void pieces only. Those at the end of a path matter in one place: text that is
put behind the last byte of a path reaches its name only if no void piece comes after that.

## Main definitions

* `isEntryName`: the names that an entry of a directory may have
* `Path.EndsInName`: the last bytes of a path are its last component

## Main results

* `Path.components_entry`, `Path.components_join`: the components of an entry and of a path behind
  another
* `Path.components_parent?`, `Path.stripPrefix?_eq_some`, `Path.isSome_stripPrefix?`: the path
  above, and what is left behind a base
* `Path.components_followedBy`: text behind a path
-/

namespace FeatureDocs

/-- The names that an entry of a directory may have. -/
def isEntryName (n : Name) : Bool :=
  !n.isEmpty && !n.contains slash && n != hereName && n != upName

theorem not_mem_of_isEntryName {n : Name} (hn : isEntryName n = true) : slash ∉ n := by
  intro hmem
  simp [isEntryName, hmem] at hn

theorem not_void_of_isEntryName {n : Name} (hn : isEntryName n = true) :
    Path.isVoid n = false ∧ n ≠ upName := by
  simp only [isEntryName, Bool.and_eq_true, Bool.not_eq_true', bne_iff_ne] at hn
  simp [Path.isVoid, hn.1.1.1, hn.1.2, hn.2]

/-- The component is that of a piece, and not what leads a path. -/
def Component.isOfPiece : Component → Bool
  | root | here => false
  | up | name _ => true

namespace Path

/-! ## Pieces -/

theorem pieces_eq_splitOn (s : List UInt8) : pieces s = s.splitOn slash := by
  rw [List.splitOn_eq_splitOnP, List.splitOnP_eq_splitOnPPrepend, pieces]
  generalize ([] : Name) = current
  induction s generalizing current with
  | nil => rfl
  | cons b s ih =>
    rw [piecesFrom, List.splitOnPPrepend_cons_eq_if, ih, ih, List.splitOnP_eq_splitOnPPrepend]
    simp only [beq_iff_eq]

theorem piecesFrom_of_not_mem {n : Name} (h : slash ∉ n) (current : Name) :
    piecesFrom current n = [current.reverse ++ n] := by
  induction n generalizing current with
  | nil => simp [piecesFrom]
  | cons b n ih =>
    rw [List.mem_cons, not_or] at h
    rw [piecesFrom, if_neg (Ne.symm h.1), ih h.2]
    simp

theorem pieces_ne_nil (s : List UInt8) : pieces s ≠ [] := by
  rw [pieces_eq_splitOn]
  exact List.splitOn_ne_nil slash s

theorem pieces_append_slash (s t : List UInt8) :
    pieces (s ++ slash :: t) = pieces s ++ pieces t := by
  rw [pieces_eq_splitOn, List.splitOn_append_cons_self, pieces_eq_splitOn, pieces_eq_splitOn]

theorem pieces_slash (t : List UInt8) : pieces (slash :: t) = [] :: pieces t :=
  pieces_append_slash [] t

theorem pieces_intercalate {ns : List Name} (hne : ns ≠ []) (hns : ∀ n ∈ ns, slash ∉ n) :
    pieces (List.intercalate [slash] ns) = ns := by
  rw [pieces_eq_splitOn]
  exact List.splitOn_intercalate slash hns hne

/-- A piece holds no separator. -/
theorem not_mem_of_mem_pieces {s : List UInt8} {n : Name} (h : n ∈ pieces s) : slash ∉ n := by
  have hfrom : ∀ current : Name, slash ∉ current → n ∈ piecesFrom current s → slash ∉ n := by
    clear h
    induction s with
    | nil =>
      intro current hcurrent h
      rw [piecesFrom, List.mem_singleton] at h
      simpa [h] using hcurrent
    | cons b s ih =>
      intro current hcurrent h
      rw [piecesFrom] at h
      split at h
      · rcases List.mem_cons.mp h with rfl | h
        · simpa using hcurrent
        · exact ih [] (by simp) h
      · rename_i hb
        exact ih (b :: current) (by simp [Ne.symm hb, hcurrent]) h
  exact hfrom [] (by simp) h

/-- What is put behind the last byte goes to the last piece. -/
theorem pieces_append {s t : List UInt8} {front : List Name} {n : Name} (ht : slash ∉ t)
    (h : pieces s = front ++ [n]) : pieces (s ++ t) = front ++ [n ++ t] := by
  rw [pieces] at h ⊢
  generalize ([] : Name) = current at h ⊢
  induction s generalizing current front with
  | nil =>
    obtain ⟨rfl, rfl⟩ : front = [] ∧ n = current.reverse := by
      rw [piecesFrom, ← List.nil_append [current.reverse]] at h
      obtain ⟨rfl, hn⟩ := List.append_inj' h rfl
      exact ⟨rfl, (List.singleton_inj.mp hn).symm⟩
    exact piecesFrom_of_not_mem ht current
  | cons b s ih =>
    rw [piecesFrom] at h
    rw [List.cons_append, piecesFrom]
    split at h
    · rename_i hb
      rw [if_pos hb]
      cases front with
      | nil => exact absurd (List.cons.inj h).2 (pieces_ne_nil s)
      | cons m front =>
        obtain ⟨rfl, hrest⟩ := List.cons.inj h
        rw [List.cons_append, ih [] hrest]
    · rename_i hb
      rw [if_neg hb, ih _ h]

/-! ## Views -/

/-- The ways to view a path: it is empty, absolute, starts with a `.`, or starts with a name. -/
theorem view_cases (p : Path) :
    (p.bytes = [] ∧ p.view = (.nothing, [[]])) ∨
      (∃ s, p.bytes = slash :: s ∧ p.view = (.root, pieces s)) ∨
      (∃ ns, pieces p.bytes = hereName :: ns ∧ p.view = (.here, ns)) ∨
      ∃ n ns, isVoid n = false ∧ pieces p.bytes = n :: ns ∧ p.view = (.nothing, n :: ns) := by
  obtain ⟨bytes⟩ := p
  cases bytes with
  | nil => exact Or.inl ⟨rfl, rfl⟩
  | cons b s =>
    by_cases hb : b = slash
    · subst hb
      refine Or.inr (Or.inl ⟨s, rfl, ?_⟩)
      obtain ⟨n, ns, hns⟩ := List.exists_cons_of_ne_nil (pieces_ne_nil s)
      rw [view, pieces_slash, hns]
    · -- The first piece starts with a byte, so it is not empty.
      obtain ⟨n, ns, hns⟩ : ∃ n ns, pieces (b :: s) = (b :: n) :: ns := by
        obtain ⟨n, ns, hns⟩ := List.exists_cons_of_ne_nil (pieces_ne_nil s)
        refine ⟨n, ns, ?_⟩
        rw [pieces_eq_splitOn] at hns ⊢
        rw [List.splitOn_cons_eq_if_modifyHead, if_neg (by simpa using hb), hns,
          List.modifyHead_cons]
      by_cases hn : b :: n = hereName
      · exact Or.inr (Or.inr (Or.inl ⟨ns, hn ▸ hns, by rw [view, hns]; simp [hn]⟩))
      · refine Or.inr (Or.inr (Or.inr ⟨b :: n, ns, ?_, hns, by rw [view, hns]; simp [hn]⟩))
        simp [isVoid, hn]

/-- The components of a path are that of its lead and those of its pieces: what leads a path is a
void piece of it, if it is anything. -/
theorem components_eq (p : Path) :
    p.components = p.view.1.components ++ (pieces p.bytes).filterMap component? := by
  rw [components]
  rcases p.view_cases with ⟨hbytes, hview⟩ | ⟨s, hbytes, hview⟩ | ⟨ns, hpieces, hview⟩ |
    ⟨n, ns, -, hpieces, hview⟩
  · rw [hview, hbytes]
    rfl
  · rw [hview, hbytes, pieces_slash]
    rfl
  · rw [hview, hpieces]
    rfl
  · rw [hview, hpieces]

/-- A piece has no component of a lead. -/
theorem component?_cases {n : Name} {c : Component} (h : component? n = some c) :
    isVoid n = false ∧ (c = .up ∧ n = upName ∨ c = .name n ∧ n ≠ upName) := by
  unfold component? at h
  split at h
  · simp at h
  · rename_i hvoid
    refine ⟨by simpa using hvoid, ?_⟩
    split at h
    · rename_i hup
      exact Or.inl ⟨(Option.some.inj h).symm, hup⟩
    · rename_i hup
      exact Or.inr ⟨(Option.some.inj h).symm, hup⟩

theorem component?_of_isEntryName {n : Name} (hn : isEntryName n = true) :
    component? n = some (.name n) := by
  obtain ⟨hvoid, hup⟩ := not_void_of_isEntryName hn
  simp [component?, hvoid, hup]

theorem component?_eq_none_iff {n : Name} : component? n = none ↔ isVoid n = true := by
  unfold component?
  split
  · simp_all
  · split <;> simp_all

/-- More bytes behind a name make a name. -/
theorem component?_append {n : Name} (h : component? n = some (.name n)) (t : List UInt8) :
    component? (n ++ t) = some (.name (n ++ t)) := by
  obtain ⟨hvoid, ⟨hc, -⟩ | ⟨-, hup⟩⟩ := component?_cases h
  · simp at hc
  have hnames : isVoid (n ++ t) = false ∧ n ++ t ≠ upName := by
    rcases n with _ | ⟨a, _ | ⟨b, n⟩⟩
    · simp [isVoid] at hvoid
    · -- A name of one byte is not a full stop, so it starts neither name of full stops.
      have ha : a ≠ dot := by simpa [isVoid, hereName] using hvoid
      simp [isVoid, hereName, upName, ha]
    · have hn : a = dot → b = dot → n ≠ [] := by simpa [upName] using hup
      simp only [isVoid, hereName, upName, List.cons_append, List.isEmpty_cons, Bool.false_or,
        beq_eq_false_iff_ne, ne_eq, List.cons.injEq, reduceCtorEq, and_false, not_false_eq_true,
        List.append_eq_nil_iff, true_and]
      exact fun h => hn h.1 h.2.1 h.2.2.1
  simp [component?, hnames.1, hnames.2]

theorem isEntryName_iff {n : Name} :
    isEntryName n = true ↔ component? n = some (.name n) ∧ slash ∉ n := by
  constructor
  · exact fun hn => ⟨component?_of_isEntryName hn, not_mem_of_isEntryName hn⟩
  · rintro ⟨hname, hslash⟩
    obtain ⟨hvoid, ⟨hc, -⟩ | ⟨-, hup⟩⟩ := component?_cases hname
    · simp at hc
    obtain ⟨hempty, hhere⟩ : n ≠ [] ∧ n ≠ hereName := by simpa [isVoid] using hvoid
    simp [isEntryName, hempty, hhere, hup, hslash]

theorem isEntryName_append {n : Name} (hn : isEntryName n = true) {t : List UInt8}
    (ht : slash ∉ t) : isEntryName (n ++ t) = true := by
  obtain ⟨hname, hslash⟩ := isEntryName_iff.mp hn
  exact isEntryName_iff.mpr ⟨component?_append hname t, by simp [hslash, ht]⟩

theorem components_of_view {p : Path} {lead : Lead} {ns : List Name} (h : p.view = (lead, ns)) :
    p.components = lead.components ++ ns.filterMap component? := by
  rw [components, h]

/-- A path is absolute if its components start with the root. -/
theorem isAbsolute_iff {p : Path} : p.isAbsolute = true ↔ p.components.head? = some .root := by
  -- No component of a piece is the root.
  have hroot : ∀ ns : List Name, (ns.filterMap component?).head? ≠ some .root := by
    intro ns h
    obtain ⟨n, -, hn⟩ := List.mem_filterMap.mp (List.mem_of_head? h)
    rcases (component?_cases hn).2 with ⟨hc, -⟩ | ⟨hc, -⟩ <;> simp at hc
  rw [isAbsolute, beq_iff_eq, components]
  rcases p.view_cases with ⟨hbytes, hview⟩ | ⟨s, hbytes, hview⟩ | ⟨ns, hpieces, hview⟩ |
    ⟨n, ns, hn, hpieces, hview⟩
  · simp [hview, hbytes, Lead.components, component?, isVoid]
  · simp [hview, hbytes, Lead.components]
  · simp only [hview, Lead.components, List.singleton_append, List.head?_cons, Option.some.injEq,
      reduceCtorEq, iff_false]
    intro hhead
    obtain ⟨s, hs⟩ := List.head?_eq_some_iff.mp hhead
    rw [hs, pieces_slash] at hpieces
    exact absurd (List.cons.inj hpieces).1 (by decide)
  · simp only [hview, Lead.components, List.nil_append, hroot, iff_false]
    intro hhead
    obtain ⟨s, hs⟩ := List.head?_eq_some_iff.mp hhead
    rw [hs, pieces_slash] at hpieces
    rw [← (List.cons.inj hpieces).1] at hn
    simp [isVoid] at hn

/-- What a lead and pieces spell has their components, unless a void piece comes first where nothing
leads. -/
theorem components_ofView {lead : Lead} {ns : List Name} (hns : ∀ n ∈ ns, slash ∉ n)
    (hfirst : lead = .nothing → ∀ n ∈ ns.head?, isVoid n = false) :
    (ofView lead ns).components = lead.components ++ ns.filterMap component? := by
  cases ns with
  | nil => cases lead <;> rfl
  | cons n ns =>
    have hpieces := pieces_intercalate (List.cons_ne_nil n ns) hns
    cases lead with
    | nothing =>
      have hvoid := hfirst rfl n rfl
      rw [ofView, components, view, hpieces]
      have hn : n ≠ [] ∧ n ≠ hereName := by
        simpa [isVoid] using hvoid
      cases n with
      | nil => simp at hn
      | cons b n => simp [hn.2]
    | root =>
      have hroot : pieces (slash :: List.intercalate [slash] (n :: ns)) = [] :: n :: ns := by
        rw [pieces_slash, hpieces]
      simp only [ofView, components, view, hroot]
    | here =>
      have hhere : ∀ m ∈ hereName :: n :: ns, slash ∉ m :=
        List.forall_mem_cons.mpr ⟨by decide, hns⟩
      rw [ofView, components, view, pieces_intercalate (List.cons_ne_nil _ _) hhere]
      rfl

/-! ## Void pieces -/

theorem prefix_dropVoidEnd (ns : List Name) : dropVoidEnd ns <+: ns :=
  List.rdropWhile_prefix isVoid ns

theorem filterMap_dropVoidEnd (ns : List Name) :
    (dropVoidEnd ns).filterMap component? = ns.filterMap component? := by
  have hvoid : (ns.rtakeWhile isVoid).filterMap component? = [] := by
    rw [List.filterMap_eq_nil_iff]
    exact fun n hn => component?_eq_none_iff.mpr (List.mem_rtakeWhile_imp hn)
  calc (dropVoidEnd ns).filterMap component?
      = (ns.rdropWhile isVoid ++ ns.rtakeWhile isVoid).filterMap component? := by
        rw [List.filterMap_append, hvoid, List.append_nil]
        rfl
    _ = ns.filterMap component? := by rw [List.rdropWhile_append_rtakeWhile]

theorem filterMap_dropWhile_isVoid (ns : List Name) :
    (ns.dropWhile isVoid).filterMap component? = ns.filterMap component? := by
  induction ns with
  | nil => rfl
  | cons n ns ih =>
    rw [List.dropWhile_cons]
    split
    · rename_i hn
      rw [ih, List.filterMap_cons_none (component?_eq_none_iff.mpr hn)]
    · rfl

/-- The last piece that is left is not void. -/
theorem isVoid_getLast_dropVoidEnd {ns front : List Name} {n : Name}
    (h : dropVoidEnd ns = front ++ [n]) : isVoid n = false := by
  have hne : ns.rdropWhile isVoid ≠ [] := by
    change dropVoidEnd ns ≠ []
    simp [h]
  have hlast := List.rdropWhile_last_not isVoid ns hne
  have hn : (ns.rdropWhile isVoid).getLast hne = n := by
    change (dropVoidEnd ns).getLast hne = n
    simp [h]
  rwa [hn, Bool.not_eq_true] at hlast

theorem not_mem_of_mem_view {p : Path} {lead : Lead} {ns : List Name} (hview : p.view = (lead, ns))
    {n : Name} (hn : n ∈ ns) : slash ∉ n := by
  rcases p.view_cases with ⟨-, h⟩ | ⟨s, -, h⟩ | ⟨ns', hpieces, h⟩ | ⟨m, ns', -, hpieces, h⟩ <;>
    obtain ⟨-, rfl⟩ := Prod.mk.inj (hview.symm.trans h)
  · rw [List.mem_singleton] at hn
    simp [hn]
  · exact not_mem_of_mem_pieces hn
  · exact not_mem_of_mem_pieces (hpieces ▸ List.mem_cons_of_mem _ hn)
  · exact not_mem_of_mem_pieces (hpieces ▸ hn)

/-- What is left of the pieces of a path is spelled with the lead of the path. -/
theorem components_ofView_front {p : Path} {lead : Lead} {ns ms : List Name}
    (hview : p.view = (lead, ns)) (hms : ms <+: dropVoidEnd ns) :
    (ofView lead ms).components = lead.components ++ ms.filterMap component? := by
  have hfront := hms.trans (prefix_dropVoidEnd ns)
  refine components_ofView (fun m hm => ?_) fun hlead m hm => ?_
  · exact not_mem_of_mem_view hview (hfront.subset hm)
  · obtain ⟨rest, rfl⟩ := List.head?_eq_some_iff.mp hm
    rcases p.view_cases with ⟨-, h⟩ | ⟨s, -, h⟩ | ⟨ns', -, h⟩ | ⟨n, ns', hn, -, h⟩ <;>
      obtain ⟨hlead', rfl⟩ := Prod.mk.inj (hview.symm.trans h) <;>
      simp only [hlead, reduceCtorEq] at hlead'
    · -- The empty path has nothing left.
      have hnil : dropVoidEnd [[]] = [] := rfl
      rw [hnil, List.prefix_nil] at hms
      simp at hms
    · obtain ⟨more, hmore⟩ := hfront
      rw [List.cons_append] at hmore
      rw [(List.cons.inj hmore).1]
      exact hn

/-! ## The path above -/

/-- **The path above has all components but the last one.** -/
theorem components_parent? {p q : Path} (h : p.parent? = some q) :
    ∃ c, p.components = q.components ++ [c] := by
  rcases hview : p.view with ⟨lead, ns⟩
  have hcomponents : p.components = lead.components ++ (dropVoidEnd ns).filterMap component? := by
    rw [components_of_view hview, filterMap_dropVoidEnd]
  rw [parent?, hview] at h
  dsimp only at h
  split at h
  · rename_i hend
    split at h
    · rename_i hlead
      obtain rfl := Option.some.inj h
      exact ⟨.here, by rw [hcomponents, hend, hlead]; rfl⟩
    · simp at h
  · rename_i n rest hend
    obtain rfl := Option.some.inj h
    -- The last piece is not void, so it has a component.
    obtain ⟨front, m, hfront⟩ : ∃ front m, n :: rest = front ++ [m] :=
      ⟨_, _, (List.dropLast_append_getLast (List.cons_ne_nil n rest)).symm⟩
    rw [hfront] at hend ⊢
    have hm := isVoid_getLast_dropVoidEnd hend
    obtain ⟨c, hc⟩ : ∃ c, component? m = some c := by
      rw [← Option.ne_none_iff_exists', Ne, component?_eq_none_iff, hm]
      simp
    have hsub : dropVoidEnd front <+: dropVoidEnd ns := by
      rw [hend]
      exact (prefix_dropVoidEnd front).trans (List.prefix_append front [m])
    refine ⟨c, ?_⟩
    rw [List.dropLast_concat, components_ofView_front hview hsub, filterMap_dropVoidEnd,
      hcomponents, hend, List.filterMap_append, List.append_assoc]
    simp [hc]

/-! ## What is left behind a base -/

theorem stripComponents_eq_some {cs : List Component} {ns rest : List Name}
    (h : stripComponents cs ns = some rest) :
    ∃ front, ns = front ++ rest ∧ front.filterMap component? = cs := by
  fun_induction stripComponents cs ns with
  | case1 ns => exact ⟨[], by simpa using h⟩
  | case2 => simp at h
  | case3 c cs n ns hn ih =>
    obtain ⟨front, rfl, hfront⟩ := ih h
    exact ⟨n :: front, rfl, by rw [List.filterMap_cons_none hn, hfront]⟩
  | case4 cs n ns d hn ih =>
    obtain ⟨front, rfl, hfront⟩ := ih h
    exact ⟨n :: front, rfl, by rw [List.filterMap_cons_some hn, hfront]⟩
  | case5 => simp at h

theorem exists_stripComponents {cs : List Component} {ns : List Name}
    (h : cs <+: ns.filterMap component?) : ∃ rest, stripComponents cs ns = some rest := by
  fun_induction stripComponents cs ns with
  | case1 ns => exact ⟨ns, rfl⟩
  | case2 => simp at h
  | case3 c cs n ns hn ih => exact ih (by rwa [List.filterMap_cons_none hn] at h)
  | case4 cs n ns d hn ih =>
    rw [List.filterMap_cons_some hn, List.cons_prefix_cons] at h
    exact ih h.2
  | case5 c cs n ns d hn hne =>
    rw [List.filterMap_cons_some hn, List.cons_prefix_cons] at h
    exact absurd h.1 hne

/-- The last bytes of a path are its last component: no void piece comes behind it. -/
def EndsInName (p : Path) : Prop :=
  ∀ n ∈ (pieces p.bytes).getLast?, isVoid n = false

/-- What is left ends with its last component, if it has one. -/
theorem endsInName_ofView {lead : Lead} {ns : List Name} (hns : ∀ n ∈ ns, slash ∉ n)
    (h : dropVoidEnd ns ≠ []) : (ofView lead (dropVoidEnd ns)).EndsInName := by
  obtain ⟨front, n, hfront⟩ : ∃ front n, dropVoidEnd ns = front ++ [n] :=
    ⟨_, _, (List.dropLast_append_getLast h).symm⟩
  have hslash : ∀ m ∈ dropVoidEnd ns, slash ∉ m := fun m hm =>
    hns m ((prefix_dropVoidEnd ns).subset hm)
  have hpieces := pieces_intercalate h hslash
  have hlast : ∃ before, pieces (ofView lead (dropVoidEnd ns)).bytes = before ++ [n] := by
    cases lead with
    | nothing => exact ⟨front, hpieces.trans hfront⟩
    | root => exact ⟨[] :: front, by rw [ofView, pieces_slash, hpieces, hfront]; rfl⟩
    | here =>
      have hhere : ∀ m ∈ hereName :: dropVoidEnd ns, slash ∉ m :=
        List.forall_mem_cons.mpr ⟨by decide, hslash⟩
      refine ⟨hereName :: front, ?_⟩
      rw [ofView, pieces_intercalate (List.cons_ne_nil _ _) hhere, hfront]
      rfl
  obtain ⟨before, hbefore⟩ := hlast
  intro m hm
  rw [hbefore, List.getLast?_concat, Option.mem_some_iff] at hm
  rw [← hm]
  exact isVoid_getLast_dropVoidEnd hfront

/-- **What is left behind a base has the components behind those of the base.** -/
theorem stripPrefix?_eq_some {p base q : Path} (h : p.stripPrefix? base = some q) :
    p.components = base.components ++ q.components ∧
      ∀ cs n, q.components = cs ++ [.name n] → q.EndsInName := by
  rcases hview : p.view with ⟨lead, ns⟩
  have hp := components_of_view hview
  have hslash : ∀ n ∈ ns, slash ∉ n := fun n hn => not_mem_of_mem_view hview hn
  -- Either way, what is left is spelled from pieces of the path.
  obtain ⟨left, rest, hsub, hq, hcomponents, hfirst⟩ : ∃ left rest, rest ⊆ ns ∧
      q = ofView left (dropVoidEnd rest) ∧
      p.components = base.components ++ (left.components ++ rest.filterMap component?) ∧
      q.components = left.components ++ rest.filterMap component? := by
    rw [stripPrefix?, hview] at h
    cases hbase : base.components with
    | nil =>
      rw [hbase] at h
      obtain rfl := Option.some.inj h
      refine ⟨lead, ns, List.Subset.refl ns, rfl, hp, ?_⟩
      rw [components_ofView_front hview (List.prefix_refl _), filterMap_dropVoidEnd]
    | cons c cs =>
      rw [hbase, Option.map_eq_some_iff] at h
      obtain ⟨rest, hrest, rfl⟩ := h
      obtain ⟨front, hns, hfront⟩ : ∃ front, ns = front ++ rest ∧
          lead.components ++ front.filterMap component? = c :: cs := by
        cases lead with
        | nothing => exact stripComponents_eq_some hrest
        | root | here =>
          simp only [Option.ite_none_right_eq_some] at hrest
          obtain ⟨rfl, hrest⟩ := hrest
          obtain ⟨front, hns, hfront⟩ := stripComponents_eq_some hrest
          exact ⟨front, hns, by rw [hfront]; rfl⟩
      have hsub : rest.dropWhile isVoid ⊆ ns := fun n hn =>
        hns ▸ List.mem_append_right front ((List.dropWhile_suffix _).subset hn)
      refine ⟨.nothing, rest.dropWhile isVoid, hsub, rfl, ?_, ?_⟩
      · rw [hp, filterMap_dropWhile_isVoid, ← hfront, hns, List.filterMap_append]
        exact (List.append_assoc ..).symm
      · have hleft := prefix_dropVoidEnd (rest.dropWhile isVoid)
        rw [components_ofView (fun n hn => hslash n (hsub (hleft.subset hn))) fun _ n hn => ?_,
          filterMap_dropVoidEnd]
        -- The first piece that is left is not void.
        have hhead := List.head?_dropWhile_not isVoid rest
        obtain ⟨more, hmore⟩ := List.head?_eq_some_iff.mp hn
        obtain ⟨after, hafter⟩ := hleft
        rw [hmore, List.cons_append] at hafter
        rw [← hafter, List.head?_cons] at hhead
        simpa using hhead
  refine ⟨by rw [hcomponents, hfirst], fun cs n hlast => ?_⟩
  rw [hq]
  refine endsInName_ofView (fun n hn => hslash n (hsub hn)) fun hnil => ?_
  -- Without pieces there is only the component of a lead, which is no name.
  have hnone : rest.filterMap component? = [] := by
    rw [← filterMap_dropVoidEnd, hnil]
    rfl
  rw [hfirst, hnone, List.append_nil] at hlast
  cases left with
  | nothing => simp [Lead.components] at hlast
  | root | here => cases cs <;> simp [Lead.components] at hlast

/-- **A path can be seen from a base whose components come first in it.** -/
theorem isSome_stripPrefix? {p base : Path} (h : base.components <+: p.components) :
    (p.stripPrefix? base).isSome = true := by
  rcases hview : p.view with ⟨lead, ns⟩
  rw [components_of_view hview] at h
  rw [stripPrefix?, hview]
  cases hbase : base.components with
  | nil => rfl
  | cons c cs =>
    rw [hbase] at h
    dsimp only
    rw [Option.isSome_map]
    cases lead with
    | nothing =>
      obtain ⟨rest, hrest⟩ := exists_stripComponents h
      simp [hrest]
    | root | here =>
      rw [Lead.components, List.singleton_append, List.cons_prefix_cons] at h
      obtain ⟨rfl, hcs⟩ := h
      obtain ⟨rest, hrest⟩ := exists_stripComponents hcs
      simp [hrest]

/-! ## One path behind another -/

/-- The pieces of a path with a relative one behind it. A void piece at the end of the first makes
way for the second. -/
theorem pieces_join {p q : Path} (hp : p.bytes ≠ []) (hq : q.isAbsolute = false) :
    ∃ ns, pieces (p.join q).bytes = ns ++ pieces q.bytes ∧
      (pieces p.bytes = ns ∨ pieces p.bytes = ns ++ [[]]) := by
  rw [join, hq]
  by_cases hlast : p.bytes.getLast? = some slash
  · obtain ⟨s, hs⟩ := List.getLast?_eq_some_iff.mp hlast
    refine ⟨pieces s, ?_, Or.inr ?_⟩
    · simp only [Bool.false_eq_true, if_false, hlast, or_true, if_true]
      rw [hs, List.append_assoc, List.singleton_append, pieces_append_slash]
    · rw [hs, pieces_append_slash]
      rfl
  · refine ⟨pieces p.bytes, ?_, Or.inl rfl⟩
    simp only [Bool.false_eq_true, if_false, hp, hlast, or_self]
    exact pieces_append_slash p.bytes q.bytes

/-- What leads a path is told by its first piece, and by whether that is the only one. -/
theorem view_fst_congr {p q : Path} {n : Name} {ns ms : List Name} (hp : pieces p.bytes = n :: ns)
    (hq : pieces q.bytes = n :: ms) (h : n = [] → (ns = [] ↔ ms = [])) : p.view.1 = q.view.1 := by
  rw [view, view, hp, hq]
  cases n with
  | nil =>
    have hboth := h rfl
    cases ns <;> cases ms <;> simp_all
  | cons b n =>
    by_cases hn : b :: n = hereName <;> simp [hn]

theorem view_fst_of_name {p : Path} {n : Name} (hp : pieces p.bytes = [n])
    (hn : isVoid n = false) : p.view.1 = .nothing := by
  obtain ⟨hempty, hhere⟩ : n ≠ [] ∧ n ≠ hereName := by simpa [isVoid] using hn
  rw [view, hp]
  cases n with
  | nil => simp at hempty
  | cons b n => simp [hhere]

theorem join_of_isAbsolute {p q : Path} (hq : q.isAbsolute = true) : p.join q = q := by
  rw [join, if_pos hq]

theorem join_of_empty {p q : Path} (hp : p.bytes = []) : p.join q = q := by
  rw [join, hp]
  split <;> simp

/-- The component of a piece is no lead. -/
theorem filter_isOfPiece (ns : List Name) :
    (ns.filterMap component?).filter Component.isOfPiece = ns.filterMap component? := by
  rw [List.filter_eq_self]
  intro c hc
  obtain ⟨n, -, hn⟩ := List.mem_filterMap.mp hc
  rcases (component?_cases hn).2 with ⟨rfl, -⟩ | ⟨rfl, -⟩ <;> rfl

/-- **A relative path adds the components of its pieces** to those of a path that is not empty. -/
theorem components_join {p q : Path} (hp : p.bytes ≠ []) (hq : q.isAbsolute = false) :
    (p.join q).components = p.components ++ q.components.filter Component.isOfPiece := by
  obtain ⟨ns, hjoin, hpieces⟩ := pieces_join hp hq
  have hq' : q.components.filter Component.isOfPiece = (pieces q.bytes).filterMap component? := by
    rw [components_eq, List.filter_append, filter_isOfPiece]
    cases q.view.1 <;> rfl
  have hvoid : (pieces p.bytes).filterMap component? = ns.filterMap component? := by
    rcases hpieces with hpieces | hpieces
    · rw [hpieces]
    · rw [hpieces, List.filterMap_append]
      exact List.append_nil _
  -- Both paths start with the same piece, which is not the only one if it is empty.
  have hlead : (p.join q).view.1 = p.view.1 := by
    have hsome : pieces p.bytes ≠ [[]] := by
      intro hnil
      have hbytes : List.intercalate [slash] (p.bytes.splitOn slash) = p.bytes :=
        List.intercalate_splitOn slash
      rw [← pieces_eq_splitOn, hnil] at hbytes
      exact hp hbytes.symm
    cases ns with
    | nil =>
      rcases hpieces with hpieces | hpieces
      · exact absurd hpieces (pieces_ne_nil p.bytes)
      · exact absurd hpieces hsome
    | cons n ns =>
      obtain ⟨ms, hms, hne⟩ : ∃ ms, pieces p.bytes = n :: ms ∧ (n = [] → ms ≠ []) := by
        rcases hpieces with hpieces | hpieces
        · exact ⟨ns, hpieces, fun hn hnil => hsome (by rw [hpieces, hn, hnil])⟩
        · exact ⟨ns ++ [[]], by rw [hpieces, List.cons_append], by simp⟩
      refine view_fst_congr hjoin hms fun hn => ?_
      simp [hne hn, pieces_ne_nil]
  rw [components_eq, hlead, hjoin, List.filterMap_append, ← hvoid, hq', components_eq p,
    List.append_assoc]

/-- Components behind a path stay behind it, wherever the path is put. -/
theorem components_join_append {p q r : Path} {cs : List Component}
    (h : r.components = q.components ++ cs) (hcs : ∀ c ∈ cs, c.isOfPiece = true) :
    (p.join r).components = (p.join q).components ++ cs := by
  have habs : r.isAbsolute = q.isAbsolute := by
    rw [Bool.eq_iff_iff, isAbsolute_iff, isAbsolute_iff, h]
    cases q.components with
    | nil =>
      simp only [List.nil_append, List.head?_nil, reduceCtorEq, iff_false]
      intro hhead
      simpa [Component.isOfPiece] using hcs _ (List.mem_of_head? hhead)
    | cons c _ => rfl
  cases hq : q.isAbsolute with
  | true => rw [join_of_isAbsolute (habs.trans hq), join_of_isAbsolute hq, h]
  | false =>
    by_cases hp : p.bytes = []
    · rw [join_of_empty hp, join_of_empty hp, h]
    · rw [components_join hp (habs.trans hq), components_join hp hq, h, List.filter_append,
        List.filter_eq_self.mpr hcs, List.append_assoc]

theorem EndsInName.join {q : Path} (h : q.EndsInName) (p : Path) : (p.join q).EndsInName := by
  cases hq : q.isAbsolute with
  | true => rwa [join_of_isAbsolute hq]
  | false =>
    by_cases hp : p.bytes = []
    · rwa [join_of_empty hp]
    · obtain ⟨ns, hjoin, -⟩ := pieces_join hp hq
      rw [EndsInName, hjoin, List.getLast?_append_of_ne_nil _ (pieces_ne_nil q.bytes)]
      exact h

/-! ## Names behind a path -/

theorem isAbsolute_name {n : Name} (hn : isEntryName n = true) :
    (Path.mk n).isAbsolute = false := by
  rw [isAbsolute, beq_eq_false_iff_ne]
  exact fun h => not_mem_of_isEntryName hn (List.mem_of_head? h)

/-- The pieces of a path with a name behind it: those of the path, but for a void piece at its end,
and the name. -/
theorem pieces_entry {p : Path} {n : Name} (hp : p.bytes ≠ []) (hn : isEntryName n = true) :
    ∃ ns, pieces (p.entry n).bytes = ns ++ [n] ∧
      (pieces p.bytes = ns ∨ pieces p.bytes = ns ++ [[]]) := by
  have hpieces : pieces n = [n] := piecesFrom_of_not_mem (not_mem_of_isEntryName hn) []
  obtain ⟨ns, hjoin, hp'⟩ := pieces_join hp (isAbsolute_name hn)
  exact ⟨ns, by rw [entry, hjoin, hpieces], hp'⟩

theorem entry_bytes {p : Path} {n : Name} (hp : p.bytes ≠ []) (hn : isEntryName n = true) :
    (p.entry n).bytes ≠ [] ∧ (p.entry n).isAbsolute = p.isAbsolute := by
  obtain ⟨b, s, hs⟩ := List.exists_cons_of_ne_nil hp
  rw [entry, join, isAbsolute_name hn]
  simp only [Bool.false_eq_true, if_false]
  split <;> simp [isAbsolute, hs]

/-- The last component of a path with a name behind it is that name. -/
theorem fileName?_entry {p : Path} {n : Name} (hp : p.bytes ≠ []) (hn : isEntryName n = true) :
    (p.entry n).fileName? = some n := by
  obtain ⟨hvoid, hup⟩ := not_void_of_isEntryName hn
  obtain ⟨hempty, hhere⟩ : n ≠ [] ∧ n ≠ hereName := by
    simpa [isVoid] using hvoid
  obtain ⟨ns, hpieces, -⟩ := pieces_entry hp hn
  -- Only pieces in front of the name are dropped.
  have hview : ∃ front, (p.entry n).view.2 = front ++ [n] := by
    rw [view, hpieces]
    rcases ns with _ | ⟨m, ns⟩
    · exact ⟨[], by simp [hhere]⟩
    · cases m with
      | nil =>
        cases ns with
        | nil => exact ⟨[], rfl⟩
        | cons k ns => exact ⟨k :: ns, rfl⟩
      | cons b m =>
        simp only [List.cons_append]
        split
        · exact ⟨ns, rfl⟩
        · exact ⟨(b :: m) :: ns, rfl⟩
  obtain ⟨front, hfront⟩ := hview
  rw [fileName?, hfront, dropVoidEnd, List.reverse_append]
  simp [hvoid, hup]

/-- The path of a name has no other component. -/
theorem components_name {n : Name} (hn : isEntryName n = true) :
    (Path.mk n).components = [.name n] := by
  have hslash : ∀ m ∈ [n], slash ∉ m := by
    simpa using not_mem_of_isEntryName hn
  have hvoid : ∀ m ∈ [n].head?, isVoid m = false := by
    simpa using (not_void_of_isEntryName hn).1
  have hname : (ofView .nothing [n]).components = _ := components_ofView hslash fun _ => hvoid
  simpa [ofView, Lead.components, component?_of_isEntryName hn] using hname

/-- **An entry adds its name.** -/
theorem components_entry (p : Path) {n : Name} (hn : isEntryName n = true) :
    (p.entry n).components = p.components ++ [.name n] := by
  rw [entry]
  by_cases hp : p.bytes = []
  · obtain rfl : p = ⟨[]⟩ := congrArg Path.mk hp
    rw [join_of_empty rfl, components_name hn]
    rfl
  · rw [components_join hp (isAbsolute_name hn), components_name hn]
    rfl

/-- **Text behind a path goes to its last name**, if the path ends in that. -/
theorem components_followedBy {p : Path} {cs : List Component} {n : Name} {suffix : String}
    (h : p.components = cs ++ [.name n]) (hend : p.EndsInName)
    (hsuffix : slash ∉ Utf8.encode suffix.toList) :
    (p.followedBy suffix).components = cs ++ [.name (n ++ Utf8.encode suffix.toList)] := by
  obtain ⟨front, m, hpieces⟩ : ∃ front m, pieces p.bytes = front ++ [m] :=
    ⟨_, _, (List.dropLast_append_getLast (pieces_ne_nil p.bytes)).symm⟩
  have hvoid : isVoid m = false := hend m (by simp [hpieces])
  obtain ⟨c, hc⟩ : ∃ c, component? m = some c := by
    rw [← Option.ne_none_iff_exists', Ne, component?_eq_none_iff, hvoid]
    simp
  -- The last piece spells the last component.
  rw [components_eq, hpieces, List.filterMap_append, ← List.append_assoc,
    List.filterMap_cons_some hc, List.filterMap_nil] at h
  obtain ⟨hcs, hlast⟩ := List.append_inj' h rfl
  obtain rfl := List.singleton_inj.mp hlast
  obtain rfl : m = n := by
    rcases (component?_cases hc).2 with ⟨hup, -⟩ | ⟨hname, -⟩
    · simp at hup
    · exact (Component.name.inj hname).symm
  have hpieces' : pieces (p.followedBy suffix).bytes =
      front ++ [m ++ Utf8.encode suffix.toList] := pieces_append hsuffix hpieces
  have hlead : (p.followedBy suffix).view.1 = p.view.1 := by
    cases front with
    | nil =>
      rw [view_fst_of_name hpieces' (component?_cases (component?_append hc _)).1,
        view_fst_of_name hpieces hvoid]
    | cons k front => exact view_fst_congr hpieces' hpieces fun _ => by simp
  rw [components_eq, hlead, ← hcs, hpieces', List.filterMap_append, ← List.append_assoc,
    List.filterMap_cons_some (component?_append hc _), List.filterMap_nil]

end Path
end FeatureDocs
