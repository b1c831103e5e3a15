import FeatureDocs.Proofs.Code.Name

/-!
# The functions of a source

The functions of a source are those that are items, and those that are items of inline modules, at
any depth. Reading items takes trees from the front and leaves the rest, so a function stands in
its source where its keyword and its name do, and is named by a tree.

## Main definitions

* `Function`, `Item.functions`: the functions of items, with the modules around them
* `Head.StandsIn`: functions and modules among trees
* `SourceReader.NamesIdentifiers`: a reader finds functions that are named by identifiers

## Main results

* `foundIn_head?`: what is read first stands at the front
* `SourceReader.namesIdentifiers_ofSource?`: functions are named by identifiers
-/

namespace FeatureDocs.Code

/-- A function of a source. -/
structure Function where
  /-- The inline modules around the function, outermost first. -/
  modulePath : List String
  attributes : List Attribute
  name : String
  /-- The source from the keyword `fn` on. -/
  source : List Char

namespace Item

mutual

/-- The functions of an item inside the given modules. -/
def functions (modulePath : List String) : Item → List Function
  | function attributes name source => [⟨modulePath, attributes, name, source⟩]
  | module name items => functionsOfAll (modulePath ++ [name]) items
  | other => []

/-- The functions of items inside the given modules, in source order. -/
def functionsOfAll (modulePath : List String) : List Item → List Function
  | [] => []
  | item :: items => item.functions modulePath ++ functionsOfAll modulePath items

end

end Item

/-! ## What is read is taken from the front -/

/-- The names of functions that the head of a list of trees has, or may still have. -/
def Head.names : Head → List String
  | item i => (i.functions []).map Function.name
  | module _ content => Tree.namesOfAll content

/-- A head is read from trees: the rest stands behind it, and its names are names of the trees. -/
def ReadFrom (ts : List Tree) (read : Head × List Tree) : Prop :=
  read.2 <:+ ts ∧ read.1.names ⊆ Tree.namesOfAll ts

/-- A head stands in trees: a function with its keyword and its name, and a module with its braces,
which end in what is still to be read of it. -/
inductive Head.StandsIn : Head → List Tree → Prop
  | function {ts : List Tree} {attributes : List Attribute} {name : String}
      {source start : List Char}
      (h : [.identifier "fn" source, .identifier name start] <:+: ts) :
      StandsIn (.item (.function attributes name source)) ts
  | module {ts body content : List Tree} {name : String} {keyword start : List Char}
      (h : [.identifier "mod" keyword, .identifier name start, .group .brace body] <:+: ts)
      (hcontent : content <:+ body) : StandsIn (.module name content) ts
  | other {ts : List Tree} : StandsIn (.item .other) ts

/-- A head is found in trees, and the rest stands behind it. -/
def FoundIn (ts : List Tree) (read : Head × List Tree) : Prop :=
  read.2 <:+ ts ∧ read.1.StandsIn ts

variable {ts us rest : List Tree} {head : Head} {read : Head × List Tree}

theorem Head.StandsIn.of_suffix (h : head.StandsIn ts) (hts : ts <:+ us) : head.StandsIn us := by
  cases h with
  | function h => exact .function (h.trans hts.isInfix)
  | module h hcontent => exact .module (h.trans hts.isInfix) hcontent
  | other => exact .other

/-- What stands in trees has its names from them. -/
theorem Head.StandsIn.names_subset (h : head.StandsIn ts) : head.names ⊆ Tree.namesOfAll ts := by
  intro n hn
  cases h with
  | function h =>
    obtain rfl := List.mem_singleton.mp hn
    exact Tree.namesOfAll_subset h.subset (by simp [Tree.names])
  | module h hcontent =>
    have hbody := Tree.namesOfAll_subset hcontent.subset hn
    exact Tree.namesOfAll_subset h.subset (by simp [Tree.names, hbody])
  | other => cases hn

theorem FoundIn.readFrom (h : FoundIn ts read) : ReadFrom ts read := ⟨h.1, h.2.names_subset⟩

theorem FoundIn.of_suffix (h : FoundIn rest read) (hrest : rest <:+ ts) : FoundIn ts read :=
  ⟨h.1.trans hrest, h.2.of_suffix hrest⟩

theorem FoundIn.cons {t : Tree} (h : FoundIn ts read) : FoundIn (t :: ts) read :=
  h.of_suffix (List.suffix_cons t ts)

theorem foundIn_other (h : rest <:+ ts) : FoundIn ts (.item .other, rest) := ⟨h, .other⟩

theorem suffix_cons_of_suffix {t : Tree} (h : rest <:+ ts) : rest <:+ t :: ts :=
  h.trans (List.suffix_cons t ts)

theorem suffix_of_skipAngles {depth : Nat} (h : skipAngles depth ts = some rest) : rest <:+ ts := by
  fun_induction skipAngles depth ts with
  | case1 => simp at h
  | case2 depth d ts ih => exact suffix_cons_of_suffix (suffix_cons_of_suffix (ih h))
  | case3 depth d ts ih => exact suffix_cons_of_suffix (ih h)
  | case4 depth d ts hdepth => exact Option.some.inj h ▸ List.suffix_cons _ _
  | case5 depth d ts hdepth ih => exact suffix_cons_of_suffix (ih h)
  | case6 depth t ts _ _ _ ih => exact suffix_cons_of_suffix (ih h)

theorem suffix_of_skipGenerics (h : skipGenerics ts = some rest) : rest <:+ ts := by
  unfold skipGenerics at h
  split at h
  · exact suffix_cons_of_suffix (suffix_of_skipAngles h)
  · exact Option.some.inj h ▸ List.suffix_refl _

theorem suffix_of_findBody {depth : Nat} {body : Option (List Tree)}
    (h : findBody depth ts = some (body, rest)) : rest <:+ ts := by
  fun_induction findBody depth ts with
  | case1 => simp at h
  | case2 depth d ts ih => exact suffix_cons_of_suffix (suffix_cons_of_suffix (ih h))
  | case3 depth d ts ih => exact suffix_cons_of_suffix (ih h)
  | case4 depth d ts ih => exact suffix_cons_of_suffix (ih h)
  | case5 depth d ts => exact (Prod.mk.inj (Option.some.inj h)).2 ▸ List.suffix_cons _ _
  | case6 body ts => exact (Prod.mk.inj (Option.some.inj h)).2 ▸ List.suffix_cons _ _
  | case7 depth body ts hdepth ih => exact suffix_cons_of_suffix (ih h)
  | case8 depth t ts _ _ _ _ _ ih => exact suffix_cons_of_suffix (ih h)

theorem suffix_of_findSemicolon (h : findSemicolon ts = some rest) : rest <:+ ts := by
  fun_induction findSemicolon ts with
  | case1 => simp at h
  | case2 d ts => exact Option.some.inj h ▸ List.suffix_cons _ _
  | case3 t ts _ ih => exact suffix_cons_of_suffix (ih h)

theorem suffix_skipVisibility (ts : List Tree) : (skipVisibility ts).2 <:+ ts := by
  unfold skipVisibility
  split
  · split
    · exact suffix_cons_of_suffix (List.suffix_cons _ _)
    · exact List.suffix_cons _ _
  · exact suffix_cons_of_suffix (List.suffix_cons _ _)
  · exact List.suffix_cons _ _
  · exact List.suffix_refl _

theorem suffix_skipWord (word : String) (ts : List Tree) : skipWord word ts <:+ ts := by
  unfold skipWord
  split
  · split
    · exact List.suffix_cons _ _
    · exact List.suffix_refl _
  · exact List.suffix_refl _

theorem suffix_skipConvention (ts : List Tree) : skipConvention ts <:+ ts := by
  unfold skipConvention
  split
  · exact suffix_cons_of_suffix (List.suffix_cons _ _)
  · exact List.suffix_cons _ _
  · exact List.suffix_refl _

theorem suffix_of_functionKeyword? {source : List Char}
    (h : functionKeyword? ts = some (source, rest)) : .identifier "fn" source :: rest <:+ ts := by
  unfold functionKeyword? at h
  have hskip := (suffix_skipConvention _).trans <| (suffix_skipWord "unsafe" _).trans <|
    (suffix_skipWord "async" _).trans (suffix_skipWord "const" ts)
  split at h
  · rename_i heq
    obtain ⟨rfl, rfl⟩ := Prod.mk.inj (Option.some.inj h)
    rwa [heq] at hskip
  · simp at h

theorem suffix_of_outerAttributes {attributes : List Attribute}
    (h : outerAttributes ts = some (attributes, rest)) : rest <:+ ts := by
  fun_induction outerAttributes ts generalizing attributes with
  | case1 d content ts a as rest' hrest _ ih =>
    obtain ⟨-, rfl⟩ := Prod.mk.inj (Option.some.inj h)
    exact suffix_cons_of_suffix (suffix_cons_of_suffix (ih hrest))
  | case2 | case3 => simp at h
  | case4 ts => exact (Prod.mk.inj (Option.some.inj h)).2 ▸ List.suffix_refl _

theorem suffix_of_innerAttributes {attributes : List Attribute}
    (h : innerAttributes ts = some (attributes, rest)) : rest <:+ ts := by
  fun_induction innerAttributes ts generalizing attributes with
  | case1 d d' content ts a as rest' hrest _ ih =>
    obtain ⟨-, rfl⟩ := Prod.mk.inj (Option.some.inj h)
    exact suffix_cons_of_suffix (suffix_cons_of_suffix (suffix_cons_of_suffix (ih hrest)))
  | case2 | case3 => simp at h
  | case4 ts => exact (Prod.mk.inj (Option.some.inj h)).2 ▸ List.suffix_refl _

theorem suffix_of_pathSegments {names : List String}
    (h : pathSegments ts = some (names, rest)) : rest <:+ ts := by
  fun_induction pathSegments ts generalizing names with
  | case1 name source d ts _ ih =>
    obtain ⟨⟨names', rest'⟩, hrest, heq⟩ := Option.map_eq_some_iff.mp h
    obtain ⟨-, rfl⟩ := Prod.mk.inj heq
    exact suffix_cons_of_suffix (suffix_cons_of_suffix (suffix_cons_of_suffix (ih hrest)))
  | case2 | case4 | case5 => simp at h
  | case3 name source ts _ _ => exact (Prod.mk.inj (Option.some.inj h)).2 ▸ List.suffix_cons _ _

theorem suffix_of_path? {names : List String} (h : path? ts = some (names, rest)) :
    rest <:+ ts := by
  unfold path? at h
  split at h
  · exact suffix_cons_of_suffix (suffix_cons_of_suffix (suffix_of_pathSegments h))
  · exact suffix_of_pathSegments h

/-! ## Items -/

/-- A function is found where its keyword and its name are. -/
theorem foundIn_functionItem {attributes : List Attribute} {source : List Char}
    (h : functionItem attributes source ts = some read) :
    FoundIn (.identifier "fn" source :: ts) read := by
  unfold functionItem at h
  split at h
  · rename_i name start ts
    split at h
    · simp at h
    · split at h
      · rename_i d ts' hskip
        have hbehind : ts' <:+ .identifier "fn" source :: .identifier name start :: ts :=
          suffix_cons_of_suffix <| suffix_cons_of_suffix <|
            (List.suffix_cons _ _).trans (suffix_of_skipGenerics hskip)
        split at h
        · rename_i body rest hbody
          obtain ⟨inner, -, rfl⟩ := Option.map_eq_some_iff.mp h
          exact ⟨(suffix_of_findBody hbody).trans hbehind, .function ⟨[], ts, rfl⟩⟩
        · rename_i hbody
          obtain rfl := Option.some.inj h
          exact foundIn_other ((suffix_of_findBody hbody).trans hbehind)
        · simp at h
      · simp at h
  · simp at h

/-- A module is found where its keyword, its name and its braces are, and it holds the trees that
stand in the braces behind the inner attributes. -/
theorem foundIn_moduleItem {keyword : List Char} (h : moduleItem ts = some read) :
    FoundIn (.identifier "mod" keyword :: ts) read := by
  unfold moduleItem at h
  split at h
  · split at h
    · obtain rfl := Option.some.inj h
      exact (foundIn_other (List.suffix_cons _ _)).cons.cons
    · simp at h
  · rename_i name start content ts
    split at h
    · obtain ⟨⟨inner, items⟩, hinner, rfl⟩ := Option.map_eq_some_iff.mp h
      exact ⟨suffix_cons_of_suffix (suffix_cons_of_suffix (List.suffix_cons _ _)),
        .module ⟨[], ts, rfl⟩ (suffix_of_innerAttributes hinner)⟩
    · simp at h
  · simp at h

theorem foundIn_findSemicolon (h : (findSemicolon ts).map (Head.item .other, ·) = some read) :
    FoundIn ts read := by
  obtain ⟨rest, hrest, rfl⟩ := Option.map_eq_some_iff.mp h
  exact foundIn_other (suffix_of_findSemicolon hrest)

theorem foundIn_findBody {depth : Nat}
    (h : (findBody depth ts).map (fun x => (Head.item .other, x.2)) = some read) :
    FoundIn ts read := by
  obtain ⟨⟨body, rest⟩, hrest, rfl⟩ := Option.map_eq_some_iff.mp h
  exact foundIn_other (suffix_of_findBody hrest)

theorem foundIn_structItem (h : structItem ts = some read) : FoundIn ts read := by
  unfold structItem at h
  split at h
  · rename_i hskip
    exact (foundIn_findSemicolon h).of_suffix
      ((List.suffix_cons _ _).trans (suffix_of_skipGenerics hskip))
  · rename_i hskip
    exact (foundIn_findBody h).of_suffix (suffix_of_skipGenerics hskip)
  · simp at h

theorem foundIn_bodiedItem (h : bodiedItem ts = some read) : FoundIn ts read := by
  unfold bodiedItem at h
  split at h
  · rename_i hbody
    obtain rfl := Option.some.inj h
    exact foundIn_other (suffix_of_findBody hbody)
  · simp at h

theorem foundIn_semicolonItem (h : semicolonItem ts = some read) : FoundIn ts read := by
  unfold semicolonItem at h
  split at h
  · exact foundIn_findSemicolon h
  · simp at h

theorem foundIn_named {reader : List Tree → Option (Head × List Tree)}
    (hreader : ∀ ts read, reader ts = some read → FoundIn ts read)
    (h : named reader ts = some read) : FoundIn ts read := by
  unfold named at h
  split at h
  · split at h
    · exact (hreader _ _ h).of_suffix (List.suffix_cons _ _)
    · simp at h
  · simp at h

theorem foundIn_macroItem (h : macroItem ts = some read) : FoundIn ts read := by
  unfold macroItem at h
  split at h
  · rename_i names d ts' hpath
    refine FoundIn.of_suffix ?_ ((List.suffix_cons _ _).trans (suffix_of_path? hpath))
    dsimp only at h
    split at h
    case h_3 => simp at h
    -- What the macro is given stands behind its mark, or behind a name that follows the mark.
    all_goals
      rename_i hgroup
      obtain rfl := Option.some.inj h
      refine foundIn_other ?_
      split at hgroup
      · split at hgroup <;> simp [hgroup, List.suffix_cons_iff]
      · simp [hgroup, List.suffix_cons_iff]
  · simp at h

/-- Whatever word an item starts with, it is read from the trees behind that. -/
theorem foundIn_wordItem {visible : Bool} (h : wordItem visible ts = some read) :
    FoundIn ts read := by
  have htrait : ∀ ts read,
      (findBody 0 ts).map (fun x => (Head.item .other, x.2)) = some read → FoundIn ts read :=
    fun _ _ => foundIn_findBody
  unfold wordItem at h
  split at h
  case h_1 => exact foundIn_moduleItem h
  case h_2 => exact (foundIn_moduleItem h).cons
  case h_3 => exact (foundIn_semicolonItem h).cons
  case h_6 | h_11 => exact (foundIn_semicolonItem h).cons.cons
  case h_4 => exact (foundIn_named (fun _ _ => foundIn_semicolonItem) h).cons.cons
  case h_5 | h_7 => exact (foundIn_named (fun _ _ => foundIn_semicolonItem) h).cons
  case h_8 => exact (foundIn_named (fun _ _ => foundIn_findSemicolon) h).cons
  case h_9 => exact (foundIn_named (fun _ _ => foundIn_structItem) h).cons
  case h_10 => exact (foundIn_named (fun _ _ => foundIn_bodiedItem) h).cons
  case h_12 | h_15 =>
    obtain rfl := Option.some.inj h
    exact (foundIn_other (List.suffix_cons _ _)).cons.cons
  case h_13 =>
    obtain rfl := Option.some.inj h
    exact (foundIn_other (List.suffix_cons _ _)).cons
  case h_14 =>
    obtain rfl := Option.some.inj h
    exact (foundIn_other (List.suffix_cons _ _)).cons.cons.cons
  case h_16 => exact (foundIn_named htrait h).cons
  case h_17 | h_18 => exact (foundIn_named htrait h).cons.cons
  case h_19 => exact (foundIn_named htrait h).cons.cons.cons
  case h_20 => exact (foundIn_bodiedItem h).cons
  case h_21 | h_22 => exact (foundIn_bodiedItem h).cons.cons
  case h_23 => exact (foundIn_bodiedItem h).cons.cons.cons
  case h_24 =>
    refine (foundIn_named (fun ts read h => ?_) h).cons
    split at h
    · obtain rfl := Option.some.inj h
      exact (foundIn_other (List.suffix_cons _ _)).cons
    · obtain rfl := Option.some.inj h
      exact foundIn_other (List.suffix_cons _ _)
    · simp at h
  case h_25 =>
    split at h
    · exact (foundIn_bodiedItem h).cons.cons
    · split at h
      · simp at h
      · exact foundIn_macroItem h
  case h_26 =>
    split at h
    · simp at h
    · exact foundIn_macroItem h

/-- **What is read first is found at the front**: the rest stands behind it. -/
theorem foundIn_head? (h : head? ts = some read) : FoundIn ts read := by
  unfold head? at h
  split at h
  · simp at h
  · rename_i attributes us hattributes
    have hus := suffix_of_outerAttributes hattributes
    have hvisible := (suffix_skipVisibility us).trans hus
    dsimp only at h
    split at h
    · rename_i source rest hkeyword
      exact (foundIn_functionItem h).of_suffix
        ((suffix_of_functionKeyword? hkeyword).trans hvisible)
    · exact (foundIn_wordItem h).of_suffix hvisible

/-! ## Functions -/

namespace Item

mutual

/-- The modules around a function do not change its name. -/
theorem names_functions (modulePath : List String) :
    ∀ i : Item, (i.functions modulePath).map Function.name = (i.functions []).map Function.name
  | function _ _ _ | other => rfl
  | module name items => by
    rw [functions, functions, names_functionsOfAll, names_functionsOfAll ([] ++ [name])]

theorem names_functionsOfAll (modulePath : List String) :
    ∀ is : List Item, (functionsOfAll modulePath is).map Function.name =
      (functionsOfAll [] is).map Function.name
  | [] => rfl
  | i :: is => by
    rw [functionsOfAll, functionsOfAll, List.map_append, List.map_append, names_functions,
      names_functionsOfAll]

end

end Item

/-- The functions of items are named by their trees: those of the head first, then, as it is a list
of items too, those of the rest. -/
theorem names_itemsWithin {bound : Nat} {items : List Item}
    (h : itemsWithin bound ts = some items) :
    (Item.functionsOfAll [] items).map Function.name ⊆ Tree.namesOfAll ts := by
  fun_induction itemsWithin bound ts generalizing items with
  | case1 =>
    obtain rfl := Option.some.inj h
    simp [Item.functionsOfAll]
  | case2 | case3 | case6 => simp at h
  | case4 bound ts _ i rest hhead ih =>
    obtain ⟨later, hlater, rfl⟩ := Option.map_eq_some_iff.mp h
    obtain ⟨hsuffix, hnames⟩ := (foundIn_head? hhead).readFrom
    rw [Item.functionsOfAll, List.map_append]
    exact List.append_subset.mpr
      ⟨hnames, List.Subset.trans (ih hlater) (Tree.namesOfAll_subset hsuffix.subset)⟩
  | case5 bound ts _ name content rest hhead inner later hlater hinner ihinner ihlater =>
    -- The items of a module are read from its content, whose names the head has.
    obtain rfl := Option.some.inj h
    obtain ⟨hsuffix, hnames⟩ := (foundIn_head? hhead).readFrom
    rw [Item.functionsOfAll, List.map_append, Item.functions, Item.names_functionsOfAll]
    exact List.append_subset.mpr ⟨List.Subset.trans (ihinner hinner) hnames,
      List.Subset.trans (ihlater hlater) (Tree.namesOfAll_subset hsuffix.subset)⟩

/-- What the reader finds are functions that are named by identifiers. -/
def SourceReader.NamesIdentifiers (read : SourceReader) : Prop :=
  ∀ source items, read source = some items →
    ∀ f ∈ Item.functionsOfAll [] items, IsIdentifier f.name

/-- **The functions of a source are named by identifiers.** -/
theorem SourceReader.namesIdentifiers_ofSource? : NamesIdentifiers Item.ofSource? := by
  intro source items h f hf
  unfold Item.ofSource? at h
  split at h
  · simp at h
  · rename_i ts hts
    split at h
    · simp at h
    · rename_i inner us hinner
      have hname := names_itemsWithin h (List.mem_map_of_mem hf)
      exact isIdentifier_of_mem_names hts
        (Tree.namesOfAll_subset (suffix_of_innerAttributes hinner).subset hname)

end FeatureDocs.Code
