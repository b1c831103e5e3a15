import FeatureDocs.Proofs.Json.Model
import FeatureDocs.Proofs.Json.Printed
import FeatureDocs.Proofs.SiteBuilder
import FeatureDocs.Proofs.TagIndex.Positions
import FeatureDocs.Proofs.Tree.Text

/-!
# The JSON of a site

A site is printed unless one of the paths at its nodes is no valid UTF-8. Both printed forms denote
one value. It shows the index in three ways that agree: the list of blocks, the blocks of each tag,
and the number of these. The blocks of a tag are those of the list, in its order, each as often as
the tag is among the tags that it is written with.

## Main definitions

* `DocTree.Unprintable`: the node holds a path that is no text
* `Json.IsTagEntry`, `Site.IsJson`: the value of a site

## Main results

* `Site.isJson_of_toJson?`: the three views of the index agree
* `SiteBuilder.site_denoted`: what the printed forms of a site denote
-/

namespace FeatureDocs

/-- One of the paths at a node is no valid UTF-8: its own, the one to be written, or the file of a
definition that the answer to a step of its page names. -/
inductive DocTree.Unprintable (node : DocTree) : Prop where
  | path : Utf8.decode? node.place.path.bytes = none → Unprintable node
  | writePath : Utf8.decode? node.place.writePath.bytes = none → Unprintable node
  | source {s : Scenario} {step : Step} {found : StepMatch} {d : FoundDefinition} :
      s ∈ node.ownScenarios → step ∈ s.steps → step.implementation = some found →
      found.definition? = some d → Utf8.decode? d.sourcePath.bytes = none → Unprintable node

/-- The value of a member of an object. -/
def Json.member? (name : String) : Json → Option Json
  | object members => members.lookup name
  | _ => none

/-- The entry of a tag and its summary, beside the list of all blocks. The entry is a list of blocks
of that list, which stand there at positions that never decrease; a block is in the entry as often
as the tag is among its tags. The summary gives the tag and the length of the entry. -/
def Json.IsTagEntry (scenaria : List Json) (entry : String × Json) (summary : Json) : Prop :=
  ∃ (elements : List Json) (positions : List Nat), entry.2 = .array elements ∧
    summary = .object [("name", .string entry.1), ("count", .number elements.length)] ∧
    positions.Pairwise (· ≤ ·) ∧
    List.Forall₂ (fun i element => scenaria[i]? = some element) positions elements ∧
    ∀ (i : Nat) (element : Json), scenaria[i]? = some element →
      ∃ tags : List String, element.member? "tags" = some (.ofStrings tags) ∧
        positions.count i = tags.count entry.1

/-- The value of a site: its tree, the blocks of its index, and the entries and summaries of the
tags. Each tag has one entry, and all tags of the blocks have one. -/
def Site.IsJson (site : Site) (v : Json) : Prop :=
  ∃ root scenaria perTag tags,
    v = .object [("root", root), ("scenaria", .array scenaria), ("scenariaPerTag", .object perTag),
      ("tags", .array tags)] ∧
    site.root.toJson? = some root ∧
    List.Forall₂ (fun s element => s.toJson? = some element) site.index.scenarios scenaria ∧
    (perTag.map Prod.fst).Nodup ∧
    (∀ element ∈ scenaria, ∃ names : List String, element.member? "tags" = some (.ofStrings names) ∧
      names ⊆ perTag.map Prod.fst) ∧
    List.Forall₂ (Json.IsTagEntry scenaria) perTag tags

/-! ## Lists side by side -/

section SideBySide

variable {α β γ : Type} {R : α → β → Prop} {l : List α} {u : List β}

theorem forall₂_through {S : β → γ → Prop} {T : α → γ → Prop} {w : List γ}
    (hT : ∀ a b c, R a b → S b c → T a c) (h : List.Forall₂ R l u) (hS : List.Forall₂ S u w) :
    List.Forall₂ T l w := by
  induction h generalizing w with
  | nil =>
    cases hS
    exact .nil
  | cons hR _ ih =>
    cases hS with
    | cons hfirst hothers => exact .cons (hT _ _ _ hR hfirst) (ih hothers)

/-- A traversal finds the results beside the elements. -/
theorem forall₂_of_mapM {f : α → Option β} (h : l.mapM f = some u) :
    List.Forall₂ (fun a b => f a = some b) l u := by
  induction l generalizing u with
  | nil =>
    cases h
    exact .nil
  | cons a l ih =>
    rw [List.mapM_cons] at h
    obtain ⟨b, hb, h⟩ := Option.bind_eq_some_iff.mp h
    obtain ⟨bs, hbs, h⟩ := Option.bind_eq_some_iff.mp h
    cases h
    exact .cons hb (ih hbs)

theorem exists_getElem?_of_forall₂ (h : List.Forall₂ R l u) {i : Nat} {b : β}
    (hb : u[i]? = some b) : ∃ a, l[i]? = some a ∧ R a b := by
  induction h generalizing i with
  | nil => cases hb
  | cons hR _ ih =>
    cases i with
    | zero =>
      cases hb
      exact ⟨_, rfl, hR⟩
    | succ i => exact ih hb

end SideBySide

/-! ## Paths -/

theorem DocTree.unprintable_iff (node : DocTree) :
    node.Unprintable ↔ ∃ p ∈ node.ownPaths, p.isText = false := by
  have htext : ∀ p : Path, p.isText = false ↔ Utf8.decode? p.bytes = none := fun p => by
    rw [Path.isText, Path.text?, Option.isSome_map, Option.isSome_eq_false_iff,
      Option.isNone_iff_eq_none]
  simp only [htext]
  constructor
  · rintro (hpath | hpath | ⟨hs, hstep, hfound, hd, hpath⟩)
    · exact ⟨_, List.mem_cons_self, hpath⟩
    · exact ⟨_, List.mem_cons_of_mem _ List.mem_cons_self, hpath⟩
    · refine ⟨_, List.mem_cons_of_mem _ (List.mem_cons_of_mem _ ?_), hpath⟩
      refine List.mem_flatMap.mpr ⟨_, hs, List.mem_flatMap.mpr ⟨_, hstep, ?_⟩⟩
      rw [Step.paths, hfound, Option.bind_some, hd]
      exact List.mem_singleton.mpr rfl
  · rintro ⟨p, hp, hpath⟩
    rcases List.mem_cons.mp hp with rfl | hp
    · exact .path hpath
    rcases List.mem_cons.mp hp with rfl | hp
    · exact .writePath hpath
    obtain ⟨s, hs, hp⟩ := List.mem_flatMap.mp hp
    obtain ⟨step, hstep, hp⟩ := List.mem_flatMap.mp hp
    obtain ⟨d, hd, rfl⟩ := List.mem_map.mp hp
    obtain ⟨found, hfound, hd⟩ := Option.bind_eq_some_iff.mp (Option.mem_toList.mp hd)
    exact .source hs hstep hfound hd hpath

theorem DocTree.exists_unprintable_iff (tree : DocTree) :
    (∃ node ∈ tree.nodes, node.Unprintable) ↔ ∃ p ∈ tree.paths, p.isText = false := by
  simp only [unprintable_iff, paths, List.mem_flatMap]
  constructor
  · rintro ⟨node, hnode, p, hp, htext⟩
    exact ⟨p, ⟨node, hnode, hp⟩, htext⟩
  · rintro ⟨p, ⟨node, hnode, hp⟩, htext⟩
    exact ⟨node, hnode, p, hp, htext⟩

/-- A site has no JSON form exactly if one of its nodes holds a path that is no text. -/
theorem Site.toJson?_ofTree_eq_none_iff (tree : DocTree) :
    (ofTree tree).toJson? = none ↔ ∃ node ∈ tree.nodes, node.Unprintable := by
  rw [DocTree.exists_unprintable_iff, ← Option.isNone_iff_eq_none, ← Option.isSome_eq_false_iff,
    isSome_toJson?_ofTree, List.all_eq_false]
  simp only [Bool.not_eq_true]

/-! ## The value -/

theorem Scenario.member?_tags {s : Scenario} {v : Json} (h : s.toJson? = some v) :
    v.member? "tags" = some (.ofStrings s.tags) := by
  obtain ⟨steps, -, h⟩ := Option.bind_eq_some_iff.mp h
  cases h
  rfl

namespace TagIndex

/-- The members of an index are made of the values of its blocks and those of its buckets. -/
theorem exists_of_jsonMembers? {index : TagIndex} {members : List (String × Json)}
    (h : index.jsonMembers? = some members) :
    ∃ perTag scenaria,
      members = [("scenaria", .array scenaria), ("scenariaPerTag", .object perTag),
        ("tags", .array (index.tags.map TagCount.toJson))] ∧
      List.Forall₂ (fun s v => s.toJson? = some v) index.scenarios scenaria ∧
      List.Forall₂ (fun bucket entry => entry.1 = bucket.1 ∧ ∃ elements,
        entry.2 = .array elements ∧ List.Forall₂ (fun s v => s.toJson? = some v)
          (index.members bucket.2) elements) index.buckets perTag := by
  obtain ⟨perTag, hperTag, h⟩ := Option.bind_eq_some_iff.mp h
  obtain ⟨scenaria, hscenaria, h⟩ := Option.bind_eq_some_iff.mp h
  cases h
  refine ⟨perTag, scenaria, rfl, forall₂_of_mapM hscenaria, ?_⟩
  refine (forall₂_of_mapM hperTag).imp fun bucket entry hentry => ?_
  obtain ⟨elements, helements, hentry⟩ := Option.bind_eq_some_iff.mp hentry
  cases hentry
  exact ⟨rfl, elements, rfl, forall₂_of_mapM helements⟩

variable {blocks : List Scenario} {scenaria : List Json}

/-- **The values of a bucket** are the entry of its tag. -/
theorem isTagEntry_of_bucket
    (hscenaria : List.Forall₂ (fun s v => s.toJson? = some v) (ofScenarios blocks).scenarios
      scenaria)
    {tag : String} {ps : List Nat} (hbucket : (tag, ps) ∈ (ofScenarios blocks).buckets)
    {elements : List Json} (helements : List.Forall₂ (fun s v => s.toJson? = some v)
      ((ofScenarios blocks).members ps) elements) :
    Json.IsTagEntry scenaria (tag, .array elements) (TagCount.toJson ⟨tag, ps.length⟩) := by
  obtain ⟨hpositions, hps, -⟩ := bucket_of_mem hbucket
  have hmembers := forall₂_members (lt_length_of_mem_bucket hbucket)
  refine ⟨elements, ps, rfl, ?_, hps ▸ TagBuckets.pairwise_occurrences tag 0 blocks, ?_, ?_⟩
  · rw [TagCount.toJson, hmembers.length_eq, helements.length_eq]
  · -- The value of a member is the value that stands at its position.
    refine forall₂_through (fun i s element hs helement => ?_) hmembers helements
    obtain ⟨v, hv, hsv⟩ := exists_getElem?_of_forall₂ hscenaria.flip hs
    rw [hv, ← hsv, helement]
  · intro i element hi
    obtain ⟨s, hs, helement⟩ := exists_getElem?_of_forall₂ hscenaria hi
    refine ⟨s.tags, Scenario.member?_tags helement, ?_⟩
    -- The index lists each block with the tags that count for it.
    change (blocks.map _)[i]? = some s at hs
    rw [List.getElem?_map] at hs
    obtain ⟨block, hblock, rfl⟩ := Option.map_eq_some_iff.mp hs
    rw [← hpositions]
    exact count_positions_ofScenarios hblock tag

/-- All tags of a block have a bucket. -/
theorem tags_subset_of_mem {s : Scenario} (hs : s ∈ (ofScenarios blocks).scenarios) :
    s.tags ⊆ (ofScenarios blocks).buckets.map Prod.fst := by
  obtain ⟨block, hblock, rfl⟩ := List.mem_map.mp hs
  intro tag htag
  by_contra hnot
  rw [← names_tags] at hnot
  exact (withTag_of_not_listed hnot).2 block hblock htag

end TagIndex

/-- **The form of a site that has one** shows its index in three ways that agree. -/
theorem Site.isJson_of_toJson? {tree : DocTree} {v : Json} (h : (ofTree tree).toJson? = some v) :
    (ofTree tree).IsJson v := by
  obtain ⟨root, hroot, h⟩ := Option.bind_eq_some_iff.mp h
  obtain ⟨members, hmembers, h⟩ := Option.bind_eq_some_iff.mp h
  cases h
  obtain ⟨perTag, scenaria, rfl, hscenaria, hperTag⟩ := TagIndex.exists_of_jsonMembers? hmembers
  have hkeys : perTag.map Prod.fst = (ofTree tree).index.buckets.map Prod.fst := by
    have hsame : List.Forall₂ Eq (perTag.map Prod.fst) ((ofTree tree).index.buckets.map Prod.fst) :=
      List.forall₂_map_left_iff.mpr (List.forall₂_map_right_iff.mpr
        (hperTag.imp fun _ _ hentry => hentry.1).flip)
    rwa [List.forall₂_eq_eq_eq] at hsame
  refine ⟨root, scenaria, perTag, _, rfl, hroot, hscenaria, ?_, fun element helement => ?_, ?_⟩
  · rw [hkeys]
    exact (TagBuckets.sound_nil.ofScenarios 0 tree.scenarios).1.nodup
  · obtain ⟨s, hs, hvalue⟩ := exists_partner hscenaria.flip helement
    exact ⟨s.tags, Scenario.member?_tags hvalue, hkeys ▸ TagIndex.tags_subset_of_mem hs⟩
  · rw [TagIndex.tags, List.map_map, List.forall₂_map_right_iff]
    have hentries := (List.forall₂_and_left _ _).mpr ⟨fun _ hbucket => hbucket, hperTag⟩
    refine hentries.flip.imp ?_
    rintro ⟨_, _⟩ ⟨tag, ps⟩ ⟨hbucket, rfl, elements, rfl, helements⟩
    exact TagIndex.isTagEntry_of_bucket hscenaria hbucket helements

namespace SiteBuilder

variable {p : SiteBuilder} {disk : Disk} {root output : Path} {site : Site}

/-- **The printed forms of a site denote its value.**

Printing fails exactly if a path at one of the nodes is no valid UTF-8. Otherwise both forms of the
site are printed, and both denote one value and no other. It is an object of four members: the tree,
the blocks of the index, the entries of their tags, and a summary for each entry, in the same
order. -/
theorem site_denoted (h : p.build disk root output = .ok site) :
    (∀ pretty e, site.print pretty = .error e ↔
      e = .serialise ∧ ∃ node ∈ site.root.nodes, node.Unprintable) ∧
      ((¬ ∃ node ∈ site.root.nodes, node.Unprintable) →
        ∃ v long short, site.IsJson v ∧ site.print true = .ok long ∧ site.print false = .ok short ∧
          ∀ w, (Json.Denotes long w ↔ w = v) ∧ (Json.Denotes short w ↔ w = v)) := by
  obtain ⟨-, hsite⟩ := build_eq_ok_iff.mp h
  have hnone : site.toJson? = none ↔ ∃ node ∈ site.root.nodes, node.Unprintable := by
    rw [hsite]
    exact Site.toJson?_ofTree_eq_none_iff site.root
  constructor
  · intro pretty e
    rw [← hnone, Site.print]
    cases site.toJson? with
    | none => exact ⟨fun herror => ⟨(Except.error.inj herror).symm, rfl⟩, fun ⟨he, _⟩ => he ▸ rfl⟩
    | some v => exact iff_of_false nofun nofun
  · intro hall
    have hsome : site.toJson? ≠ none := fun hjson => hall (hnone.mp hjson)
    obtain ⟨v, hv⟩ := Option.ne_none_iff_exists'.mp hsome
    have hvalue : site.IsJson v := by
      rw [hsite] at hv ⊢
      exact Site.isJson_of_toJson? hv
    have hprint : ∀ pretty, site.print pretty = .ok (if pretty then v.pretty else v.compact) :=
      fun pretty => by rw [Site.print, hv]
    refine ⟨v, v.pretty, v.compact, hvalue, hprint true, hprint false, fun w => ⟨?_, ?_⟩⟩
    · exact v.denotes_pretty.denotes_iff
    · exact v.denotes_compact.denotes_iff

theorem exists_site_of_file (n : Name) (content : List UInt8)
    (hdisk : (sampleDisk [(n, .file content)]).root.wellFormed = true) :
    ∃ site, unmatching.build (sampleDisk [(n, .file content)]) (.ofString "d") (.ofString "o") =
      .ok site := by
  refine exists_site hdisk (inspect_sampleDisk _) ?_ fun _ => ⟨_, rfl⟩
  intro x hx operation hdenied
  obtain rfl | rfl : x = ([], .directory [(n, .file content)]) ∨ x = ([n], .file content) :=
    List.mem_pair.mp hx
  · cases hdenied
  · cases hdenied

/-- A directory with a feature file is printed, and one with a file whose name is no text is not. -/
theorem printed_sample_sites :
    (∃ site v long short,
      unmatching.build (sampleDisk [(Utf8.encode "a.feature".toList,
        .file (Utf8.encode "@t\nFeature: A\nScenario: B".toList))]) (.ofString "d")
          (.ofString "o") = .ok site ∧
        site.IsJson v ∧ site.print true = .ok long ∧ site.print false = .ok short ∧
        Json.Denotes long v ∧ Json.Denotes short v) ∧
      ∃ site, unmatching.build (sampleDisk [([0xFF], .file [])]) (.ofString "d") (.ofString "o") =
          .ok site ∧
        site.print true = .error .serialise := by
  constructor
  · obtain ⟨site, hsite⟩ := exists_site_of_file (Utf8.encode "a.feature".toList)
      (Utf8.encode "@t\nFeature: A\nScenario: B".toList) (by decide)
    have hmatcher : ∀ line, (unmatching.treeBuilder (.ofString "d") (.ofString "o")).matcher line =
        .ok .unmatched := fun _ => rfl
    have hvisits : ∀ q ∈ (sampleDisk [(Utf8.encode "a.feature".toList,
        .file (Utf8.encode "@t\nFeature: A\nScenario: B".toList))]).visits (.ofString "d"),
        q.isText = true := by
      rw [Disk.visits_eq (inspect_sampleDisk _)]
      decide +kernel
    have hall : ¬ ∃ node ∈ site.root.nodes, node.Unprintable := by
      rw [DocTree.exists_unprintable_iff]
      rintro ⟨q, hq, hno⟩
      have htext : q.isText = true := TreeBuilder.isText_of_mem_paths (build_eq_ok_iff.mp hsite).1
        hmatcher (Path.isText_ofString "o") hvisits (fun _ _ => nofun) hq
      rw [htext] at hno
      cases hno
    obtain ⟨v, long, short, hvalue, hlong, hshort, hdenotes⟩ :=
      (site_denoted hsite).2 hall
    exact ⟨site, v, long, short, hsite, hvalue, hlong, hshort, (hdenotes v).1.mpr rfl,
      (hdenotes v).2.mpr rfl⟩
  · obtain ⟨site, hsite⟩ := exists_site_of_file [0xFF] [] (by decide)
    have hpaths := TreeBuilder.paths_of_nodes (by decide) (build_eq_ok_iff.mp hsite).1
    have hvisit : (Path.ofString "d").entry [0xFF] ∈
        (sampleDisk [([0xFF], .file [])]).visits (.ofString "d") := by
      rw [Disk.visits_eq (inspect_sampleDisk _)]
      decide
    rw [← hpaths] at hvisit
    obtain ⟨node, hnode, hpath⟩ := List.mem_map.mp hvisit
    have hunread : Utf8.decode? ((Path.ofString "d").entry [0xFF]).bytes = none := by
      decide +kernel
    exact ⟨site, hsite, ((site_denoted hsite).1 true _).mpr
      ⟨rfl, node, hnode, .path (hpath ▸ hunread)⟩⟩

end SiteBuilder

end FeatureDocs
