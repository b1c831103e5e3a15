import FeatureDocs.Proofs.Pattern.Literal
import FeatureDocs.Proofs.Step.Definition

/-!
# Patterns that are left to the name

Where a step attribute holds no pattern, the name of the function with blanks for underscores is
the pattern. Names are identifiers, so they hold nothing that a pattern could take for a placeholder
or an escape, and the pattern matches just its own text. A step line can only say that text if it
starts with no blank character, for those in front of the text of a step are dropped: a function
whose name starts with an underscore is found by no line.

## Main definitions

* `Code.Arguments.LeavePattern`: arguments that leave the pattern to the name

## Main results

* `Registry.lookup_inferred`: what finds a definition whose pattern was left to its name
* `Registry.inferred_found_by_name`: such a definition of a source
-/

namespace FeatureDocs

open Code (IsIdentifier Item)

/-! ## Characters of names -/

namespace Text

/-- No blank character starts an identifier. -/
theorem isBlank_of_isIdentifierStart {c : Char} (h : isIdentifierStart c = true) :
    isBlank c = false := by
  have hpoints : ∀ n ∈ blankPoints, isIdentifierStart (Char.ofNat n) = false := by decide +kernel
  by_contra hblank
  have hstart := hpoints _ (mem_blankPoints (Bool.not_eq_false _ ▸ hblank))
  rw [Char.ofNat_toNat, h] at hstart
  cases hstart

/-- An identifier has no backslash and no brace behind its first character, -/
theorem plain_of_isIdentifierTail {c : Char} (h : isIdentifierTail c = true) :
    c ≠ '\\' ∧ c ≠ '{' ∧ c ≠ '}' := by
  refine ⟨?_, ?_, ?_⟩ <;> rintro rfl <;> revert h <;> decide

/-- nor do they start one. -/
theorem plain_of_isIdentifierStart {c : Char} (h : isIdentifierStart c = true) :
    c ≠ '\\' ∧ c ≠ '{' ∧ c ≠ '}' := by
  refine ⟨?_, ?_, ?_⟩ <;> rintro rfl <;> revert h <;> decide

end Text

namespace Code

variable {name : String}

theorem IsWord.isPlain {word : List Char} (h : IsWord word) : IsPlain word := by
  obtain ⟨first, rest, rfl, hfirst, hrest⟩ := h
  exact List.forall_mem_cons.mpr ⟨Text.plain_of_isIdentifierStart hfirst,
    fun c hc => Text.plain_of_isIdentifierTail (hrest c hc)⟩

/-- A name stands for itself in a pattern. -/
theorem IsIdentifier.isPlain (h : IsIdentifier name) : IsPlain name.toList := by
  rcases h with h | ⟨word, hword, hname⟩
  · exact h.isPlain
  · rw [hname]
    exact List.forall_mem_cons.mpr ⟨by decide, List.forall_mem_cons.mpr ⟨by decide, hword.isPlain⟩⟩

/-- A name starts with a character that is not blank. -/
theorem IsIdentifier.exists_first (h : IsIdentifier name) :
    ∃ first rest, name.toList = first :: rest ∧ Text.isBlank first = false := by
  rcases h with ⟨first, rest, hname, hfirst, -⟩ | ⟨word, -, hname⟩
  · exact ⟨first, rest, hname, Text.isBlank_of_isIdentifierStart hfirst⟩
  · exact ⟨'r', '#' :: word, hname, by decide⟩

end Code

/-! ## Patterns from names -/

section Names

variable {name : String}

theorem toList_patternOfName (name : String) :
    (patternOfName name).toList = name.toList.map fun c => if c == '_' then ' ' else c := by
  rw [patternOfName, String.toList_map]

/-- The pattern from a name stands for itself. -/
theorem isPlain_patternOfName (h : IsIdentifier name) : IsPlain (patternOfName name).toList := by
  intro c hc
  rw [toList_patternOfName] at hc
  obtain ⟨d, hd, rfl⟩ := List.mem_map.mp hc
  split
  · decide
  · exact h.isPlain d hd

theorem parse_patternOfName (h : IsIdentifier name) :
    Pattern.parse (patternOfName name) = .ok (.literally (patternOfName name).toList) := by
  have hparse := Pattern.parse_plain (isPlain_patternOfName h)
  rwa [String.ofList_toList] at hparse

/-- The pattern from a name starts with a blank character if the name starts with an underscore, and
only then. -/
theorem exists_head_patternOfName (h : IsIdentifier name) :
    ∃ c, (patternOfName name).toList.head? = some c ∧
      (Text.isBlank c = true ↔ name.toList.head? = some '_') := by
  obtain ⟨first, rest, hname, hfirst⟩ := h.exists_first
  refine ⟨if first == '_' then ' ' else first, ?_, ?_⟩
  · rw [toList_patternOfName, hname, List.map_cons, List.head?_cons]
  · rw [hname, List.head?_cons, Option.some.injEq]
    by_cases hunderscore : first = '_'
    · subst hunderscore
      decide
    · simp [hunderscore, hfirst]

end Names

/-- The arguments of a step attribute leave the pattern to the name of the function: there are none,
or there is a single literal, which is blank but not empty. -/
def Code.Arguments.LeavePattern (arguments : Code.Arguments) : Prop :=
  arguments = .absent ∨ arguments = .list [] ∨
    ∃ literal, (arguments = .list [.text literal] ∨ arguments = .value [.text literal]) ∧
      literal ≠ "" ∧ Text.allBlank literal.toList = true

theorem patternOfLiteral_eq_inferred_iff {name literal pattern : String} :
    patternOfLiteral name literal = (pattern, true) ↔
      (literal ≠ "" ∧ Text.allBlank literal.toList = true) ∧ pattern = patternOfName name := by
  have hblank : (!literal.isEmpty && Text.allBlank literal.toList) = true ↔
      literal ≠ "" ∧ Text.allBlank literal.toList = true := by
    rw [Bool.and_eq_true, Bool.not_eq_true', ← Bool.not_eq_true, String.isEmpty_iff]
  rw [patternOfLiteral, ← hblank]
  split
  · rename_i h
    simp only [h, true_and, Prod.mk.injEq, and_true]
    exact eq_comm
  · rename_i h
    simp [h]

/-- These arguments, and no others, leave the pattern to the name. -/
theorem patternOfArguments_eq_inferred_iff {name pattern : String} {arguments : Code.Arguments} :
    patternOfArguments name arguments = .ok (pattern, true) ↔
      arguments.LeavePattern ∧ pattern = patternOfName name := by
  unfold patternOfArguments Code.Arguments.LeavePattern
  split
  case h_1 | h_2 => simp [@eq_comm _ pattern]
  case h_3 | h_6 => simp [patternOfLiteral_eq_inferred_iff]
  case h_4 | h_5 | h_7 => simp_all

/-! ## Lookup -/

namespace Registry

variable {fits : SizeLimit}

/-- A registry of one definition finds it for the lines that it answers, and nothing else. -/
theorem lookup_of_single {r : Registry} {c : CompiledDefinition} (h : r.definitions = [c])
    {line : String} :
    (∀ values, c.Answers line values → r.lookup line = .matched (c.matched values)) ∧
      ((∀ values, ¬ c.Answers line values) → r.lookup line = .unmatched) := by
  constructor
  · intro values hc
    exact lookup_eq_matched_iff.mpr ⟨[], c, [], values, h, hc, by simp, rfl⟩
  · intro hc
    refine lookup_eq_unmatched_iff.mpr fun b hb => ?_
    obtain rfl := List.mem_singleton.mp (h ▸ hb)
    exact hc

/-- A definition whose pattern compiles is all that a registry of it holds. -/
theorem definitions_register_single (path : Path) {d : StepDefinition} {p : Pattern}
    (h : Pattern.compile fits d.pattern = .ok p) :
    (empty.register fits ⟨path, [d]⟩).1.definitions = [⟨d, p, path⟩] := by
  have hd : (d.compile fits path).toOption = some ⟨d, p, path⟩ := by
    rw [StepDefinition.compile, h]
    rfl
  simp [register, empty, compiled, hd]

/-- **What finds a definition whose pattern was left to its name.** In a registry of its own it is
found by its keyword in front of its pattern, unless the name starts with an underscore. Then no
line finds it, because the text of a line never starts with a blank character. -/
theorem lookup_inferred {r : Registry} {c : CompiledDefinition} (h : r.definitions = [c])
    {name : String} (hname : IsIdentifier name)
    (hpattern : c.definition.pattern = patternOfName name)
    (hcompiled : Pattern.compile fits c.definition.pattern = .ok c.compiled) :
    (name.toList.head? ≠ some '_' →
        r.lookup (c.definition.keyword.name ++ " " ++ patternOfName name) =
          .matched (c.matched [])) ∧
      (name.toList.head? = some '_' → ∀ line, r.lookup line = .unmatched) := by
  -- The compiled pattern is the name's, and that matches itself alone.
  have hplain := (Pattern.compile_eq_ok_iff.mp hcompiled).1
  rw [hpattern, parse_patternOfName hname, Except.ok.injEq] at hplain
  obtain ⟨first, hfirst, hblank⟩ := exists_head_patternOfName hname
  constructor
  · intro hhead
    have htrim : Text.trimStart (patternOfName name).toList = (patternOfName name).toList := by
      refine Text.trimStart_eq_self fun b hb => ?_
      rw [← Option.some.inj (hfirst.symm.trans hb), ← Bool.not_eq_true, hblank]
      exact hhead
    refine (lookup_of_single h).1 [] ((c.answers_keyword_iff _ _).mpr ⟨Or.inr rfl, ?_⟩)
    rw [htrim, ← hplain, Pattern.captures?_literally, String.toList_ofList]
    exact ⟨rfl, rfl⟩
  · intro hhead line
    refine (lookup_of_single h).2 fun values hanswers => ?_
    have htext := hanswers.2
    rw [← hplain, Pattern.captures?_literally, String.toList_ofList] at htext
    -- The text of the line would have to start with the blank character of the pattern.
    rw [← htext.1] at hfirst
    have hnot := StepLine.isBlank_head_text hfirst
    rw [hblank.mpr hhead] at hnot
    cases hnot

/-! ## Functions of a source -/

variable {read : Code.SourceReader} {path : Path} {source : String} {index : SourceIndex}
  {items : List Item}

/-- A definition whose pattern was left to its name is a function whose step attribute leaves it. -/
theorem exists_function_of_inferred (hindex : indexSource read path source = .ok index)
    {d : StepDefinition} (hd : d ∈ index.stepDefinitions) (hinferred : d.patternInferred = true) :
    ∃ items f a, read source.toList = some items ∧ f ∈ Item.functionsOfAll [] items ∧
      a ∈ f.stepAttributes ∧ a.arguments.LeavePattern ∧ d.function = ⟨f.modulePath, f.name⟩ := by
  obtain ⟨items, ds, hitems, hds, rfl⟩ := indexSource_eq_ok_iff.mp hindex
  obtain ⟨f, hf, hdefinition⟩ := exists_partner hds.flip (List.reduceOption_mem_iff.mp hd)
  obtain ⟨a, ha, hpattern, -, hfunction, -⟩ :=
    Code.Function.definition_eq_some_iff.mp hdefinition
  rw [hinferred] at hpattern
  exact ⟨items, f, a, hitems, hf, ha ▸ List.mem_singleton_self a,
    (patternOfArguments_eq_inferred_iff.mp hpattern).1, hfunction⟩

/-- A function whose step attribute leaves the pattern to it is such a definition. -/
theorem exists_inferred_of_leavePattern (hindex : indexSource read path source = .ok index)
    (hitems : read source.toList = some items) {f : Code.Function}
    (hf : f ∈ Item.functionsOfAll [] items) {a : DefiningAttribute} (ha : a ∈ f.stepAttributes)
    (hleft : a.arguments.LeavePattern) :
    ∃ d ∈ index.stepDefinitions, d.keyword = a.keyword ∧ d.pattern = patternOfName f.name ∧
      d.patternInferred = true ∧ d.function = ⟨f.modulePath, f.name⟩ ∧
      d.line = lineOf source.toList f.source := by
  obtain ⟨items', ds, hitems', hds, rfl⟩ := indexSource_eq_ok_iff.mp hindex
  obtain rfl := Option.some.inj (hitems.symm.trans hitems')
  -- The source is accepted, so the attribute is the only one of the function.
  obtain ⟨o, ho, hdefinition⟩ := exists_partner hds hf
  have hsingle := Code.Function.stepAttributes_of_definition hdefinition ha
  let d : StepDefinition := ⟨a.keyword, patternOfName f.name, true, ⟨f.modulePath, f.name⟩,
    lineOf source.toList f.source⟩
  have hd : f.definition source.toList = .ok (some d) :=
    Code.Function.definition_eq_some_iff.mpr
      ⟨a, hsingle, patternOfArguments_eq_inferred_iff.mpr ⟨hleft, rfl⟩, rfl, rfl, rfl⟩
  obtain rfl := Except.ok.inj (hd.symm.trans hdefinition)
  exact ⟨d, List.reduceOption_mem_iff.mpr ho, rfl, rfl, rfl, rfl, rfl⟩

/-- **A definition whose pattern was left to its name is found under it**, unless the name starts
with an underscore.

Take any function of a source whose step attribute is bare or has a blank literal. It is among the
definitions of the source, with its name as the pattern, blanks for underscores. The pattern is
accepted, its expression has no group, and it compiles if the expression fits the limit on its size.
A registry of this definition alone then finds it for the keyword of the attribute in front of that
pattern, and captures nothing, if the name does not start with an underscore. If it does, the
registry matches no line at all. -/
theorem inferred_found_by_name (hread : read.NamesIdentifiers)
    (hindex : indexSource read path source = .ok index)
    (hitems : read source.toList = some items) {f : Code.Function}
    (hf : f ∈ Item.functionsOfAll [] items) {a : DefiningAttribute} (ha : a ∈ f.stepAttributes)
    (hleft : a.arguments.LeavePattern) :
    ∃ d ∈ index.stepDefinitions, ∃ p,
      (d.keyword = a.keyword ∧ d.pattern = patternOfName f.name ∧ d.patternInferred = true ∧
        d.function = ⟨f.modulePath, f.name⟩ ∧ d.line = lineOf source.toList f.source) ∧
      Pattern.parse d.pattern = .ok p ∧
      (∃ e, Expression.read p.source = some e ∧ e.groups = 0) ∧
      (fits p = false → Pattern.compile fits d.pattern = .error .tooLarge) ∧
      (fits p = true →
        let r := (empty.register fits ⟨path, [d]⟩).1
        r.definitions = [⟨d, p, path⟩] ∧
          (f.name.toList.head? ≠ some '_' →
            r.lookup (a.keyword.name ++ " " ++ patternOfName f.name) =
              .matched (CompiledDefinition.matched ⟨d, p, path⟩ [])) ∧
          (f.name.toList.head? = some '_' → ∀ line, r.lookup line = .unmatched)) := by
  have hname := hread _ _ hitems f hf
  obtain ⟨d, hd, hkeyword, hpattern, hrest⟩ :=
    exists_inferred_of_leavePattern hindex hitems hf ha hleft
  have hparse := parse_patternOfName hname
  rw [← hpattern] at hparse
  refine ⟨d, hd, _, ⟨hkeyword, hpattern, hrest⟩, hparse, Pattern.read_literally _,
    Pattern.compile_of_large hparse, fun hsize => ?_⟩
  have hcompile := Pattern.compile_eq_ok_iff.mpr ⟨hparse, hsize⟩
  have hdefinitions := definitions_register_single path hcompile
  rw [← hkeyword]
  exact ⟨hdefinitions, lookup_inferred hdefinitions hname hpattern hcompile⟩

/-- A step without a pattern. -/
def bareStep : String := "#[given]\nfn a__user() \x7b\x7d"

/-- Its definition is found under its name, and every underscore is a blank. -/
theorem bare_step_found : ∃ index d,
    indexSource Item.ofSource? (.ofString "steps.rs") bareStep = .ok index ∧
    d ∈ index.stepDefinitions ∧ d.pattern = "a  user" ∧ d.patternInferred = true ∧
    ∃ p, (empty.register .estimated ⟨.ofString "steps.rs", [d]⟩).1.lookup "Given a  user" =
      .matched (CompiledDefinition.matched ⟨d, p, .ofString "steps.rs"⟩ []) := by
  have hindex : indexSource Item.ofSource? (.ofString "steps.rs") bareStep =
      .ok ⟨.ofString "steps.rs", [⟨.given, "a  user", true, ⟨[], "a__user"⟩, 2⟩]⟩ :=
    eq_ok_of_toOption (by decide +kernel)
  obtain ⟨items, f, a, hitems, hf, ha, hleft, hfunction⟩ :=
    exists_function_of_inferred hindex (List.mem_singleton_self _) rfl
  obtain ⟨d, hd, p, ⟨hkeyword, hpattern, hinferred, -⟩, hparse, -, -, hfound⟩ :=
    inferred_found_by_name Code.SourceReader.namesIdentifiers_ofSource? hindex hitems hf ha hleft
  obtain rfl := List.mem_singleton.mp hd
  have hname : f.name = "a__user" := (QualifiedName.mk.inj hfunction).2.symm
  have hplain : Pattern.parse "a  user" = .ok (.literally "a  user".toList) :=
    eq_ok_of_toOption (by decide +kernel)
  have hsize : SizeLimit.estimated p = true := by
    rw [← Except.ok.inj (hplain.symm.trans hparse)]
    decide
  have hline : a.keyword.name ++ " " ++ patternOfName f.name = "Given a  user" := by
    rw [← hkeyword, hname]
    decide +kernel
  exact ⟨_, _, hindex, hd, rfl, rfl, p, hline ▸ (hfound hsize).2.1 (by rw [hname]; decide)⟩

/-- A step without a pattern whose name starts with an underscore. -/
def hiddenStep : String := "#[given]\nfn _foo() \x7b\x7d"

/-- The definition that it is. -/
def hiddenDefinition : StepDefinition := ⟨.given, " foo", true, ⟨[], "_foo"⟩, 2⟩

/-- A name of a given length. -/
def nameOfLength (n : Nat) : String := String.ofList (List.replicate n 'a')

/-- A name may be too long for a pattern. -/
theorem compile_nameOfLength {n : Nat} (h : regexSizeLimit < 32 * n) :
    IsIdentifier (nameOfLength n) ∧
      Pattern.compile .estimated (patternOfName (nameOfLength n)) = .error .tooLarge := by
  obtain ⟨m, rfl⟩ := Nat.exists_eq_succ_of_ne_zero (show n ≠ 0 by omega)
  have hname : IsIdentifier (nameOfLength (m + 1)) := by
    refine Or.inl ⟨'a', List.replicate m 'a', ?_, by decide, fun c hc => ?_⟩
    · rw [nameOfLength, String.toList_ofList, List.replicate_succ]
    · rw [List.eq_of_mem_replicate hc]
      decide
  have hchars : (patternOfName (nameOfLength (m + 1))).toList = List.replicate (m + 1) 'a' := by
    rw [toList_patternOfName, nameOfLength, String.toList_ofList, List.map_replicate]
    rfl
  refine ⟨hname, Pattern.compile_of_large (parse_patternOfName hname) ?_⟩
  have hbytes : (m + 1) * 'a'.utf8Size = m + 1 := Nat.mul_one (m + 1)
  rw [hchars, SizeLimit.estimated, Pattern.footprint_literally, Pattern.byteLength_replicate,
    hbytes, decide_eq_false_iff_not]
  exact Nat.not_le.mpr h

/-- A name that starts with an underscore is registered, but not found by the line that says it; and
a name that is too long is not even registered. -/
theorem hidden_step_unmatched :
    indexSource Item.ofSource? (.ofString "steps.rs") hiddenStep =
        .ok ⟨.ofString "steps.rs", [hiddenDefinition]⟩ ∧
      (empty.register .estimated ⟨.ofString "steps.rs", [hiddenDefinition]⟩).1.definitions ≠ [] ∧
      (empty.register .estimated ⟨.ofString "steps.rs", [hiddenDefinition]⟩).1.lookup
        (Keyword.given.name ++ " " ++ patternOfName "_foo") = .unmatched ∧
      IsIdentifier (nameOfLength 400000) ∧
      Pattern.compile .estimated (patternOfName (nameOfLength 400000)) = .error .tooLarge :=
  ⟨eq_ok_of_toOption (by decide +kernel), by decide +kernel, by decide +kernel,
    compile_nameOfLength (by decide)⟩

end Registry

end FeatureDocs
