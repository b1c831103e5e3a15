import FeatureDocs.Code.Item
import FeatureDocs.Code.Lexer
import Mathlib.Data.List.TakeWhile

/-!
# The names of a source

Every name in a source is an identifier: characters that Unicode admits in identifiers, possibly
behind the marker of a raw identifier. The lexer reads no others, and grouping tokens into trees
makes up no names.

## Main definitions

* `IsIdentifier`: identifiers
* `Token.name?`, `Tree.names`: the names in tokens and in token trees

## Main results

* `isIdentifier_of_mem_names`: the names of the token trees of a source are identifiers
-/

namespace FeatureDocs.Code

/-- A word of identifier characters. -/
def IsWord (word : List Char) : Prop :=
  ∃ first rest, word = first :: rest ∧ Text.isIdentifierStart first = true ∧
    ∀ c ∈ rest, Text.isIdentifierTail c = true

/-- An identifier, or a raw identifier with its marker. -/
def IsIdentifier (name : String) : Prop :=
  IsWord name.toList ∨ ∃ word, IsWord word ∧ name.toList = 'r' :: '#' :: word

/-! ## Tokens -/

/-- The name that a token is. -/
def Token.name? : Token → Option String
  | identifier name _ => some name
  | _ => none

theorem identifier?_isIdentifier {s rest : List Char} {name : String}
    (h : identifier? s = some (name, rest)) : IsIdentifier name := by
  unfold identifier? at h
  dsimp only at h
  split at h
  · simp at h
  · rename_i first t _
    have htail : ∀ c ∈ t.takeWhile Text.isIdentifierTail, Text.isIdentifierTail c = true :=
      fun c hc => List.mem_takeWhile_imp hc
    split at h
    · rename_i hfirst
      -- A raw identifier is a word behind its marker.
      have hword : IsWord (first :: t.takeWhile Text.isIdentifierTail) :=
        ⟨first, _, rfl, hfirst, htail⟩
      split at h
      · obtain ⟨rfl, -⟩ := Prod.mk.inj (Option.some.inj h)
        exact Or.inl (by simpa using hword)
      · split at h
        · simp at h
        · obtain ⟨rfl, -⟩ := Prod.mk.inj (Option.some.inj h)
          exact Or.inr ⟨_, hword, by simp⟩
    · simp at h

theorem isIdentifier_doc : IsIdentifier "doc" :=
  Or.inl ⟨'d', ['o', 'c'], by decide, by decide, List.all_eq_true.mp (by decide)⟩

theorem docTokens_names {inner : Bool} {text r rest : List Char} {ts : List Token} {name : String}
    (h : (docTokens inner text).map (·, r) = some (ts, rest))
    (hn : name ∈ ts.filterMap Token.name?) : IsIdentifier name := by
  unfold docTokens at h
  split at h
  · obtain ⟨rfl, -⟩ := Prod.mk.inj (Option.some.inj h)
    have hdoc : name = "doc" := by
      cases inner <;> simpa [Token.name?, eq_comm] using hn
    exact hdoc ▸ isIdentifier_doc
  · simp at h

theorem valued_names {r : Option (List Char × List Char)} {ts : List Token} {rest : List Char}
    (h : valued r = some (ts, rest)) : ts.filterMap Token.name? = [] := by
  obtain ⟨_, _, hts⟩ := Option.map_eq_some_iff.mp h
  obtain ⟨rfl, -⟩ := Prod.mk.inj hts
  rfl

theorem unvalued_names {r : Option (List Char × List Char)} {ts : List Token} {rest : List Char}
    (h : unvalued r = some (ts, rest)) : ts.filterMap Token.name? = [] := by
  obtain ⟨_, _, hts⟩ := Option.map_eq_some_iff.mp h
  obtain ⟨rfl, -⟩ := Prod.mk.inj hts
  rfl

theorem quote?_names {s rest : List Char} {ts : List Token} (h : quote? s = some (ts, rest)) :
    ts.filterMap Token.name? = [] := by
  unfold quote? at h
  repeat' split at h
  all_goals cases h <;> rfl

theorem delimiter?_name {c : Char} {t : Token} (h : delimiter? c = some t) : t.name? = none := by
  unfold delimiter? at h
  split at h <;> cases h <;> rfl

/-- Whatever stands at the front of a source, its names are identifiers. -/
theorem scan?_names {s rest : List Char} {ts : List Token} {name : String}
    (h : scan? s = some (ts, rest)) (hn : name ∈ ts.filterMap Token.name?) :
    IsIdentifier name := by
  unfold scan? at h
  split at h
  case h_1 => simp at h
  case h_2 =>
    -- Behind two slashes stands a comment, which may be documentation.
    dsimp only at h
    split at h
    · cases h
      simp at hn
    · exact docTokens_names h hn
    · exact docTokens_names h hn
    · cases h
      simp at hn
  case h_3 =>
    cases h
    simp at hn
  case h_4 =>
    split at h
    · simp at h
    · split at h
      · cases h
        simp at hn
      · exact docTokens_names h hn
      · exact docTokens_names h hn
      · cases h
        simp at hn
  case h_5 | h_8 | h_9 | h_10 => simp [valued_names h] at hn
  case h_6 | h_7 | h_11 | h_12 | h_13 | h_14 => simp [unvalued_names h] at hn
  case h_15 =>
    obtain ⟨_, -, hts⟩ := Option.map_eq_some_iff.mp h
    cases hts
    simp [Token.name?] at hn
  case h_16 => simp [quote?_names h] at hn
  case h_17 =>
    split at h
    · cases h
      simp at hn
    · split at h
      · cases h
        simp [Token.name?] at hn
      · split at h
        · rename_i d hd
          obtain ⟨rfl, -⟩ := Prod.mk.inj (Option.some.inj h)
          simp [delimiter?_name hd] at hn
        · split at h
          · cases h
            simp [Token.name?] at hn
          · -- Only here a name is read.
            obtain ⟨⟨word, r⟩, hword, hts⟩ := Option.map_eq_some_iff.mp h
            obtain ⟨rfl, -⟩ := Prod.mk.inj hts
            obtain rfl : name = word := by simpa [Token.name?] using hn
            exact identifier?_isIdentifier hword

theorem tokens?_names {bound : Nat} {s : List Char} {ts : List Token} {name : String}
    (h : tokens? bound s = some ts) (hn : name ∈ ts.filterMap Token.name?) :
    IsIdentifier name := by
  induction bound generalizing s ts with
  | zero =>
    cases s with
    | nil =>
      cases h
      simp at hn
    | cons c s => simp [tokens?] at h
  | succ bound ih =>
    cases s with
    | nil =>
      cases h
      simp at hn
    | cons c s =>
      rw [tokens?] at h
      · split at h
        · simp at h
        · rename_i us rest hscan
          obtain ⟨vs, hvs, rfl⟩ := Option.map_eq_some_iff.mp h
          rw [List.filterMap_append, List.mem_append] at hn
          -- The name is read in this step, or behind it.
          rcases hn with hn | hn
          · exact scan?_names hscan hn
          · exact ih hvs hn
      · simp

/-! ## Trees -/

namespace Tree

mutual

/-- The names in a token tree. -/
def names : Tree → List String
  | identifier name _ => [name]
  | group _ trees => namesOfAll trees
  | text _ | literal | mark _ _ => []

/-- The names in token trees. -/
def namesOfAll : List Tree → List String
  | [] => []
  | t :: ts => t.names ++ namesOfAll ts

end

@[simp] theorem namesOfAll_nil : namesOfAll [] = [] := rfl

@[simp] theorem namesOfAll_cons (t : Tree) (ts : List Tree) :
    namesOfAll (t :: ts) = t.names ++ namesOfAll ts := rfl

theorem mem_namesOfAll_iff {name : String} {ts : List Tree} :
    name ∈ namesOfAll ts ↔ ∃ t ∈ ts, name ∈ t.names := by
  induction ts with
  | nil => simp
  | cons t ts ih => simp [ih]

theorem names_subset_of_mem {t : Tree} {ts : List Tree} (h : t ∈ ts) : t.names ⊆ namesOfAll ts :=
  fun _ hn => mem_namesOfAll_iff.mpr ⟨t, h, hn⟩

/-- Trees that stand among others have no further names. -/
theorem namesOfAll_subset {ts us : List Tree} (h : ts ⊆ us) : namesOfAll ts ⊆ namesOfAll us := by
  intro name hn
  obtain ⟨t, ht, hname⟩ := mem_namesOfAll_iff.mp hn
  exact names_subset_of_mem (h ht) hname

/-- Grouping makes up no names: what holds of the names in tokens and in the groups that are open
holds of the names in the trees. -/
theorem ofTokensIn_names {p : String → Prop} {around : List (Delimiter × List Tree)}
    {done trees : List Tree} {ts : List Token} (h : ofTokensIn around done ts = some trees)
    (hdone : ∀ name ∈ namesOfAll done, p name)
    (haround : ∀ g ∈ around, ∀ name ∈ namesOfAll g.2, p name)
    (hts : ∀ name ∈ ts.filterMap Token.name?, p name) : ∀ name ∈ namesOfAll trees, p name := by
  have hreverse : ∀ ds : List Tree, (∀ name ∈ namesOfAll ds, p name) →
      ∀ name ∈ namesOfAll ds.reverse, p name := fun ds hds name hn =>
    hds name (namesOfAll_subset (fun _ => List.mem_reverse.mp) hn)
  fun_induction ofTokensIn around done ts with
  | case1 around done hempty =>
    obtain rfl := Option.some.inj h
    exact hreverse done hdone
  | case2 | case9 | case10 => simp at h
  | case3 around done name source ts ih =>
    -- The name of the token is the first of the present group.
    rw [List.filterMap_cons_some (by rfl), List.forall_mem_cons] at hts
    exact ih h (by simpa [names] using ⟨hts.1, hdone⟩) haround hts.2
  | case4 around done value ts ih => exact ih h hdone haround hts
  | case5 around done ts ih => exact ih h hdone haround hts
  | case6 around done c joint ts ih => exact ih h hdone haround hts
  | case7 around done d ts ih =>
    exact ih h (by simp) (List.forall_mem_cons.mpr ⟨hdone, haround⟩) hts
  | case8 done ts d before around ih =>
    rw [List.forall_mem_cons] at haround
    refine ih h ?_ haround.2 hts
    rw [namesOfAll_cons, names, List.forall_mem_append]
    exact ⟨hreverse done hdone, haround.1⟩

end Tree

/-- **The names in the token trees of a source are identifiers.** -/
theorem isIdentifier_of_mem_names {s : List Char} {ts : List Tree} {name : String}
    (h : Tree.ofSource? s = some ts) (hn : name ∈ Tree.namesOfAll ts) : IsIdentifier name := by
  obtain ⟨tokens, htokens, hts⟩ := Option.bind_eq_some_iff.mp h
  exact Tree.ofTokensIn_names hts (by simp) (by simp) (fun _ => tokens?_names htokens) name hn

end FeatureDocs.Code
