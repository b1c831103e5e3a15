import FeatureDocs.Proofs.Pattern.Captures

/-!
# The match that is preferred

A text may fill the placeholders of a pattern in many ways, and a search reports one of them. Where
no placeholder takes numbers with a fraction, it is the first in an order that knows nothing of the
search: fillings are compared from the first placeholder on, and where they differ for the first
time, a shorter text comes before a longer one and a longer integer before a shorter one.

The reason is that all ways to match are listed in this order. A repetition lists what it may leave
over by length, and a placeholder puts its own order in front of that of the pieces behind it.

## Main definitions

* `ValueKind.Prefers`, `Precedes`: the order of values, and of fillings
* `Pattern.IsFirst`: the filling of a text that comes before all others

## Main results

* `ValueKind.pairwise_rests`: the values of a kind are tried in order
* `Pattern.pairwise_ways`: the ways to match are listed in order
* `Pattern.captures_first`: what is found comes first
-/

namespace FeatureDocs

/-- The value `v` is preferred to `w`: texts are as short as possible, and integers as long as
possible. The length of a number with a fraction decides nothing. -/
def ValueKind.Prefers (kind : ValueKind) (v w : List Char) : Prop :=
  match kind with
  | .text => v.length < w.length
  | .unsigned | .signed => w.length < v.length
  | .float => False

/-- The values `vs` of placeholders with the given hints come before `ws`: at the first placeholder
where they differ, the value in `vs` is preferred. -/
inductive Precedes : List (Option String) → List (List Char) → List (List Char) → Prop
  | here {hint hints v w vs ws} : (ValueKind.ofHint hint).Prefers v w →
      Precedes (hint :: hints) (v :: vs) (w :: ws)
  | later {hint hints v vs ws} : Precedes hints vs ws →
      Precedes (hint :: hints) (v :: vs) (v :: ws)

/-- The values fill a pattern and come before all others that do. -/
def Pattern.IsFirst (p : Pattern) (values : List String) (text : String) : Prop :=
  p.Fills values text ∧ ∀ others, p.Fills others text → others ≠ values →
    Precedes p.hints (values.map String.toList) (others.map String.toList)

/-! ## The order -/

section Order

theorem ValueKind.Prefers.asymm {kind : ValueKind} {v w : List Char} (h : kind.Prefers v w) :
    ¬ kind.Prefers w v := by
  cases kind with
  | text => exact Nat.lt_asymm h
  | unsigned => exact Nat.lt_asymm h
  | signed => exact Nat.lt_asymm h
  | float => exact h.elim

/-- No two fillings come before each other. -/
theorem Precedes.asymm {hints : List (Option String)} {vs ws : List (List Char)}
    (h : Precedes hints vs ws) : ¬ Precedes hints ws vs := by
  induction h with
  | here hprefers =>
    intro h'
    cases h' with
    | here hprefers' => exact hprefers.asymm hprefers'
    | later _ => exact hprefers.asymm hprefers
  | later _ ih =>
    intro h'
    cases h' with
    | here hprefers => exact hprefers.asymm hprefers
    | later h' => exact ih h'

end Order

/-! ## What a repetition leaves over -/

section Rests

variable {k : CharClass} {folded : Bool}

/-- What is left of a run gets shorter and shorter. -/
theorem CharClass.pairwise_runs (k : CharClass) (folded : Bool) (s : List Char) :
    (k.runs folded s).Pairwise fun t u => u.length < t.length := by
  induction s with
  | nil => exact List.pairwise_singleton _ _
  | cons c s ih =>
    rw [CharClass.runs]
    by_cases hc : k.holds folded c = true
    · rw [if_pos hc, List.pairwise_cons]
      refine ⟨fun t ht => ?_, ih⟩
      obtain ⟨w, rfl, -⟩ := CharClass.mem_runs_iff.mp ht
      simp only [List.length_cons, List.length_append]
      omega
    · rw [if_neg hc]
      exact List.pairwise_singleton _ _

/-- The reluctant repetition takes one character first, then more. -/
theorem Regex.pairwise_rests_fewest1 (k : CharClass) (folded : Bool) (s : List Char) :
    ((Regex.fewest1 k).rests folded s).Pairwise fun t u => u.length < t.length := by
  cases s with
  | nil => exact List.Pairwise.nil
  | cons c s =>
    rw [Regex.rests]
    by_cases hc : k.holds folded c = true
    · rw [if_pos hc]
      exact k.pairwise_runs folded s
    · rw [if_neg hc]
      exact List.Pairwise.nil

/-- The greedy repetition takes all characters first, then fewer. -/
theorem Regex.pairwise_rests_many1 (k : CharClass) (folded : Bool) (s : List Char) :
    ((Regex.many1 k).rests folded s).Pairwise fun t u => t.length < u.length := by
  cases s with
  | nil => exact List.Pairwise.nil
  | cons c s =>
    rw [Regex.rests]
    by_cases hc : k.holds folded c = true
    · rw [if_pos hc, List.pairwise_reverse]
      exact k.pairwise_runs folded s
    · rw [if_neg hc]
      exact List.Pairwise.nil

/-- A sign has to be taken if there is one, because no digit is a sign; so it makes no choice. -/
theorem Regex.rests_signedInteger (s : List Char) :
    ∃ t, Regex.signedInteger.rests false s = (Regex.many1 .digit).rests false t := by
  cases s with
  | nil => exact ⟨[], rfl⟩
  | cons c s =>
    by_cases hc : c ∈ ['+', '-']
    · have hdigit : Text.isDecimalDigit c = false := by
        rcases List.mem_pair.mp hc with rfl | rfl <;> decide
      refine ⟨s, ?_⟩
      simp [signedInteger, rests, CharClass.holds, CharClass.accepts, hdigit, List.mem_pair.mp hc]
    · refine ⟨c :: s, ?_⟩
      simp only [List.mem_cons, List.not_mem_nil, or_false] at hc
      simp [signedInteger, rests, CharClass.holds, CharClass.accepts, hc]

end Rests

/-- **The values of a kind are tried in order**, the preferred one first. -/
theorem ValueKind.pairwise_rests {kind : ValueKind} (hkind : kind ≠ .float) (s : List Char) :
    (kind.regex.rests false s).Pairwise fun t u =>
      kind.Prefers (s.take (s.length - t.length)) (s.take (s.length - u.length)) := by
  -- A value is the part of the text that is not left over, so lengths are compared the other way.
  have hlength : ∀ t, t ∈ kind.regex.rests false s →
      (s.take (s.length - t.length)).length + t.length = s.length := by
    intro t ht
    have hle := (Regex.suffix_of_mem_rests ht).length_le
    rw [List.length_take]
    omega
  have hshorter : ∀ t u, t ∈ kind.regex.rests false s → u ∈ kind.regex.rests false s →
      u.length < t.length →
      (s.take (s.length - t.length)).length < (s.take (s.length - u.length)).length := by
    intro t u ht hu hlt
    have ht' := hlength t ht
    have hu' := hlength u hu
    omega
  cases kind with
  | text =>
    exact (Regex.pairwise_rests_fewest1 .notNewline false s).imp_of_mem
      fun ht hu hlt => hshorter _ _ ht hu hlt
  | unsigned =>
    exact (Regex.pairwise_rests_many1 .digit false s).imp_of_mem
      fun ht hu hlt => hshorter _ _ hu ht hlt
  | signed =>
    obtain ⟨r, hr⟩ := Regex.rests_signedInteger s
    have hsorted := Regex.pairwise_rests_many1 .digit false r
    rw [← hr] at hsorted
    exact hsorted.imp_of_mem fun ht hu hlt => hshorter _ _ hu ht hlt
  | float => exact absurd rfl hkind

/-! ## The ways to match -/

namespace Pattern

/-- **The ways to match pieces are listed in order.** -/
theorem pairwise_ways {pieces : List Piece}
    (hkinds : ∀ hint ∈ pieces.filterMap Piece.hint?, ValueKind.ofHint hint ≠ .float)
    (s : List Char) :
    (ways pieces s).Pairwise fun a b =>
      Precedes (pieces.filterMap Piece.hint?) a.2 b.2 := by
  induction pieces generalizing s with
  | nil => exact List.pairwise_singleton _ _
  | cons piece pieces ih =>
    cases piece with
    | literal c =>
      have hrest := ih hkinds
      cases s with
      | nil => exact List.Pairwise.nil
      | cons d s =>
        rw [ways]
        by_cases hc : (c == d) = true
        · rw [if_pos hc]
          exact hrest s
        · rw [if_neg hc]
          exact List.Pairwise.nil
    | placeholder hint =>
      have hhint : ValueKind.ofHint hint ≠ .float := hkinds hint List.mem_cons_self
      have hrest := ih fun h hh => hkinds h (List.mem_cons_of_mem _ hh)
      rw [ways, List.pairwise_flatMap]
      constructor
      · intro t _
        -- The value of this placeholder is the same, so those behind it decide.
        rw [List.pairwise_map]
        exact (hrest t).imp fun h => .later h
      · refine (ValueKind.pairwise_rests hhint s).imp fun hprefers => ?_
        intro a ha b hb
        obtain ⟨a, -, rfl⟩ := List.mem_map.mp ha
        obtain ⟨b, -, rfl⟩ := List.mem_map.mp hb
        exact .here hprefers

/-- What is found first in a list precedes all that could have been found. -/
theorem rel_of_find?_eq_some {α : Type} {R : α → α → Prop} {l : List α} (hl : l.Pairwise R)
    {done : α → Bool} {a b : α} (ha : l.find? done = some a) (hb : b ∈ l) (hdone : done b = true)
    (hne : b ≠ a) : R a b := by
  obtain ⟨-, before, after, rfl, hbefore⟩ := List.find?_eq_some_iff_append.mp ha
  rcases List.mem_append.mp hb with hb | hb
  · have hnot := hbefore b hb
    rw [hdone] at hnot
    cases hnot
  · rcases List.mem_cons.mp hb with rfl | hb
    · exact absurd rfl hne
    · have hafter := (List.pairwise_append.mp hl).2.1
      exact List.rel_of_pairwise_cons hafter hb

variable {p : Pattern} {values : List String} {text : String}

/-- What a search finds comes before all other fillings. -/
theorem isFirst_of_captures? (hkinds : ∀ hint ∈ p.hints, ValueKind.ofHint hint ≠ .float)
    (h : p.captures? text = some values) : p.IsFirst values text := by
  refine ⟨fills_of_captures? h, fun others hothers hne => ?_⟩
  rw [captures?_eq_find?_ways] at h
  obtain ⟨⟨rest, found⟩, hfound, rfl⟩ := Option.map_eq_some_iff.mp h
  have hmem : (([] : List Char), others.map String.toList) ∈ ways p.pieces text.toList :=
    mem_ways_iff.mpr ⟨text.toList, (List.append_nil _).symm, fills_iff.mp hothers⟩
  have hchars : (found.map String.ofList).map String.toList = found := by
    simp [Function.comp_def]
  have hother : (([] : List Char), others.map String.toList) ≠ (rest, found) := by
    intro heq
    obtain ⟨-, hsame⟩ := Prod.mk.inj heq
    apply hne
    rw [← hsame]
    simp [Function.comp_def]
  rw [hchars]
  exact rel_of_find?_eq_some (pairwise_ways hkinds text.toList) hfound hmem rfl hother

/-- **A search finds the first filling, and nothing else.** -/
theorem captures?_eq_some_iff_isFirst
    (hkinds : ∀ hint ∈ p.hints, ValueKind.ofHint hint ≠ .float) :
    p.captures? text = some values ↔ p.IsFirst values text := by
  constructor
  · exact isFirst_of_captures? hkinds
  · intro hfirst
    obtain ⟨found, hfound⟩ := Option.isSome_iff_exists.mp (isSome_captures?_of_fills hfirst.1)
    have hfound' := isFirst_of_captures? hkinds hfound
    by_cases hsame : values = found
    · rw [hsame]
      exact hfound
    · -- Two first fillings would come before each other.
      have hbefore := hfirst.2 found hfound'.1 (Ne.symm hsame)
      exact absurd (hfound'.2 values hfirst.1 hsame) hbefore.asymm

/-- **Captures are the preferred filling.**

Take an accepted pattern none of whose placeholders is for numbers with a fraction. Its expression
in writing finds in a text what the pattern finds. That is the filling of the text which comes first
when values are compared from the first placeholder on, and at the first that differs the shorter
text or the longer integer wins; nothing is found only where there is no filling. What a registry
reports for a definition with this pattern is that filling. -/
theorem captures_first {pattern : String} (h : parse pattern = .ok p)
    (hkinds : ∀ hint ∈ p.hints, ValueKind.ofHint hint ≠ .float) :
    (∃ e, Expression.read p.source = some e ∧ ∀ text, e.captures? text = p.captures? text) ∧
      (∀ text values, p.captures? text = some values ↔ p.IsFirst values text) ∧
      (∀ text, p.captures? text = none ↔ ∀ values, ¬ p.Fills values text) ∧
      ∀ fits indexes keyword text c values,
        (Registry.empty.registerAll fits indexes).1.find keyword text = some (c, values) →
        c.definition.pattern = pattern → p.IsFirst values text := by
  refine ⟨⟨p.toExpression, p.read_source, p.captures?_toExpression⟩,
    fun text values => captures?_eq_some_iff_isFirst hkinds, fun text => ?_, ?_⟩
  · rw [← Option.not_isSome_iff_eq_none, isSome_captures?_iff, not_exists]
  · rintro fits indexes keyword text c values hfind rfl
    exact isFirst_of_captures? hkinds (Registry.captures?_of_find_registerAll h hfind)

/-- Two texts and an integer in a text that could be cut in several places. -/
theorem isFirst_short_texts :
    ∃ p, parse "\x7ba\x7d \x7bb:word\x7d\x7bn:i8\x7d" = .ok p ∧
      p.IsFirst ["x", "y z", "12"] "x y z12" := by
  have hparse : parse "\x7ba\x7d \x7bb:word\x7d\x7bn:i8\x7d" =
      .ok ⟨[.placeholder none, .literal ' ', .placeholder (some "word"),
        .placeholder (some "i8")]⟩ := by
    decide +kernel
  have hkinds : ∀ hint ∈ [none, some "word", some "i8"], ValueKind.ofHint hint ≠ .float := by
    decide
  have hfirst := (captures_first hparse hkinds).2.1 "x y z12" ["x", "y z", "12"]
  exact ⟨_, hparse, hfirst.mp (by decide +kernel)⟩

end Pattern

end FeatureDocs
