import FeatureDocs.Pattern.Match
import FeatureDocs.Proofs.Pattern.Source
import FeatureDocs.Proofs.Regex.Matching
import Mathlib.Data.List.Forall2

/-!
# Matches are fillings

A pattern is a row of literal texts with a placeholder between each two of them. To fill it is to
put a value into every placeholder, each a word of the expression of its hint. The search of
`Pattern.captures?` drops ways that leave the same text over as an earlier one; it finds what the
search through all ways finds, and that is what the leftmost-first search for the source of the
pattern finds. What is found is a filling, and whatever can be filled is found.

## Main definitions

* `Pattern.literals`, `Pattern.Fills`: the literal texts; the fillings of a pattern
* `Pattern.ways`: all ways to match pieces at the front of a text

## Main results

* `Pattern.mem_ways_iff`: the ways that leave nothing over are the fillings
* `Pattern.captures?_eq_find?_ways`: dropping ways changes nothing
* `Pattern.captures?_toExpression`: nor does matching the pieces instead of the source
-/

namespace FeatureDocs

namespace Pattern

/-- The literal texts before, between and behind the placeholders of pieces. -/
def literalsOf : List Piece → List (List Char)
  | [] => [[]]
  | .literal c :: pieces => (literalsOf pieces).modifyHead (c :: ·)
  | .placeholder _ :: pieces => [] :: literalsOf pieces

/-- The literal texts of a pattern, one more than it has placeholders. -/
def literals (p : Pattern) : List (List Char) := literalsOf p.pieces

/-- Texts and values in turn. -/
def interleave : List (List Char) → List (List Char) → List Char
  | [], vs => vs.flatten
  | l :: ls, [] => l ++ interleave ls []
  | l :: ls, v :: vs => l ++ (v ++ interleave ls vs)

/-- The values fill the placeholders of pieces, and give the text. -/
def FillsPieces (pieces : List Piece) (values : List (List Char)) (text : List Char) : Prop :=
  List.Forall₂ (fun hint v => (hintRegex hint).Language false v)
      (pieces.filterMap Piece.hint?) values ∧
    text = interleave (literalsOf pieces) values

/-- The values, put in place of the placeholders of a pattern, give the text; each is a word of
the expression of its hint. -/
def Fills (p : Pattern) (values : List String) (text : String) : Prop :=
  List.Forall₂ (fun hint v => (hintRegex hint).Language false v.toList) p.hints values ∧
    text.toList = interleave p.literals (values.map String.toList)

theorem fills_iff {p : Pattern} {values : List String} {text : String} :
    p.Fills values text ↔ FillsPieces p.pieces (values.map String.toList) text.toList := by
  unfold Fills FillsPieces
  rw [List.forall₂_map_right_iff]
  exact Iff.rfl

/-! ## Fillings piece by piece -/

theorem literalsOf_ne_nil (pieces : List Piece) : literalsOf pieces ≠ [] := by
  induction pieces with
  | nil => simp [literalsOf]
  | cons piece pieces ih =>
    cases piece with
    | literal c => simpa [literalsOf] using ih
    | placeholder hint => simp [literalsOf]

/-- There is one more literal text than there are placeholders. -/
theorem length_literalsOf (pieces : List Piece) :
    (literalsOf pieces).length = (pieces.filterMap Piece.hint?).length + 1 := by
  induction pieces with
  | nil => rfl
  | cons piece pieces ih =>
    cases piece with
    | literal c => simpa [literalsOf, Piece.hint?, List.filterMap_cons] using ih
    | placeholder hint => simpa [literalsOf, Piece.hint?, List.filterMap_cons] using ih

theorem interleave_cons_head (c : Char) {ls : List (List Char)} (h : ls ≠ [])
    (vs : List (List Char)) :
    interleave (ls.modifyHead (c :: ·)) vs = c :: interleave ls vs := by
  cases ls with
  | nil => exact absurd rfl h
  | cons l ls => cases vs <;> rfl

theorem fillsPieces_nil_iff {values : List (List Char)} {text : List Char} :
    FillsPieces [] values text ↔ values = [] ∧ text = [] := by
  unfold FillsPieces
  simp only [List.filterMap_nil, List.forall₂_nil_left_iff]
  constructor
  · rintro ⟨rfl, rfl⟩
    exact ⟨rfl, rfl⟩
  · rintro ⟨rfl, rfl⟩
    exact ⟨rfl, rfl⟩

theorem fillsPieces_literal_iff {c : Char} {pieces : List Piece} {values : List (List Char)}
    {text : List Char} :
    FillsPieces (.literal c :: pieces) values text ↔
      ∃ rest, text = c :: rest ∧ FillsPieces pieces values rest := by
  unfold FillsPieces
  simp only [literalsOf, interleave_cons_head c (literalsOf_ne_nil pieces)]
  constructor
  · rintro ⟨hv, rfl⟩
    exact ⟨_, rfl, hv, rfl⟩
  · rintro ⟨rest, rfl, hv, rfl⟩
    exact ⟨hv, rfl⟩

theorem fillsPieces_placeholder_iff {hint : Option String} {pieces : List Piece}
    {values : List (List Char)} {text : List Char} :
    FillsPieces (.placeholder hint :: pieces) values text ↔
      ∃ v vs rest, values = v :: vs ∧ text = v ++ rest ∧ (hintRegex hint).Language false v ∧
        FillsPieces pieces vs rest := by
  have hh : (Piece.placeholder hint :: pieces).filterMap Piece.hint? =
      hint :: pieces.filterMap Piece.hint? := rfl
  unfold FillsPieces
  rw [hh, List.forall₂_cons_left_iff]
  constructor
  · rintro ⟨⟨v, vs, hv, hvs, rfl⟩, rfl⟩
    exact ⟨v, vs, _, rfl, rfl, hv, hvs, rfl⟩
  · rintro ⟨v, vs, rest, rfl, rfl, hv, hvs, rfl⟩
    exact ⟨⟨v, vs, hv, hvs, rfl⟩, rfl⟩

/-! ## All ways to match -/

/-- All ways to match pieces at the front of a text, the preferred first: what each leaves over,
and the values of its placeholders. -/
def ways : List Piece → List Char → List (List Char × List (List Char))
  | [], s => [(s, [])]
  | .literal _ :: _, [] => []
  | .literal c :: pieces, d :: s => if c == d then ways pieces s else []
  | .placeholder hint :: pieces, s =>
    ((hintRegex hint).rests false s).flatMap fun t =>
      (ways pieces t).map fun (u, vs) => (u, s.take (s.length - t.length) :: vs)

/-- **The ways to match pieces are their fillings**: a filling at the front of the text, and what
follows it. -/
theorem mem_ways_iff {pieces : List Piece} {s t : List Char} {values : List (List Char)} :
    (t, values) ∈ ways pieces s ↔ ∃ w, s = w ++ t ∧ FillsPieces pieces values w := by
  induction pieces generalizing s values with
  | nil =>
    simp only [ways, List.mem_singleton, Prod.mk.injEq, fillsPieces_nil_iff]
    constructor
    · rintro ⟨rfl, rfl⟩
      exact ⟨[], rfl, rfl, rfl⟩
    · rintro ⟨w, rfl, rfl, rfl⟩
      exact ⟨rfl, rfl⟩
  | cons piece pieces ih =>
    cases piece with
    | literal c =>
      simp only [fillsPieces_literal_iff]
      cases s with
      | nil => simp [ways]
      | cons d s =>
        simp only [ways]
        constructor
        · intro h
          split at h
          · rename_i hc
            rw [beq_iff_eq] at hc
            obtain ⟨w, rfl, hw⟩ := ih.mp h
            exact ⟨c :: w, by simp [hc], w, rfl, hw⟩
          · simp at h
        · rintro ⟨_, hs, rest, rfl, hw⟩
          obtain ⟨rfl, rfl⟩ := List.cons.inj hs
          rw [if_pos (beq_self_eq_true d)]
          exact ih.mpr ⟨rest, rfl, hw⟩
    | placeholder hint =>
      simp only [fillsPieces_placeholder_iff, ways, List.mem_flatMap, List.mem_map, Prod.mk.injEq,
        Regex.mem_rests_iff]
      constructor
      -- A value is what a match has taken: all of the text but what is left over.
      · rintro ⟨m, ⟨v, rfl, hv⟩, ⟨u, vs⟩, hvs, rfl, rfl⟩
        obtain ⟨w, rfl, hw⟩ := ih.mp hvs
        exact ⟨v ++ w, by simp, v, vs, w, by simp, rfl, hv, hw⟩
      · rintro ⟨_, rfl, v, vs, w, rfl, rfl, hv, hw⟩
        exact ⟨w ++ t, ⟨v, by simp, hv⟩, (t, vs), ih.mpr ⟨w, rfl, hw⟩, rfl, by simp⟩

end Pattern

/-! ## Dropping ways -/

namespace Progress

/-- What a way has come to: what it leaves over, and its values so far. -/
def summary (q : Progress) : List Char × List String := (q.rest, q.captures)

/-- What a way comes to by matching more pieces. -/
def outcomes (pieces : List Piece) (q : Progress) : List (List Char × List String) :=
  (Pattern.ways pieces q.rest).map fun w => (w.1, q.captures ++ w.2.map String.ofList)

/-- Nothing is left over. -/
def isDone (summary : List Char × List String) : Bool := summary.1.isEmpty

theorem captures_cons (s t : List Char) (spans : List (List Char × List Char)) (u : List Char) :
    captures ⟨t, (s, t) :: spans⟩ =
      captures ⟨u, spans⟩ ++ [String.ofList (s.take (s.length - t.length))] := by
  simp [captures]

/-- One more piece, and then the others. -/
theorem flatMap_advance_outcomes (piece : Piece) (pieces : List Piece) (q : Progress) :
    (q.advance piece).flatMap (outcomes pieces) = outcomes (piece :: pieces) q := by
  obtain ⟨rest, spans⟩ := q
  cases piece with
  | literal c =>
    cases rest with
    | nil => rfl
    | cons d s =>
      simp only [advance, outcomes, Pattern.ways]
      split
      · simp only [List.flatMap_cons, List.flatMap_nil, List.append_nil]
        rfl
      · rfl
  | placeholder hint =>
    simp only [advance, outcomes, Pattern.ways, List.flatMap_map, List.map_flatMap, List.map_map]
    refine congrArg (List.flatMap · _) (funext fun t => List.map_congr_left fun w _ => ?_)
    simp [captures_cons rest t spans rest]

/-- Whether a way can be completed depends on what it leaves over, and on nothing else. -/
theorem isSome_find?_outcomes {pieces : List Piece} {q q' : Progress} (h : q.rest = q'.rest) :
    ((outcomes pieces q).find? isDone).isSome = ((outcomes pieces q').find? isDone).isSome := by
  simp only [outcomes, List.find?_map, Option.isSome_map, h]
  rfl

/-- Of the ways that leave the same text over, only the first counts: where it fails, the others
fail too, and where it does not, they come too late. The induction carries that the lengths in
`seen` are those of ways that have failed. -/
theorem find?_flatMap_keepFirst {β : Type} {f : Progress → List β} {done : β → Bool}
    {qs : List Progress} {seen : List Nat}
    (hsame : ∀ q ∈ qs, ∀ q' ∈ qs, q.rest.length = q'.rest.length →
      ((f q).find? done).isSome = ((f q').find? done).isSome)
    (hseen : ∀ q ∈ qs, q.rest.length ∈ seen → (f q).find? done = none) :
    ((keepFirst seen qs).flatMap f).find? done = (qs.flatMap f).find? done := by
  induction qs generalizing seen with
  | nil => rfl
  | cons q qs ih =>
    have hsame' : ∀ p ∈ qs, ∀ p' ∈ qs, p.rest.length = p'.rest.length →
        ((f p).find? done).isSome = ((f p').find? done).isSome := fun p hp p' hp' =>
      hsame p (List.mem_cons_of_mem _ hp) p' (List.mem_cons_of_mem _ hp')
    have hseen' : ∀ p ∈ qs, p.rest.length ∈ seen → (f p).find? done = none := fun p hp =>
      hseen p (List.mem_cons_of_mem _ hp)
    simp only [keepFirst, List.flatMap_cons, List.find?_append]
    split
    · -- The way is dropped, and would have failed like the one that it repeats.
      rename_i hmem
      rw [hseen q (by simp) (List.contains_iff_mem.mp hmem), Option.none_or]
      exact ih hsame' hseen'
    · -- The way is kept; only where it fails do the others count, and then its length has failed.
      rw [List.flatMap_cons, List.find?_append]
      cases hq : (f q).find? done with
      | some b => rfl
      | none =>
        rw [Option.none_or, Option.none_or]
        refine ih hsame' fun p hp hlen => ?_
        rcases List.mem_cons.mp hlen with hlen | hlen
        · have hp' := hsame p (List.mem_cons_of_mem _ hp) q (by simp) hlen
          rw [hq] at hp'
          exact Option.isSome_eq_false_iff.mp hp' |> Option.isNone_iff_eq_none.mp
        · exact hseen' p hp hlen

theorem mem_of_mem_keepFirst {seen : List Nat} {qs : List Progress} {q : Progress}
    (h : q ∈ keepFirst seen qs) : q ∈ qs := by
  induction qs generalizing seen with
  | nil => simp [keepFirst] at h
  | cons p qs ih =>
    simp only [keepFirst] at h
    split at h
    · exact List.mem_cons_of_mem _ (ih h)
    · rcases List.mem_cons.mp h with rfl | h
      · exact List.mem_cons_self ..
      · exact List.mem_cons_of_mem _ (ih h)

/-- A step leaves an end of the text over. -/
theorem suffix_of_mem_advance {piece : Piece} {q q' : Progress} (h : q' ∈ q.advance piece) :
    q'.rest <:+ q.rest := by
  obtain ⟨rest, spans⟩ := q
  cases piece with
  | literal c =>
    cases rest with
    | nil => simp [advance] at h
    | cons d s =>
      simp only [advance] at h
      split at h
      · obtain rfl := List.mem_singleton.mp h
        exact List.suffix_cons d s
      · simp at h
  | placeholder hint =>
    obtain ⟨t, ht, rfl⟩ := List.mem_map.mp h
    exact Regex.suffix_of_mem_rests ht

end Progress

namespace Pattern

open Progress (summary outcomes isDone keepFirst)

/-- **Dropping ways changes nothing**: the search finds what it would find among all ways. What is
left over is always an end of one text, so that its length tells which. -/
theorem find?_search {text : List Char} (pieces : List Piece) {qs : List Progress}
    (hqs : ∀ q ∈ qs, q.rest <:+ text) :
    ((search pieces qs).map summary).find? isDone =
      (qs.flatMap (outcomes pieces)).find? isDone := by
  -- The search goes breadth-first and `ways` depth-first, but both in one order of preference.
  induction pieces generalizing qs with
  | nil =>
    have h : outcomes [] = fun q => [summary q] := by
      funext q
      simp [outcomes, ways, summary]
    rw [h, search, ← List.map_eq_flatMap]
  | cons piece pieces ih =>
    have hadv : ∀ q ∈ qs.flatMap fun q => q.advance piece, q.rest <:+ text := by
      intro q hq
      obtain ⟨p, hp, hq⟩ := List.mem_flatMap.mp hq
      exact (Progress.suffix_of_mem_advance hq).trans (hqs p hp)
    have hsame : ∀ q ∈ qs.flatMap (fun q => q.advance piece),
        ∀ q' ∈ qs.flatMap (fun q => q.advance piece), q.rest.length = q'.rest.length →
          ((outcomes pieces q).find? isDone).isSome =
            ((outcomes pieces q').find? isDone).isSome := by
      intro q hq q' hq' hlen
      -- Two ends of one text that have the same length are the same.
      have hle := List.suffix_of_suffix_length_le (hadv q hq) (hadv q' hq') hlen.le
      exact Progress.isSome_find?_outcomes (hle.eq_of_length hlen)
    rw [search, ih fun q hq => hadv q (Progress.mem_of_mem_keepFirst hq),
      Progress.find?_flatMap_keepFirst hsame (by simp), List.flatMap_assoc]
    simp only [Progress.flatMap_advance_outcomes]

theorem captures?_eq_find?_ways (p : Pattern) (text : String) :
    p.captures? text =
      ((ways p.pieces text.toList).find? fun w => w.1.isEmpty).map fun w =>
        w.2.map String.ofList := by
  have hqs : ∀ q ∈ [(⟨text.toList, []⟩ : Progress)], q.rest <:+ text.toList := by simp
  have h := find?_search p.pieces hqs
  have hl : p.captures? text =
      (((search p.pieces [⟨text.toList, []⟩]).map summary).find? isDone).map Prod.snd := by
    rw [List.find?_map, Option.map_map]
    rfl
  rw [hl, h, List.flatMap_cons, List.flatMap_nil, List.append_nil, outcomes, List.find?_map,
    Option.map_map]
  rfl

end Pattern

/-! ## The search for the source -/

theorem Regex.ways_toExpression (r : Regex) (text : List Char) (folded : Bool) (s : List Char) :
    r.toExpression.ways text folded s = (r.rests folded s).map fun t => (t, []) := by
  induction r generalizing folded s with
  | one k => rfl
  | many k => rfl
  | many1 k => rfl
  | fewest1 k => rfl
  | optional r ih =>
    simp [toExpression, Expression.ways, rests, ih, Expression.unused, groups_toExpression]
  | seq r q ihr ihq =>
    simp [toExpression, Expression.ways, rests, ihr, ihq, List.flatMap_map, List.map_flatMap,
      Function.comp_def]
  | either r q ihr ihq =>
    simp [toExpression, Expression.ways, rests, ihr, ihq, Expression.unused, groups_toExpression,
      Function.comp_def]
  | group r ih => exact ih folded s
  | ignoringCase r ih => exact ih true s

namespace Expression

theorem ways_concat_cons (text : List Char) (e : Expression) (es : List Expression)
    (s : List Char) :
    (concat (e :: es)).ways text false s =
      (e.ways text false s).flatMap fun (t, cs) =>
        ((concat es).ways text false t).map fun (u, ds) => (u, cs ++ ds) := by
  cases es with
  | nil => simp [concat, ways]
  | cons f es => rfl

/-- An expression that matches at the beginning of a text only is searched for there only. -/
theorem firstMatch?_of_start {e : Expression} {text : List Char}
    (h : ∀ s, s ≠ text → e.ways text false s = []) :
    e.firstMatch? text = (e.ways text false text).head? := by
  -- No proper end of the text is the text.
  have hrest : ∀ l : List Char, l.length < text.length →
      (l.tails.findSome? fun s => (e.ways text false s).head?) = none := by
    intro l hl
    rw [List.findSome?_eq_none_iff]
    intro s hs
    have hne : s ≠ text := by
      rintro rfl
      exact absurd ((List.mem_tails _ _).mp hs).length_le (by omega)
    rw [h s hne, List.head?_nil]
  cases text with
  | nil => simp [firstMatch?]
  | cons c l =>
    rw [firstMatch?, List.tails_cons, List.findSome?_cons, hrest l (by simp)]
    cases ((e.ways (c :: l) false (c :: l)).head?) <;> rfl

end Expression

namespace Pattern

/-- The ways to match pieces up to the end of the text. -/
theorem ways_concat_pieces (text : List Char) (pieces : List Piece) (s : List Char) :
    (Expression.concat (pieces.map Piece.toExpression ++ [.stop])).ways text false s =
      ((ways pieces s).filter fun w => w.1.isEmpty).map fun w => (w.1, w.2.map some) := by
  induction pieces generalizing s with
  | nil => cases s <;> rfl
  | cons piece pieces ih =>
    rw [List.map_cons, List.cons_append, Expression.ways_concat_cons]
    simp only [ih]
    cases piece with
    | literal c =>
      cases s with
      | nil => rfl
      | cons d s =>
        simp only [Piece.toExpression, Expression.ways, Regex.rests, CharClass.holds,
          CharClass.accepts, ways, beq_iff_eq]
        by_cases hc : c = d
        · simp [hc]
        · simp [hc, Ne.symm hc]
    | placeholder hint =>
      simp only [Piece.toExpression, Expression.ways, Regex.ways_toExpression, ways,
        List.map_map, List.flatMap_map, List.filter_flatMap, List.map_flatMap, List.filter_map]
      rfl

/-- **Matching the pieces is matching the source**: the leftmost-first search for the expression of
a pattern finds the same values. -/
theorem captures?_toExpression (p : Pattern) (text : String) :
    p.toExpression.captures? text = p.captures? text := by
  -- The first anchor lets matches begin at the front only, the last one lets them end at the end.
  have hways : ∀ s, p.toExpression.ways text.toList false s =
      if s = text.toList then
        ((ways p.pieces s).filter fun w => w.1.isEmpty).map fun w => (w.1, w.2.map some)
      else [] := by
    intro s
    rw [toExpression, List.cons_append, Expression.ways_concat_cons, Expression.ways]
    split
    · simp [ways_concat_pieces]
    · rfl
  have hstart : p.toExpression.firstMatch? text.toList =
      (p.toExpression.ways text.toList false text.toList).head? :=
    Expression.firstMatch?_of_start fun s hs => by rw [hways, if_neg hs]
  rw [Expression.captures?, hstart, hways, if_pos rfl, List.head?_map, List.head?_filter,
    captures?_eq_find?_ways, Option.map_map]
  refine congrArg (Option.map · _) (funext fun w => ?_)
  simp [Function.comp_def]

/-! ## What is found -/

/-- What is found fills the pattern. -/
theorem fills_of_captures? {p : Pattern} {text : String} {values : List String}
    (h : p.captures? text = some values) : p.Fills values text := by
  rw [captures?_eq_find?_ways, Option.map_eq_some_iff] at h
  obtain ⟨⟨t, vs⟩, hfind, rfl⟩ := h
  -- Nothing is left over, so the filling is one of the whole text.
  have hdone := List.find?_some hfind
  obtain rfl : t = [] := List.isEmpty_iff.mp hdone
  obtain ⟨w, hw, hfill⟩ := mem_ways_iff.mp (List.mem_of_find?_eq_some hfind)
  rw [List.append_nil] at hw
  have hvs : (vs.map String.ofList).map String.toList = vs := by simp [Function.comp_def]
  rw [fills_iff, hvs, hw]
  exact hfill

/-- What can be filled is found, though perhaps with other values. -/
theorem isSome_captures?_of_fills {p : Pattern} {text : String} {values : List String}
    (h : p.Fills values text) : (p.captures? text).isSome = true := by
  have hmem : ([], values.map String.toList) ∈ ways p.pieces text.toList :=
    mem_ways_iff.mpr ⟨text.toList, (List.append_nil _).symm, fills_iff.mp h⟩
  rw [captures?_eq_find?_ways, Option.isSome_map, List.find?_isSome]
  exact ⟨_, hmem, rfl⟩

theorem Fills.length_eq {p : Pattern} {values : List String} {text : String}
    (h : p.Fills values text) : values.length = p.hints.length :=
  h.1.length_eq.symm

/-- No value of a filling is empty. -/
theorem Fills.ne_empty {p : Pattern} {values : List String} {text : String}
    (h : p.Fills values text) {value : String} (hv : value ∈ values) : value ≠ "" := by
  obtain ⟨i, hi, rfl⟩ := List.getElem_of_mem hv
  have hlang := h.1.get (h.length_eq ▸ hi) hi
  intro he
  exact hintRegex_nonempty hlang (congrArg String.toList he)

end Pattern

end FeatureDocs
