import FeatureDocs.Proofs.Pattern.Reader

/-!
# Writing patterns

Texts and placeholders in any order can be written as a pattern: in the texts every brace and every
backslash is doubled, and a placeholder stands in single braces. Such a pattern is accepted, and its
regular expression has the texts and a group for each placeholder in the same order. This holds
wherever the segments touch, a text of braces in front of a placeholder or behind it included,
because every token that is written this way means the same in front of any text.

## Main definitions

* `Segment`, `Segment.written`: the segments of a pattern, and how they are written
* `PatternToken.Freestanding`: tokens that depend on nothing around them

## Main results

* `takes_of_freestanding`: freestanding tokens are scanned as they are written
* `Pattern.source_written`: the regular expression of a pattern that has been written
-/

namespace FeatureDocs

/-- One segment of a pattern: a text that stands for itself, or a placeholder. -/
inductive Segment where
  | text (s : List Char)
  | placeholder (name : {name : List Char // IsPlaceholderName name})
      (hint : Option {hint : List Char // IsHint hint})

namespace Segment

/-- A character of a text in writing: braces and backslashes are doubled. -/
def doubled (c : Char) : List Char := if c ∈ ['\\', '{', '}'] then [c, c] else [c]

/-- The written form of a segment. -/
def written : Segment → List Char
  | text s => s.flatMap doubled
  | placeholder name none => '{' :: name ++ ['}']
  | placeholder name (some hint) => '{' :: name ++ ':' :: hint ++ ['}']

/-- What a segment becomes in the regular expression: a quoted text, or a group. -/
def source : Segment → List Char
  | text s => quote s
  | placeholder _ hint =>
    ['('] ++ (hintRegex (hint.map fun h => String.ofList h.val)).source ++ [')']

/-- The token by which a character of a text is written. -/
def tokenOf (c : Char) : PatternToken :=
  if c = '\\' then .escaped '\\'
  else if c = '{' then .doubleOpening
  else if c = '}' then .doubleClosing
  else .plain c

/-- The tokens by which a segment is written. -/
def tokens : Segment → List PatternToken
  | text s => s.map tokenOf
  | placeholder name hint => [.placeholder name.val (hint.map Subtype.val)]

theorem written_tokenOf (c : Char) : (tokenOf c).written = doubled c := by
  unfold tokenOf
  repeat' split
  all_goals simp_all [PatternToken.written, doubled]

theorem piece_tokenOf (c : Char) : (tokenOf c).piece = .literal c := by
  unfold tokenOf
  repeat' split
  all_goals simp_all [PatternToken.piece]

theorem flatMap_written_tokens (segment : Segment) :
    segment.tokens.flatMap PatternToken.written = segment.written := by
  cases segment with
  | text s =>
    rw [tokens, List.flatMap_map, written]
    simp only [written_tokenOf]
  | placeholder name hint =>
    rw [tokens, List.flatMap_singleton]
    cases hint <;> rfl

theorem flatMap_source_tokens (segment : Segment) :
    segment.tokens.flatMap (fun t => t.piece.source) = segment.source := by
  cases segment with
  | text s =>
    rw [tokens, List.flatMap_map, source, quote]
    simp only [piece_tokenOf, Piece.source]
  | placeholder name hint =>
    rw [tokens, List.flatMap_singleton, source, PatternToken.piece, Piece.source, Option.map_map]
    rfl

end Segment

/-! ## Freestanding tokens -/

/-- A token may be taken in front of any text, and it neither opens nor closes a stray brace. -/
def PatternToken.Freestanding (token : PatternToken) : Prop :=
  (∀ rest, token.FitsBefore rest) ∧ ∀ depth, strayDepth depth [token] = some depth

theorem Segment.freestanding_tokenOf (c : Char) : (tokenOf c).Freestanding := by
  unfold tokenOf
  repeat' split
  all_goals
    refine ⟨fun rest => ?_, fun depth => rfl⟩
    simp_all [PatternToken.FitsBefore]

theorem Segment.freestanding_of_mem_tokens {segment : Segment} {token : PatternToken}
    (h : token ∈ segment.tokens) : token.Freestanding := by
  cases segment with
  | text s =>
    obtain ⟨c, -, rfl⟩ := List.mem_map.mp h
    exact freestanding_tokenOf c
  | placeholder name hint =>
    obtain rfl := List.mem_singleton.mp h
    refine ⟨fun rest => ⟨name.property, fun w hw => ?_⟩, fun depth => rfl⟩
    obtain ⟨w', -, rfl⟩ := Option.map_eq_some_iff.mp hw
    exact w'.property

/-- **Freestanding tokens are scanned as they are written**, whatever follows them, and leave no
stray brace behind. -/
theorem takes_of_freestanding {ts : List PatternToken} (h : ∀ t ∈ ts, t.Freestanding)
    (depth : Nat) (rest : List Char) :
    Takes (ts.flatMap PatternToken.written ++ rest) ts rest ∧ strayDepth depth ts = some depth := by
  induction ts with
  | nil => exact ⟨.stop, rfl⟩
  | cons token ts ih =>
    obtain ⟨hfits, hdepth⟩ := h token List.mem_cons_self
    obtain ⟨htakes, hrest⟩ := ih fun t ht => h t (List.mem_cons_of_mem _ ht)
    constructor
    · rw [List.flatMap_cons, List.append_assoc]
      exact .take token (hfits _) htakes
    · rw [strayDepth_cons, hdepth]
      exact hrest

/-- **A pattern that has been written from segments** is accepted, and its regular expression is
what the segments become, one after another, between the anchors. -/
theorem Pattern.source_written (segments : List Segment) :
    (Pattern.parse (String.ofList (segments.flatMap Segment.written))).map Pattern.source =
      .ok (String.ofList (['^'] ++ segments.flatMap Segment.source ++ ['$'])) := by
  let ts := segments.flatMap Segment.tokens
  have hfree : ∀ t ∈ ts, t.Freestanding := by
    intro t ht
    obtain ⟨segment, -, hmem⟩ := List.mem_flatMap.mp ht
    exact Segment.freestanding_of_mem_tokens hmem
  have hwritten : ts.flatMap PatternToken.written = segments.flatMap Segment.written := by
    rw [List.flatMap_assoc]
    simp only [Segment.flatMap_written_tokens]
  have hsource : ts.flatMap (fun t => t.piece.source) = segments.flatMap Segment.source := by
    rw [List.flatMap_assoc]
    simp only [Segment.flatMap_source_tokens]
  obtain ⟨htakes, hdepth⟩ := takes_of_freestanding hfree 0 []
  rw [List.append_nil, hwritten] at htakes
  have hparse : Pattern.parse (String.ofList (segments.flatMap Segment.written)) =
      .ok ⟨ts.map PatternToken.piece⟩ := by
    refine Pattern.parse_eq_ok_iff.mpr ⟨ts, scan_iff_takes.mpr ?_, hdepth, rfl⟩
    rwa [String.toList_ofList]
  rw [hparse, Except.map, Pattern.source, List.flatMap_map, hsource]

end FeatureDocs
