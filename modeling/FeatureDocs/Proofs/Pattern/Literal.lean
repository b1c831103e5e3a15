import FeatureDocs.Pattern.Footprint
import FeatureDocs.Proofs.Pattern.Captures
import FeatureDocs.Proofs.Pattern.Segment

/-!
# Patterns without placeholders

A text without backslashes and braces is a pattern that stands for itself: its expression has no
groups, and it matches that text and no other.

## Main definitions

* `IsPlain`, `Pattern.literally`: such texts, and the patterns that they are

## Main results

* `Pattern.parse_plain`: a plain text reads as itself
* `Pattern.captures?_literally`: and matches itself alone
-/

namespace FeatureDocs

/-- The text has no character that could belong to a placeholder or an escape. -/
def IsPlain (s : List Char) : Prop := ∀ c ∈ s, c ≠ '\\' ∧ c ≠ '{' ∧ c ≠ '}'

namespace Pattern

/-- The pattern of a text that stands for itself. -/
def literally (s : List Char) : Pattern := ⟨s.map .literal⟩

/-- **A plain text reads as itself.** -/
theorem parse_plain {s : List Char} (h : IsPlain s) :
    parse (String.ofList s) = .ok (literally s) := by
  -- Each character is a token of its own, whatever stands beside it.
  have hfree : ∀ t ∈ s.map PatternToken.plain, t.Freestanding := by
    intro t ht
    obtain ⟨c, hc, rfl⟩ := List.mem_map.mp ht
    exact ⟨fun _ => h c hc, fun _ => rfl⟩
  obtain ⟨htakes, hdepth⟩ := takes_of_freestanding hfree 0 []
  have hwritten : (s.map PatternToken.plain).flatMap PatternToken.written = s := by
    rw [List.flatMap_map]
    exact List.flatMap_singleton' s
  rw [List.append_nil, hwritten] at htakes
  refine parse_eq_ok_iff.mpr ⟨s.map .plain, ?_, hdepth, ?_⟩
  · rw [String.toList_ofList]
    exact scan_iff_takes.mpr htakes
  · rw [literally, List.map_map]
    rfl

theorem hints_literally (s : List Char) : (literally s).hints = [] := by
  rw [hints, literally, List.filterMap_map]
  exact List.filterMap_eq_nil_iff.mpr fun _ _ => rfl

/-- The expression of a plain text has no groups. -/
theorem read_literally (s : List Char) :
    ∃ e, Expression.read (literally s).source = some e ∧ e.groups = 0 :=
  ⟨_, read_source _, by rw [groups_toExpression, hints_literally]; rfl⟩

theorem byteLength_replicate (n : Nat) (c : Char) :
    byteLength (List.replicate n c) = n * c.utf8Size := by
  induction n with
  | zero => simp
  | succ n ih => rw [List.replicate_succ, byteLength_cons, ih, Nat.succ_mul, Nat.add_comm]

/-- The space that a plain text takes once compiled goes by its length in bytes. -/
theorem footprint_literally (s : List Char) : (literally s).footprint = 32 * byteLength s := by
  have hfoldl : ∀ n, (s.map Piece.literal).foldl (fun n piece => n + piece.footprint) n =
      n + 32 * byteLength s := by
    induction s with
    | nil => simp
    | cons c s ih =>
      intro n
      rw [List.map_cons, List.foldl_cons, ih, byteLength_cons, Piece.footprint]
      omega
  rw [footprint, literally, hfoldl, Nat.zero_add]

theorem fillsPieces_literally_iff {s text : List Char} {values : List (List Char)} :
    FillsPieces (literally s).pieces values text ↔ values = [] ∧ text = s := by
  rw [literally]
  induction s generalizing text with
  | nil => exact fillsPieces_nil_iff
  | cons c s ih =>
    rw [List.map_cons, fillsPieces_literal_iff]
    constructor
    · rintro ⟨rest, rfl, hrest⟩
      obtain ⟨rfl, rfl⟩ := ih.mp hrest
      exact ⟨rfl, rfl⟩
    · rintro ⟨rfl, rfl⟩
      exact ⟨s, rfl, ih.mpr ⟨rfl, rfl⟩⟩

/-- **A plain text matches itself alone**, and captures nothing. -/
theorem captures?_literally {s : List Char} {text : String} {values : List String} :
    (literally s).captures? text = some values ↔ text.toList = s ∧ values = [] := by
  constructor
  · intro h
    obtain ⟨hvalues, htext⟩ := fillsPieces_literally_iff.mp (fills_iff.mp (fills_of_captures? h))
    exact ⟨htext, List.map_eq_nil_iff.mp hvalues⟩
  · rintro ⟨htext, rfl⟩
    have hfills : (literally s).Fills [] text :=
      fills_iff.mpr (fillsPieces_literally_iff.mpr ⟨rfl, htext⟩)
    -- What is found fills the pattern too, and there is nothing to fill.
    obtain ⟨vs, hvs⟩ := Option.isSome_iff_exists.mp (isSome_captures?_of_fills hfills)
    have hnone := (fills_of_captures? hvs).length_eq
    rw [hints_literally, List.length_nil, List.length_eq_zero_iff] at hnone
    rw [hvs, hnone]

end Pattern

end FeatureDocs
