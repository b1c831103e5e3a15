import FeatureDocs.Proofs.Pattern.Reader
import FeatureDocs.Proofs.Traversal
import Mathlib.Algebra.Ring.Parity
import Mathlib.Data.List.DropRight

/-!
# Patterns behind one another

A pattern with another one behind it is a pattern again, and its regular expression is those of the
two, one behind the other. The only text that cannot be continued is one that ends in a backslash
which escapes nothing, for it would escape what comes next.

The tokens at the boundary need not stay as they are. A stray brace that closes the last open one at
the end of the first pattern pairs up with a closing brace at the beginning of the second, and the
pairs behind it shift by one. What is read stays the same, because the braces at the beginning of an
accepted pattern come in pairs: the last of them all is left alone, and closes what the first one
closed.

## Main definitions

* `EndsInBackslash`: texts that end in a backslash which escapes nothing
* `Pattern.body`: the regular expression of a pattern without its anchors

## Main results

* `Takes.endsInBackslash_iff`: such texts are those whose scan ends in a lone backslash
* `Scannable.append`: a text that can be scanned, with another one behind it
* `Pattern.source_append`: the regular expression of two patterns behind one another
-/

namespace FeatureDocs

/-- A text ends in a backslash that no backslash before it escapes: its last backslashes are odd in
number. -/
def EndsInBackslash (s : List Char) : Prop := Odd (s.rtakeWhile (· == '\\')).length

instance (s : List Char) : Decidable (EndsInBackslash s) :=
  inferInstanceAs (Decidable (Odd _))

/-! ## The last backslashes -/

section Backslashes

/-- The last elements of a kind in two lists behind one another: those of the second list, and if it
has no others, those of the first as well. -/
theorem length_rtakeWhile_append {α : Type} (p : α → Bool) (s t : List α) :
    ((s ++ t).rtakeWhile p).length =
      if ∀ a ∈ t, p a = true then (s.rtakeWhile p).length + t.length
      else (t.rtakeWhile p).length := by
  induction t using List.reverseRecOn with
  | nil => simp
  | append_singleton t a ih =>
    rw [← List.append_assoc]
    by_cases ha : p a = true
    · rw [List.rtakeWhile_concat_pos p _ a ha, List.rtakeWhile_concat_pos p _ a ha,
        List.length_append, List.length_append, List.length_append, ih]
      by_cases ht : ∀ b ∈ t, p b = true
      · have hall : ∀ b ∈ t ++ [a], p b = true := by
          intro b hb
          rcases List.mem_append.mp hb with hb | hb
          · exact ht b hb
          · exact List.mem_singleton.mp hb ▸ ha
        rw [if_pos ht, if_pos hall, Nat.add_assoc]
      · have hnot : ¬ ∀ b ∈ t ++ [a], p b = true := fun hall =>
          ht fun b hb => hall b (List.mem_append_left _ hb)
        rw [if_neg ht, if_neg hnot]
    · have hnot : ¬ ∀ b ∈ t ++ [a], p b = true := fun hall => ha (hall a (by simp))
      rw [List.rtakeWhile_concat_neg p _ a ha, List.rtakeWhile_concat_neg p _ a ha, if_neg hnot]

/-- A token other than a lone backslash ends in an even number of backslashes, for it has none at
its end or is an escaped one. -/
theorem PatternToken.even_rtakeWhile_written {token : PatternToken} {s : List Char}
    (hfits : token.FitsBefore s) (htoken : token ≠ .lastBackslash) :
    Even (token.written.rtakeWhile (· == '\\')).length := by
  cases token with
  | escaped c =>
    by_cases hc : c = '\\'
    · subst hc
      decide
    · simp [written, List.rtakeWhile, hc]
  | lastBackslash => exact absurd rfl htoken
  | doubleOpening => decide
  | doubleClosing => decide
  | placeholder name hint => cases hint <;> simp [written, List.rtakeWhile]
  | strayOpening => decide
  | strayClosing => decide
  | plain c => simp [written, List.rtakeWhile, hfits.1]

/-- **A text ends in a backslash that escapes nothing** exactly if its scan does. -/
theorem Takes.endsInBackslash_iff {s : List Char} {ts : List PatternToken} (h : Takes s ts []) :
    EndsInBackslash s ↔ PatternToken.lastBackslash ∈ ts := by
  generalize hrest : ([] : List Char) = rest at h
  induction h with
  | stop =>
    subst hrest
    simp [EndsInBackslash]
  | @take token s ts rest hfits htakes ih =>
    have hs := ih hrest
    subst hrest
    by_cases htoken : token = .lastBackslash
    · subst htoken
      obtain rfl : s = [] := hfits
      simp [EndsInBackslash, PatternToken.written, List.rtakeWhile]
    · -- Whatever its backslashes add to those of the rest, it is an even number.
      have heven := PatternToken.even_rtakeWhile_written hfits htoken
      rw [List.mem_cons, or_iff_right (Ne.symm htoken), ← hs, EndsInBackslash, EndsInBackslash,
        length_rtakeWhile_append]
      by_cases hall : ∀ c ∈ s, (c == '\\') = true
      · rw [if_pos hall, List.rtakeWhile_eq_self_iff.mpr hall, Nat.odd_add']
        exact iff_true_right heven
      · rw [if_neg hall]

end Backslashes

/-! ## Scans behind one another -/

/-- A token in front of a text that can be scanned. -/
theorem Scannable.take {depth depth' : Nat} {s : List Char} {pieces : List Piece}
    (h : Scannable depth' s pieces) (token : PatternToken) (hfits : token.FitsBefore s)
    (hd : strayDepth depth [token] = some depth') :
    Scannable depth (token.written ++ s) (token.piece :: pieces) := by
  obtain ⟨ts, hscan, hdepth, rfl⟩ := h
  refine ⟨token :: ts, scan_iff_takes.mpr (.take token hfits (scan_iff_takes.mp hscan)), ?_, rfl⟩
  rw [strayDepth_cons, hd]
  exact hdepth

/-- A text that can be scanned is empty, or a token and a text that can be scanned. -/
theorem Scannable.cases {depth : Nat} {s : List Char} {pieces : List Piece}
    (h : Scannable depth s pieces) :
    (s = [] ∧ depth = 0 ∧ pieces = []) ∨
      ∃ token s' depth' pieces', s = PatternToken.written token ++ s' ∧ token.FitsBefore s' ∧
        strayDepth depth [token] = some depth' ∧ Scannable depth' s' pieces' ∧
        pieces = token.piece :: pieces' := by
  obtain ⟨ts, hscan, hdepth, rfl⟩ := h
  cases ts with
  | nil =>
    refine Or.inl ⟨?_, Option.some.inj hdepth, rfl⟩
    simpa using (scan_iff_takes.mp hscan).eq_append
  | cons token ts =>
    obtain ⟨s', rfl, hfits, htakes⟩ := takes_cons_iff.mp (scan_iff_takes.mp hscan)
    rw [strayDepth_cons] at hdepth
    obtain ⟨depth', htoken, hrest⟩ := Option.bind_eq_some_iff.mp hdepth
    exact Or.inr ⟨token, s', depth', _, rfl, hfits, htoken,
      ⟨ts, scan_iff_takes.mpr htakes, hrest, rfl⟩, rfl⟩

theorem PatternToken.written_ne_nil (token : PatternToken) : token.written ≠ [] := by
  cases token with
  | placeholder name hint => cases hint <;> simp [written]
  | _ => simp [written]

theorem takes_nil_iff {ts : List PatternToken} : Takes [] ts [] ↔ ts = [] := by
  constructor
  · intro h
    rcases ts with _ | ⟨token, ts⟩
    · rfl
    · obtain ⟨s, hs, -, -⟩ := takes_cons_iff.mp h
      exact absurd hs.symm (by simp [PatternToken.written_ne_nil])
  · rintro rfl
    exact .stop

/-- The token at the front of a text that starts with a closing brace, outside of stray braces. -/
theorem PatternToken.eq_doubleClosing {token : PatternToken} {s t : List Char} {depth : Nat}
    (hfits : token.FitsBefore s) (hs : token.written ++ s = '}' :: t)
    (hd : strayDepth 0 [token] = some depth) : token = .doubleClosing := by
  cases token with
  | doubleClosing => rfl
  | strayClosing => simp [strayDepth] at hd
  | plain c =>
    obtain rfl : c = '}' := (List.cons.inj hs).1
    exact absurd rfl hfits.2.2
  | placeholder name hint => cases hint <;> simp [written] at hs
  | _ => simp [written] at hs

/-- **A stray closing brace in front of a pattern.** The braces at the beginning of the pattern come
in pairs, so that one of them is left over whatever is paired with what, and it is the last one that
closes the stray brace. -/
theorem Scannable.closing {s : List Char} {pieces : List Piece} (h : Scannable 0 s pieces) :
    Scannable 1 ('}' :: s) (.literal '}' :: pieces) := by
  induction hn : s.length using Nat.strong_induction_on generalizing s pieces with
  | h n ih =>
    by_cases hhead : s.head? = some '}'
    · obtain ⟨t, ht⟩ := List.head?_eq_some_iff.mp hhead
      rcases h.cases with ⟨rfl, -, -⟩ | ⟨token, s', depth', rest, rfl, hfits, hd, hrest, rfl⟩
      · simp at ht
      · obtain rfl := PatternToken.eq_doubleClosing hfits ht hd
        obtain rfl : 0 = depth' := Option.some.inj hd
        have hlength : s'.length < n := by
          rw [← hn]
          simp only [PatternToken.written, List.length_append, List.length_cons, List.length_nil]
          omega
        -- The stray brace and the first of the pair make a pair, and the second one is stray now.
        have hshift : Scannable 1 ('}' :: s') (.literal '}' :: rest) := ih _ hlength hrest rfl
        exact hshift.take .doubleClosing trivial rfl
    · exact h.take .strayClosing hhead rfl

/-- The last token of a text in front of another text. It was taken with nothing in sight, and now
it has the other text in sight, which only matters to stray braces. -/
theorem Scannable.takeLast {depth : Nat} {s : List Char} {pieces : List Piece}
    (h : Scannable 0 s pieces) (token : PatternToken) (hfits : token.FitsBefore [])
    (hd : strayDepth depth [token] = some 0) (htoken : token ≠ .lastBackslash) :
    Scannable depth (token.written ++ s) (token.piece :: pieces) := by
  cases token with
  | escaped c => exact h.take (.escaped c) trivial hd
  | lastBackslash => exact absurd rfl htoken
  | doubleOpening => exact h.take .doubleOpening trivial hd
  | doubleClosing => exact h.take .doubleClosing trivial hd
  | placeholder name hint => exact h.take (.placeholder name hint) hfits hd
  | strayOpening =>
    -- It would be left open.
    simp [strayDepth] at hd
  | strayClosing =>
    -- It closes the only stray brace, and has to make way for the braces behind it.
    obtain rfl : depth = 1 := by
      cases depth with
      | zero => simp [strayDepth] at hd
      | succ depth => rw [Option.some.inj hd]
    exact h.closing
  | plain c => exact h.take (.plain c) hfits hd

/-- **A text that can be scanned, with another one behind it**, can be scanned, and what is read is
what the two stand for. The induction goes through the tokens of the first text, and all of them but
the last one are taken as before. -/
theorem Scannable.append {depth : Nat} {s t : List Char} {us vs : List Piece}
    (hs : Scannable depth s us) (ht : Scannable 0 t vs) (hend : ¬ EndsInBackslash s) :
    Scannable depth (s ++ t) (us ++ vs) := by
  obtain ⟨ts, hscan, hdepth, rfl⟩ := hs
  have htakes := scan_iff_takes.mp hscan
  rw [htakes.endsInBackslash_iff] at hend
  clear hscan
  induction ts generalizing s depth with
  | nil =>
    obtain rfl : s = [] := by simpa using htakes.eq_append
    obtain rfl : depth = 0 := Option.some.inj hdepth
    exact ht
  | cons token ts ih =>
    obtain ⟨s, rfl, hfits, htakes⟩ := takes_cons_iff.mp htakes
    rw [strayDepth_cons] at hdepth
    obtain ⟨between, htoken, hbehind⟩ := Option.bind_eq_some_iff.mp hdepth
    obtain ⟨hne, hend'⟩ := not_or.mp (mt List.mem_cons.mpr hend)
    have hrest : Scannable between (s ++ t) (ts.map PatternToken.piece ++ vs) :=
      ih hend' hbehind htakes
    rw [List.append_assoc, List.map_cons, List.cons_append]
    by_cases hs : s = []
    · subst hs
      obtain rfl : ts = [] := takes_nil_iff.mp htakes
      obtain rfl : between = 0 := Option.some.inj hbehind
      exact hrest.takeLast token hfits htoken (Ne.symm hne)
    · have hfits' : token.FitsBefore (s ++ t) :=
        hfits.of_head?_eq hs (List.head?_append_of_ne_nil s hs)
      exact hrest.take token hfits' htoken

/-! ## Patterns -/

namespace Pattern

/-- The regular expression of a pattern without its anchors. -/
def body (p : Pattern) : String := String.ofList (p.pieces.flatMap Piece.source)

theorem source_eq (p : Pattern) : p.source = "^" ++ p.body ++ "$" := by
  apply String.ext
  simp [source, body]

/-- The pattern of the pieces of two patterns. -/
def followedBy (p q : Pattern) : Pattern := ⟨p.pieces ++ q.pieces⟩

theorem body_followedBy (p q : Pattern) : (p.followedBy q).body = p.body ++ q.body := by
  apply String.ext
  simp [body, followedBy]

/-- **Patterns compose.** Two accepted patterns, one behind the other, are accepted, and between its
anchors the regular expression is that of the first and then that of the second. -/
theorem source_append {p q : String} {a b : Pattern} (hp : parse p = .ok a) (hq : parse q = .ok b)
    (hend : ¬ EndsInBackslash p.toList) :
    a.source = "^" ++ a.body ++ "$" ∧ b.source = "^" ++ b.body ++ "$" ∧
      (parse (p ++ q)).map source = .ok ("^" ++ (a.body ++ b.body) ++ "$") := by
  refine ⟨a.source_eq, b.source_eq, ?_⟩
  have hscan : Scannable 0 (p ++ q).toList (a.followedBy b).pieces := by
    rw [String.toList_append]
    exact (parse_eq_ok_iff.mp hp).append (parse_eq_ok_iff.mp hq) hend
  rw [parse_eq_ok_iff.mpr hscan, Except.map, source_eq, body_followedBy]

/-- A stray closing brace in front of a doubled one: the first pattern ends where the second pairs
up with it. -/
theorem source_append_closing :
    ∃ a b, parse "\x7b\x7d" = .ok a ∧ parse "\x7d\x7d" = .ok b ∧
      a.body = "\\\x7b\\\x7d" ∧ b.body = "\\\x7d" ∧
      (parse ("\x7b\x7d" ++ "\x7d\x7d")).map source =
        .ok ("^" ++ ("\\\x7b\\\x7d" ++ "\\\x7d") ++ "$") := by
  have hp : parse "\x7b\x7d" = .ok ⟨[.literal '{', .literal '}']⟩ :=
    eq_ok_of_toOption (by decide +kernel)
  have hq : parse "\x7d\x7d" = .ok ⟨[.literal '}']⟩ := eq_ok_of_toOption (by decide +kernel)
  exact ⟨_, _, hp, hq, rfl, rfl, (source_append hp hq (by decide)).2.2⟩

end Pattern

end FeatureDocs
