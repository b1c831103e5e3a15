import FeatureDocs.Json.Basic

/-!
# The tokens of JSON values

A value is a sequence of tokens. Its brackets close before anything that comes after it, so the
tokens tell where it ends and which value it is.

## Main definitions

* `JsonToken`, `Json.tokens`: tokens, and those of a value

## Main results

* `Json.tokens_append_inj`: the tokens of a value are those of no other, whatever follows them
-/

namespace FeatureDocs

/-- Tokens of JSON. -/
inductive JsonToken where
  | null
  | bool (b : Bool)
  | number (n : Nat)
  | string (s : String)
  | openArray
  | closeArray
  | openObject
  | closeObject
  | comma
  | colon
  deriving DecidableEq, Repr

/-- A separated list is its first element, and a separator in front of each other one. -/
theorem intercalate_cons {α : Type} (sep x : List α) (xs : List (List α)) :
    sep.intercalate (x :: xs) = x ++ xs.flatMap (sep ++ ·) := by
  induction xs generalizing x with
  | nil => rw [List.intercalate_singleton, List.flatMap_nil, List.append_nil]
  | cons y xs ih =>
    rw [List.intercalate_cons_cons, ih, List.flatMap_cons, List.append_assoc, List.append_assoc]

/-- What treats a list element by element is a map. -/
theorem eq_map_of_cons {α β : Type} {f : α → β} {fs : List α → List β} (hnil : fs [] = [])
    (hcons : ∀ a l, fs (a :: l) = f a :: fs l) (l : List α) : fs l = l.map f := by
  induction l with
  | nil => exact hnil
  | cons a l ih => rw [hcons, ih, List.map_cons]

namespace Json

mutual

/-- The tokens of a value. -/
def tokens : Json → List JsonToken
  | null => [.null]
  | bool b => [.bool b]
  | number n => [.number n]
  | string s => [.string s]
  | array elements =>
    .openArray :: (List.intercalate [.comma] (tokensAll elements) ++ [.closeArray])
  | object members =>
    .openObject :: (List.intercalate [.comma] (tokensMembers members) ++ [.closeObject])

/-- The tokens of each value. -/
def tokensAll : List Json → List (List JsonToken)
  | [] => []
  | v :: vs => tokens v :: tokensAll vs

/-- The tokens of each member. -/
def tokensMembers : List (String × Json) → List (List JsonToken)
  | [] => []
  | m :: ms => tokensMember m :: tokensMembers ms

/-- The tokens of a member. -/
def tokensMember : String × Json → List JsonToken
  | (name, v) => .string name :: .colon :: tokens v

end

theorem tokensAll_eq_map (elements : List Json) : tokensAll elements = elements.map tokens :=
  eq_map_of_cons rfl (fun _ _ => rfl) elements

theorem tokensMembers_eq_map (members : List (String × Json)) :
    tokensMembers members = members.map tokensMember :=
  eq_map_of_cons rfl (fun _ _ => rfl) members

theorem tokens_array_append (elements : List Json) (r : List JsonToken) :
    (array elements).tokens ++ r =
      .openArray :: (List.intercalate [.comma] (elements.map tokens) ++ .closeArray :: r) := by
  rw [tokens, tokensAll_eq_map, List.cons_append, List.append_assoc, List.singleton_append]

theorem tokens_object_append (members : List (String × Json)) (r : List JsonToken) :
    (object members).tokens ++ r =
      .openObject :: (List.intercalate [.comma] (members.map tokensMember) ++
        .closeObject :: r) := by
  rw [tokens, tokensMembers_eq_map, List.cons_append, List.append_assoc, List.singleton_append]

/-- Induction over values: an array may use what is known of its elements, and an object what is
known of its members. -/
theorem induction {motive : Json → Prop} (null : motive null) (bool : ∀ b, motive (bool b))
    (number : ∀ n, motive (number n)) (string : ∀ s, motive (string s))
    (array : ∀ elements, (∀ v ∈ elements, motive v) → motive (array elements))
    (object : ∀ members, (∀ name v, (name, v) ∈ members → motive v) → motive (object members)) :
    ∀ v, motive v
  | .null => null
  | .bool b => bool b
  | .number n => number n
  | .string s => string s
  | .array elements => array elements fun v hmem =>
    have : sizeOf v < 1 + sizeOf elements := by
      have hlt := List.sizeOf_lt_of_mem hmem
      omega
    induction null bool number string array object v
  | .object members => object members fun name v hmem =>
    have : sizeOf v < 1 + sizeOf members := by
      have hlt := List.sizeOf_lt_of_mem hmem
      rw [Prod.mk.sizeOf_spec] at hlt
      omega
    induction null bool number string array object v

/-! ## Reading tokens back -/

/-- What writes something as tokens tells where these end and what they have been written for. -/
def Readable {α : Type} (f : α → List JsonToken) (a : α) : Prop :=
  ∀ b r r', f a ++ r = f b ++ r' → a = b ∧ r = r'

section Separated

variable {α : Type} {f : α → List JsonToken} {closing : JsonToken}

/-- After the first element, a comma or the closing bracket tells whether there is another one. -/
theorem separated_tail_inj (hcomma : closing ≠ .comma) {as : List α}
    (has : ∀ a ∈ as, Readable f a) :
    ∀ {bs r r'}, (as.map f).flatMap ([.comma] ++ ·) ++ closing :: r =
      (bs.map f).flatMap ([.comma] ++ ·) ++ closing :: r' → as = bs ∧ r = r' := by
  induction as with
  | nil =>
    intro bs r r' h
    cases bs with
    | nil => exact ⟨rfl, List.tail_eq_of_cons_eq h⟩
    | cons b bs => exact absurd (List.head_eq_of_cons_eq h) hcomma
  | cons a as ih =>
    intro bs r r' h
    cases bs with
    | nil => exact absurd (List.head_eq_of_cons_eq h).symm hcomma
    | cons b bs =>
      obtain ⟨ha, has⟩ := List.forall_mem_cons.mp has
      simp only [List.map_cons, List.flatMap_cons, List.append_assoc] at h
      obtain ⟨rfl, htail⟩ := ha b _ _ (List.tail_eq_of_cons_eq h)
      obtain ⟨rfl, rfl⟩ := ih has htail
      exact ⟨rfl, rfl⟩

/-- Elements between commas are read back, where none of them begins with the closing bracket. -/
theorem separated_inj (hcomma : closing ≠ .comma) (hhead : ∀ a r r', f a ++ r ≠ closing :: r')
    {as bs : List α} {r r' : List JsonToken} (has : ∀ a ∈ as, Readable f a)
    (h : List.intercalate [.comma] (as.map f) ++ closing :: r =
      List.intercalate [.comma] (bs.map f) ++ closing :: r') : as = bs ∧ r = r' := by
  cases as with
  | nil =>
    cases bs with
    | nil => exact ⟨rfl, List.tail_eq_of_cons_eq h⟩
    | cons b bs =>
      rw [List.map_cons, intercalate_cons, List.append_assoc] at h
      exact absurd h.symm (hhead b _ r)
  | cons a as =>
    rw [List.map_cons, intercalate_cons, List.append_assoc] at h
    cases bs with
    | nil => exact absurd h (hhead a _ r')
    | cons b bs =>
      rw [List.map_cons, intercalate_cons, List.append_assoc] at h
      obtain ⟨ha, has⟩ := List.forall_mem_cons.mp has
      obtain ⟨rfl, htail⟩ := ha b _ _ h
      obtain ⟨rfl, rfl⟩ := separated_tail_inj hcomma has htail
      exact ⟨rfl, rfl⟩

end Separated

/-- No value begins with the end of an array. -/
theorem tokens_append_ne_closeArray (v : Json) (r r' : List JsonToken) :
    v.tokens ++ r ≠ .closeArray :: r' := by
  intro h
  cases v <;> exact JsonToken.noConfusion (List.head_eq_of_cons_eq h)

/-- No member begins with the end of an object. -/
theorem tokensMember_append_ne_closeObject (m : String × Json) (r r' : List JsonToken) :
    tokensMember m ++ r ≠ .closeObject :: r' := by
  intro h
  cases m
  exact JsonToken.noConfusion (List.head_eq_of_cons_eq h)

theorem readable_tokensMember {name : String} {v : Json} (hv : Readable tokens v) :
    Readable tokensMember (name, v) := by
  rintro ⟨name', v'⟩ r r' h
  obtain ⟨hname, h⟩ := List.cons_eq_cons.mp h
  obtain ⟨rfl, rfl⟩ := hv v' r r' (List.tail_eq_of_cons_eq h)
  rw [JsonToken.string.inj hname]
  exact ⟨rfl, rfl⟩

/-- **The tokens of a value are those of no other value, whatever follows them.** -/
theorem tokens_append_inj (v : Json) : Readable tokens v := by
  induction v using Json.induction with
  | null | bool _ | number _ | string _ =>
    intro w r r' h
    cases w <;> obtain ⟨hhead, htail⟩ := List.cons_eq_cons.mp h <;> cases hhead
    exact ⟨rfl, htail⟩
  | array elements ih =>
    intro w r r' h
    cases w with
    | array elements' =>
      rw [tokens_array_append, tokens_array_append] at h
      obtain ⟨rfl, rfl⟩ := separated_inj JsonToken.noConfusion tokens_append_ne_closeArray ih
        (List.tail_eq_of_cons_eq h)
      exact ⟨rfl, rfl⟩
    | _ => exact JsonToken.noConfusion (List.head_eq_of_cons_eq h)
  | object members ih =>
    intro w r r' h
    have hmembers : ∀ m ∈ members, Readable tokensMember m := fun m hm =>
      readable_tokensMember (ih m.1 m.2 hm)
    cases w with
    | object members' =>
      rw [tokens_object_append, tokens_object_append] at h
      obtain ⟨rfl, rfl⟩ := separated_inj JsonToken.noConfusion tokensMember_append_ne_closeObject
        hmembers (List.tail_eq_of_cons_eq h)
      exact ⟨rfl, rfl⟩
    | _ => exact JsonToken.noConfusion (List.head_eq_of_cons_eq h)

end Json

end FeatureDocs
