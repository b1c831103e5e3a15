/-!
# Readers

A reader takes a value off the front of a text. It may reject the text, in which case another
reader can be tried, or abort, in which case no other reader counts and the text as a whole is
refused. The combinators are those of parsing expressions: a choice is ordered, and repetition
takes as much as it can and gives nothing back.

## Main definitions

* `Outcome`, `Reader`: outcomes and readers, with their monad
* `orElse`, `optional`: ordered choice
* `many`, `separated`: repetition
-/

namespace FeatureDocs.Gherkin

/-- What comes of reading. -/
inductive Outcome (α : Type) where
  /-- A value, and the text that is left. -/
  | ok (value : α) (rest : List Char)
  /-- The text is not of this form. -/
  | reject
  /-- The text is of no form at all. -/
  | abort
  deriving Repr

/-- Readers of a value off the front of a text. -/
def Reader (α : Type) := List Char → Outcome α

namespace Reader

variable {α β : Type}

/-- The value without reading. -/
protected def pure (a : α) : Reader α := fun s => .ok a s

/-- One reader after another. -/
protected def bind (p : Reader α) (f : α → Reader β) : Reader β := fun s =>
  match p s with
  | .ok a r => f a r
  | .reject => .reject
  | .abort => .abort

instance : Monad Reader where
  pure := Reader.pure
  bind := Reader.bind

/-- Rejects every text. -/
def reject : Reader α := fun _ => .reject

/-- Aborts on every text. -/
def abort : Reader α := fun _ => .abort

/-- The first reader, or the second where the first rejects. -/
def orElse (p q : Reader α) : Reader α := fun s =>
  match p s with
  | .reject => q s
  | o => o

/-- The value, or none where the reader rejects. -/
def optional (p : Reader α) : Reader (Option α) := fun s =>
  match p s with
  | .ok a r => .ok (some a) r
  | .reject => .ok none s
  | .abort => .abort

/-- Goes on behind a part of the text that always can be skipped. -/
def skip (f : List Char → List Char) : Reader Unit := fun s => .ok () (f s)

/-- Goes on behind a part of the text that may be missing. -/
def skip? (f : List Char → Option (List Char)) : Reader Unit := fun s =>
  match f s with
  | some r => .ok () r
  | none => .reject

/-- As many values as can be read, each by taking something off the text. -/
def many (p : Reader α) (s : List Char) : Outcome (List α) :=
  match p s with
  | .ok a r =>
    if r.length < s.length then
      match many p r with
      | .ok as t => .ok (a :: as) t
      | .reject => .reject
      | .abort => .abort
    else .ok [] s
  | .reject => .ok [] s
  | .abort => .abort
termination_by s.length

/-- As many values as can be read, with a part of the text skipped between them. -/
def separated (gap : List Char → List Char) (p : Reader α) : Reader (List α) := fun s =>
  match p s with
  | .ok a r =>
    match many (fun t => p (gap t)) r with
    | .ok as t => .ok (a :: as) t
    | .reject => .reject
    | .abort => .abort
  | .reject => .ok [] s
  | .abort => .abort

/-- At least one value, with a part of the text skipped between them. -/
def separated1 (gap : List Char → List Char) (p : Reader α) : Reader (List α) := do
  match ← separated gap p with
  | [] => reject
  | as => return as

end Reader

end FeatureDocs.Gherkin
