/-!
# Tokens of Rust sources

A source is a sequence of token trees: single tokens, and groups of trees between delimiters. Only
what is needed to find items and their attributes is kept of a token; the value of a string
literal is kept, of other literals nothing.
-/

namespace FeatureDocs.Code

/-- The delimiters of groups. -/
inductive Delimiter where
  | parenthesis
  | bracket
  | brace
  deriving DecidableEq, Repr

/-- Tokens before they are grouped. -/
inductive Token where
  /-- An identifier or keyword, with the marker of a raw identifier, and the source from it on. -/
  | identifier (name : String) (source : List Char)
  /-- A string literal. -/
  | text (value : String)
  /-- Any other literal. -/
  | literal
  /-- A punctuation character; `joint` tells that another one follows at once. -/
  | mark (c : Char) (joint : Bool)
  | opening (d : Delimiter)
  | closing (d : Delimiter)

/-- Token trees. -/
inductive Tree where
  /-- An identifier or keyword, and the source from it on. -/
  | identifier (name : String) (source : List Char)
  /-- A string literal. -/
  | text (value : String)
  /-- Any other literal. -/
  | literal
  /-- A punctuation character; `joint` tells that another one follows at once. -/
  | mark (c : Char) (joint : Bool)
  /-- The trees between two delimiters. -/
  | group (d : Delimiter) (trees : List Tree)

/-- Groups tokens; `done` holds the trees of the present group, latest first, and `around` the
groups around that with the trees before it. Delimiters that do not balance are refused. -/
def Tree.ofTokensIn (around : List (Delimiter × List Tree)) (done : List Tree) :
    List Token → Option (List Tree)
  | [] => if around.isEmpty then some done.reverse else none
  | .identifier name source :: ts => ofTokensIn around (.identifier name source :: done) ts
  | .text value :: ts => ofTokensIn around (.text value :: done) ts
  | .literal :: ts => ofTokensIn around (.literal :: done) ts
  | .mark c joint :: ts => ofTokensIn around (.mark c joint :: done) ts
  | .opening d :: ts => ofTokensIn ((d, done) :: around) [] ts
  | .closing d :: ts =>
    match around with
    | (e, before) :: around =>
      if d = e then ofTokensIn around (.group d done.reverse :: before) ts else none
    | [] => none

/-- Groups tokens into trees. -/
def Tree.ofTokens (ts : List Token) : Option (List Tree) := ofTokensIn [] [] ts

end FeatureDocs.Code
