import FeatureDocs.Text.Blank

/-!
# Character references for markup characters

The text of a step argument is shown inside HTML: it is trimmed, and each of the four characters
`&`, `>`, `<` and `"` gives way to its character reference. The characters are replaced one after
another. The ampersand comes first, since every reference begins with one.
-/

namespace FeatureDocs.Text

/-- The text with every occurrence of a character replaced. -/
def replaceChar (c : Char) (replacement : List Char) (s : List Char) : List Char :=
  s.flatMap fun d => if d = c then replacement else [d]

/-- The markup characters with their references, in the order in which they are replaced. -/
def markupReferences : List (Char × List Char) :=
  [('&', ['&', 'a', 'm', 'p', ';']), ('>', ['&', 'g', 't', ';']), ('<', ['&', 'l', 't', ';']),
    ('"', ['&', 'q', 'u', 'o', 't', ';'])]

/-- The text after one replacement for each markup character. -/
def escapeMarkup (s : List Char) : List Char :=
  markupReferences.foldl (fun s r => replaceChar r.1 r.2 s) s

end FeatureDocs.Text

namespace FeatureDocs

/-- The trimmed text with its markup characters replaced by references. -/
def htmlText (content : String) : String :=
  String.ofList (Text.escapeMarkup (Text.trim content.toList))

end FeatureDocs
