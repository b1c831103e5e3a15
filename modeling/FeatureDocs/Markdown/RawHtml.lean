import FeatureDocs.Markdown.Character

/-!
# Raw HTML

The pieces of HTML that may stand in Markdown: tags, comments, processing instructions,
declarations and character data; and the links that are an address between angle brackets. Each
reader starts behind the opening angle bracket and answers with what follows the piece.

## Main definitions

* `tag?`: opening and closing tags
* `rawHtml?`: any piece
* `autolink?`: an address
-/

namespace FeatureDocs.Markdown

/-- The characters of the name of an attribute, but for the first. -/
def isAttributeChar (c : Char) : Bool :=
  isAsciiAlphanumeric c || c == '_' || c == ':' || c == '.' || c == '-'

/-- Behind blanks; in a piece on one line, ends of lines do not count as blanks. -/
def skipTagBlanks (oneLine : Bool) (s : List Char) : List Char :=
  s.dropWhile fun c => isSpace c || (!oneLine && (c == '\n' || c == '\r'))

/-- Behind the value of an attribute. -/
def attributeValue? (oneLine : Bool) : List Char → Option (List Char)
  | [] => none
  | c :: s =>
    if c == '"' || c == '\'' then
      let value := s.takeWhile (· != c)
      match s.dropWhile (· != c) with
      | [] => none
      | _ :: rest =>
        if oneLine && value.any fun d => d == '\n' || d == '\r' then none else some rest
    else
      let isValueChar := fun d =>
        !isAsciiBlank d && !"\"'=<>\x60".toList.contains d
      if isValueChar c then some (s.dropWhile isValueChar) else none

/-- Behind an attribute. -/
def attribute? (oneLine : Bool) : List Char → Option (List Char)
  | [] => none
  | c :: s =>
    if Text.isAsciiLetter c || c == '_' || c == ':' then
      let rest := s.dropWhile isAttributeChar
      match skipTagBlanks oneLine rest with
      | '=' :: t => attributeValue? oneLine (skipTagBlanks oneLine t)
      | _ => some rest
    else none

/-- Behind the attributes of an opening tag and its end. Blanks stand before each attribute, and
there are at most `bound` attributes. -/
def attributesRest (oneLine : Bool) : Nat → List Char → Option (List Char)
  | 0, _ => none
  | bound + 1, s =>
    let blanks := s.head?.any isAsciiBlank
    match skipTagBlanks oneLine s with
    | '>' :: rest => some rest
    | '/' :: '>' :: rest => some rest
    | t => if blanks then (attribute? oneLine t).bind (attributesRest oneLine bound) else none

/-- Behind an opening or closing tag. -/
def tag? (oneLine : Bool) (s : List Char) : Option (List Char) :=
  let isTagChar := fun c => isAsciiAlphanumeric c || c == '-'
  match s with
  | '/' :: c :: s =>
    if Text.isAsciiLetter c then
      match (s.dropWhile isTagChar).dropWhile isSpace with
      | '>' :: rest => some rest
      | _ => none
    else none
  | c :: s =>
    if Text.isAsciiLetter c then attributesRest oneLine (s.length + 1) (s.dropWhile isTagChar)
    else none
  | [] => none

/-- Behind the first place where a word stands. -/
def afterWord (word : List Char) : List Char → Option (List Char)
  | [] => if word.isEmpty then some [] else none
  | c :: s =>
    if word.isPrefixOf (c :: s) then some ((c :: s).drop word.length) else afterWord word s

/-- Behind a piece of raw HTML. -/
def rawHtml? : List Char → Option (List Char)
  | '!' :: '-' :: '-' :: s =>
    match s with
    | '>' :: rest => some rest
    | '-' :: '>' :: rest => some rest
    | s => afterWord "-->".toList s
  | '!' :: '[' :: 'C' :: 'D' :: 'A' :: 'T' :: 'A' :: '[' :: s => afterWord "]]>".toList s
  | '!' :: c :: s => if Text.isAsciiLetter c then afterWord ['>'] s else none
  | '?' :: s => afterWord "?>".toList s
  | s => tag? false s

/-- The characters of the scheme of an address. -/
def isSchemeChar (c : Char) : Bool :=
  isAsciiAlphanumeric c || c == '.' || c == '-' || c == '+'

/-- Reads an address with a scheme. -/
def schemeAddress? (s : List Char) : Option (List Char × List Char) :=
  let scheme := s.takeWhile isSchemeChar
  match s.dropWhile isSchemeChar with
  | ':' :: t =>
    if scheme.head?.any Text.isAsciiLetter && 2 ≤ scheme.length && scheme.length ≤ 32 then
      let isAddressChar := fun (c : Char) => 0x20 < c.toNat && c != '<' && c != '>'
      match t.dropWhile isAddressChar with
      | '>' :: rest => some (scheme ++ ':' :: t.takeWhile isAddressChar, rest)
      | _ => none
    else none
  | _ => none

/-- The characters of the user of a mail address. -/
def isMailUserChar (c : Char) : Bool :=
  isAsciiAlphanumeric c || ".!#$%&'*+/=?^_\x60\x7b|\x7d~-".toList.contains c

/-- A label of the domain of a mail address: letters, digits and hyphens, no hyphen at the
ends. -/
def isDomainLabel (l : List Char) : Bool :=
  !l.isEmpty && l.length ≤ 63 && l.head? != some '-' && l.getLast? != some '-'

/-- The text in its parts between full stops. -/
def splitDots (current : List Char) : List Char → List (List Char)
  | [] => [current.reverse]
  | '.' :: s => current.reverse :: splitDots [] s
  | c :: s => splitDots (c :: current) s

/-- Reads a mail address. -/
def mailAddress? (s : List Char) : Option (List Char × List Char) :=
  let user := s.takeWhile isMailUserChar
  match s.dropWhile isMailUserChar with
  | '@' :: t =>
    let isDomainChar := fun c => isAsciiAlphanumeric c || c == '-' || c == '.'
    let domain := t.takeWhile isDomainChar
    match t.dropWhile isDomainChar with
    | '>' :: rest =>
      if !user.isEmpty && (splitDots [] domain).all isDomainLabel then
        some (user ++ '@' :: domain, rest)
      else none
    | _ => none
  | _ => none

/-- Reads an address between angle brackets; whether it is a mail address comes first. -/
def autolink? (s : List Char) : Option (Bool × List Char × List Char) :=
  match schemeAddress? s with
  | some (address, rest) => some (false, address, rest)
  | none => (mailAddress? s).map fun (address, rest) => (true, address, rest)

end FeatureDocs.Markdown
