import FeatureDocs.Markdown.InlineReader
import FeatureDocs.Markdown.Reader
import FeatureDocs.Text.Utf8

/-!
# HTML of Markdown

A document as HTML. A block starts on a line of its own, except for raw HTML, which is passed
through; the paragraphs of a tight list are bare.

## Main definitions

* `renderInlines`, `renderBlocks`: the HTML of inline content and of blocks
* `Markdown.toHtml`: the HTML of a text
-/

namespace FeatureDocs.Markdown

/-- A character in the text of an element. -/
def bodyChar : Char → List Char
  | '&' => "&amp;".toList
  | '<' => "&lt;".toList
  | '>' => "&gt;".toList
  | c => [c]

/-- Text as the text of an element. -/
def bodyText (s : List Char) : List Char := s.flatMap bodyChar

/-- Text as the value of an attribute. -/
def attributeText (s : List Char) : List Char :=
  s.flatMap fun c => if c == '"' then "&quot;".toList else bodyChar c

/-- A digit in base sixteen. -/
def hexDigit (n : Nat) : Char := if n < 10 then Char.ofNat (0x30 + n) else Char.ofNat (0x37 + n)

/-- A byte in percent notation. -/
def percentByte (b : UInt8) : List Char := ['%', hexDigit (b.toNat / 16), hexDigit (b.toNat % 16)]

/-- The characters that stand for themselves in an address. -/
def isAddressSafe (c : Char) : Bool :=
  isAsciiAlphanumeric c || "!#$%()*+,-./:;=?@_~".toList.contains c

/-- Text as an address in an attribute. -/
def addressText (s : List Char) : List Char :=
  s.flatMap fun c =>
    if isAddressSafe c then [c]
    else if c == '&' then "&amp;".toList
    else if c == '\'' then "&#x27;".toList
    else (Utf8.encodeChar c).flatMap percentByte

/-- A title as an attribute; there is none for an empty title. -/
def titleAttribute (title : List Char) : List Char :=
  if title.isEmpty then [] else " title=\"".toList ++ attributeText title ++ ['"']

mutual

/-- The text of inline content without its elements, for an attribute. -/
def plainInline : Inline → List Char
  | .text s | .code s | .html s => attributeText s
  | .softBreak | .hardBreak => [' ']
  | .emphasis content | .strong content | .link _ _ content | .image _ content =>
    plainInlines content

/-- The text of inline contents without their elements, for an attribute. -/
def plainInlines : List Inline → List Char
  | [] => []
  | i :: is => plainInline i ++ plainInlines is

end

mutual

/-- The HTML of inline content. -/
def renderInline : Inline → List Char
  | .text s => bodyText s
  | .code s => "<code>".toList ++ bodyText s ++ "</code>".toList
  | .html s => s
  | .softBreak => ['\n']
  | .hardBreak => "<br />\n".toList
  | .emphasis content => "<em>".toList ++ renderInlines content ++ "</em>".toList
  | .strong content => "<strong>".toList ++ renderInlines content ++ "</strong>".toList
  | .link mail target content =>
    "<a href=\"".toList ++ (if mail then "mailto:".toList else []) ++
      addressText target.destination ++ ['"'] ++ titleAttribute target.title ++ ['>'] ++
      renderInlines content ++ "</a>".toList
  | .image target content =>
    "<img src=\"".toList ++ addressText target.destination ++ "\" alt=\"".toList ++
      plainInlines content ++ ['"'] ++ titleAttribute target.title ++ " />".toList

/-- The HTML of inline contents. -/
def renderInlines : List Inline → List Char
  | [] => []
  | i :: is => renderInline i ++ renderInlines is

end

/-- The output, which is given from its end on, at the start of a line. -/
def freshLine (out : List Char) : List Char :=
  match out with
  | [] => []
  | '\n' :: _ => out
  | _ => '\n' :: out

/-- The output, which is given from its end on, with more text. -/
def write (out text : List Char) : List Char := text.reverse ++ out

/-- The number in decimal. -/
def numeral (n : Nat) : List Char := (toString n).toList

/-- The opening tags of code; its language is the first word of what is said about it. -/
def codeOpening (info : List Char) : List Char :=
  let language := info.takeWhile (· != ' ')
  if language.isEmpty then "<pre><code>".toList
  else "<pre><code class=\"language-".toList ++ attributeText language ++ "\">".toList

/-- The opening tag of a list. -/
def listOpening : Option Nat → List Char
  | none => "<ul>\n".toList
  | some 1 => "<ol>\n".toList
  | some n => "<ol start=\"".toList ++ numeral n ++ "\">\n".toList

/-- The closing tag of a list. -/
def listClosing (first : Option Nat) : List Char :=
  if first.isSome then "</ol>\n".toList else "</ul>\n".toList

section

variable (definitions : Definitions)

mutual

/-- The output with a block; the paragraphs directly inside a tight list are bare. -/
def renderBlock (tight : Bool) (out : List Char) : Block → List Char
  | .paragraph text =>
    let content := renderInlines (readInlines definitions text)
    if tight then write out content
    else write (freshLine out) ("<p>".toList ++ content ++ "</p>\n".toList)
  | .heading level text =>
    let name := 'h' :: numeral level
    write (freshLine out)
      (['<'] ++ name ++ ['>'] ++ renderInlines (readInlines definitions text) ++
        "</".toList ++ name ++ ">\n".toList)
  | .code info text =>
    write (freshLine out) (codeOpening info ++ bodyText text ++ "</code></pre>\n".toList)
  | .html text => write out text
  | .thematicBreak => write (freshLine out) "<hr />\n".toList
  | .quote content =>
    write (renderBlocks false (write (freshLine out) "<blockquote>\n".toList) content)
      "</blockquote>\n".toList
  | .list first tight items =>
    write (renderItems tight (write (freshLine out) (listOpening first)) items)
      (listClosing first)

/-- The output with blocks. -/
def renderBlocks (tight : Bool) (out : List Char) : List Block → List Char
  | [] => out
  | b :: bs => renderBlocks tight (renderBlock tight out b) bs

/-- The output with the items of a list. -/
def renderItems (tight : Bool) (out : List Char) : List (List Block) → List Char
  | [] => out
  | item :: items =>
    renderItems tight
      (write (renderBlocks tight (write (freshLine out) "<li>".toList) item) "</li>\n".toList)
      items

end

end

/-- The HTML of a text. -/
def toHtml (text : String) : String :=
  let (blocks, definitions) := readBlocks text.toList
  String.ofList (renderBlocks definitions false [] blocks).reverse

end FeatureDocs.Markdown
