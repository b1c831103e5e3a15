import FeatureDocs.Code.Attribute
import FeatureDocs.Code.Lexer

/-!
# Items

The items of a source: free functions and inline modules with what they hold, and other items, of
which only their end is looked for. A list of trees that is no list of items has no reading.

## Main definitions

* `Item`, `SourceReader`: items, and what reads them
* `Item.ofSource?`: the items of a source
-/

namespace FeatureDocs.Code

/-- The items of a source. -/
inductive Item where
  /-- A function with a body: its attributes, the inner ones last, its name, and the source from
  the keyword `fn` on. -/
  | function (attributes : List Attribute) (name : String) (source : List Char)
  /-- A module with a body. -/
  | module (name : String) (items : List Item)
  /-- Any other item. -/
  | other

/-- A reader of sources: the items of a source, if it is well-formed. -/
abbrev SourceReader := List Char → Option (List Item)

/-- Behind the bracket that closes the `depth` open ones. An arrow is no bracket. -/
def skipAngles (depth : Nat) : List Tree → Option (List Tree)
  | [] => none
  | .mark '-' true :: .mark '>' _ :: ts => skipAngles depth ts
  | .mark '<' _ :: ts => skipAngles (depth + 1) ts
  | .mark '>' _ :: ts => if depth ≤ 1 then some ts else skipAngles (depth - 1) ts
  | _ :: ts => skipAngles depth ts

/-- Behind the generic parameters, if there are any. -/
def skipGenerics : List Tree → Option (List Tree)
  | .mark '<' _ :: ts => skipAngles 1 ts
  | ts => some ts

/-- The body that ends an item, or none if the item ends in a semicolon; and what follows the item.
A group in braces inside angle brackets is no body. -/
def findBody (depth : Nat) : List Tree → Option (Option (List Tree) × List Tree)
  | [] => none
  | .mark '-' true :: .mark '>' _ :: ts => findBody depth ts
  | .mark '<' _ :: ts => findBody (depth + 1) ts
  | .mark '>' _ :: ts => findBody (depth - 1) ts
  | .mark ';' _ :: ts => some (none, ts)
  | .group .brace body :: ts =>
    if depth = 0 then some (some body, ts) else findBody depth ts
  | _ :: ts => findBody depth ts

/-- Behind the next semicolon. -/
def findSemicolon : List Tree → Option (List Tree)
  | [] => none
  | .mark ';' _ :: ts => some ts
  | _ :: ts => findSemicolon ts

/-- The trees do not start with a semicolon. -/
def startsFilled : List Tree → Bool
  | .mark ';' _ :: _ => false
  | _ => true

/-- The visibility in front of an item. -/
def skipVisibility : List Tree → Bool × List Tree
  | .identifier "pub" _ :: .group .parenthesis [.identifier name source] :: ts =>
    if name ∈ ["crate", "self", "super"] then (true, ts)
    else (true, .group .parenthesis [.identifier name source] :: ts)
  | .identifier "pub" _ :: .group .parenthesis (.identifier "in" _ :: _) :: ts => (true, ts)
  | .identifier "pub" _ :: ts => (true, ts)
  | ts => (false, ts)

/-- Behind a word, if it stands there. -/
def skipWord (word : String) : List Tree → List Tree
  | .identifier name source :: ts => if name == word then ts else .identifier name source :: ts
  | ts => ts

/-- Behind the calling convention of a function, if one is given. -/
def skipConvention : List Tree → List Tree
  | .identifier "extern" _ :: .text _ :: ts | .identifier "extern" _ :: ts => ts
  | ts => ts

/-- The keyword `fn` behind the qualifiers of a function, and what follows it. -/
def functionKeyword? (ts : List Tree) : Option (List Char × List Tree) :=
  match skipConvention (skipWord "unsafe" (skipWord "async" (skipWord "const" ts))) with
  | .identifier "fn" source :: ts => some (source, ts)
  | _ => none

/-- What the first trees of a list say: an item, or a module whose content is still to be read. -/
inductive Head where
  | item (i : Item)
  | module (name : String) (content : List Tree)

/-- Reads a function behind its keyword. -/
def functionItem (attributes : List Attribute) (source : List Char) :
    List Tree → Option (Head × List Tree)
  | .identifier name _ :: ts =>
    if !isName name then none
    else
      match skipGenerics ts with
      | some (.group .parenthesis _ :: ts) =>
        match findBody 0 ts with
        | some (some body, rest) =>
          (innerAttributes body).map fun (inner, _) =>
            (.item (.function (attributes ++ inner) name source), rest)
        | some (none, rest) => some (.item .other, rest)
        | none => none
      | _ => none
  | _ => none

/-- A module may have the name `try`, which is a keyword elsewhere. -/
def isModuleName (name : String) : Bool := isName name || name == "try"

/-- Reads a module behind its keyword. -/
def moduleItem : List Tree → Option (Head × List Tree)
  | .identifier name _ :: .mark ';' _ :: ts =>
    if isModuleName name then some (.item .other, ts) else none
  | .identifier name _ :: .group .brace content :: ts =>
    if isModuleName name then
      (innerAttributes content).map fun (_, items) => (.module name items, ts)
    else none
  | _ => none

/-- Reads a structure behind its keyword. -/
def structItem (ts : List Tree) : Option (Head × List Tree) :=
  match skipGenerics ts with
  | some (.group .parenthesis _ :: ts) => (findSemicolon ts).map (.item .other, ·)
  | some ts => (findBody 0 ts).map fun (_, rest) => (.item .other, rest)
  | none => none

/-- Reads an item that ends in a body, behind its keyword. -/
def bodiedItem (ts : List Tree) : Option (Head × List Tree) :=
  match findBody 0 ts with
  | some (some _, rest) => some (.item .other, rest)
  | _ => none

/-- Reads an item that ends in a semicolon and holds something before it, behind its keyword. -/
def semicolonItem (ts : List Tree) : Option (Head × List Tree) :=
  if startsFilled ts then (findSemicolon ts).map (.item .other, ·) else none

/-- Reads an item that has a name, behind its keyword. -/
def named (read : List Tree → Option (Head × List Tree)) : List Tree → Option (Head × List Tree)
  | .identifier name _ :: ts => if isName name then read ts else none
  | _ => none

/-- Reads a call of a macro: braces end it, other delimiters need a semicolon behind. -/
def macroItem (ts : List Tree) : Option (Head × List Tree) :=
  match path? ts with
  | some (_, .mark '!' _ :: ts) =>
    let ts :=
      match ts with
      | .identifier name source :: ts =>
        if isName name || name == "try" then ts else .identifier name source :: ts
      | ts => ts
    match ts with
    | .group .brace _ :: ts => some (.item .other, ts)
    | .group _ _ :: .mark ';' _ :: ts => some (.item .other, ts)
    | _ => none
  | _ => none

/-- Reads an item that starts with a word other than those of a function. -/
def wordItem (visible : Bool) : List Tree → Option (Head × List Tree)
  | .identifier "mod" _ :: ts | .identifier "unsafe" _ :: .identifier "mod" _ :: ts => moduleItem ts
  | .identifier "use" _ :: ts => semicolonItem ts
  | .identifier "static" _ :: .identifier "mut" _ :: ts => named semicolonItem ts
  | .identifier "static" _ :: ts => named semicolonItem ts
  | .identifier "const" _ :: .identifier "_" _ :: ts => semicolonItem ts
  | .identifier "const" _ :: ts => named semicolonItem ts
  | .identifier "type" _ :: ts => named (fun ts => (findSemicolon ts).map (.item .other, ·)) ts
  | .identifier "struct" _ :: ts => named structItem ts
  | .identifier "enum" _ :: ts => named bodiedItem ts
  | .identifier "extern" _ :: .identifier "crate" _ :: ts => semicolonItem ts
  | .identifier "extern" _ :: .text _ :: .group .brace _ :: ts
  | .identifier "extern" _ :: .group .brace _ :: ts
  | .identifier "unsafe" _ :: .identifier "extern" _ :: .text _ :: .group .brace _ :: ts
  | .identifier "unsafe" _ :: .identifier "extern" _ :: .group .brace _ :: ts =>
    some (.item .other, ts)
  | .identifier "trait" _ :: ts
  | .identifier "auto" _ :: .identifier "trait" _ :: ts
  | .identifier "unsafe" _ :: .identifier "trait" _ :: ts
  | .identifier "unsafe" _ :: .identifier "auto" _ :: .identifier "trait" _ :: ts =>
    named (fun ts => (findBody 0 ts).map fun (_, rest) => (.item .other, rest)) ts
  | .identifier "impl" _ :: ts
  | .identifier "unsafe" _ :: .identifier "impl" _ :: ts
  | .identifier "default" _ :: .identifier "impl" _ :: ts
  | .identifier "default" _ :: .identifier "unsafe" _ :: .identifier "impl" _ :: ts =>
    bodiedItem ts
  | .identifier "macro" _ :: ts =>
    named (fun
      | .group .parenthesis _ :: .group .brace _ :: ts | .group .brace _ :: ts =>
        some (.item .other, ts)
      | _ => none) ts
  | .identifier "union" source :: .identifier name source' :: ts =>
    if isName name then bodiedItem ts
    else if visible then none
    else macroItem (.identifier "union" source :: .identifier name source' :: ts)
  | ts => if visible then none else macroItem ts

/-- Reads what stands at the front of a list of items. -/
def head? (ts : List Tree) : Option (Head × List Tree) :=
  match outerAttributes ts with
  | none => none
  | some (attributes, ts) =>
    let (visible, ts) := skipVisibility ts
    match functionKeyword? ts with
    | some (source, rest) => functionItem attributes source rest
    | none => wordItem visible ts

/-- The items that trees are; no list of items holds more than `bound`. -/
def itemsWithin : Nat → List Tree → Option (List Item)
  | _, [] => some []
  | 0, _ :: _ => none
  | bound + 1, ts =>
    match head? ts with
    | none => none
    | some (.item i, rest) => (itemsWithin bound rest).map (i :: ·)
    | some (.module name content, rest) =>
      match itemsWithin bound content, itemsWithin bound rest with
      | some inner, some items => some (.module name inner :: items)
      | _, _ => none

/-- The items of a source. -/
def Item.ofSource? : SourceReader := fun source =>
  match Tree.ofSource? (sourceText source) with
  | none => none
  | some ts =>
    match innerAttributes ts with
    | none => none
    | some (_, ts) => itemsWithin source.length ts

end FeatureDocs.Code
