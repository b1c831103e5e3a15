/-!
# JSON values

JSON values as they are written here: the numbers are natural, and the members of an object have
an order. They are printed on one line without blanks, or with every element and member on a line
of its own, two blanks deeper than what is around it; what is empty takes no lines.

## Main definitions

* `Json`: values
* `Json.compact`, `Json.pretty`: the two printed forms
-/

namespace FeatureDocs

/-- JSON values. -/
inductive Json where
  | null
  | bool (b : Bool)
  | number (n : Nat)
  | string (s : String)
  | array (elements : List Json)
  | object (members : List (String × Json))
  deriving Repr

namespace Json

/-- A hexadecimal digit. -/
def hexDigit (n : Nat) : Char := Char.ofNat (if n < 10 then 0x30 + n else 0x57 + n)

/-- A character inside a string. -/
def escapeChar (c : Char) : List Char :=
  if c == '"' then ['\\', '"']
  else if c == '\\' then ['\\', '\\']
  else if c.toNat == 0x08 then ['\\', 'b']
  else if c.toNat == 0x09 then ['\\', 't']
  else if c.toNat == 0x0A then ['\\', 'n']
  else if c.toNat == 0x0C then ['\\', 'f']
  else if c.toNat == 0x0D then ['\\', 'r']
  else if c.toNat < 0x20 then
    ['\\', 'u', '0', '0', hexDigit (c.toNat / 16), hexDigit (c.toNat % 16)]
  else [c]

/-- A string between its quotes. -/
def quoted (s : String) : String :=
  String.ofList (['"'] ++ s.toList.flatMap escapeChar ++ ['"'])

mutual

/-- A value on one line. -/
def compact : Json → String
  | null => "null"
  | bool b => if b then "true" else "false"
  | number n => toString n
  | string s => quoted s
  | array elements => "[" ++ String.intercalate "," (compactAll elements) ++ "]"
  | object members => "\x7b" ++ String.intercalate "," (compactMembers members) ++ "\x7d"

/-- Values, each on one line. -/
def compactAll : List Json → List String
  | [] => []
  | v :: vs => compact v :: compactAll vs

/-- Members, each on one line. -/
def compactMembers : List (String × Json) → List String
  | [] => []
  | m :: ms => compactMember m :: compactMembers ms

/-- A member on one line. -/
def compactMember : String × Json → String
  | (name, v) => quoted name ++ ":" ++ compact v

end

/-- The beginning of a line at a depth. -/
def indentation (depth : Nat) : String := "\n" ++ String.join (List.replicate depth "  ")

/-- Texts between brackets, each on a line of its own at one more than the given depth. -/
def block (opening closing : String) (depth : Nat) (texts : List String) : String :=
  if texts.isEmpty then opening ++ closing
  else
    opening ++ String.intercalate "," (texts.map (indentation (depth + 1) ++ ·)) ++
      indentation depth ++ closing

mutual

/-- A value on several lines, the first of which has the given depth. -/
def prettyAt (depth : Nat) : Json → String
  | null => "null"
  | bool b => if b then "true" else "false"
  | number n => toString n
  | string s => quoted s
  | array elements => block "[" "]" depth (prettyAll (depth + 1) elements)
  | object members => block "\x7b" "\x7d" depth (prettyMembers (depth + 1) members)

/-- Values on several lines each. -/
def prettyAll (depth : Nat) : List Json → List String
  | [] => []
  | v :: vs => prettyAt depth v :: prettyAll depth vs

/-- Members on several lines each. -/
def prettyMembers (depth : Nat) : List (String × Json) → List String
  | [] => []
  | m :: ms => prettyMember depth m :: prettyMembers depth ms

/-- A member on several lines. -/
def prettyMember (depth : Nat) : String × Json → String
  | (name, v) => quoted name ++ ": " ++ prettyAt depth v

end

/-- A value on several lines. -/
def pretty (v : Json) : String := v.prettyAt 0

/-- The string, or null. -/
def ofOption (s : Option String) : Json := (s.map string).getD null

/-- The array of strings. -/
def ofStrings (ss : List String) : Json := array (ss.map string)

end Json

end FeatureDocs
