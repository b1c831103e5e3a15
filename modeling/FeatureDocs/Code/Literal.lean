import FeatureDocs.Text.Identifier

/-!
# Literals of Rust sources

The readers for literals: each answers with what follows the literal, and the readers for quoted
text with its value as well. A literal that is not well formed has no reading.

## Main definitions

* `quoted`: text between double quotes, its escapes replaced
* `rawQuoted`: text between double quotes and hashes, as it stands
* `character`, `number`: other literals
-/

namespace FeatureDocs.Code

/-- The kinds of quoted text, which differ in the escapes that they admit. -/
inductive QuoteKind where
  | text
  | bytes
  /-- Text that ends in a zero byte, and may hold no other. -/
  | zeroEnded
  deriving DecidableEq, Repr

/-- The value of a hexadecimal digit. -/
def hexValue? (c : Char) : Option Nat :=
  if '0' ≤ c ∧ c ≤ '9' then some (c.toNat - '0'.toNat)
  else if 'a' ≤ c ∧ c ≤ 'f' then some (c.toNat - 'a'.toNat + 10)
  else if 'A' ≤ c ∧ c ≤ 'F' then some (c.toNat - 'A'.toNat + 10)
  else none

/-- The value of an escape of one letter. -/
def simpleEscape? : Char → Option Char
  | 'n' => some '\n'
  | 'r' => some '\r'
  | 't' => some '\t'
  | '\\' => some '\\'
  | '\'' => some '\''
  | '"' => some '"'
  | '0' => some (Char.ofNat 0)
  | _ => none

/-- The value of an escape of two hexadecimal digits; in text it has to be an ASCII character. -/
def byteEscape? (kind : QuoteKind) (a b : Char) : Option Char := do
  let n := (← hexValue? a) * 16 + (← hexValue? b)
  if kind = .text ∧ 0x80 ≤ n then none else some (Char.ofNat n)

/-- The character of a code point. -/
def scalar? (n : Nat) : Option Char := if n.isValidChar then some (Char.ofNat n) else none

/-- Where the reader of quoted text stands. -/
inductive QuoteState where
  /-- Between characters. -/
  | plain
  /-- Behind a backslash at the end of a line, where blanks do not count. -/
  | skipping
  /-- Inside an escape of a code point, with its value and number of digits so far. -/
  | codePoint (value digits : Nat)
  deriving DecidableEq, Repr

/-- The value is allowed in quoted text of this kind. -/
def QuoteKind.admits (kind : QuoteKind) (c : Char) : Bool :=
  match kind with
  | .text => true
  | .bytes => c.toNat < 0x80
  | .zeroEnded => c.toNat != 0

/-- Puts a character in front of the value of quoted text. -/
def consValue (c : Char) (r : Option (List Char × List Char)) : Option (List Char × List Char) :=
  r.map fun (value, rest) => (c :: value, rest)

/-- Reads quoted text behind its opening quote: its value, and what follows the closing quote. A
line feed may have a carriage return before it, which does not count; any other carriage return is
refused. -/
def quoted (kind : QuoteKind) (state : QuoteState) :
    List Char → Option (List Char × List Char)
  | [] => none
  | c :: s =>
    match state with
    | .codePoint value digits =>
      if c == '_' && digits != 0 then quoted kind state s
      else if c == '}' && digits != 0 then
        match scalar? value with
        | some d => if kind.admits d then consValue d (quoted kind .plain s) else none
        | none => none
      else
        match hexValue? c with
        | some d =>
          if digits < 6 then quoted kind (.codePoint (value * 16 + d) (digits + 1)) s else none
        | none => none
    | state =>
      let skipping := state == .skipping
      if c == '"' then some ([], s)
      else if c == '\r' then
        match s with
        | '\n' :: s =>
          if skipping then quoted kind state s else consValue '\n' (quoted kind .plain s)
        | _ => none
      else if skipping && (c == ' ' || c == '\t' || c == '\n') then quoted kind state s
      else if c == '\\' then
        match s with
        | 'x' :: a :: b :: s =>
          match byteEscape? kind a b with
          | some d =>
            if kind == .bytes || kind.admits d then consValue d (quoted kind .plain s) else none
          | none => none
        | 'u' :: '{' :: s => if kind == .bytes then none else quoted kind (.codePoint 0 0) s
        | '\n' :: s => quoted kind .skipping s
        | '\r' :: '\n' :: s => quoted kind .skipping s
        | d :: s =>
          match simpleEscape? d with
          | some e =>
            if kind == .bytes || kind.admits e then consValue e (quoted kind .plain s) else none
          | none => none
        | [] => none
      else if kind.admits c then consValue c (quoted kind .plain s)
      else none

/-- Reads text behind its opening quote up to a quote with as many hashes behind it: the text as it
stands, and what follows. -/
def rawQuoted (hashes : Nat) : List Char → Option (List Char × List Char)
  | [] => none
  | '\r' :: '\n' :: s => consValue '\r' (consValue '\n' (rawQuoted hashes s))
  | '\r' :: _ => none
  | c :: s =>
    if c == '"' && s.take hashes == List.replicate hashes '#' then some ([], s.drop hashes)
    else consValue c (rawQuoted hashes s)

/-- Behind the identifier at the front, if there is one. -/
def dropIdentifier : List Char → List Char
  | [] => []
  | c :: s => if isStart c then s.dropWhile Text.isIdentifierTail else c :: s
where
  isStart (c : Char) : Bool := Text.isIdentifierStart c

/-- Behind a character literal, from its opening quote on. -/
def character (kind : QuoteKind) (s : List Char) : Option (List Char) :=
  let close : List Char → Option (List Char)
    | '\'' :: s => some (dropIdentifier s)
    | _ => none
  match s with
  | '\'' :: '\\' :: 'x' :: a :: b :: s => if (byteEscape? kind a b).isSome then close s else none
  | '\'' :: '\\' :: 'u' :: '{' :: s =>
    if kind == .bytes then none
    else
      match s.dropWhile fun c => c != '}' with
      | '}' :: rest =>
        let digits := (s.takeWhile fun c => c != '}').filter fun c => c != '_'
        if s.head? == some '_' || digits.isEmpty || 6 < digits.length then none
        else
          match digits.mapM hexValue? with
          | some ds =>
            if (scalar? (ds.foldl (fun n d => n * 16 + d) 0)).isSome then close rest else none
          | none => none
      | _ => none
  | '\'' :: '\\' :: c :: s => if (simpleEscape? c).isSome then close s else none
  | '\'' :: c :: s => if kind == .bytes && 0x80 ≤ c.toNat then none else close s
  | _ => none

/-- Behind the digits and letters of a number. -/
def dropWord (s : List Char) : List Char := s.dropWhile Text.isIdentifierTail

/-- Behind the exponent of a number, if the letters in front of it end in `e`. -/
def dropExponent (before s : List Char) : List Char :=
  match before.getLast?, s with
  | some e, sign :: d :: rest =>
    if (e == 'e' || e == 'E') && (sign == '+' || sign == '-') && Text.isAsciiDigit d then
      dropWord rest
    else s
  | _, _ => s

/-- Behind a number, from its first digit on. A full stop belongs to the number unless another one
or a name follows. -/
def number (s : List Char) : List Char :=
  let word := s.takeWhile Text.isIdentifierTail
  let radix := "0x".toList.isPrefixOf s || "0b".toList.isPrefixOf s || "0o".toList.isPrefixOf s
  let rest := dropWord s
  if radix then rest
  else
    match rest with
    | '.' :: c :: t =>
      if Text.isAsciiDigit c then
        dropExponent (t.takeWhile Text.isIdentifierTail) (dropWord t)
      else if c == '.' || Text.isIdentifierStart c then rest
      else c :: t
    | ['.'] => []
    | rest => dropExponent word rest

end FeatureDocs.Code
