import FeatureDocs.Regex.Match
import Mathlib.Data.List.Infix

/-!
# Written regular expressions

A regular expression as a text, read by the rules of its syntax, and searched for in a text. The
syntax is the part in which patterns are written: classes of characters and their repetition,
anchors, options, choices, and groups with and without a capture. Whatever lies outside is not
read at all, so that an expression that has been read means what its text says and nothing else.

The search is leftmost-first: of all matches it takes one that starts earliest, and of those the
preferred one.

## Main definitions

* `Expression`, `Expression.groups`: expressions and the number of their capturing groups
* `Expression.ways`, `Expression.captures?`: the matches in order of preference; the values of
  the groups in the match that a search finds
* `Expression.lexFrom`, `Expression.readFrom`, `Expression.read`: the reader of a text
-/

namespace FeatureDocs

/-- Regular expressions with anchors and capturing groups. -/
inductive Expression where
  /-- Nothing at all. -/
  | empty
  /-- The beginning of the text. -/
  | start
  /-- The end of the text. -/
  | stop
  /-- A class of characters, repeated or not. -/
  | atom (r : Regex)
  /-- The expression, or else nothing. -/
  | optional (e : Expression)
  /-- One expression after another. -/
  | seq (e f : Expression)
  /-- The first expression, or else the second. -/
  | either (e f : Expression)
  /-- A group that captures nothing. -/
  | group (e : Expression)
  /-- A group in which the case of ASCII letters is ignored. -/
  | ignoringCase (e : Expression)
  /-- A group that captures what it matches. -/
  | capture (e : Expression)
  deriving DecidableEq, Repr

/-- A way to match an expression at the front of a text: what it leaves over, and what each
capturing group has taken, in the order of the groups, if it has taken part. -/
abbrev MatchWay := List Char × List (Option (List Char))

namespace Expression

/-- The number of capturing groups. -/
def groups : Expression → Nat
  | empty | start | stop | atom _ => 0
  | optional e | group e | ignoringCase e => e.groups
  | seq e f | either e f => e.groups + f.groups
  | capture e => e.groups + 1

/-- The values of groups that take no part. -/
def unused (e : Expression) : List (Option (List Char)) := List.replicate e.groups none

/-- The ways to match an expression at the front of `s`, which is an end of `text`, the preferred
first. -/
def ways (text : List Char) (folded : Bool) : Expression → List Char → List MatchWay
  | empty, s => [(s, [])]
  | start, s => if s = text then [(s, [])] else []
  | stop, s => if s = [] then [(s, [])] else []
  | atom r, s => (r.rests folded s).map fun t => (t, [])
  | optional e, s => e.ways text folded s ++ [(s, e.unused)]
  | seq e f, s =>
    (e.ways text folded s).flatMap fun (t, cs) =>
      (f.ways text folded t).map fun (u, ds) => (u, cs ++ ds)
  | either e f, s =>
    ((e.ways text folded s).map fun (t, cs) => (t, cs ++ f.unused)) ++
      (f.ways text folded s).map fun (t, ds) => (t, e.unused ++ ds)
  | group e, s => e.ways text folded s
  | ignoringCase e, s => e.ways text true s
  | capture e, s =>
    (e.ways text folded s).map fun (t, cs) => (t, some (s.take (s.length - t.length)) :: cs)

/-- The match that a search finds: the preferred one of those that start earliest. -/
def firstMatch? (e : Expression) (text : List Char) : Option MatchWay :=
  text.tails.findSome? fun s => (e.ways text false s).head?

/-- The values of the groups in the match that a search finds, with the empty text for a group
that takes no part. -/
def captures? (e : Expression) (text : String) : Option (List String) :=
  (e.firstMatch? text.toList).map fun way => way.2.map fun c => String.ofList (c.getD [])

/-! ## Reading -/

/-- The signs of the syntax. -/
inductive Sign where
  | one (k : CharClass)
  | caret
  | dollar
  | openCapture
  | openGroup
  | openFolded
  | close
  | bar
  | star
  | plus
  | question
  /-- Anything outside the syntax. -/
  | foreign
  deriving DecidableEq, Repr

/-- The sign that a character is by itself. -/
def signOf (c : Char) : Sign :=
  match c with
  | '.' => .one .notNewline
  | '^' => .caret
  | '$' => .dollar
  | ')' => .close
  | '|' => .bar
  | '*' => .star
  | '+' => .plus
  | '?' => .question
  -- These count or close something, which patterns have no use for unless quoted.
  | ']' | '{' | '}' => .foreign
  | c => .one (.exactly c)

/-- The sign that a character is behind a backslash. -/
def escaped (c : Char) : Sign :=
  if c = 'd' then .one .digit else if isRegexSpecial c then .one (.exactly c) else .foreign

/-- The character stands for itself between brackets; a `-` does so at the end only. -/
def isMember (c : Char) (rest : List Char) : Bool :=
  if c = '-' then rest.head? == some ']' else !"[\\^&~".toList.contains c

/-- Where a reader of signs stands. -/
inductive Reading where
  /-- Between signs. -/
  | between
  /-- Behind a backslash. -/
  | behindBackslash
  /-- In brackets, behind some characters; the latest first. -/
  | inBrackets (members : List Char)
  /-- Before the question mark behind an opening parenthesis. -/
  | beforeFlags
  /-- Behind that question mark, and behind the flag for the case of letters if it is set. -/
  | inFlags (folded : Bool)

/-- Splits a text into signs. -/
def lexFrom : Reading → List Char → List Sign
  | .between, [] => []
  | _, [] => [.foreign]
  | .between, c :: s =>
    if c = '\\' then lexFrom .behindBackslash s
    else if c = '[' then lexFrom (.inBrackets []) s
    else if c = '(' then
      if s.head? = some '?' then lexFrom .beforeFlags s else .openCapture :: lexFrom .between s
    else signOf c :: lexFrom .between s
  | .behindBackslash, c :: s => escaped c :: lexFrom .between s
  | .inBrackets members, c :: s =>
    -- A bracket that closes at once would be a member.
    if c = ']' ∧ members ≠ [] then .one (.among members.reverse) :: lexFrom .between s
    else if isMember c s then lexFrom (.inBrackets (c :: members)) s
    else .foreign :: lexFrom .between s
  | .beforeFlags, _ :: s => lexFrom (.inFlags false) s
  | .inFlags folded, c :: s =>
    if c = ':' then (if folded then .openFolded else .openGroup) :: lexFrom .between s
    else if c = 'i' ∧ folded = false then lexFrom (.inFlags true) s
    else .foreign :: lexFrom .between s

/-- One expression after another. -/
def concat : List Expression → Expression
  | [] => empty
  | [e] => e
  | e :: es => seq e (concat es)

/-- A choice, the preferred expression first. -/
def choice : List Expression → Expression
  | [] => empty
  | [e] => e
  | e :: es => either e (choice es)

/-- What has been read of a group so far: the choices that are complete, and the items of the
present one; the latest first. -/
structure Level where
  choices : List Expression
  items : List Expression

namespace Level

/-- The group before anything has been read. -/
def fresh : Level := ⟨[], []⟩

/-- The group with one more item. -/
def push (l : Level) (e : Expression) : Level := { l with items := e :: l.items }

/-- The group with its present choice complete. -/
def nextChoice (l : Level) : Level := ⟨concat l.items.reverse :: l.choices, []⟩

/-- The expression of a complete group. -/
def toExpression (l : Level) : Expression := choice l.nextChoice.choices.reverse

/-- The group with its latest item replaced, where that is possible. -/
def revise (f : Expression → Option Expression) (l : Level) : Option Level :=
  match l.items with
  | [] => none
  | e :: es => (f e).map fun e => { l with items := e :: es }

end Level

/-- A class taken any number of times. -/
def starred : Expression → Option Expression
  | atom (.one k) => some (atom (.many k))
  | _ => none

/-- A class taken at least once. -/
def plussed : Expression → Option Expression
  | atom (.one k) => some (atom (.many1 k))
  | _ => none

/-- What a question mark makes of an item: an option, or, behind a repetition, its reluctant
form. -/
def questioned : Expression → Option Expression
  | atom (.one k) => some (optional (atom (.one k)))
  -- Behind a repetition a question mark makes no option of it.
  | atom (.many1 k) => some (atom (.fewest1 k))
  | group e => some (optional (group e))
  | ignoringCase e => some (optional (ignoringCase e))
  | capture e => some (optional (capture e))
  | _ => none

/-- Reads signs at a level that stands inside the given outer ones, each with what it makes of the
group that it is waiting for. -/
def readFrom (outer : List ((Expression → Expression) × Level)) (level : Level) :
    List Sign → Option Expression
  | [] => if outer.isEmpty then some level.toExpression else none
  | .one k :: s => readFrom outer (level.push (atom (.one k))) s
  | .caret :: s => readFrom outer (level.push start) s
  | .dollar :: s => readFrom outer (level.push stop) s
  | .openCapture :: s => readFrom ((capture, level) :: outer) .fresh s
  | .openGroup :: s => readFrom ((group, level) :: outer) .fresh s
  | .openFolded :: s => readFrom ((ignoringCase, level) :: outer) .fresh s
  | .close :: s =>
    match outer with
    | [] => none
    | (wrap, around) :: outer => readFrom outer (around.push (wrap level.toExpression)) s
  | .bar :: s => readFrom outer level.nextChoice s
  | .star :: s => (level.revise starred).bind fun level => readFrom outer level s
  | .plus :: s => (level.revise plussed).bind fun level => readFrom outer level s
  | .question :: s => (level.revise questioned).bind fun level => readFrom outer level s
  | .foreign :: _ => none

/-- Reads a written expression. -/
def read (source : String) : Option Expression :=
  readFrom [] .fresh (lexFrom .between source.toList)

end Expression

end FeatureDocs
