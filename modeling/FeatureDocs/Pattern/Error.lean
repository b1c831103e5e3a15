/-!
# Errors of step patterns
-/

namespace FeatureDocs

/-- Why a step pattern is refused. Positions count bytes of the pattern, from zero. -/
inductive PatternError where
  /-- The name of a placeholder is followed by neither `:` nor a closing brace, or its hint is
  empty or holds a blank or a brace. -/
  | invalidPlaceholder (name : String) (position : Nat)
  /-- The pattern ends inside a placeholder. -/
  | unclosedPlaceholder (name : String) (position : Nat)
  /-- A closing brace has no opening brace. -/
  | unmatchedClosingBrace (position : Nat)
  /-- An opening brace has no closing brace. -/
  | unbalancedBraces
  /-- The compiled expression would take too much space. -/
  | tooLarge
  deriving DecidableEq, Repr

/-- The most bytes that a compiled pattern may take. -/
def regexSizeLimit : Nat := 10485760

/-- The text of an error. -/
def PatternError.message : PatternError → String
  | invalidPlaceholder name position =>
    "invalid placeholder \x60" ++ name ++ "\x60 at byte " ++ toString position
  | unclosedPlaceholder name position =>
    "missing closing '\x7d' for placeholder \x60" ++ name ++ "\x60 at byte " ++ toString position
  | unmatchedClosingBrace position =>
    "unmatched closing brace '\x7d' at byte " ++ toString position
  | unbalancedBraces => "unbalanced braces in step pattern"
  | tooLarge => "Compiled regex exceeds size limit of " ++ toString regexSizeLimit ++ " bytes."

end FeatureDocs
