/-!
Wildcard patterns.  People write shell patterns, in which an asterisk stands for any run of
characters and a question mark for one character; the catalog understands `LIKE` patterns with
percent sign, underscore and the backslash as escape.  `LikePattern.ofToken` goes from one to the
other.
-/

namespace PhotoCatalog.Pattern

def escapeChar : Char := '\\'

def isWildcard (c : Char) : Bool := c == '*' || c == '?'

/-- Whether a token holds a shell wildcard. -/
def hasWildcards (token : String) : Bool := token.toList.any isWildcard

/-- A character of a `LIKE` pattern that stands for itself. -/
def escapeLikeChar (c : Char) : List Char :=
  if c = escapeChar ∨ c = '%' ∨ c = '_' then [escapeChar, c] else [c]

/-- A `LIKE` pattern that stands for exactly this text. -/
def escapeLike (text : String) : String := String.ofList (text.toList.flatMap escapeLikeChar)

/-- The `LIKE` form of one character of a shell pattern. -/
def likeOfShellChar (c : Char) : List Char :=
  if c = '*' then ['%'] else if c = '?' then ['_'] else escapeLikeChar c

/-- A token as the catalog compares it: with `=` when `exact`, else with `LIKE`.  A pattern that
begins with a percent sign cannot use an index on its column. -/
structure LikePattern where
  pattern : String
  prefixOptimizable : Bool
  exact : Bool
deriving Repr, DecidableEq

/-- The shell pattern that a token means: where substrings are searched, a token without wildcards
stands for every text that holds it. -/
def effectiveToken (token : String) (substring : Bool) : String :=
  if substring && !hasWildcards token then "*" ++ token ++ "*" else token

/-- The comparison that a token asks for. -/
def LikePattern.ofToken (token : String) (substring : Bool) : LikePattern :=
  let token := effectiveToken token substring
  if hasWildcards token then
    let pattern := token.toList.flatMap likeOfShellChar
    ⟨String.ofList pattern, pattern.head? != some '%', false⟩
  else ⟨token, true, true⟩

end PhotoCatalog.Pattern
