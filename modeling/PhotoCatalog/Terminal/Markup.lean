/-!
Marked-up texts.  A tag in brackets, which begins with a small letter, a slash, a number sign or an
at sign, sets a style and is not shown; a backslash before the bracket takes this meaning away.
-/

namespace PhotoCatalog.Terminal

def beginsTag (c : Char) : Bool := ('a' ≤ c && c ≤ 'z') || c == '#' || c == '/' || c == '@'

/-- Split off a tag: what stands in its brackets, and what comes after it. -/
def takeTag? (cs : List Char) : Option (List Char × List Char) :=
  match cs with
  | '[' :: c :: rest =>
    if beginsTag c then
      let inside := rest.takeWhile fun d => d ≠ ']' ∧ d ≠ '['
      match rest.dropWhile fun d => d ≠ ']' ∧ d ≠ '[' with
      | ']' :: rest => some (c :: inside, rest)
      | _ => none
    else none
  | _ => none

/-- What a terminal shows of marked-up characters.  `skip` counts the characters of a tag that are
still to be left out, and `slashes` the backslashes just before. -/
def shownChars (skip slashes : Nat) : List Char → List Char
  | [] => List.replicate slashes '\\'
  | c :: rest =>
    if 0 < skip then shownChars (skip - 1) 0 rest
    else if c = '\\' then shownChars 0 (slashes + 1) rest
    else match takeTag? (c :: rest) with
      | some (inside, _) =>
        if slashes % 2 = 1 then
          List.replicate (slashes / 2) '\\' ++ c :: shownChars 0 0 rest
        else List.replicate (slashes / 2) '\\' ++ shownChars (inside.length + 1) 0 rest
      | none =>
        if c = '[' then List.replicate (slashes - 1) '\\' ++ c :: shownChars 0 0 rest
        else List.replicate slashes '\\' ++ c :: shownChars 0 0 rest

/-- What a terminal shows of a marked-up text. -/
def shown (text : String) : String := String.ofList (shownChars 0 0 text.toList)

end PhotoCatalog.Terminal
