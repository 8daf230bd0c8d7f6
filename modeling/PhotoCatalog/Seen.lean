/-!
Paths that a search has already returned.  Searches that share them return every path once.
-/

namespace PhotoCatalog

/-- Whether a path is that of an embedded image, a `data:` address. -/
def isEmbedded (path : String) : Bool := ['d', 'a', 't', 'a', ':'].isPrefixOf path.toList

/-- Paths seen so far, each of them once. -/
structure Seen where
  paths : List String
deriving Repr, DecidableEq

namespace Seen

def empty : Seen := ⟨[]⟩

def contains (seen : Seen) (path : String) : Bool := seen.paths.contains path

def size (seen : Seen) : Nat := seen.paths.length

def insert (seen : Seen) (path : String) : Seen :=
  if seen.contains path then seen else ⟨path :: seen.paths⟩

def seed (seen : Seen) (paths : List String) : Seen := paths.foldl insert seen

def ofPaths (paths : List String) : Seen := empty.seed paths

def hasEmbedded (seen : Seen) : Bool := seen.paths.any isEmbedded

/-- Insert the paths of the items of a list one after the other, until `limit` of them had a path
that was new; the answer holds those, and the paths that are seen then.  Items behind the last one
needed are not looked at. -/
def unique {α : Type} (pathOf : α → String) (seen : Seen) :
    Option Nat → List α → List α × Seen
  | _, [] => ([], seen)
  | some 0, _ => ([], seen)
  | limit, item :: rest =>
    if seen.contains (pathOf item) then unique pathOf seen limit rest
    else
      let (items, seen) := unique pathOf (seen.insert (pathOf item)) (limit.map (· - 1)) rest
      (item :: items, seen)

end Seen

end PhotoCatalog
