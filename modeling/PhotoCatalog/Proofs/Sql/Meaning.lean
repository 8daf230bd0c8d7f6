import PhotoCatalog.Catalog.Truth
import PhotoCatalog.Proofs.Sql.Written

/-!
What expressions mean as conditions.  Alternatives, conjunctions and queries for rows are given by
three-valued logic; every other expression is a comparison, whose truth is a matter of the world in
which the condition is checked.
-/

namespace PhotoCatalog

namespace Catalog

theorem Truth.and_assoc (a b c : Truth) : (a.and b).and c = a.and (b.and c) := by
  rcases a with _ | _ | _ <;> rcases b with _ | _ | _ <;> rcases c with _ | _ | _ <;> rfl

theorem Truth.or_assoc (a b c : Truth) : (a.or b).or c = a.or (b.or c) := by
  rcases a with _ | _ | _ <;> rcases b with _ | _ | _ <;> rcases c with _ | _ | _ <;> rfl

theorem Truth.and_true (a : Truth) : a.and (some true) = a := by
  rcases a with _ | _ | _ <;> rfl

theorem Truth.or_false (a : Truth) : a.or (some false) = a := by
  rcases a with _ | _ | _ <;> rfl

end Catalog

namespace Sql

open PhotoCatalog.Catalog

/-- What names stand for: rows, the innermost first. -/
abbrev Scope (Row : Type) := List (String × Row)

/-- A world: the rows of every table, and the truth of every comparison where names stand for
rows. -/
structure World (Row : Type) where
  rows : String → List Row
  compares : Scope Row → Expr → Truth

/-- Whether a number is another one than zero. -/
def isNonzero (digits : String) : Bool := digits.toList.any fun c => c != '0' && c != '.'

/-- The truth of an expression as a condition; a number counts as true unless it is zero. -/
def Expr.truth {Row : Type} (world : World Row) : Scope Row → Expr → Truth
  | _, .number digits => some (isNonzero digits)
  | scope, .binary .and left right => (left.truth world scope).and (right.truth world scope)
  | scope, .binary .or left right => (left.truth world scope).or (right.truth world scope)
  | scope, .existsRow table name condition =>
    some ((world.rows table).any fun row =>
      condition.truth world ((name, row) :: scope) == some true)
  | scope, e => world.compares scope e

/-- The truth of alternatives, one after the other. -/
theorem truth_chain_or {Row : Type} (world : World Row) (scope : Scope Row) (e : Expr)
    (others : List Expr) : (chain .or e others).truth world scope =
      (e.truth world scope).or
        ((others.map (Expr.truth world scope)).foldr Truth.or (some false)) := by
  induction others generalizing e with
  | nil => exact (Truth.or_false _).symm
  | cons other others ih =>
      rw [chain, List.foldl_cons, ← chain, ih, Expr.truth, Truth.or_assoc]
      rfl

/-- The truth of a conjunction, one member after the other. -/
theorem truth_chain_and {Row : Type} (world : World Row) (scope : Scope Row) (e : Expr)
    (others : List Expr) : (chain .and e others).truth world scope =
      (e.truth world scope).and
        ((others.map (Expr.truth world scope)).foldr Truth.and (some true)) := by
  induction others generalizing e with
  | nil => exact (Truth.and_true _).symm
  | cons other others ih =>
      rw [chain, List.foldl_cons, ← chain, ih, Expr.truth, Truth.and_assoc]
      rfl

end Sql

end PhotoCatalog
