/-!
Powers of doubles.
-/

namespace PhotoCatalog.Number

/-- A power of a double.  The base and the exponent are both arguments: a second power is computed
as any other, and may differ in the last place from the product of the base with itself. -/
@[noinline] def power (base exponent : Float) : Float := base.pow exponent

end PhotoCatalog.Number
