/-!
# Swift strings

Swift's `==` on `String` is Unicode canonical equivalence: two strings are equal when
they have the same canonical form. The Unicode tables are not part of the app, so the
form is a parameter. Any function will do for what is proved here.
-/

namespace FinanceApp

class CanonicalForm where
  canonicalForm : String → String

export CanonicalForm (canonicalForm)

/-- Swift's `==` on strings. -/
def stringEq [CanonicalForm] (a b : String) : Bool := canonicalForm a == canonicalForm b

theorem stringEq_iff [CanonicalForm] (a b : String) :
    stringEq a b = true ↔ canonicalForm a = canonicalForm b := beq_iff_eq

namespace ASCII

/-- ASCII strings are their own canonical form. -/
scoped instance form : CanonicalForm := ⟨id⟩

end ASCII

end FinanceApp
