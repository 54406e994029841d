/-!
# Powers

A power of a natural number is the one of the core library throughout, so that the definitions read
alike where the powers of a monoid are in scope as well.
-/

namespace TypedRows

attribute [scoped instance (2000)] instPowNat

end TypedRows
