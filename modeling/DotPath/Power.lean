/-!
Powers of numbers.  Throughout the project a power with a natural exponent is that of the number
type itself, also where a module knows of other algebra.
-/

set_option autoImplicit false
set_option relaxedAutoImplicit false

namespace DotPath

attribute [scoped instance (high)] instPowNat

end DotPath
