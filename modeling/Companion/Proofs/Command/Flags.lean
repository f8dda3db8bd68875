import Companion.Command

set_option autoImplicit false

namespace Companion.Command

/-- Whether a text stands for itself among the arguments, since no dash is in front of it. -/
def IsPlain (text : String) : Prop :=
  text.toList.head? ≠ some '-'

instance (text : String) : Decidable (IsPlain text) :=
  inferInstanceAs (Decidable (_ ≠ _))

namespace Reading

variable {scope : Scope} {reading behind : Reading} {given next : Given} {flag : Flag} {text : String}

end Reading

end Companion.Command
