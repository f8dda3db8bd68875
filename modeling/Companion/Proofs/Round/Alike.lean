import Companion.Proofs.Round.Sites

/-!
Rounds from the same files. With the log outside the tree, what a round reports and what it does to the files depends on
nothing else in the workspace: not on what was printed before, nor on where events are logged.
-/

set_option autoImplicit false

namespace Companion

variable {settings : Settings} {source : Source} {work other : Workspace}

end Companion
