import DocPages.Proofs.Tree.Trail
import DocPages.Tree.Naming

/-!
# Trees with the same nodes

Walks and searches for names look at nothing else than the nodes of a tree, so the comments can be
changed without changing what they come to.
-/

namespace DocPages

section SameNodes

variable {t u : Tree} {stops : Handle → Bool}

end SameNodes

namespace Tree

variable {t : Tree} (cs : List Comment)

end Tree

end DocPages
