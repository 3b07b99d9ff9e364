/-!
# Grouping by a key

`groupBy` puts items that share a key together.  Groups come in the order in which their keys
first appear, and the items of a group in the order they had.
-/

namespace DocPages

variable {α κ : Type} [BEq κ]

/-- The distinct keys of some items, in the order in which they first appear. -/
def keysOf (key : α → κ) (items : List α) : List κ :=
  (items.map key).eraseDups

/-- The items of each key. -/
def groupBy (key : α → κ) (items : List α) : List (κ × List α) :=
  (keysOf key items).map fun k => (k, items.filter fun x => key x == k)

end DocPages
