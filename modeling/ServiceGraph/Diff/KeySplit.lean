/-!
# Splitting two key lists

`keySplit early later` compares the keys of two snapshots as sets. Each side first loses repeated
keys, keeping the first occurrence; then `additions` are the keys only in `later` (in its order),
`subtractions` the keys only in `early`, and `unmodified` the keys in both, in `early`'s order.
-/

namespace ServiceGraph

/-- How the keys of two snapshots compare. -/
structure KeySplit (α : Type) where
  additions : List α
  subtractions : List α
  unmodified : List α

/-- Whether a key was added or removed. -/
def KeySplit.hasChanges {α : Type} (k : KeySplit α) : Bool :=
  !k.additions.isEmpty || !k.subtractions.isEmpty

/-- Splits the keys of two snapshots into those only in the later, only in the earlier, and in
both. -/
def keySplit {α : Type} [BEq α] (early later : List α) : KeySplit α :=
  let e := early.eraseDups
  let l := later.eraseDups
  { additions := l.filter (!e.contains ·)
    subtractions := e.filter (!l.contains ·)
    unmodified := e.filter (l.contains ·) }

end ServiceGraph
