import Mathlib
import ServiceGraph.LinkTable

/-!
# Link tables with their index

A link table is stored as its entries in order together with `positions`, a hash map from each
key to the place of its entry, so that a key is found without a search. `get` and `containsKey`
read the map alone. `insert` and `getOrCreate` look the key up there first: a key with a place
has its entry changed where it stands, a new key has its entry pushed last and its place
recorded. `getOrCreate` hands out the place of the link, where its holder goes on to read or
change it (`linkAt`, `modifyLink`).

The keys, the links, the size and the JSON form are those of the entries (`LinkTable`); they never
look at `positions`. Graphs hold the bare `LinkTable`, whose `get?` searches the entries: what a
stored table shows through its entries, as long as its index is exact.
-/

namespace ServiceGraph.LinkTable

/-- A link table with the place of each key's entry. -/
structure Indexed extends LinkTable where
  positions : Std.HashMap String Nat := {}

namespace Indexed

/-- The link at a place. -/
def linkAt (t : Indexed) (pos : Nat) : Option Link := t.entries[pos]?.map (·.2)

/-- The link under a key, found at the key's recorded place. -/
def get (t : Indexed) (key : String) : Option Link := t.positions[key]?.bind t.linkAt

/-- Whether a key has a recorded place. -/
def containsKey (t : Indexed) (key : String) : Bool := t.positions.contains key

/-- Puts a link under a key and hands back the link it replaces. A key with a place keeps its
entry there with the new link; a new key is pushed last. -/
def insert (t : Indexed) (key : String) (l : Link) : Indexed × Option Link :=
  match t.positions[key]? with
  | some pos => ({ t with entries := t.entries.modify pos fun e => (e.1, l) }, t.linkAt pos)
  | none =>
    ({ entries := t.entries ++ [(key, l)], positions := t.positions.insert key t.entries.length },
      none)

/-- The place of the link from `source` to `target`, which is made empty on first use. -/
def getOrCreate (t : Indexed) (source target : String) : Indexed × Nat :=
  let key := linkKey source target
  match t.positions[key]? with
  | some pos => (t, pos)
  | none =>
    ({ entries := t.entries ++ [(key, { source, target })],
       positions := t.positions.insert key t.entries.length }, t.entries.length)

/-- Changes the link at a place, as the holder of a place handed out by `getOrCreate` does. -/
def modifyLink (t : Indexed) (pos : Nat) (f : Link → Link) : Indexed :=
  { t with entries := t.entries.modify pos fun e => (e.1, f e.2) }

end Indexed

end ServiceGraph.LinkTable
