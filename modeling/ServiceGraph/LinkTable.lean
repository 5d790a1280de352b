import ServiceGraph.Graph.Basic

/-!
# Link tables

A `LinkTable` holds links under string keys in the order the keys first came, one entry a key.
`insert` replaces the link of a key it holds, where it stands, and otherwise adds the key last;
`append` adds requests to the link from `source` to `target`, first making an empty link under
`linkKey source target` when there is none. A key never moves once it is in the table.
-/

namespace ServiceGraph

/-- Links under keys, in the order the keys first came. -/
structure LinkTable where
  entries : List (String × Link) := []

namespace LinkTable

/-- The keys in order. -/
def keys (t : LinkTable) : List String := t.entries.map (·.1)

/-- The links in order. -/
def links (t : LinkTable) : List Link := t.entries.map (·.2)

/-- The number of entries. -/
def size (t : LinkTable) : Nat := t.entries.length

/-- Whether the table holds a key. -/
def contains (t : LinkTable) (key : String) : Bool := t.entries.any (·.1 == key)

/-- The link under a key. -/
def get? (t : LinkTable) (key : String) : Option Link :=
  (t.entries.find? (·.1 == key)).map (·.2)

/-- Puts a link under a key: in place of the key's link, or last for a new key. -/
def insert (t : LinkTable) (key : String) (l : Link) : LinkTable :=
  if t.contains key then ⟨t.entries.map fun e => if e.1 == key then (key, l) else e⟩
  else ⟨t.entries ++ [(key, l)]⟩

/-- Adds requests to the link from `source` to `target`, which is made empty on first use. -/
def append (t : LinkTable) (source target : String) (rs : List Request) : LinkTable :=
  let key := linkKey source target
  if t.contains key then
    ⟨t.entries.map fun e =>
      if e.1 == key then (key, { e.2 with requests := e.2.requests ++ rs }) else e⟩
  else ⟨t.entries ++ [(key, { source, target, requests := rs })]⟩

/-- Adds one request to the link from `source` to `target`. -/
def push (t : LinkTable) (source target : String) (r : Request) : LinkTable :=
  t.append source target [r]

end LinkTable

end ServiceGraph
