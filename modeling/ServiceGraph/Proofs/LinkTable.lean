import ServiceGraph.LinkTable
import Mathlib.Data.List.Nodup

/-!
# Link tables — what each operation does to the keys and to the lookup

A link table is read through two views: its `keys`, in order, and `get?`, the link of the first
entry under a key.  `insert` and `append` each either change the link of a key the table holds,
where it stands (`modifyAt`), or add one entry last (`snoc`).  So a key never moves and a new key
comes last (`keys_insert`, `keys_append`), and only the link under the key operated on changes
(`get?_insert`, `get?_append_of_ne`).

The holder of a table reaches it through `insert` and through `get_or_create`, which hands out
the link under `linkKey source target`, made empty on first use, to be changed in any way
(`update`).  A table is `Reachable` when a sequence of these builds it from the empty table.

* `Reachable.keys_nodup`: a reachable table holds each key once.
* `get?_of_mem`: in a table whose keys are distinct, `get?` under an entry's key finds that
  entry's link, so walking the keys and looking each up walks the entries
  (`filterMap_keys_get?`).
* `entries_foldl_insert`: inserting entries of distinct keys into the empty table, in order,
  gives exactly those entries.
-/

namespace ServiceGraph.LinkTable

/-- The table with the link under `key` replaced by `f` of it, every other entry as it was. -/
def modifyAt (t : LinkTable) (key : String) (f : Link → Link) : LinkTable :=
  ⟨t.entries.map fun e => if e.1 == key then (key, f e.2) else e⟩

/-- The table with one more entry, last. -/
def snoc (t : LinkTable) (key : String) (l : Link) : LinkTable := ⟨t.entries ++ [(key, l)]⟩

/-- What the holder of a table can do through `get_or_create source target`: change the link
under `linkKey source target`, made empty on first use, by any `f`. -/
def update (t : LinkTable) (source target : String) (f : Link → Link) : LinkTable :=
  if t.contains (linkKey source target) then t.modifyAt (linkKey source target) f
  else t.snoc (linkKey source target) (f { source, target })

/-- The tables that a sequence of `insert` and `get_or_create` builds from the empty table. -/
inductive Reachable : LinkTable → Prop where
  | empty : Reachable {}
  | insert {t : LinkTable} (key : String) (l : Link) : Reachable t → Reachable (t.insert key l)
  | update {t : LinkTable} (source target : String) (f : Link → Link) :
      Reachable t → Reachable (t.update source target f)

section Views

variable (t : LinkTable) (key k : String) (l : Link) (f : Link → Link)

theorem insert_eq :
    t.insert key l = if t.contains key then t.modifyAt key (fun _ => l) else t.snoc key l := rfl

/-- `append` is `get_or_create` followed by adding the requests. -/
theorem append_eq_update (source target : String) (rs : List Request) :
    t.append source target rs =
      t.update source target (fun l => { l with requests := l.requests ++ rs }) := rfl

theorem contains_iff : t.contains key = true ↔ key ∈ t.keys := by
  simp [contains, keys]

@[simp] theorem keys_modifyAt : (t.modifyAt key f).keys = t.keys := by
  simp only [modifyAt, keys, List.map_map]
  refine List.map_congr_left fun e _ => ?_
  by_cases h : e.1 = key <;> simp [h]

@[simp] theorem keys_snoc : (t.snoc key l).keys = t.keys ++ [key] := by
  simp [snoc, keys]

theorem get?_eq_none_iff : t.get? key = none ↔ key ∉ t.keys := by
  simp only [get?, keys, Option.map_eq_none_iff, List.find?_eq_none, beq_iff_eq, List.mem_map]
  exact ⟨fun h ⟨e, he, hk⟩ => h e he hk, fun h e he hk => h ⟨e, he, hk⟩⟩

theorem get?_isSome_iff : (t.get? key).isSome ↔ key ∈ t.keys := by
  rw [← not_iff_not, Option.not_isSome_iff_eq_none, get?_eq_none_iff]

/-- `modifyAt` changes the link found under its own key and no other. -/
theorem get?_modifyAt :
    (t.modifyAt key f).get? k = (t.get? k).map fun l => if k = key then f l else l := by
  simp only [modifyAt, get?, List.find?_map, Option.map_map]
  -- the change keeps every entry's key, so the search finds the same entry
  have hp : ((fun e : String × Link => e.1 == k) ∘
      fun e => if e.1 == key then (key, f e.2) else e) = fun e => e.1 == k := by
    funext e; by_cases h : e.1 = key <;> simp [h]
  rw [hp]
  refine Option.map_congr fun e he => ?_
  have hk : e.1 = k := by simpa using List.find?_some he
  by_cases h : k = key <;> simp [hk, h]

theorem get?_snoc_self (h : key ∉ t.keys) : (t.snoc key l).get? key = some l := by
  have hn : t.get? key = none := (t.get?_eq_none_iff key).2 h
  simp only [get?, Option.map_eq_none_iff] at hn
  simp [snoc, get?, List.find?_append, hn]

theorem get?_snoc_of_ne (h : k ≠ key) : (t.snoc key l).get? k = t.get? k := by
  simp [snoc, get?, List.find?_append, Ne.symm h]

end Views

/-! ### `insert`, `append` and `update` -/

section Operations

variable (t : LinkTable) (key k : String) (l : Link)

theorem keys_insert :
    (t.insert key l).keys = if key ∈ t.keys then t.keys else t.keys ++ [key] := by
  by_cases h : key ∈ t.keys <;> simp [insert_eq, contains_iff, h]

theorem get?_insert : (t.insert key l).get? k = if k = key then some l else t.get? k := by
  by_cases hk : k = key
  · subst hk
    by_cases h : k ∈ t.keys
    · obtain ⟨l', hl'⟩ := Option.isSome_iff_exists.1 ((t.get?_isSome_iff k).2 h)
      simp [insert_eq, contains_iff, h, get?_modifyAt, hl']
    · simp [insert_eq, contains_iff, h, get?_snoc_self]
  · by_cases h : key ∈ t.keys
    · simp [insert_eq, contains_iff, h, get?_modifyAt, hk]
    · simp [insert_eq, contains_iff, h, get?_snoc_of_ne _ _ _ _ hk, hk]

theorem keys_update (source target : String) (f : Link → Link) :
    (t.update source target f).keys =
      if linkKey source target ∈ t.keys then t.keys else t.keys ++ [linkKey source target] := by
  by_cases h : linkKey source target ∈ t.keys <;> simp [update, contains_iff, h]

theorem keys_append (source target : String) (rs : List Request) :
    (t.append source target rs).keys =
      if linkKey source target ∈ t.keys then t.keys else t.keys ++ [linkKey source target] := by
  rw [append_eq_update, keys_update]

/-- Appending to a link the table holds extends its requests. -/
theorem get?_append_of_get? {source target : String} {l : Link}
    (h : t.get? (linkKey source target) = some l) (rs : List Request) :
    (t.append source target rs).get? (linkKey source target) =
      some { l with requests := l.requests ++ rs } := by
  have hk : linkKey source target ∈ t.keys := (t.get?_isSome_iff _).1 (by simp [h])
  simp [append_eq_update, update, contains_iff, hk, get?_modifyAt, h]

/-- Appending to a link the table lacks makes it, with the appended requests. -/
theorem get?_append_of_none {source target : String}
    (h : t.get? (linkKey source target) = none) (rs : List Request) :
    (t.append source target rs).get? (linkKey source target) =
      some { source, target, requests := rs } := by
  have hk : linkKey source target ∉ t.keys := (t.get?_eq_none_iff _).1 h
  simp only [append_eq_update, update, contains_iff, hk, if_false]
  exact get?_snoc_self _ _ _ hk

theorem get?_append_of_ne {source target : String} (hk : k ≠ linkKey source target)
    (rs : List Request) : (t.append source target rs).get? k = t.get? k := by
  by_cases h : linkKey source target ∈ t.keys
  · simp [append_eq_update, update, contains_iff, h, get?_modifyAt, hk]
  · simp only [append_eq_update, update, contains_iff, h, if_false]
    exact get?_snoc_of_ne _ _ _ _ hk

end Operations

/-! ### Distinct keys -/

theorem nodup_ite_snoc {ks : List String} (h : ks.Nodup) (key : String) :
    (if key ∈ ks then ks else ks ++ [key]).Nodup := by
  by_cases hk : key ∈ ks
  · simpa [hk] using h
  · rw [if_neg hk, ← List.concat_eq_append, List.nodup_concat]
    exact ⟨hk, h⟩

/-- A reachable table holds each key once. -/
theorem Reachable.keys_nodup {t : LinkTable} (h : Reachable t) : t.keys.Nodup := by
  induction h with
  | empty => simp [keys]
  | insert key l _ ih => rw [keys_insert]; exact nodup_ite_snoc ih key
  | update source target f _ ih => rw [keys_update]; exact nodup_ite_snoc ih _

/-- In a list of entries with distinct keys, the search by an entry's key finds that entry. -/
theorem find?_fst_of_mem {β : Type} {es : List (String × β)} (h : (es.map (·.1)).Nodup)
    {e : String × β} (he : e ∈ es) : es.find? (·.1 == e.1) = some e := by
  cases hf : es.find? (·.1 == e.1) with
  | none =>
    simp only [List.find?_eq_none, beq_iff_eq] at hf
    exact absurd rfl (hf e he)
  | some e' =>
    have hk : e'.1 = e.1 := by simpa using List.find?_some hf
    rw [List.inj_on_of_nodup_map h (List.mem_of_find?_eq_some hf) he hk]

/-- With distinct keys, `get?` under an entry's key finds that entry's link. -/
theorem get?_of_mem {t : LinkTable} (h : t.keys.Nodup) {e : String × Link} (he : e ∈ t.entries) :
    t.get? e.1 = some e.2 := by
  simp [get?, find?_fst_of_mem h he]

/-- With distinct keys, looking each key up in turn walks the entries. -/
theorem filterMap_keys_get? {β : Type} {t : LinkTable} (h : t.keys.Nodup)
    (G : String → Option Link → Option β) :
    t.keys.filterMap (fun k => G k (t.get? k)) = t.entries.filterMap fun e => G e.1 (some e.2) := by
  simp only [keys, List.filterMap_map]
  refine List.filterMap_congr fun e he => ?_
  simp [get?_of_mem h he]

/-- Inserting entries of new, distinct keys puts them last, in order. -/
theorem entries_foldl_insert_of_nodup (es : List (String × Link)) (t : LinkTable)
    (h : (t.keys ++ es.map (·.1)).Nodup) :
    (es.foldl (fun t e => t.insert e.1 e.2) t).entries = t.entries ++ es := by
  induction es generalizing t with
  | nil => simp
  | cons e es ih =>
    have hnew : e.1 ∉ t.keys := fun hm =>
      (List.nodup_append.1 h).2.2 _ hm _ (List.mem_map_of_mem List.mem_cons_self) rfl
    have hstep : t.insert e.1 e.2 = t.snoc e.1 e.2 := by simp [insert_eq, contains_iff, hnew]
    rw [List.foldl_cons, hstep, ih]
    · simp [snoc]
    · simpa [List.nodup_append, and_assoc] using h

theorem entries_foldl_insert (es : List (String × Link)) (h : (es.map (·.1)).Nodup) :
    (es.foldl (fun t e => t.insert e.1 e.2) ({} : LinkTable)).entries = es := by
  simpa using entries_foldl_insert_of_nodup es {} (by simpa [keys] using h)

end ServiceGraph.LinkTable
