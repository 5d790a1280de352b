import Mathlib
import ServiceGraph.LinkTable.Indexed
import ServiceGraph.Proofs.LinkTable
import ServiceGraph.Proofs.KeySplit
import ServiceGraph.Graph.Wire

/-!
# Link tables with their index — the index stays exact

A stored link table is read through `positions` (`get`, `containsKey`) and through its entries
(`keys`, `size`, the JSON form).  The two agree when the index is exact (`WellIndexed`): the
keys are distinct, and `positions` holds exactly the keys, each at the place of its entry.

The holder of a table uses it in two ways (`Use`): `insert`, and `getOrCreate` followed by any
change of the link at the place it hands out.  On a table whose index is exact each use does
one of two things (`WellIndexed.apply_eq`): for a key the table holds it changes the link under
that key where it stands (`modifyAt`) and leaves the index alone; for a new key it pushes one
entry last (`snoc`) and records its place, the old size.  Both keep the index exact, so every
table that a sequence of uses builds from the empty table has an exact index
(`wellIndexed_run`), and on it the stored table behaves as the bare one (`toLinkTable_run`):
the reachable bare tables are exactly those the runs show (`reachable_iff_exists_run`).

**The index stays exact** (`run_keeps_index_exact`).  After any sequence of uses, the keys are
distinct and `positions` maps exactly them, each to its place; `get` finds the link stored under
a key, the same as the search of the bare table, and `containsKey` agrees with the keys; the
keys are the keys used, each once, in the order of first use, and their number is the size; a
place once given never changes; `insert` on a held key changes only its link and hands back the
old one, `getOrCreate` on a held key hands out the stored link untouched, and a new key goes
last; the JSON form holds every key once, in that order.
-/

namespace ServiceGraph.LinkTable

/-! ### The bare table -/

/-- A position of `l ++ [a]` is one of `l`, or the last one, which holds `a`. -/
theorem getElem?_concat_eq_some_iff {α : Type} {l : List α} {a x : α} {i : Nat} :
    (l ++ [a])[i]? = some x ↔ l[i]? = some x ∨ (i = l.length ∧ a = x) := by
  rw [List.getElem?_append]
  by_cases hi : i < l.length
  · simp [hi, Nat.ne_of_lt hi]
  · simp [hi, List.getElem?_cons]
    omega

/-- Changing the entry at the place of key `k`, in a list of entries with distinct keys, is
changing the entry whose key is `k`. -/
theorem modify_eq_map_of_getElem? {β : Type} {es : List (String × β)}
    (hn : (es.map (·.1)).Nodup) {i : Nat} {k : String} (hi : (es.map (·.1))[i]? = some k)
    (f : β → β) :
    es.modify i (fun e => (e.1, f e.2)) = es.map fun e => if e.1 == k then (k, f e.2) else e := by
  obtain ⟨hlt, hk⟩ := List.getElem_of_getElem? hi
  refine List.ext_getElem (by simp) fun j h₁ _ => ?_
  have hj : j < es.length := by simpa using h₁
  -- the entry at `j` has key `k` exactly when `j` is the place of `k`
  have hkey : es[j].1 = k ↔ i = j := by
    rw [← hk, List.getElem_map,
      ← List.getElem_map (f := fun e : String × β => e.1) (h := by simpa using hj),
      ← List.getElem_map (f := fun e : String × β => e.1) (h := by simpa using hlt),
      hn.getElem_inj_iff, eq_comm]
  rw [List.getElem_modify, List.getElem_map]
  by_cases hij : i = j
  · subst hij
    simp [hkey.2 rfl]
  · simp [hij, mt hkey.1 hij]

/-- With distinct keys, `get?` finds a link exactly when the table stores it under the key. -/
theorem get?_eq_some_iff {t : LinkTable} (h : t.keys.Nodup) {k : String} {l : Link} :
    t.get? k = some l ↔ (k, l) ∈ t.entries := by
  constructor
  · intro hg
    obtain ⟨e, he, rfl⟩ := Option.map_eq_some_iff.1 hg
    have hk : e.1 = k := by simpa using List.find?_some he
    rw [← hk]
    exact List.mem_of_find?_eq_some he
  · intro hm
    simpa using get?_of_mem h hm

/-- Changing the link under a key just put last changes that last entry. -/
theorem modifyAt_snoc_self {t : LinkTable} {key : String} (hk : key ∉ t.keys) (l : Link)
    (f : Link → Link) : (t.snoc key l).modifyAt key f = t.snoc key (f l) := by
  have hkeep : t.entries.map (fun e => if e.1 = key then (key, f e.2) else e) = t.entries := by
    conv_rhs => rw [← List.map_id t.entries]
    refine List.map_congr_left fun e he => ?_
    have hne : e.1 ≠ key := fun he' => hk (he' ▸ List.mem_map_of_mem he)
    simp [hne]
  simp [modifyAt, snoc, hkeep]

namespace Indexed

/-! ### An exact index -/

/-- The index is exact: the keys are distinct, and `positions` holds exactly the keys, each at the
place of its entry. -/
structure WellIndexed (t : Indexed) : Prop where
  nodup : t.keys.Nodup
  positions_eq_some : ∀ (k : String) (i : Nat), t.positions[k]? = some i ↔ t.keys[i]? = some k

theorem WellIndexed.empty : WellIndexed {} :=
  ⟨by simp [keys], fun k i => by simp [keys]⟩

namespace WellIndexed

variable {t : Indexed} (h : WellIndexed t) {k : String} {i : Nat}
include h

theorem mem_keys_of_positions (hi : t.positions[k]? = some i) : k ∈ t.keys :=
  List.mem_of_getElem? ((h.positions_eq_some k i).1 hi)

theorem positions_eq_none_iff : t.positions[k]? = none ↔ k ∉ t.keys := by
  constructor
  · intro hn hk
    obtain ⟨i, hi⟩ := List.mem_iff_getElem?.1 hk
    rw [(h.positions_eq_some k i).2 hi] at hn
    cases hn
  · intro hk
    cases hp : t.positions[k]? with
    | none => rfl
    | some i => exact absurd (h.mem_keys_of_positions hp) hk

theorem exists_positions_of_mem (hk : k ∈ t.keys) : ∃ i, t.positions[k]? = some i :=
  Option.ne_none_iff_exists'.1 fun hn => (h.positions_eq_none_iff.1 hn) hk

theorem containsKey_iff : t.containsKey k = true ↔ k ∈ t.keys := by
  rw [containsKey, ← Std.HashMap.isSome_getElem?_eq_contains, Option.isSome_iff_ne_none,
    Ne, h.positions_eq_none_iff, not_not]

/-- The entry at a key's place carries that key. -/
theorem entry_of_positions (hi : t.positions[k]? = some i) : ∃ l, t.entries[i]? = some (k, l) := by
  have hk := (h.positions_eq_some k i).1 hi
  simp only [keys, List.getElem?_map, Option.map_eq_some_iff] at hk
  obtain ⟨e, he, rfl⟩ := hk
  exact ⟨e.2, he⟩

/-- `get` through the index finds what the search of the bare table finds. -/
theorem get_eq_get? : t.get k = t.toLinkTable.get? k := by
  cases hp : t.positions[k]? with
  | none =>
    have hk := h.positions_eq_none_iff.1 hp
    simp [get, hp, (LinkTable.get?_eq_none_iff _ _).2 hk]
  | some i =>
    obtain ⟨l, hl⟩ := h.entry_of_positions hp
    have hg : t.toLinkTable.get? k = some l := by
      simpa using get?_of_mem h.nodup (List.mem_of_getElem? hl)
    simp [get, hp, linkAt, hl, hg]

theorem get_eq_some_iff {l : Link} : t.get k = some l ↔ (k, l) ∈ t.entries := by
  rw [h.get_eq_get?, get?_eq_some_iff h.nodup]

/-! ### What each operation does on an exact index -/

/-- A change at a key's place is a change of the link under that key. -/
theorem modifyLink_of_positions (hi : t.positions[k]? = some i) (f : Link → Link) :
    t.modifyLink i f = ⟨t.toLinkTable.modifyAt k f, t.positions⟩ := by
  have hm := modify_eq_map_of_getElem? h.nodup ((h.positions_eq_some k i).1 hi) f
  simp only [modifyLink, hm]
  rfl

theorem insert_of_mem (hk : k ∈ t.keys) (l : Link) :
    t.insert k l = (⟨t.toLinkTable.modifyAt k fun _ => l, t.positions⟩, t.get k) := by
  obtain ⟨i, hi⟩ := h.exists_positions_of_mem hk
  -- putting a link at the key's place is changing the link there to a constant
  have hput : t.insert k l = (t.modifyLink i fun _ => l, t.linkAt i) := by
    simp [insert, hi, modifyLink]
  rw [hput, h.modifyLink_of_positions hi]
  simp [get, hi]

theorem insert_of_not_mem (hk : k ∉ t.keys) (l : Link) :
    t.insert k l = (⟨t.toLinkTable.snoc k l, t.positions.insert k t.size⟩, none) := by
  simp only [insert, h.positions_eq_none_iff.2 hk]
  rfl

theorem getOrCreate_of_mem {source target : String} (hk : linkKey source target ∈ t.keys) :
    ∃ i, t.positions[linkKey source target]? = some i ∧ t.getOrCreate source target = (t, i) := by
  obtain ⟨i, hi⟩ := h.exists_positions_of_mem hk
  exact ⟨i, hi, by simp [getOrCreate, hi]⟩

theorem getOrCreate_of_not_mem {source target : String} (hk : linkKey source target ∉ t.keys) :
    t.getOrCreate source target =
      (⟨t.toLinkTable.snoc (linkKey source target) { source, target },
        t.positions.insert (linkKey source target) t.size⟩, t.size) := by
  simp only [getOrCreate, h.positions_eq_none_iff.2 hk]
  rfl

/-! ### The two changes keep the index exact -/

theorem modifyAt (f : Link → Link) : WellIndexed ⟨t.toLinkTable.modifyAt k f, t.positions⟩ :=
  ⟨by simpa using h.nodup, by simpa using h.positions_eq_some⟩

theorem snoc (hk : k ∉ t.keys) (l : Link) :
    WellIndexed ⟨t.toLinkTable.snoc k l, t.positions.insert k t.size⟩ where
  nodup := by
    rw [keys_snoc, ← List.concat_eq_append, List.nodup_concat]
    exact ⟨hk, h.nodup⟩
  positions_eq_some k' i := by
    rw [keys_snoc, getElem?_concat_eq_some_iff, Std.HashMap.getElem?_insert]
    by_cases hk' : k = k'
    · -- the new key sits at the old size and nowhere before it
      subst hk'
      have hnot : t.keys[i]? ≠ some k := fun h' => hk (List.mem_of_getElem? h')
      have hlen : t.size = t.keys.length := by simp [size, keys]
      simp [hnot, hlen, eq_comm]
    · simp [hk', h.positions_eq_some]

end WellIndexed

/-! ### Uses and runs -/

/-- One use of a stored table by its holder: `insert`, or `getOrCreate` followed by a change
`f` of the link at the place handed out. -/
inductive Use where
  | insert (key : String) (l : Link)
  | getOrCreate (source target : String) (f : Link → Link)

namespace Use

/-- The key a use goes to. -/
def key : Use → String
  | .insert key _ => key
  | .getOrCreate source target _ => linkKey source target

/-- The link a use leaves under a key the table lacks. -/
def newLink : Use → Link
  | .insert _ l => l
  | .getOrCreate source target f => f { source, target }

/-- What a use does to the link under a key the table holds. -/
def change : Use → Link → Link
  | .insert _ l => fun _ => l
  | .getOrCreate _ _ f => f

/-- A use of a stored table. -/
def apply (t : Indexed) : Use → Indexed
  | .insert key l => (t.insert key l).1
  | .getOrCreate source target f =>
    (t.getOrCreate source target).1.modifyLink (t.getOrCreate source target).2 f

/-- The same use of the bare table. -/
def onTable (t : LinkTable) : Use → LinkTable
  | .insert key l => t.insert key l
  | .getOrCreate source target f => t.update source target f

theorem onTable_eq (t : LinkTable) (u : Use) :
    u.onTable t =
      if u.key ∈ t.keys then t.modifyAt u.key u.change else t.snoc u.key u.newLink := by
  cases u with
  | insert k l =>
    by_cases hk : k ∈ t.keys <;> simp [onTable, insert_eq, contains_iff, key, change, newLink, hk]
  | getOrCreate source target f =>
    by_cases hk : linkKey source target ∈ t.keys <;>
      simp [onTable, update, contains_iff, key, change, newLink, hk]

end Use

/-- The stored table a sequence of uses builds from the empty table. -/
def run (us : List Use) : Indexed := us.foldl Use.apply {}

theorem run_concat (us : List Use) (u : Use) : run (us ++ [u]) = u.apply (run us) := by
  simp [run]

namespace WellIndexed

variable {t : Indexed} (h : WellIndexed t)
include h

/-- A use changes the link under a held key in place, or puts a new key last at the old size. -/
theorem apply_eq (u : Use) :
    u.apply t =
      if u.key ∈ t.keys then ⟨t.toLinkTable.modifyAt u.key u.change, t.positions⟩
      else ⟨t.toLinkTable.snoc u.key u.newLink, t.positions.insert u.key t.size⟩ := by
  cases u with
  | insert key l =>
    by_cases hk : key ∈ t.keys
    · simp [Use.apply, h.insert_of_mem hk, hk, Use.key, Use.change]
    · simp [Use.apply, h.insert_of_not_mem hk, hk, Use.key, Use.newLink]
  | getOrCreate source target f =>
    by_cases hk : linkKey source target ∈ t.keys
    · obtain ⟨i, hi, hg⟩ := h.getOrCreate_of_mem hk
      simp [Use.apply, hg, h.modifyLink_of_positions hi, hk, Use.key, Use.change]
    · -- the empty link is pushed last, then changed where it stands
      have hnew := h.snoc hk { source, target }
      have hpos : (t.positions.insert (linkKey source target) t.size)[linkKey source target]? =
          some t.size := Std.HashMap.getElem?_insert_self
      simp only [Use.apply, h.getOrCreate_of_not_mem hk, hnew.modifyLink_of_positions hpos,
        modifyAt_snoc_self hk, Use.key, Use.newLink, hk, if_false]

theorem apply (u : Use) : WellIndexed (u.apply t) := by
  rw [h.apply_eq]
  split_ifs with hk
  · exact h.modifyAt _
  · exact h.snoc hk _

theorem keys_apply (u : Use) :
    (u.apply t).keys = if u.key ∈ t.keys then t.keys else t.keys ++ [u.key] := by
  rw [h.apply_eq]
  split_ifs <;> simp

/-- A place once given stays with its key. -/
theorem positions_apply {k : String} {i : Nat} (hi : t.positions[k]? = some i) (u : Use) :
    (u.apply t).positions[k]? = some i := by
  rw [h.apply_eq]
  split_ifs with hk
  · exact hi
  · have hne : u.key ≠ k := fun he => hk (he ▸ h.mem_keys_of_positions hi)
    simp [Std.HashMap.getElem?_insert, hne, hi]

theorem toLinkTable_apply (u : Use) : (u.apply t).toLinkTable = u.onTable t.toLinkTable := by
  rw [h.apply_eq, Use.onTable_eq]
  split_ifs <;> rfl

end WellIndexed

/-! ### Runs -/

theorem wellIndexed_run (us : List Use) : WellIndexed (run us) := by
  induction us using List.reverseRecOn with
  | nil => exact .empty
  | append_singleton us u ih =>
    rw [run_concat]
    exact ih.apply u

/-- The keys of a run are the keys used, each at its first use. -/
theorem keys_run (us : List Use) : (run us).keys = (us.map Use.key).eraseDups := by
  induction us using List.reverseRecOn with
  | nil => simp [run, keys]
  | append_singleton us u ih =>
    rw [run_concat, (wellIndexed_run us).keys_apply, ih, List.map_append, List.map_singleton,
      eraseDups_concat]
    simp

-- a link asked for again keeps its first place
example : (run [.getOrCreate "z" "a" id, .getOrCreate "a" "z" id, .getOrCreate "m" "n" id,
    .getOrCreate "z" "a" id]).keys = ["z --> a", "a --> z", "m --> n"] := by
  rw [keys_run]
  decide

theorem size_run (us : List Use) : (run us).size = (us.map Use.key).toFinset.card := by
  have hlen : (run us).size = (run us).keys.length := by simp [size, keys]
  have hset : (us.map Use.key).eraseDups.toFinset = (us.map Use.key).toFinset := by
    ext k
    simp
  rw [hlen, keys_run, ← hset, List.toFinset_card_of_nodup (nodup_eraseDups _)]

theorem positions_run_append {us : List Use} {k : String} {i : Nat}
    (hi : (run us).positions[k]? = some i) (vs : List Use) :
    (run (us ++ vs)).positions[k]? = some i := by
  induction vs using List.reverseRecOn with
  | nil => simpa using hi
  | append_singleton vs v ih =>
    rw [← List.append_assoc, run_concat]
    exact (wellIndexed_run _).positions_apply ih v

theorem toLinkTable_run_concat (us : List Use) (u : Use) :
    (run (us ++ [u])).toLinkTable = u.onTable (run us).toLinkTable := by
  rw [run_concat, (wellIndexed_run us).toLinkTable_apply]

/-- Seen through its entries, a run of the stored table is the same run of the bare table. -/
theorem toLinkTable_run (us : List Use) :
    (run us).toLinkTable = us.foldl Use.onTable {} := by
  induction us using List.reverseRecOn with
  | nil => rfl
  | append_singleton us u ih =>
    rw [toLinkTable_run_concat, ih, List.foldl_append]
    rfl

/-- The reachable bare tables are exactly those that runs of the stored table show. -/
theorem reachable_iff_exists_run (t : LinkTable) :
    t.Reachable ↔ ∃ us, (run us).toLinkTable = t := by
  constructor
  · intro ht
    -- each step of reachability is one more use at the end of the run
    induction ht with
    | empty => exact ⟨[], rfl⟩
    | insert key l _ ih =>
      obtain ⟨us, rfl⟩ := ih
      exact ⟨us ++ [.insert key l], toLinkTable_run_concat us _⟩
    | update source target f _ ih =>
      obtain ⟨us, rfl⟩ := ih
      exact ⟨us ++ [.getOrCreate source target f], toLinkTable_run_concat us _⟩
  · rintro ⟨us, rfl⟩
    induction us using List.reverseRecOn with
    | nil => exact .empty
    | append_singleton us u ih =>
      rw [toLinkTable_run_concat]
      cases u with
      | insert key l => exact .insert key l ih
      | getOrCreate source target f => exact .update source target f ih

/-- **The index stays exact.** -/
theorem run_keeps_index_exact (us : List Use) :
    let t := run us
    (t.keys.Nodup ∧ ∀ (k : String) (i : Nat), t.positions[k]? = some i ↔ t.keys[i]? = some k) ∧
    (∀ k, t.get k = t.toLinkTable.get? k ∧ ∀ l, t.get k = some l ↔ (k, l) ∈ t.entries) ∧
    (∀ k, t.containsKey k = true ↔ k ∈ t.keys) ∧
    t.keys = (us.map Use.key).eraseDups ∧
    t.size = (us.map Use.key).toFinset.card ∧
    (∀ (k : String) (i : Nat) vs,
      t.positions[k]? = some i → (run (us ++ vs)).positions[k]? = some i) ∧
    (∀ k l, k ∈ t.keys →
      t.insert k l = (⟨t.toLinkTable.modifyAt k fun _ => l, t.positions⟩, t.get k)) ∧
    (∀ source target, linkKey source target ∈ t.keys →
      ∃ i, t.getOrCreate source target = (t, i) ∧ t.linkAt i = t.get (linkKey source target)) ∧
    (∀ k l, k ∉ t.keys →
      t.insert k l = (⟨t.toLinkTable.snoc k l, t.positions.insert k t.size⟩, none)) ∧
    (∀ source target, linkKey source target ∉ t.keys →
      t.getOrCreate source target =
        (⟨t.toLinkTable.snoc (linkKey source target) { source, target },
          t.positions.insert (linkKey source target) t.size⟩, t.size)) ∧
    ∃ fs, t.toLinkTable.toValue = .obj fs ∧ fs.map (·.1) = (us.map Use.key).eraseDups := by
  intro t
  have h := wellIndexed_run us
  refine ⟨⟨h.nodup, h.positions_eq_some⟩, fun k => ⟨h.get_eq_get?, fun l => h.get_eq_some_iff⟩,
    fun k => h.containsKey_iff, keys_run us, size_run us,
    fun k i vs hi => positions_run_append hi vs, fun k l hk => h.insert_of_mem hk l, ?_,
    fun k l hk => h.insert_of_not_mem hk l, fun source target hk => h.getOrCreate_of_not_mem hk,
    ?_⟩
  · -- a held key hands out its own place, where the stored link is
    intro source target hk
    obtain ⟨i, hi, hg⟩ := h.getOrCreate_of_mem hk
    exact ⟨i, hg, by simp [t, get, hi]⟩
  · -- the JSON fields are the entries, whose keys are the keys of the run
    refine ⟨_, rfl, ?_⟩
    rw [List.map_map, ← keys_run]
    rfl

end Indexed

end ServiceGraph.LinkTable
