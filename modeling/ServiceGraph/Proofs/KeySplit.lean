import ServiceGraph.Diff.KeySplit
import Mathlib.Data.Finset.Card

/-!
# Key splits — first occurrences, and the three groups

`eraseDups` keeps the first occurrence of each element.  Read one element at a time it adds an
element exactly when the element is new (`eraseDups_concat`), so its result holds each element
once (`nodup_eraseDups`), and it leaves a list without repeats as it is (`eraseDups_eq_self`).
Filtered, it is `firstOccurrences l p`, said by positions: the element at position `i` is kept
when it satisfies `p` and does not occur before `i` (`eraseDups_filter`).

`keySplit early later` puts each key of either side in exactly one group:

* `mem_additions`, `mem_subtractions`, `mem_unmodified`: a key is added when only `later` has it,
  removed when only `early` has it, and unmodified when both have it;
* `nodup_groups`: the three groups, one after another, hold no key twice;
* `length_groups`: together they count the keys of the union of both sides;
* `keySplit_self`: a key list split against itself has only unmodified keys;
* `perm_unmodified_swap`: split the other way, added and removed keys change places and the
  shared keys are the same, in the other order.

**Partition of the union** (`groups_partition_union`).  The added keys are the keys of `later`
missing from `early`, the removed keys those of `early` missing from `later`, and the unmodified
keys those of `early` found in `later`, each group at the keys' first occurrences in order; the
three groups hold no key twice and together make up the keys of both sides.
-/

namespace ServiceGraph

section FirstOccurrences

variable {α : Type} [BEq α] [LawfulBEq α]

theorem eraseDups_concat (l : List α) (a : α) :
    (l ++ [a]).eraseDups = if a ∈ l then l.eraseDups else l.eraseDups ++ [a] := by
  rw [List.eraseDups_append]
  by_cases h : a ∈ l <;> simp [List.removeAll, List.eraseDups_cons, h]

theorem nodup_eraseDups (l : List α) : l.eraseDups.Nodup := by
  induction l using List.reverseRecOn with
  | nil => simp
  | append_singleton l a ih =>
    rw [eraseDups_concat]
    by_cases h : a ∈ l
    · simpa [h] using ih
    · rw [if_neg h, ← List.concat_eq_append, List.nodup_concat]
      exact ⟨by simpa using h, ih⟩

theorem eraseDups_eq_self {l : List α} (h : l.Nodup) : l.eraseDups = l := by
  induction l using List.reverseRecOn with
  | nil => simp
  | append_singleton l a ih =>
    rw [← List.concat_eq_append, List.nodup_concat] at h
    rw [eraseDups_concat, if_neg h.1, ih h.2]

end FirstOccurrences

section Positions

variable {α : Type} [DecidableEq α]

/-- The elements of `l` that satisfy `p`, each at its first occurrence, in order: the element at
position `i` is kept when it satisfies `p` and does not occur before `i`. -/
def firstOccurrences (l : List α) (p : α → Prop) [DecidablePred p] : List α :=
  ((l.zipIdx).filter fun x => p x.1 ∧ x.1 ∉ l.take x.2).map (·.1)

theorem firstOccurrences_concat (l : List α) (a : α) (p : α → Prop) [DecidablePred p] :
    firstOccurrences (l ++ [a]) p =
      firstOccurrences l p ++ if p a ∧ a ∉ l then [a] else [] := by
  -- a position inside `l` sees the same elements before it in `l ++ [a]`
  have hpre : (l.zipIdx).filter (fun x => p x.1 ∧ x.1 ∉ (l ++ [a]).take x.2) =
      (l.zipIdx).filter (fun x => p x.1 ∧ x.1 ∉ l.take x.2) := by
    refine List.filter_congr fun x hx => ?_
    rw [List.take_append_of_le_length (List.snd_lt_of_mem_zipIdx hx).le]
  simp only [firstOccurrences, List.zipIdx_append, List.filter_append, List.map_append, hpre]
  by_cases h : p a ∧ a ∉ l <;> simp [h]

/-- Keeping the first occurrences, then those that satisfy `p`, keeps the first occurrences of
the elements that satisfy `p`. -/
theorem eraseDups_filter (l : List α) (p : α → Prop) [DecidablePred p] :
    l.eraseDups.filter p = firstOccurrences l p := by
  induction l using List.reverseRecOn with
  | nil => rfl
  | append_singleton l a ih =>
    rw [eraseDups_concat, firstOccurrences_concat, ← ih]
    by_cases ha : a ∈ l <;> by_cases hp : p a <;> simp [ha, hp]

end Positions

namespace KeySplit

variable {α : Type} [DecidableEq α] (early later : List α) (k : α)

theorem mem_additions : k ∈ (keySplit early later).additions ↔ k ∈ later ∧ k ∉ early := by
  simp [keySplit]

theorem mem_subtractions :
    k ∈ (keySplit early later).subtractions ↔ k ∈ early ∧ k ∉ later := by
  simp [keySplit]

theorem mem_unmodified :
    k ∈ (keySplit early later).unmodified ↔ k ∈ early ∧ k ∈ later := by
  simp [keySplit]

/-- The three groups hold distinct keys, and no key is in two of them. -/
theorem nodup_groups :
    let K := keySplit early later
    (K.additions ++ K.subtractions ++ K.unmodified).Nodup := by
  intro K
  have ha : K.additions.Nodup := (nodup_eraseDups later).filter _
  have hs : K.subtractions.Nodup := (nodup_eraseDups early).filter _
  have hu : K.unmodified.Nodup := (nodup_eraseDups early).filter _
  refine List.nodup_append.2 ⟨List.nodup_append.2 ⟨ha, hs, ?_⟩, hu, ?_⟩
  · intro a ha' b hb' hab
    subst hab
    exact ((mem_additions _ _ _).1 ha').2 ((mem_subtractions _ _ _).1 hb').1
  · intro a ha' b hb' hab
    subst hab
    rcases List.mem_append.1 ha' with ha' | ha'
    · exact ((mem_additions _ _ _).1 ha').2 ((mem_unmodified _ _ _).1 hb').1
    · exact ((mem_subtractions _ _ _).1 ha').2 ((mem_unmodified _ _ _).1 hb').2

/-- Together the groups hold every key of either side. -/
theorem mem_groups :
    let K := keySplit early later
    k ∈ K.additions ++ K.subtractions ++ K.unmodified ↔ k ∈ early ∨ k ∈ later := by
  simp only [List.mem_append, mem_additions, mem_subtractions, mem_unmodified]
  tauto

/-- The groups count the keys of the union of both sides. -/
theorem length_groups :
    let K := keySplit early later
    (K.additions ++ K.subtractions ++ K.unmodified).length =
      (early.toFinset ∪ later.toFinset).card := by
  intro K
  rw [← List.toFinset_card_of_nodup (nodup_groups early later)]
  congr 1
  ext k
  simp only [List.mem_toFinset, Finset.mem_union]
  exact mem_groups early later k

/-- A key list split against itself has only unmodified keys: its first occurrences. -/
theorem keySplit_self : keySplit early early = ⟨[], [], early.eraseDups⟩ := by
  simp only [keySplit, KeySplit.mk.injEq]
  refine ⟨?_, ?_, ?_⟩ <;> simp [List.filter_eq_nil_iff, List.filter_eq_self]

/-! ### Splitting the other way -/

/-- Split the other way, the keys only in one side change group and the shared keys stay
shared, in the other side's order. -/
theorem additions_swap : (keySplit later early).additions = (keySplit early later).subtractions :=
  rfl

theorem subtractions_swap :
    (keySplit later early).subtractions = (keySplit early later).additions := rfl

theorem perm_unmodified_swap :
    (keySplit later early).unmodified.Perm (keySplit early later).unmodified := by
  refine (List.perm_ext_iff_of_nodup ((nodup_eraseDups _).filter _)
    ((nodup_eraseDups _).filter _)).2 fun k => ?_
  exact (mem_unmodified later early k).trans (and_comm.trans (mem_unmodified early later k).symm)

/-! ### The groups by first occurrence -/

theorem additions_eq_firstOccurrences :
    (keySplit early later).additions = firstOccurrences later (· ∉ early) := by
  simp [keySplit, List.mem_eraseDups, ← eraseDups_filter]

theorem subtractions_eq_firstOccurrences :
    (keySplit early later).subtractions = firstOccurrences early (· ∉ later) := by
  simp [keySplit, List.mem_eraseDups, ← eraseDups_filter]

theorem unmodified_eq_firstOccurrences :
    (keySplit early later).unmodified = firstOccurrences early (· ∈ later) := by
  simp [keySplit, List.mem_eraseDups, ← eraseDups_filter]

/-- The added keys are those of `later` missing from `early`, the removed keys those of `early`
missing from `later`, the unmodified keys those of `early` found in `later`, each at its first
occurrence; no key is in two groups or twice in one, and together the groups hold the keys of
both sides. -/
theorem groups_partition_union :
    (keySplit early later).additions = firstOccurrences later (· ∉ early) ∧
    (keySplit early later).subtractions = firstOccurrences early (· ∉ later) ∧
    (keySplit early later).unmodified = firstOccurrences early (· ∈ later) ∧
    ((keySplit early later).additions ++ (keySplit early later).subtractions ++
      (keySplit early later).unmodified).Nodup ∧
    (keySplit early later).additions.toFinset ∪ (keySplit early later).subtractions.toFinset ∪
        (keySplit early later).unmodified.toFinset = early.toFinset ∪ later.toFinset := by
  refine ⟨additions_eq_firstOccurrences early later, subtractions_eq_firstOccurrences early later,
    unmodified_eq_firstOccurrences early later, nodup_groups early later, ?_⟩
  ext k
  simpa only [Finset.mem_union, List.mem_toFinset, List.mem_append] using mem_groups early later k

/-- Repeated keys on both sides: `3` and `2` come twice, and each group keeps one of each. -/
example :
    (keySplit [3, 1, 3, 2] [2, 4, 2, 1, 5]).additions = [4, 5] ∧
      (keySplit [3, 1, 3, 2] [2, 4, 2, 1, 5]).subtractions = [3] ∧
      (keySplit [3, 1, 3, 2] [2, 4, 2, 1, 5]).unmodified = [1, 2] := by
  decide

end KeySplit

end ServiceGraph
