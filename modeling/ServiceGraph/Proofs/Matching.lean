import ServiceGraph.Proofs.PairingByKey

/-!
# Pairing — the greedy pairing is a maximal matching

A `Matching m early later` pairs earlier positions with later positions: each earlier position
has at most one partner, no later position is the partner of two earlier ones, and each pair
matches by `m`.  Any matching splits the records three ways: the `removed` earlier records that
have no partner, in earlier order; the `kept` partners of the others, in earlier order; and the
`added` later records that are no one's partner, in later order.  Every earlier record is removed
or kept, and every later record added or kept (`length_removed_add_length_kept`,
`length_added_add_length_kept`).  A matching is `Maximal` when no removed record matches an
added one.

The greedy pairing reads the earlier records in order, and record `i` takes the first later
position it matches among those the records before it left free (`partners_getElem?`).  Read
as a function of positions it is a matching (`greedyMatching`): a later position taken by one
record is no longer free for any record after it.  Its groups are those of `pairRecords`
(`subtractions_eq_removed`, `unmodified_eq_kept`, `additions_eq_added`), and it is maximal
(`greedyMatching_maximal`): a later position free at the end was free when each earlier record
looked for a partner.

**Greedy pairing** (`pairRecords_is_maximal_matching`).  For every match predicate, symmetric or
not, `pairRecords` is the split of a maximal matching, and so keeps the counts of both sides.
-/

namespace ServiceGraph

section Matchings

variable {α : Type}

/-- A matching of earlier to later positions: each pair matches by `m`, and no later position
is the partner of two earlier ones. -/
structure Matching (m : α → α → Bool) (early later : List α) where
  partner : Fin early.length → Option (Fin later.length)
  injective : ∀ i i' j, partner i = some j → partner i' = some j → i = i'
  pairs_match : ∀ i j, partner i = some j → m early[i] later[j] = true

namespace Matching

variable {m : α → α → Bool} {early later : List α} (M : Matching m early later)

/-- The later positions taken, in earlier order. -/
def image : List (Fin later.length) := (List.finRange early.length).filterMap M.partner

/-- The unmatched earlier records, in earlier order. -/
def removed : List α :=
  ((List.finRange early.length).filter fun i => M.partner i = none).map (early[·])

/-- The partners of the matched earlier records, in earlier order. -/
def kept : List α := (List.finRange early.length).filterMap fun i => (M.partner i).map (later[·])

/-- The later records outside the image, in later order. -/
def added : List α := ((List.finRange later.length).filter (· ∉ M.image)).map (later[·])

/-- No unmatched earlier record matches a later record outside the image. -/
def Maximal : Prop := ∀ i j, M.partner i = none → j ∉ M.image → m early[i] later[j] = false

theorem mem_image (j : Fin later.length) : j ∈ M.image ↔ ∃ i, M.partner i = some j := by
  simp [image]

theorem nodup_image : M.image.Nodup :=
  (List.nodup_finRange _).filterMap fun i i' j hi hi' => M.injective i i' j hi hi'

theorem kept_eq_map_image : M.kept = M.image.map (later[·]) := by
  simp only [kept, image, List.map_filterMap]

/-- Every earlier record is either removed or kept. -/
theorem length_removed_add_length_kept : M.removed.length + M.kept.length = early.length := by
  let E := List.finRange early.length
  have hr : M.removed.length = E.countP fun i => M.partner i = none := by
    simp [E, removed, List.countP_eq_length_filter]
  have hk : M.kept.length = E.countP fun i => (M.partner i).isSome := by
    simp [E, kept, List.length_filterMap_eq_countP]
  calc M.removed.length + M.kept.length
      = E.countP (fun i => M.partner i = none) + E.countP (fun i => (M.partner i).isSome) := by
        rw [hr, hk]
    _ = E.length := by
        rw [List.length_eq_countP_add_countP fun i => M.partner i = none]
        congr 1
        exact List.countP_congr fun i _ => by simp [Option.isSome_iff_ne_none]
    _ = early.length := List.length_finRange

/-- Every later record is either added or kept: the kept records sit at distinct later
positions. -/
theorem length_added_add_length_kept : M.added.length + M.kept.length = later.length := by
  let L := List.finRange later.length
  have hperm : (L.filter (· ∈ M.image)).Perm M.image :=
    (List.perm_ext_iff_of_nodup ((List.nodup_finRange _).filter _) M.nodup_image).2
      fun j => by simp
  have ha : M.added.length = L.countP (· ∉ M.image) := by
    simp [L, added, List.countP_eq_length_filter]
  have hk : M.kept.length = L.countP (· ∈ M.image) := by
    rw [kept_eq_map_image, List.length_map, List.countP_eq_length_filter, hperm.length_eq]
  calc M.added.length + M.kept.length = L.countP (· ∈ M.image) + L.countP (· ∉ M.image) := by
        rw [ha, hk, Nat.add_comm]
    _ = L.length := by
        rw [List.length_eq_countP_add_countP fun j => decide (j ∈ M.image)]
        simp
    _ = later.length := List.length_finRange

/-- A maximal matching leaves no removed record matching an added one. -/
theorem Maximal.removed_added {M : Matching m early later} (h : M.Maximal) :
    ∀ x ∈ M.removed, ∀ y ∈ M.added, m x y = false := by
  intro x hx y hy
  obtain ⟨i, hi, rfl⟩ := List.mem_map.1 hx
  obtain ⟨j, hj, rfl⟩ := List.mem_map.1 hy
  exact h i j (by simpa using (List.mem_filter.1 hi).2) (by simpa using (List.mem_filter.1 hj).2)

end Matching

end Matchings

/-! ### The greedy pairing, one record at a time -/

section Greedy

variable {α : Type} (m : α → α → Bool)

/-- The partners found for a prefix stay as they were when more records follow. -/
theorem partners_prefix_append (p q later : List α) :
    partners m p later <+: partners m (p ++ q) later := by
  induction q using List.reverseRecOn with
  | nil => simp
  | append_singleton q x ih =>
    rw [← List.append_assoc, partners_concat]
    exact ih.trans (List.prefix_append _ _)

theorem takenBy_prefix_append (p q later : List α) :
    takenBy m p later <+: takenBy m (p ++ q) later :=
  (partners_prefix_append m p q later).filterMap id

/-- The partner of position `i` is the first free match of record `i`, where the free positions
are those the records before `i` left. -/
theorem partners_getElem? (early later : List α) (i : Nat) (hi : i < early.length) :
    (partners m early later)[i]? =
      some (firstFree m early[i] later (takenBy m (early.take i) later)) := by
  have hpre : partners m (early.take i ++ [early[i]]) later <+: partners m early later := by
    have h := partners_prefix_append m (early.take (i + 1)) (early.drop (i + 1)) later
    rwa [List.take_append_drop, List.take_succ_eq_append_getElem hi] at h
  have hlen : (partners m (early.take i) later).length = i := by
    rw [length_partners, List.length_take, Nat.min_eq_left hi.le]
  obtain ⟨rest, hrest⟩ := hpre
  rw [← hrest, List.getElem?_append_left (by simp [length_partners]; omega), partners_concat,
    List.getElem?_append_right (by omega), hlen, Nat.sub_self]
  rfl

theorem takenBy_take_of_le (early later : List α) {i i' : Nat} (h : i ≤ i') :
    takenBy m (early.take i) later <+: takenBy m (early.take i') later := by
  have hsplit := takenBy_prefix_append m ((early.take i').take i) ((early.take i').drop i) later
  rwa [List.take_append_drop, List.take_take, Nat.min_eq_left h] at hsplit

theorem takenBy_take_prefix_self (early later : List α) (i : Nat) :
    takenBy m (early.take i) later <+: takenBy m early later := by
  have hsplit := takenBy_prefix_append m (early.take i) (early.drop i) later
  rwa [List.take_append_drop] at hsplit

/-- The position a record takes is taken once the record has been read. -/
theorem mem_takenBy_take_succ {early later : List α} {i j : Nat} (hi : i < early.length)
    (h : firstFree m early[i] later (takenBy m (early.take i) later) = some j) :
    j ∈ takenBy m (early.take (i + 1)) later := by
  rw [List.take_succ_eq_append_getElem hi, takenBy_concat, h]
  simp

end Greedy

/-! ### The greedy pairing as a matching -/

section GreedyMatching

variable {α : Type} (m : α → α → Bool)

/-- The greedy pairing's partner of an earlier position, as a later position. -/
def greedyPartner (early later : List α) (i : Fin early.length) : Option (Fin later.length) :=
  (partners m early later)[i.1]?.join.bind fun j =>
    if h : j < later.length then some ⟨j, h⟩ else none

variable {early later : List α}

/-- Read as a position, the greedy partner of record `i` is its first free match. -/
theorem map_val_greedyPartner (i : Fin early.length) :
    (greedyPartner m early later i).map Fin.val =
      firstFree m early[i.1] later (takenBy m (early.take i) later) := by
  rw [greedyPartner, partners_getElem? m early later i.1 i.2, Option.join_some]
  cases hk : firstFree m early[i.1] later (takenBy m (early.take i) later) with
  | none => rfl
  | some k => simp [(firstFree_eq_some m hk).1]

theorem greedyPartner_eq_some_iff (i : Fin early.length) (j : Fin later.length) :
    greedyPartner m early later i = some j ↔
      firstFree m early[i.1] later (takenBy m (early.take i) later) = some j.1 := by
  rw [← map_val_greedyPartner]
  cases greedyPartner m early later i <;> simp [Fin.ext_iff]

theorem greedyPartner_eq_none_iff (i : Fin early.length) :
    greedyPartner m early later i = none ↔
      firstFree m early[i.1] later (takenBy m (early.take i) later) = none := by
  rw [← map_val_greedyPartner]
  cases greedyPartner m early later i <;> simp

/-- No later position is the greedy partner of two earlier ones: the record read first takes it,
so it is no longer free for the other. -/
theorem greedyPartner_injective (i i' : Fin early.length) (j : Fin later.length)
    (h : greedyPartner m early later i = some j) (h' : greedyPartner m early later i' = some j) :
    i = i' := by
  have taken_first : ∀ {a b : Fin early.length}, a.1 < b.1 →
      greedyPartner m early later a = some j → greedyPartner m early later b ≠ some j := by
    intro a b hab ha hb
    have hmem := mem_takenBy_take_succ m a.2 ((greedyPartner_eq_some_iff m a j).1 ha)
    obtain ⟨-, hfree, -⟩ := firstFree_eq_some m ((greedyPartner_eq_some_iff m b j).1 hb)
    exact hfree ((takenBy_take_of_le m early later (Nat.succ_le_of_lt hab)).subset hmem)
  rcases Nat.lt_trichotomy i.1 i'.1 with hlt | heq | hgt
  · exact absurd h' (taken_first hlt h)
  · exact Fin.ext heq
  · exact absurd h (taken_first hgt h')

/-- The greedy pairing as a matching. -/
def greedyMatching (early later : List α) : Matching m early later where
  partner := greedyPartner m early later
  injective := greedyPartner_injective m
  pairs_match i j h := (firstFree_eq_some m ((greedyPartner_eq_some_iff m i j).1 h)).2.2

/-- The partner list, position by position, is the greedy partner function. -/
theorem partners_eq_map_greedyPartner :
    partners m early later =
      (List.finRange early.length).map fun i => (greedyPartner m early later i).map Fin.val := by
  refine List.ext_getElem? fun k => ?_
  by_cases hk : k < early.length
  · simp [partners_getElem? m early later k hk, hk, map_val_greedyPartner]
  · rw [List.getElem?_eq_none (by rw [length_partners]; omega),
      List.getElem?_eq_none (by simp; omega)]

/-- The positions the pairing marks taken are the image of the greedy matching. -/
theorem takenBy_eq_map_val_image :
    takenBy m early later = (greedyMatching m early later).image.map Fin.val := by
  rw [takenBy, partners_eq_map_greedyPartner, List.filterMap_map, Matching.image,
    List.map_filterMap]
  rfl

theorem mem_greedyMatching_image (j : Fin later.length) :
    j ∈ (greedyMatching m early later).image ↔ j.1 ∈ takenBy m early later := by
  rw [takenBy_eq_map_val_image, List.mem_map]
  exact ⟨fun h => ⟨j, h, rfl⟩, fun ⟨j', h, hj⟩ => Fin.ext hj ▸ h⟩

/-- A record left without a partner matches no later record left free: that record was free
when the pairing looked for a partner of the earlier one. -/
theorem greedyMatching_maximal : (greedyMatching m early later).Maximal := by
  intro i j hi hj
  rw [mem_greedyMatching_image] at hj
  have hnone := (greedyPartner_eq_none_iff m i).1 hi
  have hfree : j.1 ∉ takenBy m (early.take i) later := fun hmem =>
    hj ((takenBy_take_prefix_self m early later i).subset hmem)
  exact (firstFree_eq_none_iff m _ _ _).1 hnone j.1 j.2 hfree

/-! ### The three groups of the greedy matching -/

/-- Numbering a list read off the positions numbers each position by itself. -/
theorem zipIdx_map_finRange {β : Type} {n : Nat} (f : Fin n → β) :
    ((List.finRange n).map f).zipIdx = (List.finRange n).map fun i => (f i, i.1) :=
  List.ext_getElem (by simp) fun k _ _ => by simp [List.getElem_zipIdx]

theorem subtractions_eq_removed :
    (pairRecords m early later).subtractions = (greedyMatching m early later).removed := by
  simp only [pairRecords, pairIndices, partners_eq_map_greedyPartner, zipIdx_map_finRange,
    List.filter_map, List.map_map, List.filterMap_map, Matching.removed]
  rw [← List.filterMap_eq_map]
  congr 1
  · funext i
    simp
  · refine List.filter_congr fun i _ => ?_
    rw [Bool.eq_iff_iff, Function.comp_apply, Option.isNone_map, Option.isNone_iff_eq_none]
    exact decide_eq_true_iff.symm

theorem unmodified_eq_kept :
    (pairRecords m early later).unmodified = (greedyMatching m early later).kept := by
  rw [unmodified_eq, takenBy_eq_map_val_image, Matching.kept_eq_map_image, List.filterMap_map,
    ← List.filterMap_eq_map]
  exact List.filterMap_congr fun j _ => by simp

theorem additions_eq_added :
    (pairRecords m early later).additions = (greedyMatching m early later).added := by
  rw [additions_eq, ← List.map_coe_finRange_eq_range, List.filter_map, List.filterMap_map,
    Matching.added, ← List.filterMap_eq_map]
  congr 1
  · funext j
    simp
  · exact List.filter_congr fun j _ => by simp [mem_greedyMatching_image]

/-- For every match predicate, the greedy pairing is the split of a maximal matching: the removed
records are the earlier records without a partner, the kept ones the partners of the others, and
the added ones the later records that are no one's partner; no removed record matches an added
one, and both sides are counted in full. -/
theorem pairRecords_is_maximal_matching (early later : List α) :
    ∃ M : Matching m early later,
      (pairRecords m early later).subtractions = M.removed ∧
      (pairRecords m early later).unmodified = M.kept ∧
      (pairRecords m early later).additions = M.added ∧
      (∀ x ∈ (pairRecords m early later).subtractions,
        ∀ y ∈ (pairRecords m early later).additions, m x y = false) ∧
      (pairRecords m early later).subtractions.length +
          (pairRecords m early later).unmodified.length = early.length ∧
      (pairRecords m early later).additions.length +
          (pairRecords m early later).unmodified.length = later.length := by
  refine ⟨greedyMatching m early later, subtractions_eq_removed m, unmodified_eq_kept m,
    additions_eq_added m, ?_, ?_, ?_⟩
  · rw [subtractions_eq_removed, additions_eq_added]
    exact (greedyMatching_maximal m).removed_added
  · rw [subtractions_eq_removed, unmodified_eq_kept]
    exact Matching.length_removed_add_length_kept _
  · rw [additions_eq_added, unmodified_eq_kept]
    exact Matching.length_added_add_length_kept _

/-- Greedy is maximal, not maximum: `1` takes the first later record above it, `3`, and `2` is
left with no partner, although pairing `1` with `2` and `2` with `3` would pair both. -/
example :
    (pairRecords (fun x y => decide (x < y)) [1, 2] [3, 2]).unmodified = [3] ∧
      (pairRecords (fun x y => decide (x < y)) [1, 2] [3, 2]).subtractions = [2] ∧
      (pairRecords (fun x y => decide (x < y)) [1, 2] [3, 2]).additions = [2] := by
  decide

end GreedyMatching

end ServiceGraph
