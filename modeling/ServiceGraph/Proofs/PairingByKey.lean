import Mathlib.Data.List.Induction
import Mathlib.Data.Multiset.UnionInter
import ServiceGraph.Proofs.Pairing

/-!
# Pairing by a match key — multiset intersection and difference

The greedy pairing is a left fold over the earlier records (`pairStep`), and what one more
earlier record does is said once: it takes its first free match, or it is removed
(`partners_concat`, `takenBy_concat`, `unmodified_concat`, `subtractions_concat`).  The taken
later positions stay distinct and in range (`nodup_takenBy`, `lt_length_of_mem_takenBy`), so
the later records split into those at taken and those at free positions
(`countP_taken_add_countP_free`).

When two records match exactly when a key of theirs agrees (`byKey κ`), the fold keeps, for
every key `k`, as many records as the smaller side has (`countP_pairRecords_byKey`): a record
with key `k` finds a free partner exactly while fewer than the later records with key `k` are
taken (`countP_unmodified_lt_of_some`, `countP_unmodified_eq_of_none`).  So the pairing acts on
the key multisets as intersection and difference (`PairsByKey`, `pairsByKey_byKey`), and its
counts depend on nothing but those multisets.

**Match keys** (`pairing_counts_by_match_key`).  Requests match on verb, destination URL, source
method, destination class, caller class and return type (`Request.matchKey`), nodes on name,
type and path (`Node.matchKey`).  For both, of the `a` earlier and `b` later records with key
`k`, `min a b` are kept, `a - min a b` removed and `b - min a b` added; the argument and the
calling function of a request play no part.
-/

namespace ServiceGraph

section Greedy

variable {α : Type} (m : α → α → Bool)

/-- The later positions taken by the earlier records, in earlier order. -/
def takenBy (early later : List α) : List Nat := (partners m early later).filterMap id

theorem pairStep_eq (later : List α) (acc : List (Option Nat) × List Nat) (x : α) :
    pairStep m later acc x =
      (acc.1 ++ [firstFree m x later acc.2], acc.2 ++ (firstFree m x later acc.2).toList) := by
  unfold pairStep
  split <;> simp_all

/-- The fold carries the partners found so far and the positions they take. -/
theorem foldl_pairStep (early later : List α) :
    early.foldl (pairStep m later) ([], []) = (partners m early later, takenBy m early later) := by
  induction early using List.reverseRecOn with
  | nil => rfl
  | append_singleton p x ih =>
    -- the first component is `partners` by definition; the second follows the first
    refine Prod.ext rfl ?_
    rw [takenBy, partners_eq, List.foldl_concat, ih, pairStep_eq]
    cases firstFree m x later (takenBy m p later) <;> simp [takenBy]

/-- One more earlier record takes its first free match, if any. -/
theorem partners_concat (p : List α) (x : α) (later : List α) :
    partners m (p ++ [x]) later =
      partners m p later ++ [firstFree m x later (takenBy m p later)] := by
  rw [partners_eq, List.foldl_concat, foldl_pairStep, pairStep_eq]

theorem takenBy_concat (p : List α) (x : α) (later : List α) :
    takenBy m (p ++ [x]) later =
      takenBy m p later ++ (firstFree m x later (takenBy m p later)).toList := by
  rw [takenBy, partners_concat, List.filterMap_append, takenBy]
  cases firstFree m x later (takenBy m p later) <;> rfl

theorem length_partners (early later : List α) :
    (partners m early later).length = early.length := by
  induction early using List.reverseRecOn with
  | nil => rfl
  | append_singleton p x ih => simp [partners_concat, ih]

/-- A partner found is a free later position that the record matches. -/
theorem firstFree_eq_some {x : α} {later : List α} {taken : List Nat} {j : Nat}
    (h : firstFree m x later taken = some j) :
    ∃ hj : j < later.length, j ∉ taken ∧ m x later[j] = true := by
  obtain ⟨yj, hfind, rfl⟩ := Option.map_eq_some_iff.1 h
  have hp : yj.2 ∉ taken ∧ m x yj.1 = true := by simpa using List.find?_some hfind
  obtain ⟨hj, hy⟩ := List.getElem?_eq_some_iff.1
    (List.mem_zipIdx_iff_getElem?.1 (List.mem_of_find?_eq_some hfind))
  exact ⟨hj, hp.1, hy ▸ hp.2⟩

/-- No partner is found exactly when the record matches no free later position. -/
theorem firstFree_eq_none_iff (x : α) (later : List α) (taken : List Nat) :
    firstFree m x later taken = none ↔
      ∀ j (hj : j < later.length), j ∉ taken → m x later[j] = false := by
  simp only [firstFree, Option.map_eq_none_iff, List.find?_eq_none]
  constructor
  · intro h j hj hjt
    simpa [hjt] using h (later[j], j) (List.mem_zipIdx_iff_getElem?.2 (by simp))
  · rintro h ⟨y, j⟩ hmem
    obtain ⟨hj, hy⟩ := List.getElem?_eq_some_iff.1 (List.mem_zipIdx_iff_getElem?.1 hmem)
    have hy : later[j] = y := hy
    show ¬(!taken.contains j && m x y) = true
    rw [← hy]
    by_cases hjt : j ∈ taken <;> simp [hjt, h j hj]

/-- The taken positions are distinct later positions. -/
theorem nodup_takenBy_and_lt (early later : List α) :
    (takenBy m early later).Nodup ∧ ∀ j ∈ takenBy m early later, j < later.length := by
  induction early using List.reverseRecOn with
  | nil => simp [takenBy, partners]
  | append_singleton p x ih =>
    rw [takenBy_concat]
    cases hf : firstFree m x later (takenBy m p later) with
    | none => simpa using ih
    | some j =>
      obtain ⟨hj, hjt, -⟩ := firstFree_eq_some m hf
      refine ⟨?_, ?_⟩
      · rw [Option.toList_some, ← List.concat_eq_append, List.nodup_concat]
        exact ⟨hjt, ih.1⟩
      · intro i hi
        rcases List.mem_append.1 hi with hi | hi
        · exact ih.2 i hi
        · obtain rfl : i = j := by simpa using hi
          exact hj

/-! ### The three groups, one earlier record at a time -/

theorem unmodified_eq (early later : List α) :
    (pairRecords m early later).unmodified = (takenBy m early later).filterMap (later[·]?) := rfl

theorem additions_eq (early later : List α) :
    (pairRecords m early later).additions =
      ((List.range later.length).filter (!(takenBy m early later).contains ·)).filterMap
        (later[·]?) := rfl

theorem unmodified_concat (p : List α) (x : α) (later : List α) :
    (pairRecords m (p ++ [x]) later).unmodified =
      (pairRecords m p later).unmodified ++
        (firstFree m x later (takenBy m p later)).toList.filterMap (later[·]?) := by
  rw [unmodified_eq, takenBy_concat, List.filterMap_append, unmodified_eq]

/-- Positions inside `p` read the same record in `p ++ q`. -/
theorem filterMap_getElem?_append {is : List Nat} {p : List α} (q : List α)
    (h : ∀ i ∈ is, i < p.length) : is.filterMap ((p ++ q)[·]?) = is.filterMap (p[·]?) :=
  List.filterMap_congr fun i hi => List.getElem?_append_left (h i hi)

theorem subtractions_concat (p : List α) (x : α) (later : List α) :
    (pairRecords m (p ++ [x]) later).subtractions =
      (pairRecords m p later).subtractions ++
        if (firstFree m x later (takenBy m p later)).isNone then [x] else [] := by
  have hlt : ∀ i ∈ (((partners m p later).zipIdx).filter (·.1.isNone)).map (·.2),
      i < p.length := by
    intro i hi
    obtain ⟨e, he, rfl⟩ := List.mem_map.1 hi
    have hget := List.mem_zipIdx_iff_getElem?.1 (List.mem_filter.1 he).1
    simpa [length_partners] using (List.getElem?_eq_some_iff.1 hget).1
  simp only [pairRecords, pairIndices, partners_concat, List.zipIdx_append, List.filter_append,
    List.map_append, List.filterMap_append, filterMap_getElem?_append _ hlt, length_partners]
  cases firstFree m x later (takenBy m p later) <;> simp

/-! ### Taken and free positions -/

/-- The later records split into those at taken positions and those at free ones. -/
theorem countP_taken_add_countP_free (P : α → Bool) (later : List α) {S : List Nat}
    (hS : S.Nodup) (hlt : ∀ j ∈ S, j < later.length) :
    (S.filterMap (later[·]?)).countP P +
        (((List.range later.length).filter (!S.contains ·)).filterMap (later[·]?)).countP P =
      later.countP P := by
  -- the taken positions are, up to order, the positions of the range that `S` holds
  have hS' : ((List.range later.length).filter (S.contains ·)).Perm S := by
    refine (List.perm_ext_iff_of_nodup (List.nodup_range.filter _) hS).2 fun j => ?_
    simpa using fun hj => hlt j hj
  have hperm : (S ++ (List.range later.length).filter (!S.contains ·)).Perm
      (List.range later.length) :=
    (hS'.symm.append_right _).trans (List.filter_append_perm _ _)
  rw [← List.countP_append, ← List.filterMap_append, (hperm.filterMap _).countP_eq,
    filterMap_range_getElem? later later.length le_rfl, List.take_length]

end Greedy

/-! ### Matching by a key -/

section ByKey

variable {α β : Type} [DecidableEq β] (κ : α → β)

/-- Two records match when their keys agree. -/
def byKey (x y : α) : Bool := decide (κ x = κ y)

/-- A free position holds no record with the key of a record that found no partner. -/
theorem countP_free_eq_zero {x : α} {later : List α} {taken : List Nat}
    (h : firstFree (byKey κ) x later taken = none) :
    (((List.range later.length).filter (!taken.contains ·)).filterMap (later[·]?)).countP
      (κ · = κ x) = 0 := by
  rw [firstFree_eq_none_iff] at h
  refine List.countP_eq_zero.2 fun y hy => ?_
  obtain ⟨j, hj, hy⟩ := List.mem_filterMap.1 hy
  obtain ⟨hjr, hjt⟩ := List.mem_filter.1 hj
  obtain ⟨hjl, rfl⟩ := List.getElem?_eq_some_iff.1 hy
  have hm := h j hjl (by simpa using hjt)
  simpa [byKey, eq_comm] using hm

/-- A record finds a partner only while fewer than the later records with its key are taken. -/
theorem countP_unmodified_lt_of_some {p later : List α} {x : α} {j : Nat}
    (hf : firstFree (byKey κ) x later (takenBy (byKey κ) p later) = some j) :
    (pairRecords (byKey κ) p later).unmodified.countP (κ · = κ x) <
      later.countP (κ · = κ x) := by
  obtain ⟨hnd, hlt⟩ := nodup_takenBy_and_lt (byKey κ) p later
  obtain ⟨hj, hjt, hm⟩ := firstFree_eq_some _ hf
  have hkey : κ later[j] = κ x := by simpa [byKey, eq_comm] using hm
  -- the positions taken before and `j` are distinct, so they hold no more records with `x`'s
  -- key than `later` does
  have hnd' : (takenBy (byKey κ) p later ++ [j]).Nodup := by
    rw [← List.concat_eq_append, List.nodup_concat]
    exact ⟨hjt, hnd⟩
  have hlt' : ∀ i ∈ takenBy (byKey κ) p later ++ [j], i < later.length := fun i hi =>
    (List.mem_append.1 hi).elim (hlt i) fun hi => by simp_all
  have hsplit := countP_taken_add_countP_free (κ · = κ x) later hnd' hlt'
  rw [List.filterMap_append, List.countP_append, ← unmodified_eq] at hsplit
  simp [hkey, List.getElem?_eq_getElem hj] at hsplit
  omega

/-- A record that finds no partner finds every later record with its key taken. -/
theorem countP_unmodified_eq_of_none {p later : List α} {x : α}
    (hf : firstFree (byKey κ) x later (takenBy (byKey κ) p later) = none) :
    (pairRecords (byKey κ) p later).unmodified.countP (κ · = κ x) =
      later.countP (κ · = κ x) := by
  obtain ⟨hnd, hlt⟩ := nodup_takenBy_and_lt (byKey κ) p later
  have hsplit := countP_taken_add_countP_free (κ · = κ x) later hnd hlt
  rw [← unmodified_eq, countP_free_eq_zero κ hf] at hsplit
  omega

/-- Of the earlier records with key `k`, as many as there are later ones are kept and the rest
removed. -/
theorem countP_pairRecords_byKey (early later : List α) (k : β) :
    (pairRecords (byKey κ) early later).unmodified.countP (κ · = k) =
        min (early.countP (κ · = k)) (later.countP (κ · = k)) ∧
      (pairRecords (byKey κ) early later).subtractions.countP (κ · = k) =
        early.countP (κ · = k) - min (early.countP (κ · = k)) (later.countP (κ · = k)) := by
  induction early using List.reverseRecOn with
  | nil => simp [pairRecords, pairIndices, partners]
  | append_singleton p x ih =>
    obtain ⟨ihu, ihs⟩ := ih
    rw [unmodified_concat, subtractions_concat, List.countP_append, List.countP_append,
      List.countP_append, ihu, ihs]
    -- only the counts of `x`'s own key move
    cases hf : firstFree (byKey κ) x later (takenBy (byKey κ) p later) with
    | some j =>
      obtain ⟨hj, -, hm⟩ := firstFree_eq_some _ hf
      have hkey : κ later[j] = κ x := by simpa [byKey, eq_comm] using hm
      by_cases hk : κ x = k
      · subst hk
        have hfew := countP_unmodified_lt_of_some κ hf
        rw [ihu] at hfew
        simp [hkey, List.getElem?_eq_getElem hj]
        omega
      · simp [hk, hkey, List.getElem?_eq_getElem hj]
    | none =>
      by_cases hk : κ x = k
      · subst hk
        have hall := countP_unmodified_eq_of_none κ hf
        rw [ihu] at hall
        simp
        omega
      · simp [hk]

/-- The later records with key `k` that no earlier record took are added. -/
theorem countP_additions_byKey (early later : List α) (k : β) :
    (pairRecords (byKey κ) early later).additions.countP (κ · = k) =
      later.countP (κ · = k) - min (early.countP (κ · = k)) (later.countP (κ · = k)) := by
  obtain ⟨hnd, hlt⟩ := nodup_takenBy_and_lt (byKey κ) early later
  have hsplit := countP_taken_add_countP_free (κ · = k) later hnd hlt
  rw [← unmodified_eq, ← additions_eq, (countP_pairRecords_byKey κ early later k).1] at hsplit
  omega

/-- Two earlier `1`s and one later `1`: one is kept and one removed; the later `3` is added. -/
example :
    (pairRecords (byKey id) [1, 1, 2] [2, 1, 3]).unmodified = [1, 2] ∧
      (pairRecords (byKey id) [1, 1, 2] [2, 1, 3]).subtractions = [1] ∧
      (pairRecords (byKey id) [1, 1, 2] [2, 1, 3]).additions = [3] := by
  decide

theorem count_map_eq_countP (xs : List α) (k : β) :
    (xs.map κ).count k = xs.countP (κ · = k) := by
  rw [List.count_eq_countP, List.countP_map]
  rfl

end ByKey

/-! ### Pairings that treat records as their keys -/

section Spec

variable {α β : Type} [DecidableEq β]

/-- A pairing that treats records as their keys `κ`: of the `a` earlier and `b` later records
with key `k` it keeps `min a b`, removes `a - min a b` and adds `b - min a b`; so its groups are
as large as the intersection and the two differences of the key multisets, whatever the order
of either list. -/
structure PairsByKey (m : α → α → Bool) (κ : α → β) : Prop where
  countP_unmodified : ∀ (early later : List α) (k : β),
    (pairRecords m early later).unmodified.countP (κ · = k) =
      min (early.countP (κ · = k)) (later.countP (κ · = k))
  countP_subtractions : ∀ (early later : List α) (k : β),
    (pairRecords m early later).subtractions.countP (κ · = k) =
      early.countP (κ · = k) - min (early.countP (κ · = k)) (later.countP (κ · = k))
  countP_additions : ∀ (early later : List α) (k : β),
    (pairRecords m early later).additions.countP (κ · = k) =
      later.countP (κ · = k) - min (early.countP (κ · = k)) (later.countP (κ · = k))
  length_unmodified : ∀ early later : List α,
    (pairRecords m early later).unmodified.length =
      Multiset.card ((early.map κ : Multiset β) ∩ (later.map κ : Multiset β))
  length_subtractions : ∀ early later : List α,
    (pairRecords m early later).subtractions.length =
      Multiset.card ((early.map κ : Multiset β) - (later.map κ : Multiset β))
  length_additions : ∀ early later : List α,
    (pairRecords m early later).additions.length =
      Multiset.card ((later.map κ : Multiset β) - (early.map κ : Multiset β))

variable (κ : α → β)

/-- The keys of the three groups: the intersection and the two differences of the key
multisets. -/
theorem keys_pairRecords_byKey (early later : List α) :
    ((pairRecords (byKey κ) early later).unmodified.map κ : Multiset β) =
        (early.map κ : Multiset β) ∩ (later.map κ : Multiset β) ∧
      ((pairRecords (byKey κ) early later).subtractions.map κ : Multiset β) =
        (early.map κ : Multiset β) - (later.map κ : Multiset β) ∧
      ((pairRecords (byKey κ) early later).additions.map κ : Multiset β) =
        (later.map κ : Multiset β) - (early.map κ : Multiset β) := by
  refine ⟨Multiset.ext.2 fun k => ?_, Multiset.ext.2 fun k => ?_, Multiset.ext.2 fun k => ?_⟩ <;>
    simp only [Multiset.coe_count, Multiset.count_inter, Multiset.count_sub, count_map_eq_countP]
  · exact (countP_pairRecords_byKey κ early later k).1
  · rw [(countP_pairRecords_byKey κ early later k).2]
    omega
  · rw [countP_additions_byKey]
    omega

theorem pairsByKey_byKey : PairsByKey (byKey κ) κ where
  countP_unmodified early later k := (countP_pairRecords_byKey κ early later k).1
  countP_subtractions early later k := (countP_pairRecords_byKey κ early later k).2
  countP_additions := countP_additions_byKey κ
  length_unmodified early later := by
    rw [← (keys_pairRecords_byKey κ early later).1, Multiset.coe_card, List.length_map]
  length_subtractions early later := by
    rw [← (keys_pairRecords_byKey κ early later).2.1, Multiset.coe_card, List.length_map]
  length_additions early later := by
    rw [← (keys_pairRecords_byKey κ early later).2.2, Multiset.coe_card, List.length_map]

namespace PairsByKey

variable {m : α → α → Bool} {κ : α → β}

/-- Paired the other way, the added records are as many as the removed ones were. -/
theorem length_additions_swap (h : PairsByKey m κ) (xs ys : List α) :
    (pairRecords m xs ys).additions.length = (pairRecords m ys xs).subtractions.length := by
  rw [h.length_additions, h.length_subtractions]

theorem length_unmodified_swap (h : PairsByKey m κ) (xs ys : List α) :
    (pairRecords m xs ys).unmodified.length = (pairRecords m ys xs).unmodified.length := by
  rw [h.length_unmodified, h.length_unmodified, Multiset.inter_comm]

end PairsByKey

end Spec

/-! ### The match keys of requests and nodes -/

/-- What a request is matched on across snapshots: verb, destination URL, source method,
destination class, caller class and return type, never its argument or calling function. -/
def Request.matchKey (r : Request) :
    Option String × String × String × String × String × String :=
  (r.verb, r.destinationUrl, r.sourceMethod, r.destinationClassName, r.className, r.msReturn)

/-- What a node is matched on across snapshots: name, type and path. -/
def Node.matchKey (n : Node) : String × String × String := (n.name, n.kind, n.path)

theorem Request.sameAs_eq_byKey : Request.sameAs = byKey Request.matchKey := by
  funext a b
  rw [Bool.eq_iff_iff]
  simp [Request.sameAs, byKey, Request.matchKey, and_assoc]

theorem Node.sameAs_eq_byKey : Node.sameAs = byKey Node.matchKey := by
  funext a b
  rw [Bool.eq_iff_iff]
  simp [Node.sameAs, byKey, Node.matchKey, and_assoc]

/-- Requests and nodes are paired as their match keys: of the `a` earlier and `b` later records
with key `k`, `min a b` are kept, `a - min a b` removed and `b - min a b` added, and the sizes
of the three groups are those of the intersection and differences of the key multisets. -/
theorem pairing_counts_by_match_key :
    PairsByKey Request.sameAs Request.matchKey ∧ PairsByKey Node.sameAs Node.matchKey := by
  rw [Request.sameAs_eq_byKey, Node.sameAs_eq_byKey]
  exact ⟨pairsByKey_byKey _, pairsByKey_byKey _⟩

end ServiceGraph
