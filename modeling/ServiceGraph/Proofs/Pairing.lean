import ServiceGraph.Diff.Pairing
import Mathlib.Data.List.Basic

/-!
# Pairing — a record list paired with itself

`partners` is a left fold: each earlier record, in turn, takes the first later position that it
matches and no earlier record has taken (`pairStep`).  Paired with itself by a match that every
record has with itself, the list pairs each record with its own position: after the first `i`
records exactly the positions below `i` are taken (`foldl_take_pairStep_self`), so record `i`
finds every earlier position taken and its own free (`firstFree_range_self`).  Duplicates change
nothing: a record equal to an earlier one finds that one's position already taken.

* `partners_self`: the partner of position `i` is `i`.
* `pairRecords_self`: nothing is added or removed, and the kept records are the list itself.
-/

namespace ServiceGraph

section Greedy

variable {α : Type} (m : α → α → Bool)

/-- One step of the greedy pairing: the next earlier record takes its first free match. -/
def pairStep (later : List α) (acc : List (Option Nat) × List Nat) (x : α) :
    List (Option Nat) × List Nat :=
  match firstFree m x later acc.2 with
  | some j => (acc.1 ++ [some j], acc.2 ++ [j])
  | none => (acc.1 ++ [none], acc.2)

theorem partners_eq (early later : List α) :
    partners m early later = (early.foldl (pairStep m later) ([], [])).1 := rfl

/-- With every position before `i` taken, a record that matches itself takes its own
position. -/
theorem firstFree_range_self (hm : ∀ x, m x x = true) (xs : List α) (i : Nat)
    (hi : i < xs.length) : firstFree m xs[i] xs (List.range i) = some i := by
  have hfind : (xs.zipIdx).find? (fun yj => !(List.range i).contains yj.2 && m xs[i] yj.1) =
      some (xs[i], i) := by
    rw [List.find?_eq_some_iff_getElem]
    exact ⟨by simp [hm], i, by simpa using hi, by simp, fun j hj => by simp [hj]⟩
  rw [firstFree, hfind]
  rfl

/-- Pairing a list with itself: after its first `i` records, the first `i` positions are taken,
each by its own record. -/
theorem foldl_take_pairStep_self (hm : ∀ x, m x x = true) (xs : List α) :
    ∀ i, i ≤ xs.length →
      (xs.take i).foldl (pairStep m xs) ([], []) = ((List.range i).map some, List.range i)
  | 0, _ => rfl
  | i + 1, hi => by
    have hi' : i < xs.length := hi
    rw [List.take_add_one, List.getElem?_eq_getElem hi', Option.toList_some, List.foldl_concat,
      foldl_take_pairStep_self hm xs i (by omega)]
    simp [pairStep, firstFree_range_self m hm xs i hi', List.range_succ]

theorem partners_self (hm : ∀ x, m x x = true) (xs : List α) :
    partners m xs xs = (List.range xs.length).map some := by
  have h := foldl_take_pairStep_self m hm xs xs.length (Nat.le_refl _)
  rw [List.take_length] at h
  rw [partners_eq, h]

/-- The records at the first `n` positions, read by position. -/
theorem filterMap_range_getElem? (xs : List α) :
    ∀ n, n ≤ xs.length → (List.range n).filterMap (xs[·]?) = xs.take n
  | 0, _ => rfl
  | n + 1, hn => by
    rw [List.range_succ, List.filterMap_append, filterMap_range_getElem? xs n (by omega),
      List.take_add_one]
    simp [List.getElem?_eq_getElem (show n < xs.length by omega)]

/-- A list paired with itself, by a match that holds of every record and itself, has nothing
added or removed, and keeps every record. -/
theorem pairRecords_self (hm : ∀ x, m x x = true) (xs : List α) :
    pairRecords m xs xs = ⟨[], [], xs⟩ := by
  simp only [pairRecords, pairIndices, partners_self m hm xs, RecordSplit.mk.injEq]
  refine ⟨?_, ?_, ?_⟩
  · simp
  · -- every position is paired, so no earlier record is left without a partner
    suffices h : ((List.range xs.length).map some).zipIdx.filter (·.1.isNone) = [] by simp [h]
    refine List.filter_eq_nil_iff.2 fun e he => ?_
    obtain ⟨j, -, hj⟩ := List.mem_map.1 (List.fst_mem_of_mem_zipIdx he)
    simp [← hj]
  · simpa using filterMap_range_getElem? xs xs.length (Nat.le_refl _)

end Greedy

/-! ### The two match predicates -/

theorem Request.sameAs_self (r : Request) : r.sameAs r = true := by
  simp [Request.sameAs]

theorem Node.sameAs_self (n : Node) : n.sameAs n = true := by
  simp [Node.sameAs]

end ServiceGraph
