import Mathlib
import ServiceGraph.Proofs.Build

/-!
# Build tallies — every call is counted once

Building a graph records the outcome of each call of the document in a `Tally`.  Recording one
outcome counts one more call seen and one more call in exactly one of the four outcomes
(`record_callsSeen`, `record_classified`), a request only for a request (`record_requests`), and
leaves the number of call sites alone (`record_callSites`).  Each counter thus moves by a fixed
amount per outcome, and over the whole walk ends at the sum of those amounts
(`foldl_record_counter`).

The requests are also counted on the links: the links the routed calls build carry, under each
key, the requests of the calls with that key (`exists_routed_of_mem_entries`), so together one
request per call (`sum_requests_foldl_pushRouted`).

**Accounting** (`build_tally_accounts_for_every_call`).  Every call seen is a call without a
URL, an unresolved call, a self call or a request; the requests counted are the requests on
the graph's links; the call sites counted are the services and controllers of every
microservice; and the calls seen are the calls of all of them.
-/

namespace ServiceGraph

/-! ### Counting by key -/

/-- Counting each distinct element once, the counts add up to the length. -/
theorem sum_count_eraseDups {β : Type} [DecidableEq β] (L : List β) :
    (L.eraseDups.map fun k => L.count k).sum = L.length := by
  have hperm : L.eraseDups.Perm L.dedup :=
    (List.perm_ext_iff_of_nodup (nodup_eraseDups L) (List.nodup_dedup L)).2 fun k => by
      simp [List.mem_eraseDups]
  rw [(hperm.map _).sum_nat, List.sum_map_count_dedup_eq_length]

/-- The links the routed calls build carry one request for each call. -/
theorem sum_requests_foldl_pushRouted (R : List Routed) :
    ((R.foldl LinkTable.pushRouted {}).links.map (·.requests.length)).sum = R.length := by
  have hmap : (R.foldl LinkTable.pushRouted {}).links.map (·.requests.length) =
      (R.foldl LinkTable.pushRouted {}).keys.map fun k => (R.map Routed.key).count k := by
    simp only [LinkTable.links, LinkTable.keys, List.map_map]
    refine List.map_congr_left fun e he => ?_
    obtain ⟨-, -, -, -, -, hreq⟩ := exists_routed_of_mem_entries he
    simp [hreq, List.count, List.countP_eq_length_filter, List.filter_map, Function.comp_def]
  rw [hmap, keys_foldl_pushRouted, sum_count_eraseDups, List.length_map]

/-! ### What recording an outcome counts -/

namespace Tally

/-- The calls a tally has put in one of its four outcomes. -/
def classified (t : Tally) : Nat :=
  t.callsWithoutUrl + t.unresolvedCalls + t.selfLoops + t.requests

section Record

variable (t : Tally) (o : Outcome)

theorem record_callSites : (t.record o).callSites = t.callSites := by
  cases o <;> rfl

theorem record_callsSeen : (t.record o).callsSeen = t.callsSeen + 1 := by
  cases o <;> rfl

/-- Each recorded call lands in exactly one of the four outcomes. -/
theorem record_classified : (t.record o).classified = t.classified + 1 := by
  cases o <;> simp only [record, classified] <;> omega

theorem record_requests : (t.record o).requests = t.requests + o.routed?.toList.length := by
  cases o <;> rfl

end Record

/-- A counter that each recorded outcome moves by an amount of its own ends at its start plus
the amounts of all the outcomes. -/
theorem foldl_record_counter (f : Tally → Nat) (g : Outcome → Nat)
    (hf : ∀ t o, f (t.record o) = f t + g o) (os : List Outcome) (t : Tally) :
    f (os.foldl record t) = f t + (os.map g).sum := by
  induction os generalizing t with
  | nil => simp
  | cons o os ih => rw [List.foldl_cons, ih, hf, List.map_cons, List.sum_cons, Nat.add_assoc]

end Tally

/-! ### The tally of a built graph -/

section Build

variable (filter : Option (List String)) (d : Document)

theorem build_tally :
    (Graph.build filter d).2 = d.outcomes.foldl Tally.record
      { callSites := (d.microservices.map (·.callSites.length)).foldr (· + ·) 0 } := rfl

/-- A document has one outcome for each call of each service and each controller. -/
theorem length_outcomes :
    d.outcomes.length = (d.microservices.map fun ms =>
      (ms.services.map (·.methodCalls.length)).sum +
        (ms.controllers.map (·.methodCalls.length)).sum).sum := by
  simp [Document.outcomes, List.length_flatMap, Microservice.callSites, Function.comp_def,
    Service.toSite, Controller.toSite]

theorem build_callsSeen : (Graph.build filter d).2.callsSeen = d.outcomes.length := by
  rw [build_tally, Tally.foldl_record_counter Tally.callsSeen (fun _ => 1) Tally.record_callsSeen]
  simp

theorem build_classified : (Graph.build filter d).2.classified = d.outcomes.length := by
  rw [build_tally,
    Tally.foldl_record_counter Tally.classified (fun _ => 1) Tally.record_classified]
  simp [Tally.classified]

theorem build_requests : (Graph.build filter d).2.requests = d.routedCalls.length := by
  rw [build_tally, Tally.foldl_record_counter Tally.requests _ Tally.record_requests,
    ← outcomes_routed, List.filterMap_eq_flatMap_toList, List.length_flatMap]
  simp

theorem build_callSites :
    (Graph.build filter d).2.callSites =
      (d.microservices.map fun ms => ms.services.length + ms.controllers.length).sum := by
  have hzero : (d.outcomes.map fun _ => 0).sum = 0 := by simp
  rw [build_tally, Tally.foldl_record_counter Tally.callSites (fun _ => 0)
    fun t o => Tally.record_callSites t o, hzero, Nat.add_zero, ← List.sum_eq_foldr]
  simp [Microservice.callSites]

theorem requestCount_build : (Graph.build filter d).1.requestCount = d.routedCalls.length := by
  rw [Graph.requestCount, build_links, ← List.sum_eq_foldr, sum_requests_foldl_pushRouted]

/-- Every call seen is counted in exactly one outcome, the requests counted are the requests on
the built links, the call sites are the services and controllers of every microservice, and the
calls seen are all their calls. -/
theorem build_tally_accounts_for_every_call :
    (Graph.build filter d).2.callsSeen =
      (Graph.build filter d).2.callsWithoutUrl + (Graph.build filter d).2.unresolvedCalls +
        (Graph.build filter d).2.selfLoops + (Graph.build filter d).2.requests ∧
    (Graph.build filter d).2.requests = (Graph.build filter d).1.requestCount ∧
    (Graph.build filter d).2.callSites =
      (d.microservices.map fun ms => ms.services.length + ms.controllers.length).sum ∧
    (Graph.build filter d).2.callsSeen = (d.microservices.map fun ms =>
      (ms.services.map (·.methodCalls.length)).sum +
        (ms.controllers.map (·.methodCalls.length)).sum).sum := by
  refine ⟨?_, ?_, build_callSites filter d, (build_callsSeen filter d).trans (length_outcomes d)⟩
  · -- both count the document's outcomes
    exact (build_callsSeen filter d).trans (build_classified filter d).symm
  · rw [build_requests, requestCount_build]

end Build

end ServiceGraph
