import ServiceGraph.Ir.Decode

/-!
# The shape check — a document is refused at its first shortfall

Before a JSON value is read as a document, `shapeFlaw` looks at the containers the graph is built
from and stops at the first one that falls short.  What it should find is every shortfall, in the
order it visits them (`shapeViolations`): the root, then `microservices`, then item by item the
item itself, its `controllers` and its `services`.  An item that is no object has no containers
to look at, so it has that one shortfall.

A value has the *shape* of a document (`Shaped`) when its root is an object whose
`microservices` is an array of objects that each hold a `controllers` and a `services` array.

* `shapeViolations_eq_nil_iff`: a value has no shortfall exactly when it has the shape.
* `shapeFlaw_eq_head?`: the check returns the first shortfall of the list, so its early returns
  skip no place and take none out of order (`itemsFlaw_eq_head?` for the item loop).

**First shortfall** (`ofValue_reports_first_violation`).  Reading a value fails as malformed
exactly when the value falls short of the shape, and it then names the first shortfall.  A
value of the right shape is read field by field, its type errors reported as JSON errors.  A text
that is JSON is read as its value.
-/

namespace ServiceGraph

open Json

/-! ### Every shortfall, in order -/

/-- The shortfalls of the item at index `i`: an item that is no object has that one, an object
has one for each of its two containers that is absent or no array, `controllers` first. -/
def itemViolations (i : Nat) : Value → List (Place × Flaw)
  | .obj fields => [Part.controllers, Part.services].filterMap (partFlaw i fields)
  | _ => [(.item i, .itemNotObject)]

/-- The shortfalls of the items from index `i` on. -/
def itemsViolations (i : Nat) : List Value → List (Place × Flaw)
  | [] => []
  | item :: rest => itemViolations i item ++ itemsViolations (i + 1) rest

/-- Every shortfall of a value against a document's shape, in the order the check visits them. -/
def shapeViolations : Value → List (Place × Flaw)
  | .obj root =>
    match Fields.get? root "microservices" with
    | none => [(.microservices, .missing)]
    | some (.arr items) => itemsViolations 0 items
    | some _ => [(.microservices, .notArray)]
  | _ => [(.root, .notObject)]

/-! ### The shape -/

/-- An item has a microservice's shape: an object whose `controllers` and `services` are both
arrays. -/
def ItemShaped (item : Value) : Prop :=
  ∃ fields, item = .obj fields ∧ ∀ p : Part, ∃ xs, Fields.get? fields p.name = some (.arr xs)

/-- A value has a document's shape: an object whose `microservices` is an array of items of a
microservice's shape. -/
def Shaped (v : Value) : Prop :=
  ∃ root items, v = .obj root ∧ Fields.get? root "microservices" = some (.arr items) ∧
    ∀ item ∈ items, ItemShaped item

theorem partFlaw_eq_none_iff {i : Nat} {fields : Fields} {p : Part} :
    partFlaw i fields p = none ↔ ∃ xs, Fields.get? fields p.name = some (.arr xs) := by
  unfold partFlaw
  cases hget : Fields.get? fields p.name with
  | none => simp
  | some w => cases w <;> simp

theorem itemViolations_eq_nil_iff {i : Nat} {item : Value} :
    itemViolations i item = [] ↔ ItemShaped item := by
  cases item with
  | obj fields =>
    simp only [itemViolations, List.filterMap_eq_nil_iff, List.mem_cons, List.not_mem_nil,
      or_false, forall_eq_or_imp, forall_eq, partFlaw_eq_none_iff, ItemShaped, Value.obj.injEq,
      exists_eq_left']
    constructor
    · rintro ⟨hc, hs⟩ p
      cases p with
      | controllers => exact hc
      | services => exact hs
    · intro h
      exact ⟨h .controllers, h .services⟩
  | null | bool _ | num _ | str _ | arr _ => simp [itemViolations, ItemShaped]

theorem itemsViolations_eq_nil_iff (i : Nat) (items : List Value) :
    itemsViolations i items = [] ↔ ∀ item ∈ items, ItemShaped item := by
  induction items generalizing i with
  | nil => simp [itemsViolations]
  | cons item rest ih => simp [itemsViolations, itemViolations_eq_nil_iff, ih]

/-- A value has no shortfall exactly when it has a document's shape. -/
theorem shapeViolations_eq_nil_iff {v : Value} : shapeViolations v = [] ↔ Shaped v := by
  cases v with
  | obj root =>
    cases hm : Fields.get? root "microservices" with
    | none => simp [shapeViolations, Shaped, hm]
    | some w =>
      cases w with
      | arr items => simp [shapeViolations, Shaped, hm, itemsViolations_eq_nil_iff]
      | null | bool _ | num _ | str _ | obj _ => simp [shapeViolations, Shaped, hm]
  | null | bool _ | num _ | str _ | arr _ => simp [shapeViolations, Shaped]

/-! ### The check stops at the first shortfall -/

/-- The item loop returns the first shortfall of the items from index `i` on. -/
theorem itemsFlaw_eq_head? (i : Nat) (items : List Value) :
    itemsFlaw i items = (itemsViolations i items).head? := by
  induction items generalizing i with
  | nil => rfl
  | cons item rest ih =>
    cases item with
    | obj fields =>
      -- the two containers are checked in turn before the loop moves on
      simp only [itemsFlaw, itemsViolations, itemViolations, List.head?_append, ih]
      cases hc : partFlaw i fields .controllers <;> cases hs : partFlaw i fields .services <;>
        simp [hc, hs]
    | null | bool _ | num _ | str _ | arr _ => rfl

theorem shapeFlaw_eq_head? (v : Value) : shapeFlaw v = (shapeViolations v).head? := by
  cases v with
  | obj root =>
    cases hm : Fields.get? root "microservices" with
    | none => simp [shapeFlaw, shapeViolations, hm]
    | some w => cases w <;> simp [shapeFlaw, shapeViolations, hm, itemsFlaw_eq_head?]
  | null | bool _ | num _ | str _ | arr _ => rfl

/-! ### Reading a document -/

/-- A value with no shortfall is read field by field. -/
theorem ofValue_of_shapeFlaw_eq_none {v : Value} (h : shapeFlaw v = none) :
    Document.ofValue v = (Document.record.decode v).mapError fun p => .json { problem := p } := by
  unfold Document.ofValue
  rw [h]
  cases Document.record.decode v <;> rfl

/-- Reading fails as malformed exactly at the shortfall the check returns. -/
theorem ofValue_eq_malformed_iff {v : Value} {place : Place} {flaw : Flaw} :
    Document.ofValue v = .error (.malformed place flaw) ↔ shapeFlaw v = some (place, flaw) := by
  cases h : shapeFlaw v with
  | none =>
    -- a value that passes the check fails, if at all, with a JSON error
    rw [ofValue_of_shapeFlaw_eq_none h]
    constructor
    · intro hm
      cases hd : Document.record.decode v with
      | ok d => rw [hd] at hm; cases hm
      | error p => rw [hd] at hm; cases hm
    · intro hs
      cases hs
  | some pf =>
    obtain ⟨p, f⟩ := pf
    simp [Document.ofValue, h, and_comm]

/-- Reading a value fails as malformed exactly when the value falls short of a document's shape,
and then names the first shortfall in the order root, `microservices`, and item by item the item,
its `controllers` and its `services`; a value of the shape is read field by field, a type error
being reported as a JSON error; and a text that is JSON reads as its value does. -/
theorem ofValue_reports_first_violation (v : Value) :
    (∀ place flaw, Document.ofValue v = .error (.malformed place flaw) ↔
      (shapeViolations v).head? = some (place, flaw)) ∧
    ((∃ place flaw, Document.ofValue v = .error (.malformed place flaw)) ↔ ¬ Shaped v) ∧
    (Shaped v → Document.ofValue v =
      (Document.record.decode v).mapError fun p => .json { problem := p }) ∧
    (∀ text, Value.read text = .ok v → Document.ofText text = Document.ofValue v) := by
  have hfirst : ∀ place flaw, Document.ofValue v = .error (.malformed place flaw) ↔
      (shapeViolations v).head? = some (place, flaw) := fun place flaw => by
    rw [ofValue_eq_malformed_iff, shapeFlaw_eq_head?]
  refine ⟨hfirst, ?_, fun hv => ?_, fun text hr => ?_⟩
  · -- some shortfall is reported exactly when the list of shortfalls is not empty
    simp only [hfirst, ← shapeViolations_eq_nil_iff, ← List.head?_eq_none_iff]
    rcases (shapeViolations v).head? with _ | ⟨place, flaw⟩ <;> simp
  · apply ofValue_of_shapeFlaw_eq_none
    rw [shapeFlaw_eq_head?, shapeViolations_eq_nil_iff.2 hv]
    rfl
  · simp [Document.ofText, hr]

example :
    Document.ofValue (.obj [("microservices", .arr [
      .obj [("controllers", .arr []), ("name", .str "a"), ("services", .arr [])],
      .obj [("name", .str "b"), ("services", .null)]])]) =
      .error (.malformed (.itemPart 1 .controllers) .missing) := rfl

end ServiceGraph
