import ServiceGraph.Ir.Decode
import ServiceGraph.Ir.Encode

/-!
# Documents — reading back what was written

A document written as JSON (`Document.toValue`) reads back as itself (`Document.ofValue`).  The
written value passes the shape check, since every microservice is an object whose `controllers`
and `services` are arrays (`shapeFlaw_toValue`), and the typed reading then sets every field from
the value written for it.  Each record is written with every one of its fields, so the reading
starts from the empty record and replaces each default by the field's own value:

* a string field is written as a string and read back by `textField`;
* an optional string is written as `null` or a string and read back by `Decoder.option`;
* a list field is written item by item and read back item by item (`decode_arr_map`), so each
  record reads back as soon as the records it holds do;
* `parameters`, `parameterContents` and annotation attributes are written and kept as they are,
  whatever JSON they hold.

**Round trip** (`Document.ofValue_toValue`).  For every document, reading its JSON gives the
document.
-/

namespace ServiceGraph

open Json

/-! ### Field decoders -/

/-- A list written item by item reads back when each item does. -/
theorem decode_arr_map {α : Type} (d : Decoder α) (enc : α → Value) (xs : List α)
    (h : ∀ x ∈ xs, d (enc x) = .ok x) : Decoder.list d (.arr (xs.map enc)) = .ok xs := by
  induction xs with
  | nil => rfl
  | cons x xs ih =>
    simp only [Decoder.list, List.map_cons, List.mapM_cons] at ih ⊢
    rw [h x List.mem_cons_self, ih fun y hy => h y (List.mem_cons_of_mem _ hy)]
    rfl

theorem listField_arr {α : Type} (d : Decoder α) (items : List Value) :
    listField d (.arr items) = Decoder.list d (.arr items) := rfl

theorem textField_str (s : String) : textField (.str s) = .ok s := rfl

theorem option_string_ofOption (o : Option String) :
    Decoder.option Decoder.string (Value.ofOption o) = .ok o := by
  cases o <;> rfl

theorem listField_ofStrings (xs : List String) :
    listField Decoder.string (Value.ofStrings xs) = .ok xs :=
  decode_arr_map Decoder.string Value.str xs fun _ _ => rfl

/-! ### Records, innermost first -/

theorem Annotation.decode_toValue (a : Annotation) :
    Annotation.record.decode a.toValue = .ok a := rfl

theorem Method.decode_toValue (m : Method) : Method.record.decode m.toValue = .ok m := by
  simp only [Method.toValue, Record.decode, Method.record, List.foldlM_cons, List.foldlM_nil,
    listField_arr, decode_arr_map _ _ m.annotations fun a _ => Annotation.decode_toValue a,
    option_string_ofOption, textField_str]
  rfl

theorem Call.decode_toValue (c : Call) : Call.record.decode c.toValue = .ok c := by
  simp only [Call.toValue, Record.decode, Call.record, List.foldlM_cons, List.foldlM_nil,
    option_string_ofOption, textField_str]
  rfl

theorem Controller.decode_toValue (c : Controller) :
    Controller.record.decode c.toValue = .ok c := by
  simp only [Controller.toValue, Record.decode, Controller.record, List.foldlM_cons,
    List.foldlM_nil, listField_ofStrings, listField_arr,
    decode_arr_map _ _ c.methods fun m _ => Method.decode_toValue m,
    decode_arr_map _ _ c.methodCalls fun call _ => Call.decode_toValue call, textField_str]
  rfl

theorem Service.decode_toValue (s : Service) : Service.record.decode s.toValue = .ok s := by
  simp only [Service.toValue, Record.decode, Service.record, List.foldlM_cons, List.foldlM_nil,
    listField_ofStrings, listField_arr,
    decode_arr_map _ _ s.methodCalls fun call _ => Call.decode_toValue call, textField_str]
  rfl

theorem Microservice.decode_toValue (ms : Microservice) :
    Microservice.record.decode ms.toValue = .ok ms := by
  simp only [Microservice.toValue, Record.decode, Microservice.record, List.foldlM_cons,
    List.foldlM_nil, decode_arr_map _ _ ms.controllers fun c _ => Controller.decode_toValue c,
    decode_arr_map _ _ ms.services fun s _ => Service.decode_toValue s, textField_str]
  rfl

theorem Document.decode_toValue (d : Document) : Document.record.decode d.toValue = .ok d := by
  simp only [Document.toValue, Record.decode, Document.record, List.foldlM_cons, List.foldlM_nil,
    decode_arr_map _ _ d.microservices fun ms _ => Microservice.decode_toValue ms, textField_str]
  rfl

/-! ### The shape check -/

/-- Written microservices are objects with both containers as arrays, from any index on. -/
theorem itemsFlaw_map_toValue (mss : List Microservice) (i : Nat) :
    itemsFlaw i (mss.map Microservice.toValue) = none := by
  induction mss generalizing i with
  | nil => rfl
  | cons ms mss ih =>
    simp [itemsFlaw, partFlaw, Microservice.toValue, Fields.get?, Part.name, ih]

theorem shapeFlaw_toValue (d : Document) : shapeFlaw d.toValue = none := by
  simp [shapeFlaw, Document.toValue, Fields.get?, itemsFlaw_map_toValue]

/-- Reading the JSON a document is written as gives the document back. -/
theorem Document.ofValue_toValue (d : Document) : Document.ofValue d.toValue = .ok d := by
  rw [Document.ofValue, shapeFlaw_toValue, Document.decode_toValue]

end ServiceGraph
