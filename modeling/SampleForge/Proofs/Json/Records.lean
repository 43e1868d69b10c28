import SampleForge.Json.Decode
import SampleForge.Proofs.KeyMap
import SampleForge.Proofs.Outcome

/-!
# What is read from what is written

A record is written as an object, so only that half of `Shape.read` is needed to read it back.  A
list reads back if its members do, and a map of texts always does.
-/

namespace SampleForge.Json

open Outcome

theorem Shape.read_object {δ α : Type} (shape : Shape) (access : Access) (draft : δ)
    (take : δ → String → Value → Except Fault δ)
    (finish : (String → Fault) → δ → Except Fault α) (fields : List (String × Value)) :
    shape.read access draft take finish (.object fields) =
      (fields.foldlM (fun draft member => take draft member.1 member.2) draft >>=
        finish (shape.absent .named)) := by
  simp only [Shape.read, Shape.members, Shape.checkLength, bind_ok]
  congr 1
  funext draft
  cases finish (shape.absent .named) draft with
  | error e => rfl
  | ok record => rfl

theorem mapM_map {ε α β : Type} {read : β → Except ε α} {write : α → β} {xs : List α}
    (h : ∀ x ∈ xs, read (write x) = .ok x) : (xs.map write).mapM read = .ok xs :=
  mapM_eq_ok.2 (List.forall₂_map_left_iff.2 (List.forall₂_same.2 h))

/-- A list reads back if its members do. -/
theorem readList_map {α : Type} {read : Value → Except Fault α} {write : α → Value} {xs : List α}
    (h : ∀ x ∈ xs, read (write x) = .ok x) : readList read (.list (xs.map write)) = .ok xs :=
  mapM_map h

theorem readList_texts (lines : List String) :
    readList readText (Value.texts lines) = .ok lines :=
  readList_map fun _ _ => rfl

theorem readOptional_textOrNull (s : Option String) :
    readOptional readText (Value.textOrNull s) = .ok s := by
  cases s with
  | none => rfl
  | some s => rfl

theorem readTextMap_mapValues (map : KeyMap String) :
    readTextMap (.object (map.mapValues Value.text).toList) = .ok map := by
  have hpairs : (map.toList.map fun pair => (pair.1, Value.text pair.2)).mapM
      (fun field => do return (field.1, ← readText field.2)) = .ok map.toList :=
    mapM_map fun _ _ => rfl
  simp only [readTextMap, KeyMap.mapValues]
  rw [hpairs, bind_ok, KeyMap.ofList_toList]
  rfl

end SampleForge.Json
