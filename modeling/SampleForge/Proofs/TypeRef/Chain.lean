import Mathlib.Data.List.Nodup
import SampleForge.TypeRef

/-!
# Element chains

The *chain* of a reference holds its element, the element of that, and so on, and the reference
itself.  Where every collection of a chain has the derived identity (`Derived`), each identity is
longer than that of its element, so no identity occurs twice (`nodup_chain_of_derived`).
-/

namespace SampleForge.TypeRef

/-- The types of an element chain, the innermost first. -/
def chain : TypeRef → List TypeRef
  | .leaf kind identity => [.leaf kind identity]
  | .collection identity element => element.chain ++ [.collection identity element]

/-- Whether every collection of an element chain has the derived identity. -/
def Derived : TypeRef → Prop
  | .leaf _ _ => True
  | .collection identity element => identity = derivedIdentity element ∧ element.Derived

theorem length_derivedIdentity (element : TypeRef) :
    element.identity.length < (derivedIdentity element).length := by
  have hstart : 0 < derivedStart.length := by decide
  rw [derivedIdentity, String.length_append]
  omega

/-- In a derived chain no identity is longer than the outermost one. -/
theorem length_le_of_mem_chain {t u : TypeRef} (ht : t.Derived) (hu : u ∈ t.chain) :
    u.identity.length ≤ t.identity.length := by
  induction t with
  | leaf kind identity =>
    exact Nat.le_of_eq (congrArg (·.identity.length) (List.mem_singleton.1 hu))
  | collection identity element ih =>
    obtain ⟨rfl, helement⟩ := ht
    rcases List.mem_append.1 hu with hu | hu
    · exact Nat.le_trans (ih helement hu) (Nat.le_of_lt (length_derivedIdentity element))
    · exact Nat.le_of_eq (congrArg (·.identity.length) (List.mem_singleton.1 hu))

theorem nodup_chain_of_derived {t : TypeRef} (ht : t.Derived) :
    (t.chain.map identity).Nodup := by
  induction t with
  | leaf kind identity => exact List.nodup_singleton _
  | collection identity element ih =>
    obtain ⟨rfl, helement⟩ := ht
    rw [chain, List.map_append, List.nodup_append]
    refine ⟨ih helement, List.nodup_singleton _, ?_⟩
    rintro inner hinner outer houter rfl
    obtain ⟨u, hu, hidentity⟩ := List.mem_map.1 hinner
    have hle := length_le_of_mem_chain helement hu
    have hlt := length_derivedIdentity element
    have houter := List.mem_singleton.1 houter
    rw [hidentity, houter] at hle
    exact absurd hle (Nat.not_le.2 hlt)

end SampleForge.TypeRef
