import Mathlib.Data.List.AList

set_option autoImplicit false

namespace WlResprox

-- Finite maps and sets with u32 keys, for std's HashMap and HashSet. Their
-- iteration order is unspecified, so every iteration goes through a HashOrder.
abbrev HashMap (β : Type) := AList fun _ : UInt32 => β

abbrev HashSet := HashMap Unit

structure HashOrder where
  arrange : {α : Type} → List α → List α
  perm : ∀ {α : Type} (rows : List α), (arrange rows).Perm rows

namespace HashOrder

def insertionOrder : HashOrder := ⟨fun rows => rows, fun rows => List.Perm.refl rows⟩

@[simp] theorem mem_arrange (order : HashOrder) {α : Type} (rows : List α) (a : α) : a ∈ order.arrange rows ↔ a ∈ rows :=
  (order.perm rows).mem_iff

theorem nodup_arrange (order : HashOrder) {α : Type} (rows : List α) (distinct : rows.Nodup) : (order.arrange rows).Nodup :=
  (order.perm rows).nodup_iff.mpr distinct

end HashOrder

namespace HashMap

variable {β : Type}

theorem lookup_insert (m : HashMap β) (key query : UInt32) (value : β) :
    (m.insert key value).lookup query = if query = key then some value else m.lookup query := by
  by_cases same : query = key
  · subst query
    simp
  · simp [same]

theorem lookup_erase (m : HashMap β) (key query : UInt32) :
    (m.erase key).lookup query = if query = key then none else m.lookup query := by
  by_cases same : query = key
  · subst query
    simp
  · simp [same]

theorem mem_entries (m : HashMap β) (key : UInt32) (value : β) : ⟨key, value⟩ ∈ m.entries ↔ m.lookup key = some value :=
  AList.mem_lookup_iff.symm

theorem mem_keys (m : HashMap β) (key : UInt32) : key ∈ m.keys ↔ (m.lookup key).isSome = true := by
  rw [AList.lookup_isSome, AList.mem_keys]

end HashMap

end WlResprox
