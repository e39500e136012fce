import Mathlib.Data.List.Induction
import WlResprox.ShadowTable

set_option autoImplicit false

namespace WlResprox

inductive TableOp where
  | map (guestId hostId : UInt32) (interface : Interface)
  | removeGuest (guestId : UInt32)
  | bumpGeneration
  | allocateHostId
  | unallocateHostId (id : UInt32)
  | allocateGuestServerId

namespace TableOp

def apply (t : ShadowTable) : TableOp → ShadowTable
  | map g h i => t.map g h i
  | removeGuest g => t.removeGuest g
  | bumpGeneration => t.bumpGeneration
  | allocateHostId => t.allocateHostId.2
  | unallocateHostId id => t.unallocateHostId id
  | allocateGuestServerId => t.allocateGuestServerId.2

-- A bump maps wl_display anew, after the generation has moved on.
def performed : TableOp → List TableOp
  | bumpGeneration => [bumpGeneration, map 1 1 wlDisplay]
  | op => [op]

-- What takes the pair (g, h) away: one of its ids mapped again, its guest removed, a new generation.
def Ends (g h : UInt32) : TableOp → Prop
  | map a b _ => a = g ∨ b = h
  | removeGuest a => a = g
  | bumpGeneration => True
  | _ => False

end TableOp

open TableOp

def tableAfter (ops : List TableOp) : ShadowTable := ops.foldl apply ShadowTable.new

def history (ops : List TableOp) : List TableOp := map 1 1 wlDisplay :: ops.flatMap performed

def Standing (g h : UInt32) (i : Interface) (calls : List TableOp) : Prop :=
  ∃ before after, calls = before ++ map g h i :: after ∧ ∀ later ∈ after, ¬ later.Ends g h

theorem table_after_snoc (ops : List TableOp) (op : TableOp) : tableAfter (ops ++ [op]) = apply (tableAfter ops) op := by
  simp [tableAfter]

theorem history_snoc (ops : List TableOp) (op : TableOp) : history (ops ++ [op]) = history ops ++ performed op := by
  simp [history]

section
variable (g h : UInt32) (i : Interface)

theorem standing_snoc (calls : List TableOp) (op : TableOp) :
    Standing g h i (calls ++ [op]) ↔ op = map g h i ∨ (Standing g h i calls ∧ ¬ op.Ends g h) := by
  constructor
  · rintro ⟨before, after, split, kept⟩
    rcases List.eq_nil_or_concat after with rfl | ⟨after, last, rfl⟩
    · exact .inl (List.cons.inj (List.append_inj' split rfl).2).1
    · rw [List.concat_eq_append] at split kept
      have whole : calls ++ [op] = (before ++ map g h i :: after) ++ [last] := by simpa using split
      obtain ⟨rfl, same⟩ := List.append_inj' whole rfl
      cases (List.cons.inj same).1
      exact .inr ⟨⟨before, after, rfl, fun later among => kept later (by simp [among])⟩, kept op (by simp)⟩
  · rintro (rfl | ⟨⟨before, after, rfl, kept⟩, spared⟩)
    · exact ⟨calls, [], rfl, by simp⟩
    · refine ⟨before, after ++ [op], by simp, fun later among => ?_⟩
      rcases List.mem_append.mp among with earlier | last
      · exact kept later earlier
      · cases List.mem_singleton.mp last
        exact spared

theorem standing_start : Standing g h i [map 1 1 wlDisplay] ↔ map 1 1 wlDisplay = map g h i := by
  have fresh : ¬ Standing g h i [] := fun ⟨before, after, split, _⟩ => by simp at split
  simpa [fresh] using standing_snoc g h i [] (map 1 1 wlDisplay)

-- The pair a table translates is one whose map call still stands, call by call.
theorem translated_standing (ops : List TableOp) (named : g ≠ 0) :
    (tableAfter ops).hostId g = some h ↔ ∃ i, Standing g h i (history ops) := by
  induction ops using List.reverseRecOn with
  | nil =>
      simp only [tableAfter, List.foldl_nil, history, List.flatMap_nil, standing_start,
        ShadowTable.host_id_new g h named, TableOp.map.injEq, exists_and_left, exists_eq', and_true]
      exact ⟨fun ⟨guest, host⟩ => ⟨guest.symm, host.symm⟩, fun ⟨guest, host⟩ => ⟨guest.symm, host.symm⟩⟩
  | append_singleton ops op ih =>
      rw [table_after_snoc, history_snoc]
      cases op with
      | map a b j =>
          simp only [apply, performed, standing_snoc, ShadowTable.host_id_map _ a b g h j named, ih, Ends,
            TableOp.map.injEq, exists_or, exists_and_left, exists_and_right, exists_eq', and_true]
          constructor
          · rintro (⟨rfl, rfl⟩ | ⟨guest, host, stands⟩)
            · exact .inl ⟨rfl, rfl⟩
            · exact .inr ⟨stands, not_or.mpr ⟨Ne.symm guest, Ne.symm host⟩⟩
          · rintro (⟨rfl, rfl⟩ | ⟨stands, apart⟩)
            · exact .inl ⟨rfl, rfl⟩
            · exact .inr ⟨fun same => apart (.inl same.symm), fun same => apart (.inr same.symm), stands⟩
      | removeGuest a =>
          simp only [apply, performed, standing_snoc, ShadowTable.host_id_remove_guest _ a g h named, ih, Ends,
            reduceCtorEq, false_or, exists_and_right]
          exact ⟨fun ⟨apart, stands⟩ => ⟨stands, Ne.symm apart⟩, fun ⟨stands, apart⟩ => ⟨Ne.symm apart, stands⟩⟩
      | bumpGeneration =>
          have again : history ops ++ performed bumpGeneration =
              (history ops ++ [bumpGeneration]) ++ [map 1 1 wlDisplay] := by simp [performed]
          simp only [again, apply, standing_snoc, ShadowTable.host_id_bump _ g h named, Ends, TableOp.map.injEq,
            reduceCtorEq, not_true, and_false, false_and, or_false, exists_and_left, exists_eq', and_true]
          exact ⟨fun ⟨guest, host⟩ => ⟨guest.symm, host.symm⟩, fun ⟨guest, host⟩ => ⟨guest.symm, host.symm⟩⟩
      | allocateHostId => simpa [apply, performed, standing_snoc, Ends] using ih
      | unallocateHostId id => simpa [apply, performed, standing_snoc, Ends] using ih
      | allocateGuestServerId => simpa [apply, performed, standing_snoc, Ends] using ih

-- Interfaces outlive the generations, but not the end of the pair's own call.
theorem standing_interface (ops : List TableOp) (stands : Standing g h i (history ops)) :
    (tableAfter ops).interface g = some i := by
  induction ops using List.reverseRecOn with
  | nil =>
      simp only [history, List.flatMap_nil, standing_start, TableOp.map.injEq] at stands
      obtain ⟨rfl, rfl, rfl⟩ := stands
      rfl
  | append_singleton ops op ih =>
      rw [table_after_snoc]
      rw [history_snoc] at stands
      cases op with
      | map a b j =>
          rw [apply, ShadowTable.interface_map]
          rw [performed, standing_snoc] at stands
          · rcases stands with same | ⟨earlier, apart⟩
            · cases same
              simp
            · rw [if_neg (fun same => apart (.inl same.symm))]
              exact ih earlier
          · nofun
      | removeGuest a =>
          rw [apply, ShadowTable.interface_remove_guest]
          simp only [performed, standing_snoc, reduceCtorEq, false_or] at stands
          rw [if_neg (fun same => stands.2 same.symm)]
          exact ih stands.1
      | bumpGeneration =>
          have again : history ops ++ performed bumpGeneration =
              (history ops ++ [bumpGeneration]) ++ [map 1 1 wlDisplay] := by simp [performed]
          rw [again, standing_snoc, standing_snoc] at stands
          rcases stands with same | ⟨before, _⟩
          · cases same
            rfl
          · rcases before with other | ⟨_, spared⟩
            · cases other
            · exact absurd trivial spared
      | allocateHostId =>
          simp only [performed, standing_snoc, reduceCtorEq, false_or] at stands
          exact ih stands.1
      | unallocateHostId id =>
          simp only [performed, standing_snoc, reduceCtorEq, false_or] at stands
          rw [apply, ShadowTable.unallocate_host_id_interface]
          exact ih stands.1
      | allocateGuestServerId =>
          simp only [performed, standing_snoc, reduceCtorEq, false_or] at stands
          exact ih stands.1

theorem history_after_bump (before after : List TableOp) :
    history (before ++ bumpGeneration :: after) =
      (history before ++ [bumpGeneration]) ++ (map 1 1 wlDisplay :: after.flatMap performed) := by
  simp [history, performed]

theorem performed_map (ops : List TableOp) (called : map g h i ∈ ops.flatMap performed) :
    map g h i ∈ ops ∨ (g = 1 ∧ h = 1) := by
  obtain ⟨op, among, made⟩ := List.mem_flatMap.mp called
  cases op <;> simp_all [performed]

-- A pair that stands after a bump was mapped after it: the call is not ended by the bump behind it.
theorem standing_after_bump (before after : List TableOp)
    (stands : Standing g h i (history (before ++ bumpGeneration :: after))) :
    map g h i ∈ map 1 1 wlDisplay :: after.flatMap performed := by
  obtain ⟨earlier, later, split, kept⟩ := stands
  rw [history_after_bump, List.append_eq_append_iff] at split
  rcases split with ⟨between, _, split⟩ | ⟨between, split, rest⟩
  · rw [split]
    simp
  · cases between with
    | nil =>
        rw [List.nil_append] at rest
        simp [← rest]
    | cons first between =>
        obtain ⟨same, behind⟩ := List.cons.inj rest
        have bumped : bumpGeneration ∈ map g h i :: between := by
          have last := congrArg List.getLast? split
          rw [List.getLast?_append_of_ne_nil _ (by simp), List.getLast?_append_of_ne_nil _ (by simp), ← same] at last
          exact List.mem_of_getLast? last.symm
        have inBetween : bumpGeneration ∈ between := by simpa using bumped
        have spared := kept bumpGeneration (by
          rw [behind]
          exact List.mem_append_left _ inBetween)
        exact absurd trivial spared

end

-- The source's generation is a u64: as long as it has not wrapped, comparing the words decides the same.
theorem current_generation_word (t : ShadowTable) (g : UInt32) (unwrapped : t.generation < 2 ^ 64) :
    t.isCurrentGeneration g =
      decide ((t.mappedInGeneration.lookup g).map UInt64.ofNat = some (UInt64.ofNat t.generation)) := by
  unfold ShadowTable.isCurrentGeneration
  cases found : t.mappedInGeneration.lookup g with
  | none => simp
  | some age =>
      have earlier := t.dated g age found
      have words : UInt64.ofNat age = UInt64.ofNat t.generation ↔ age = t.generation := by
        rw [← UInt64.toNat_inj, UInt64.toNat_ofNat_of_lt' (Nat.lt_of_le_of_lt earlier unwrapped),
          UInt64.toNat_ofNat_of_lt' unwrapped]
      simp [words]

structure Translates (ops : List TableOp) : Prop where
  inverse : ∀ g h, g ≠ 0 → h ≠ 0 → ((tableAfter ops).hostId g = some h ↔ (tableAfter ops).guestId h = some g)
  standing : ∀ g h, g ≠ 0 → h ≠ 0 → ((tableAfter ops).hostId g = some h ↔ ∃ i, Standing g h i (history ops))
  typed : ∀ g h i, Standing g h i (history ops) → (tableAfter ops).interface g = some i
  display : ∀ before, ops = before ++ [bumpGeneration] →
    (tableAfter ops).hostId 1 = some 1 ∧ (tableAfter ops).guestId 1 = some 1
  stale : ∀ before after g h, ops = before ++ bumpGeneration :: after → g ≠ 0 → h ≠ 0 → ¬ (g = 1 ∧ h = 1) →
    (∀ i, map g h i ∉ after) → (tableAfter ops).hostId g ≠ some h ∧ (tableAfter ops).guestId h ≠ some g

theorem shadow_table_translates (ops : List TableOp) : Translates ops where
  inverse g h guest host := ShadowTable.host_guest _ g h guest host
  standing g h guest _ := translated_standing g h ops guest
  typed g h i stands := standing_interface g h i ops stands
  display before split := by
    subst split
    have mapped : (tableAfter (before ++ [bumpGeneration])).hostId 1 = some 1 := by
      rw [table_after_snoc, apply, ShadowTable.host_id_bump _ 1 1 (by decide)]
      exact ⟨rfl, rfl⟩
    exact ⟨mapped, (ShadowTable.host_guest _ 1 1 (by decide) (by decide)).mp mapped⟩
  stale before after g h split guest host apart unmapped := by
    have lost : (tableAfter ops).hostId g ≠ some h := by
      intro translated
      obtain ⟨i, stands⟩ := (translated_standing g h ops guest).mp translated
      rw [split] at stands
      rcases List.mem_cons.mp (standing_after_bump g h i before after stands) with same | called
      · cases same
        exact apart ⟨rfl, rfl⟩
      · exact (performed_map g h i after called).elim (unmapped i) apart
    exact ⟨lost, fun back => lost ((ShadowTable.host_guest _ g h guest host).mpr back)⟩

end WlResprox
