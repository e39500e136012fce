import WlResprox.BiMap
import WlResprox.HashMap
import WlResprox.Protocol

set_option autoImplicit false

namespace WlResprox

-- `known` and `dated` say what every operation keeps: an id has an interface
-- exactly while it has a generation, and no id is from a later generation.
structure ShadowTable where
  guestToHost : BiMap UInt32 UInt32
  interfaces : HashMap Interface
  nextHostId : UInt32
  nextGuestServerId : UInt32
  generation : Nat
  mappedInGeneration : HashMap Nat
  unresolvableInterfaces : HashMap String
  known : ∀ guest, (mappedInGeneration.lookup guest).isSome = (interfaces.lookup guest).isSome
  dated : ∀ guest age, mappedInGeneration.lookup guest = some age → age ≤ generation

namespace ShadowTable

def map (t : ShadowTable) (guestId hostId : UInt32) (interface : Interface) : ShadowTable :=
  { t with
    guestToHost := t.guestToHost.insert guestId hostId
    interfaces := t.interfaces.insert guestId interface
    mappedInGeneration := t.mappedInGeneration.insert guestId t.generation
    known := fun guest => by
      simp only [HashMap.lookup_insert]
      split
      · rfl
      · exact t.known guest
    dated := fun guest age found => by
      simp only [HashMap.lookup_insert] at found
      split at found
      · cases found
        exact Nat.le_refl _
      · exact t.dated guest age found }

def new : ShadowTable :=
  map ⟨BiMap.empty, ∅, 2, 0xff000000, 0, ∅, ∅, fun _ => rfl, fun _ _ found => by simp at found⟩ 1 1 wlDisplay

def bumpGeneration (t : ShadowTable) : ShadowTable :=
  let renewed : ShadowTable :=
    { t with
      generation := t.generation + 1
      nextHostId := 2
      dated := fun guest age found => Nat.le_succ_of_le (t.dated guest age found) }
  { renewed.map 1 1 wlDisplay with unresolvableInterfaces := ∅ }

def isCurrentGeneration (t : ShadowTable) (guestId : UInt32) : Bool :=
  t.mappedInGeneration.lookup guestId = some t.generation

def allocateHostId (t : ShadowTable) : UInt32 × ShadowTable :=
  (t.nextHostId, { t with nextHostId := t.nextHostId + 1 })

def unallocateHostId (t : ShadowTable) (id : UInt32) : ShadowTable :=
  if id = t.nextHostId - 1 then { t with nextHostId := t.nextHostId - 1 } else t

def allocateGuestServerId (t : ShadowTable) : UInt32 × ShadowTable :=
  (t.nextGuestServerId, { t with nextGuestServerId := t.nextGuestServerId + 1 })

def hostId (t : ShadowTable) (guestId : UInt32) : Option UInt32 :=
  if guestId = 0 then some 0
  else if !t.isCurrentGeneration guestId then none
  else t.guestToHost.getByLeft guestId

def guestId (t : ShadowTable) (hostId : UInt32) : Option UInt32 :=
  if hostId = 0 then some 0
  else
    match t.guestToHost.getByRight hostId with
    | none => none
    | some guest => if !t.isCurrentGeneration guest then none else some guest

def interface (t : ShadowTable) (guestId : UInt32) : Option Interface := t.interfaces.lookup guestId

def rememberUnresolvableInterface (t : ShadowTable) (guestId : UInt32) (interfaceName : String) : ShadowTable :=
  { t with unresolvableInterfaces := t.unresolvableInterfaces.insert guestId interfaceName }

def findGuestIdByInterfaceName (t : ShadowTable) (order : HashOrder) (name : String) : Option UInt32 :=
  ((order.arrange t.interfaces.entries).find? fun entry => entry.2.name = name).map Sigma.fst

def removeGuest (t : ShadowTable) (guestId : UInt32) : ShadowTable :=
  { t with
    guestToHost := t.guestToHost.removeByLeft guestId
    interfaces := t.interfaces.erase guestId
    mappedInGeneration := t.mappedInGeneration.erase guestId
    unresolvableInterfaces := t.unresolvableInterfaces.erase guestId
    known := fun guest => by
      simp only [HashMap.lookup_erase]
      split
      · rfl
      · exact t.known guest
    dated := fun guest age found => by
      simp only [HashMap.lookup_erase] at found
      split at found
      · cases found
      · exact t.dated guest age found }

variable (t : ShadowTable)

@[simp] theorem map_next_host_id (g h : UInt32) (i : Interface) : (t.map g h i).nextHostId = t.nextHostId := rfl
@[simp] theorem map_next_guest_server_id (g h : UInt32) (i : Interface) :
    (t.map g h i).nextGuestServerId = t.nextGuestServerId := rfl
@[simp] theorem map_generation (g h : UInt32) (i : Interface) : (t.map g h i).generation = t.generation := rfl
@[simp] theorem remove_guest_next_host_id (g : UInt32) : (t.removeGuest g).nextHostId = t.nextHostId := rfl
@[simp] theorem remove_guest_next_guest_server_id (g : UInt32) :
    (t.removeGuest g).nextGuestServerId = t.nextGuestServerId := rfl
@[simp] theorem bump_next_host_id : t.bumpGeneration.nextHostId = 2 := rfl
@[simp] theorem bump_next_guest_server_id : t.bumpGeneration.nextGuestServerId = t.nextGuestServerId := rfl

-- Allocation, unallocation and remembered names leave the translation alone.
@[simp] theorem allocate_host_id_host_id (g : UInt32) : t.allocateHostId.2.hostId g = t.hostId g := rfl
@[simp] theorem allocate_host_id_guest_id (h : UInt32) : t.allocateHostId.2.guestId h = t.guestId h := rfl
@[simp] theorem allocate_host_id_interface (g : UInt32) : t.allocateHostId.2.interface g = t.interface g := rfl
@[simp] theorem allocate_host_id_current (g : UInt32) :
    t.allocateHostId.2.isCurrentGeneration g = t.isCurrentGeneration g := rfl
@[simp] theorem allocate_guest_server_id_host_id (g : UInt32) : t.allocateGuestServerId.2.hostId g = t.hostId g := rfl
@[simp] theorem allocate_guest_server_id_guest_id (h : UInt32) : t.allocateGuestServerId.2.guestId h = t.guestId h := rfl
@[simp] theorem allocate_guest_server_id_interface (g : UInt32) :
    t.allocateGuestServerId.2.interface g = t.interface g := rfl
@[simp] theorem allocate_guest_server_id_current (g : UInt32) :
    t.allocateGuestServerId.2.isCurrentGeneration g = t.isCurrentGeneration g := rfl

theorem unallocate_eq (id : UInt32) :
    t.unallocateHostId id = { t with nextHostId := (t.unallocateHostId id).nextHostId } := by
  unfold unallocateHostId
  split <;> rfl

@[simp] theorem unallocate_host_id_host_id (id g : UInt32) : (t.unallocateHostId id).hostId g = t.hostId g := by
  rw [unallocate_eq]
  rfl

@[simp] theorem unallocate_host_id_guest_id (id h : UInt32) : (t.unallocateHostId id).guestId h = t.guestId h := by
  rw [unallocate_eq]
  rfl

@[simp] theorem unallocate_host_id_interface (id g : UInt32) : (t.unallocateHostId id).interface g = t.interface g := by
  rw [unallocate_eq]
  rfl

@[simp] theorem unallocate_host_id_next_guest (id : UInt32) :
    (t.unallocateHostId id).nextGuestServerId = t.nextGuestServerId := by
  rw [unallocate_eq]

@[simp] theorem remember_host_id (g : UInt32) (name : String) (a : UInt32) :
    (t.rememberUnresolvableInterface g name).hostId a = t.hostId a := rfl
@[simp] theorem remember_guest_id (g : UInt32) (name : String) (a : UInt32) :
    (t.rememberUnresolvableInterface g name).guestId a = t.guestId a := rfl
@[simp] theorem remember_interface (g : UInt32) (name : String) (a : UInt32) :
    (t.rememberUnresolvableInterface g name).interface a = t.interface a := rfl
@[simp] theorem remember_next_host_id (g : UInt32) (name : String) :
    (t.rememberUnresolvableInterface g name).nextHostId = t.nextHostId := rfl

@[simp] theorem host_id_null : t.hostId 0 = some 0 := rfl
@[simp] theorem guest_id_null : t.guestId 0 = some 0 := rfl

theorem interface_map (g h a : UInt32) (i : Interface) :
    (t.map g h i).interface a = if a = g then some i else t.interface a := HashMap.lookup_insert _ _ _ _

theorem interface_remove_guest (g a : UInt32) : (t.removeGuest g).interface a = if a = g then none else t.interface a :=
  HashMap.lookup_erase _ _ _

theorem current_map (g h a : UInt32) (i : Interface) :
    (t.map g h i).isCurrentGeneration a = (decide (a = g) || t.isCurrentGeneration a) := by
  simp only [isCurrentGeneration, map, HashMap.lookup_insert]
  by_cases same : a = g <;> simp [same]

theorem current_remove_guest (g a : UInt32) :
    (t.removeGuest g).isCurrentGeneration a = (!decide (a = g) && t.isCurrentGeneration a) := by
  simp only [isCurrentGeneration, removeGuest, HashMap.lookup_erase]
  by_cases same : a = g <;> simp [same]

theorem current_known (g : UInt32) (current : t.isCurrentGeneration g = true) : ∃ i, t.interface g = some i := by
  have present : (t.mappedInGeneration.lookup g).isSome := by
    simp only [isCurrentGeneration, decide_eq_true_eq] at current
    simp [current]
  rw [t.known g] at present
  exact Option.isSome_iff_exists.mp present

theorem current_bump (a : UInt32) : t.bumpGeneration.isCurrentGeneration a = decide (a = 1) := by
  simp only [isCurrentGeneration, bumpGeneration, map, HashMap.lookup_insert]
  by_cases display : a = 1
  · simp [display]
  · simp only [display, decide_false, decide_eq_false_iff_not]
    intro found
    have older := t.dated a _ found
    omega

-- Away from the null id a translation is a current pair of the bimap.
theorem host_id_iff (g h : UInt32) (named : g ≠ 0) :
    t.hostId g = some h ↔ t.isCurrentGeneration g = true ∧ t.guestToHost.getByLeft g = some h := by
  simp only [hostId, if_neg named]
  cases current : t.isCurrentGeneration g <;> simp

theorem guest_id_iff (g h : UInt32) (named : h ≠ 0) :
    t.guestId h = some g ↔ t.isCurrentGeneration g = true ∧ t.guestToHost.getByLeft g = some h := by
  simp only [guestId, if_neg named, BiMap.left_right]
  cases found : t.guestToHost.getByRight h with
  | none => simp
  | some guest =>
      cases current : t.isCurrentGeneration guest with
      | false =>
          simp only [current, Bool.not_false, if_true, reduceCtorEq, Option.some.injEq, false_iff, not_and]
          intro here same
          subst same
          simp [current] at here
      | true =>
          simp only [current, Bool.not_true, Bool.false_eq_true, if_false, Option.some.injEq]
          constructor
          · intro same
            subst same
            exact ⟨current, rfl⟩
          · exact fun both => both.2

theorem host_guest (g h : UInt32) (guestNamed : g ≠ 0) (hostNamed : h ≠ 0) :
    t.hostId g = some h ↔ t.guestId h = some g := by
  rw [host_id_iff t g h guestNamed, guest_id_iff t g h hostNamed]

theorem host_id_map (g h a b : UInt32) (i : Interface) (named : a ≠ 0) :
    (t.map g h i).hostId a = some b ↔ (a = g ∧ b = h) ∨ (a ≠ g ∧ b ≠ h ∧ t.hostId a = some b) := by
  rw [host_id_iff _ a b named, host_id_iff t a b named, current_map]
  show _ ∧ (t.guestToHost.insert g h).getByLeft a = some b ↔ _
  rw [BiMap.get_by_left_insert_iff]
  by_cases same : a = g <;> simp [same]
  tauto

theorem host_id_map_same (g h : UInt32) (i : Interface) (named : g ≠ 0) : (t.map g h i).hostId g = some h :=
  (host_id_map t g h g h i named).mpr (.inl ⟨rfl, rfl⟩)

theorem host_id_remove_guest (g a b : UInt32) (named : a ≠ 0) :
    (t.removeGuest g).hostId a = some b ↔ a ≠ g ∧ t.hostId a = some b := by
  rw [host_id_iff _ a b named, host_id_iff t a b named, current_remove_guest]
  show _ ∧ (t.guestToHost.removeByLeft g).getByLeft a = some b ↔ _
  rw [BiMap.get_by_left_remove_iff]
  by_cases same : a = g <;> simp [same]

theorem host_id_bump (a b : UInt32) (named : a ≠ 0) : t.bumpGeneration.hostId a = some b ↔ a = 1 ∧ b = 1 := by
  rw [host_id_iff _ a b named, current_bump]
  show _ ∧ (t.guestToHost.insert 1 1).getByLeft a = some b ↔ _
  rw [BiMap.get_by_left_insert_iff]
  by_cases display : a = 1 <;> simp [display]

theorem host_id_new (a b : UInt32) (named : a ≠ 0) : new.hostId a = some b ↔ a = 1 ∧ b = 1 := by
  rw [new, host_id_map _ 1 1 a b wlDisplay named]
  have absent : ¬ ShadowTable.hostId ⟨BiMap.empty, ∅, 2, 0xff000000, 0, ∅, ∅, fun _ => rfl, fun _ _ found => by simp at found⟩ a
      = some b := by
    rw [host_id_iff _ a b named]
    simp [isCurrentGeneration]
  simp [absent]

theorem host_id_interface (g h : UInt32) (named : g ≠ 0) (translated : t.hostId g = some h) :
    ∃ i, t.interface g = some i :=
  current_known t g ((host_id_iff t g h named).mp translated).1

theorem find_guest_id_spec (order : HashOrder) (name : String) (g : UInt32)
    (found : t.findGuestIdByInterfaceName order name = some g) : ∃ i, t.interface g = some i ∧ i.name = name := by
  obtain ⟨⟨key, value⟩, hit, rfl⟩ := Option.map_eq_some_iff.mp found
  have member := List.mem_of_find?_eq_some hit
  rw [HashOrder.mem_arrange, HashMap.mem_entries] at member
  exact ⟨value, member, by simpa using List.find?_some hit⟩

end ShadowTable

end WlResprox
