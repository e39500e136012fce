import WlResprox.Blueprints

set_option autoImplicit false

namespace WlResprox

-- The objects that a recipe has its own made from.
def Recreatable.needs : Recreatable → List UInt32
  | .dmabufBuffer dmabuf _ _ _ _ _ => [dmabuf]
  | recipe =>
      match recipe.errand with
      | none => []
      | some errand => if errand.other = 0 then [errand.parent] else [errand.parent, errand.other]

-- What can come back: the globals that are advertised again, and whatever hangs
-- from them by a chain of recipes whose requests are known.
inductive Restorable (p : Protocol) (globals : Globals) (registryGuestId : UInt32) (recipes : List (UInt32 × Recreatable)) :
    UInt32 → Interface → Prop where
  | display : Restorable p globals registryGuestId recipes 1 wlDisplay
  | registry : Restorable p globals registryGuestId recipes registryGuestId wlRegistry
  | global (g : UInt32) (interface : Interface) (version : UInt32) (recorded : (g, .global interface version) ∈ recipes)
      (recreatable : interface.name ∈ recreatableGlobals) (advertised : (globals.lookup interface.name).isSome = true) :
      Restorable p globals registryGuestId recipes g interface
  | child (g : UInt32) (recipe : Recreatable) (errand : Errand) (parent other : Interface) (recorded : (g, recipe) ∈ recipes)
      (asks : recipe.errand = some errand) (back : Restorable p globals registryGuestId recipes errand.parent parent)
      (known : (requestOpcode p parent errand.request).isSome = true)
      (named : errand.other ≠ 0 → Restorable p globals registryGuestId recipes errand.other other) :
      Restorable p globals registryGuestId recipes g recipe.interface
  | buffer (g dmabufGuestId : UInt32) (width height : Int32) (format flags : UInt32) (planes : List DmabufPlane) (dmabuf : Interface)
      (recorded : (g, .dmabufBuffer dmabufGuestId width height format flags planes) ∈ recipes)
      (back : Restorable p globals registryGuestId recipes dmabufGuestId dmabuf)
      (params : (requestOpcode p dmabuf "create_params").isSome = true) (adds : (requestOpcode p bufferParams "add").isSome = true)
      (immed : (requestOpcode p bufferParams "create_immed").isSome = true) :
      Restorable p globals registryGuestId recipes g ⟨"wl_buffer"⟩

-- Recipes in the order of creation: each id once, and none before what it is
-- made from.
structure Orderly (registryGuestId : UInt32) (recipes : List (UInt32 × Recreatable)) : Prop where
  distinct : (recipes.map Prod.fst).Nodup
  own : ∀ id ∈ recipes.map Prod.fst, id ≠ 0 ∧ id ≠ 1 ∧ id ≠ registryGuestId
  earlier : ∀ before entry after, recipes = before ++ entry :: after → ∀ id ∈ entry.2.needs, id ∉ (entry :: after).map Prod.fst

namespace Restorable

variable {p : Protocol} {globals : Globals} {registryGuestId : UInt32} {recipes more : List (UInt32 × Recreatable)} {g : UInt32}
  {i : Interface}

theorem mono (subset : ∀ entry ∈ recipes, entry ∈ more) (restorable : Restorable p globals registryGuestId recipes g i) :
    Restorable p globals registryGuestId more g i := by
  induction restorable with
  | display => exact .display
  | registry => exact .registry
  | global g interface version recorded recreatable advertised => exact .global g interface version (subset _ recorded) recreatable advertised
  | child g recipe errand parent other recorded asks back known named ih ihNamed =>
      exact .child g recipe errand parent other (subset _ recorded) asks ih known ihNamed
  | buffer g dmabufGuestId width height format flags planes dmabuf recorded back params adds immed ih =>
      exact .buffer g dmabufGuestId width height format flags planes dmabuf (subset _ recorded) ih params adds immed

theorem recorded (restorable : Restorable p globals registryGuestId recipes g i) :
    g = 1 ∨ g = registryGuestId ∨ g ∈ recipes.map Prod.fst := by
  cases restorable with
  | display => exact .inl rfl
  | registry => exact .inr (.inl rfl)
  | global _ _ _ member | child _ _ _ _ _ member | buffer _ _ _ _ _ _ _ _ member => exact .inr (.inr (List.mem_map_of_mem member))

end Restorable

-- What one recipe brings back, given what is back before it.
inductive Grants (p : Protocol) (globals : Globals) (back : UInt32 → Interface → Prop) : Recreatable → Interface → Prop where
  | global (interface : Interface) (version : UInt32) (recreatable : interface.name ∈ recreatableGlobals)
      (advertised : (globals.lookup interface.name).isSome = true) : Grants p globals back (.global interface version) interface
  | child (recipe : Recreatable) (errand : Errand) (parent other : Interface) (asks : recipe.errand = some errand)
      (there : back errand.parent parent) (known : (requestOpcode p parent errand.request).isSome = true)
      (named : errand.other ≠ 0 → back errand.other other) : Grants p globals back recipe recipe.interface
  | buffer (dmabufGuestId : UInt32) (width height : Int32) (format flags : UInt32) (planes : List DmabufPlane) (dmabuf : Interface)
      (there : back dmabufGuestId dmabuf) (params : (requestOpcode p dmabuf "create_params").isSome = true)
      (adds : (requestOpcode p bufferParams "add").isSome = true)
      (immed : (requestOpcode p bufferParams "create_immed").isSome = true) :
      Grants p globals back (.dmabufBuffer dmabufGuestId width height format flags planes) ⟨"wl_buffer"⟩

theorem errand_needs (recipe : Recreatable) (errand : Errand) (asks : recipe.errand = some errand) :
    errand.parent ∈ recipe.needs ∧ (errand.other ≠ 0 → errand.other ∈ recipe.needs) := by
  cases recipe with
  | global | dmabufBuffer => cases asks
  | _ =>
      simp only [Recreatable.needs, asks]
      split
      · rename_i null
        exact ⟨List.mem_cons_self, fun named => absurd null named⟩
      · simp

namespace Restorable

variable {p : Protocol} {globals : Globals} {registryGuestId : UInt32} {recipes : List (UInt32 × Recreatable)}
  {entry : UInt32 × Recreatable} {i : Interface}

-- A recipe that no earlier one needs brings back nothing but its own object.
theorem snoc_other (unneeded : ∀ earlier ∈ recipes, entry.1 ∉ earlier.2.needs) (g : UInt32) (other : g ≠ entry.1)
    (restorable : Restorable p globals registryGuestId (recipes ++ [entry]) g i) :
    Restorable p globals registryGuestId recipes g i := by
  have before : ∀ g' recipe, g' ≠ entry.1 → (g', recipe) ∈ recipes ++ [entry] → (g', recipe) ∈ recipes := by
    intro g' recipe apart member
    rcases List.mem_append.mp member with old | last
    · exact old
    · exact absurd (congrArg Prod.fst (List.mem_singleton.mp last)) apart
  induction restorable with
  | display => exact .display
  | registry => exact .registry
  | global g interface version recorded recreatable advertised =>
      exact .global g interface version (before g _ other recorded) recreatable advertised
  | child g recipe errand parent another recorded asks back known named ih ihNamed =>
      have old := before g _ other recorded
      have unasked : ∀ id ∈ recipe.needs, id ≠ entry.1 := fun id needed same => unneeded (g, recipe) old (same ▸ needed)
      obtain ⟨parents, others⟩ := errand_needs recipe errand asks
      exact .child g recipe errand parent another old asks (ih (unasked _ parents)) known
        fun nonzero => ihNamed nonzero (unasked _ (others nonzero))
  | buffer g dmabufGuestId width height format flags planes dmabuf recorded back params adds immed ih =>
      have old := before g _ other recorded
      have apart : dmabufGuestId ≠ entry.1 := fun same => unneeded _ old (by simp [Recreatable.needs, same])
      exact .buffer g dmabufGuestId width height format flags planes dmabuf old (ih apart) params adds immed

theorem snoc_own (unneeded : ∀ earlier ∈ recipes, entry.1 ∉ earlier.2.needs) (apart : entry.1 ∉ entry.2.needs)
    (fresh : entry.1 ∉ recipes.map Prod.fst) (display : entry.1 ≠ 1) (registry : entry.1 ≠ registryGuestId) :
    Restorable p globals registryGuestId (recipes ++ [entry]) entry.1 i ↔
      Grants p globals (Restorable p globals registryGuestId recipes) entry.2 i := by
  have last : ∀ recipe, (entry.1, recipe) ∈ recipes ++ [entry] → recipe = entry.2 := by
    intro recipe member
    rcases List.mem_append.mp member with old | last
    · exact absurd (List.mem_map_of_mem old) fresh
    · exact congrArg Prod.snd (List.mem_singleton.mp last)
  have mine : (entry.1, entry.2) ∈ recipes ++ [entry] := List.mem_append_right _ List.mem_cons_self
  have onward : ∀ g j, Restorable p globals registryGuestId recipes g j → Restorable p globals registryGuestId (recipes ++ [entry]) g j :=
    fun _ _ => mono fun _ => List.mem_append_left _
  constructor
  · intro restorable
    generalize own : entry.1 = g at restorable
    cases restorable with
    | display => exact absurd own display
    | registry => exact absurd own registry
    | global _ _ version recorded recreatable advertised =>
        subst own
        rw [← last _ recorded]
        exact .global i version recreatable advertised
    | child _ recipe errand parent other recorded asks back known named =>
        subst own
        have is := last _ recorded
        obtain ⟨parents, others⟩ := errand_needs recipe errand asks
        rw [is] at parents others
        have unasked : ∀ id ∈ entry.2.needs, id ≠ entry.1 := fun id needed same => apart (same ▸ needed)
        rw [← is]
        exact .child recipe errand parent other asks (snoc_other unneeded _ (unasked _ parents) back) known
          fun nonzero => snoc_other unneeded _ (unasked _ (others nonzero)) (named nonzero)
    | buffer _ dmabufGuestId width height format flags planes dmabuf recorded back params adds immed =>
        subst own
        have is := last _ recorded
        have unasked : dmabufGuestId ≠ entry.1 := fun same => apart (by rw [← is, ← same]; simp [Recreatable.needs])
        rw [← is]
        exact .buffer dmabufGuestId width height format flags planes dmabuf (snoc_other unneeded _ unasked back) params adds immed
  · intro grants
    obtain ⟨g, recipe⟩ := entry
    cases grants with
    | global _ version recreatable advertised => exact .global g i version mine recreatable advertised
    | child _ errand parent other asks there known named =>
        exact .child g recipe errand parent other mine asks (onward _ _ there) known fun nonzero => onward _ _ (named nonzero)
    | buffer dmabufGuestId width height format flags planes dmabuf there params adds immed =>
        exact .buffer g dmabufGuestId width height format flags planes dmabuf mine (onward _ _ there) params adds immed

end Restorable

namespace Blueprint

variable {p : Protocol} {globals : Globals} {graph : RecreationGraph} {b : Blueprint} {guestId : UInt32}

def knows (b : Blueprint) (g : UInt32) (i : Interface) : Prop := ∃ h, b.objects g = some (h, i)

-- The ids on paper are below the next one, and of interfaces that recovery knows.
structure Numbers (b : Blueprint) : Prop where
  null : b.objects 0 = none
  below : ∀ g h i, b.objects g = some (h, i) → h.toNat < b.next.toNat
  listed : ∀ g h i, b.objects g = some (h, i) → i.name ∈ recoveredInterfaces

-- What becomes of a blueprint by one recipe: at most two ids are used up, and
-- at most its own object is added.
inductive Places (b : Blueprint) (guestId : UInt32) (b' : Blueprint) : Option Interface → Prop where
  | left (objects : b'.objects = b.objects) (spent : Nat) (few : spent ≤ 2) (next : b'.next = b.next + UInt32.ofNat spent) :
      Places b guestId b' none
  | placed (i : Interface) (spent : Nat) (few : spent < 2) (objects : b'.objects = (b.place guestId (b.next + UInt32.ofNat spent) i).objects)
      (next : b'.next = b.next + UInt32.ofNat spent + 1) (listed : i.name ∈ recoveredInterfaces) : Places b guestId b' (some i)

@[simp] theorem ask_objects (request : Option HostRequest) : (b.ask guestId request).objects = b.objects := rfl
@[simp] theorem ask_next (request : Option HostRequest) : (b.ask guestId request).next = b.next := rfl

@[simp] theorem tell_objects (hostId : UInt32) (i : Interface) (request : String) (text : Option String) :
    (b.tell p guestId hostId i request text).objects = b.objects := by
  cases text <;> rfl

@[simp] theorem tell_next (hostId : UInt32) (i : Interface) (request : String) (text : Option String) :
    (b.tell p guestId hostId i request text).next = b.next := by
  cases text <;> rfl

@[simp] theorem fill_objects (paramsHostId : UInt32) (planes : List DmabufPlane) :
    (b.fill p guestId paramsHostId planes).objects = b.objects := by
  induction planes generalizing b with
  | nil => rfl
  | cons plane rest ih => exact ih

@[simp] theorem fill_next (paramsHostId : UInt32) (planes : List DmabufPlane) :
    (b.fill p guestId paramsHostId planes).next = b.next := by
  induction planes generalizing b with
  | nil => rfl
  | cons plane rest ih => exact ih

@[simp] theorem furnish_objects (hostId : UInt32) (recipe : Recreatable) :
    (b.furnish p graph guestId hostId recipe).objects = b.objects := by
  unfold furnish
  split <;> simp

@[simp] theorem furnish_next (hostId : UInt32) (recipe : Recreatable) :
    (b.furnish p graph guestId hostId recipe).next = b.next := by
  unfold furnish
  split <;> simp

end Blueprint

section Shapes

variable {p : Protocol} (covered : Covered p)

include covered

theorem composed_some_iff (request child : String) (signature : List ArgumentType) (shape : Creates p request signature child)
    (hostId : UInt32) (i : Interface) (listed : i.name ∈ recoveredInterfaces) (values : List WaylandValue) (payload : Bytes)
    (fds : List Fd) (encoded : encodeArguments signature values = .ok (payload, fds)) :
    (composed p hostId i request values).isSome = (requestOpcode p i request).isSome := by
  cases found : requestOpcode p i request with
  | none =>
      simp only [composed, found]
      rfl
  | some opcode =>
      obtain ⟨desc, at_opcode, member, named⟩ := opcode_listed _ _ _ (covered.requests i) found
      have typed := (shape.2 i listed desc member named).1
      simp only [composed, found, at_opcode, typed, encoded, Option.isSome_some]

theorem recipe_interface_listed (recipe : Recreatable) (errand : Errand) (asks : recipe.errand = some errand) :
    recipe.interface.name ∈ recoveredInterfaces := by
  obtain ⟨signature, shape, -⟩ := errand_shape covered recipe errand asks
  exact shape.1

omit covered in
theorem grants_child_iff (globals : Globals) (back : UInt32 → Interface → Prop) (recipe : Recreatable) (errand : Errand)
    (asks : recipe.errand = some errand) (i : Interface) :
    Grants p globals back recipe i ↔ i = recipe.interface ∧ ∃ parent other, back errand.parent parent ∧
      (requestOpcode p parent errand.request).isSome = true ∧ (errand.other ≠ 0 → back errand.other other) := by
  constructor
  · intro grants
    cases grants with
    | child _ errand' parent other asks' there known named =>
        rw [asks] at asks'
        cases asks'
        exact ⟨rfl, parent, other, there, known, named⟩
    | global | buffer => cases asks
  · rintro ⟨rfl, parent, other, there, known, named⟩
    exact .child recipe errand parent other asks there known named

-- A child is borne just where its parent and the other object are known and
-- the request is.
theorem bear_iff (b : Blueprint) (numbers : b.Numbers) (guestId : UInt32) (recipe : Recreatable) (errand : Errand)
    (asks : recipe.errand = some errand) :
    (b.bear p guestId errand recipe.interface = none ∧ ¬ ∃ parent other, b.knows errand.parent parent ∧
        (requestOpcode p parent errand.request).isSome = true ∧ (errand.other ≠ 0 → b.knows errand.other other)) ∨
      ∃ born, b.bear p guestId errand recipe.interface = some born ∧ born.objects = (b.place guestId b.next recipe.interface).objects ∧
        born.next = b.next + 1 ∧ ∃ parent other, b.knows errand.parent parent ∧
          (requestOpcode p parent errand.request).isSome = true ∧ (errand.other ≠ 0 → b.knows errand.other other) := by
  obtain ⟨signature, shape, encodes⟩ := errand_shape covered recipe errand asks
  have naming : b.hostId errand.other = none ∧ (∀ other, ¬ (errand.other ≠ 0 → b.knows errand.other other)) ∨
      ∃ otherHostId other, b.hostId errand.other = some otherHostId ∧ (errand.other ≠ 0 → b.knows errand.other other) := by
    unfold Blueprint.hostId
    by_cases null : errand.other = 0
    · exact .inr ⟨0, wlDisplay, if_pos null, fun named => absurd null named⟩
    · rw [if_neg null]
      cases found : b.objects errand.other with
      | none =>
          refine .inl ⟨rfl, fun other knows => ?_⟩
          obtain ⟨h, is⟩ := knows null
          rw [found] at is
          cases is
      | some object => exact .inr ⟨object.1, object.2, rfl, fun _ => ⟨object.1, found⟩⟩
  cases found : b.objects errand.parent with
  | none =>
      refine .inl ⟨by simp only [Blueprint.bear, found], ?_⟩
      rintro ⟨parent, other, ⟨h, is⟩, -⟩
      rw [found] at is
      cases is
  | some object =>
      obtain ⟨parentHostId, parent⟩ := object
      have only : ∀ i, b.knows errand.parent i → i = parent := by
        rintro i ⟨h, is⟩
        rw [found] at is
        exact (congrArg Prod.snd (Option.some.inj is)).symm
      rcases naming with ⟨none, absent⟩ | ⟨otherHostId, other, named, knows⟩
      · refine .inl ⟨by simp only [Blueprint.bear, found, none], ?_⟩
        rintro ⟨-, other, -, -, known⟩
        exact absent other known
      · obtain ⟨payload, fds, encoded⟩ := encodes b.next otherHostId
        have request := composed_some_iff covered errand.request _ _ shape parentHostId parent
          (numbers.listed _ _ _ found) _ _ _ encoded
        cases is : composed p parentHostId parent errand.request (errand.values b.next otherHostId) with
        | none =>
            refine .inl ⟨by simp only [Blueprint.bear, found, named, is], ?_⟩
            rintro ⟨i, -, there, known, -⟩
            rw [only i there, ← request, is] at known
            cases known
        | some r =>
            refine .inr ⟨((b.ask guestId (some r)).place guestId b.next recipe.interface).spend,
              by simp only [Blueprint.bear, found, named, is], rfl, rfl, parent, other, ⟨_, found⟩, ?_, knows⟩
            rw [← request, is]
            rfl

theorem bear_places (b : Blueprint) (numbers : b.Numbers) (guestId : UInt32) (globals : Globals) (graph : RecreationGraph)
    (recipe : Recreatable) (errand : Errand) (asks : recipe.errand = some errand) :
    ∃ outcome, b.Places guestId ((b.bear p guestId errand recipe.interface).elim b fun born =>
        born.furnish p graph guestId b.next recipe) outcome ∧
      ∀ i, outcome = some i ↔ Grants p globals b.knows recipe i := by
  rcases bear_iff covered b numbers guestId recipe errand asks with ⟨absent, lacks⟩ | ⟨born, is, objects, next, has⟩
  · rw [absent]
    refine ⟨none, .left rfl 0 (by decide) (by simp), fun i => ?_⟩
    rw [grants_child_iff globals b.knows recipe errand asks]
    exact ⟨fun same => (by cases same), fun granted => absurd granted.2 lacks⟩
  · rw [is]
    refine ⟨some recipe.interface, .placed recipe.interface 0 (by decide) ?_ ?_ (recipe_interface_listed covered recipe errand asks),
      fun i => ?_⟩
    · simp [objects]
    · simp [next]
    · rw [grants_child_iff globals b.knows recipe errand asks]
      exact ⟨fun same => ⟨(Option.some.inj same).symm, has⟩, fun granted => congrArg some granted.1.symm⟩

omit covered in
theorem bind_places (b : Blueprint) (guestId : UInt32) (globals : Globals) (interface : Interface) (version : UInt32) :
    ∃ outcome, b.Places guestId (b.bind globals guestId interface version) outcome ∧
      ∀ i, outcome = some i ↔ Grants p globals b.knows (.global interface version) i := by
  have granted : ∀ i, Grants p globals b.knows (.global interface version) i ↔
      i = interface ∧ interface.name ∈ recreatableGlobals ∧ (globals.lookup interface.name).isSome = true := by
    intro i
    constructor
    · intro grants
      cases grants with
      | global _ _ recreatable advertised => exact ⟨rfl, recreatable, advertised⟩
      | child _ errand _ _ asks => cases asks
    · rintro ⟨rfl, recreatable, advertised⟩
      exact .global i version recreatable advertised
  by_cases listed : interface.name ∈ recreatableGlobals
  · cases found : globals.lookup interface.name with
    | none =>
        refine ⟨none, ?_, fun i => ?_⟩
        · simp only [Blueprint.bind, listed, if_true, found]
          exact .left rfl 0 (by decide) (by simp)
        · rw [granted, found]
          simp
    | some advertised =>
        have back : ∀ name ∈ recreatableGlobals, name ∈ recoveredInterfaces := by decide +kernel
        refine ⟨some interface, ?_, fun i => ?_⟩
        · simp only [Blueprint.bind, listed, if_true, found]
          exact .placed interface 0 (by decide) (by simp [Blueprint.spend]; rfl) (by simp [Blueprint.spend, Blueprint.place]) (back _ listed)
        · rw [granted, found]
          simp [listed, eq_comm]
  · refine ⟨none, ?_, fun i => ?_⟩
    · simp only [Blueprint.bind, listed, if_false]
      exact .left rfl 0 (by decide) (by simp)
    · rw [granted]
      simp [listed]

omit covered in
theorem grants_buffer_iff (globals : Globals) (back : UInt32 → Interface → Prop) (dmabufGuestId : UInt32) (width height : Int32)
    (format flags : UInt32) (planes : List DmabufPlane) (i : Interface) :
    Grants p globals back (.dmabufBuffer dmabufGuestId width height format flags planes) i ↔ i = ⟨"wl_buffer"⟩ ∧
      (∃ dmabuf, back dmabufGuestId dmabuf ∧ (requestOpcode p dmabuf "create_params").isSome = true) ∧
        (requestOpcode p bufferParams "add").isSome = true ∧ (requestOpcode p bufferParams "create_immed").isSome = true := by
  constructor
  · intro grants
    cases grants with
    | buffer _ _ _ _ _ _ dmabuf there params adds immed => exact ⟨rfl, ⟨dmabuf, there, params⟩, adds, immed⟩
    | child _ errand _ _ asks => cases asks
  · rintro ⟨rfl, ⟨dmabuf, there, params⟩, adds, immed⟩
    exact .buffer dmabufGuestId width height format flags planes dmabuf there params adds immed

theorem buffer_places (b : Blueprint) (numbers : b.Numbers) (guestId : UInt32) (globals : Globals) (dmabufGuestId : UInt32)
    (width height : Int32) (format flags : UInt32) (planes : List DmabufPlane) :
    ∃ outcome, b.Places guestId (b.buffer p guestId dmabufGuestId width height format flags planes) outcome ∧
      ∀ i, outcome = some i ↔ Grants p globals b.knows (.dmabufBuffer dmabufGuestId width height format flags planes) i := by
  have lacking : ∀ b' spent, spent ≤ 2 → b'.objects = b.objects → b'.next = b.next + UInt32.ofNat spent →
      ¬ ((∃ dmabuf, b.knows dmabufGuestId dmabuf ∧ (requestOpcode p dmabuf "create_params").isSome = true) ∧
        (requestOpcode p bufferParams "add").isSome = true ∧ (requestOpcode p bufferParams "create_immed").isSome = true) →
      ∃ outcome, b.Places guestId b' outcome ∧
        ∀ i, outcome = some i ↔ Grants p globals b.knows (.dmabufBuffer dmabufGuestId width height format flags planes) i :=
    fun b' spent few objects next lacks => by
      refine ⟨none, .left objects spent few next, fun i => ?_⟩
      rw [grants_buffer_iff]
      exact ⟨fun same => (by cases same), fun granted => absurd granted.2 lacks⟩
  cases found : b.objects dmabufGuestId with
  | none =>
      simp only [Blueprint.buffer, found]
      refine lacking b 0 (by decide) rfl (by simp) ?_
      rintro ⟨⟨dmabuf, ⟨h, is⟩, -⟩, -⟩
      rw [found] at is
      cases is
  | some object =>
      obtain ⟨dmabufHostId, dmabuf⟩ := object
      have asking := composed_some_iff covered "create_params" _ _ covered.createParams dmabufHostId dmabuf
        (numbers.listed _ _ _ found) [.newId b.next] _ _ (encoded_new_id b.next)
      cases params : composed p dmabufHostId dmabuf "create_params" [.newId b.next] with
      | none =>
          simp only [Blueprint.buffer, found, params]
          refine lacking b 0 (by decide) rfl (by simp) ?_
          rintro ⟨⟨i, ⟨h, is⟩, known⟩, -⟩
          rw [found] at is
          rw [params] at asking
          cases is
          rw [← asking] at known
          cases known
      | some r =>
          rw [params] at asking
          cases adds : requestOpcode p bufferParams "add" with
          | none =>
              simp only [Blueprint.buffer, found, params, adds, if_true]
              refine lacking _ 1 (by decide) rfl rfl ?_
              rintro ⟨-, known, -⟩
              rw [adds] at known
              cases known
          | some add =>
              simp only [Blueprint.buffer, found, params, adds, reduceCtorEq, if_false]
              let filled := ((b.ask guestId (some r)).spend.fill p guestId b.next planes)
              have next : filled.next = b.next + 1 := Blueprint.fill_next _ _
              have objects : filled.objects = b.objects := Blueprint.fill_objects _ _
              obtain ⟨payload, fds, encoded, -⟩ := encoded_immed filled.next width height format flags
              have used := composed_some_iff covered "create_immed" _ _ covered.createImmed b.next bufferParams (by decide) _ _ _ encoded
              show ∃ outcome, b.Places guestId (filled.immediate p guestId b.next width height format flags) outcome ∧ _
              cases immed : composed p b.next bufferParams "create_immed"
                  [.newId filled.next, .int width, .int height, .uint format, .uint flags] with
              | none =>
                  simp only [Blueprint.immediate, immed]
                  refine lacking filled 1 (by decide) objects next ?_
                  rintro ⟨-, -, known⟩
                  rw [immed] at used
                  rw [← used] at known
                  cases known
              | some last =>
                  simp only [Blueprint.immediate, immed]
                  rw [immed] at used
                  refine ⟨some ⟨"wl_buffer"⟩, .placed ⟨"wl_buffer"⟩ 1 (by decide) ?_ ?_ (by decide), fun i => ?_⟩
                  · show (fun g => if g = guestId then some (filled.next, _) else (filled.objects g).filter _) = _
                    rw [objects, next]
                    rfl
                  · show filled.next + 1 = _
                    rw [next]
                    rfl
                  · rw [grants_buffer_iff]
                    exact ⟨fun same => ⟨(Option.some.inj same).symm, ⟨dmabuf, ⟨_, found⟩, asking.symm⟩, by simp [adds], used.symm⟩,
                      fun granted => congrArg some granted.1.symm⟩

-- One recipe adds what it grants.
theorem add_places (b : Blueprint) (numbers : b.Numbers) (globals : Globals) (graph : RecreationGraph) (entry : UInt32 × Recreatable) :
    ∃ outcome, b.Places entry.1 (b.add p globals graph entry) outcome ∧ ∀ i, outcome = some i ↔ Grants p globals b.knows entry.2 i := by
  obtain ⟨guestId, recipe⟩ := entry
  cases recipe with
  | global interface version => exact bind_places b guestId globals interface version
  | dmabufBuffer dmabuf width height format flags planes =>
      exact buffer_places covered b numbers guestId globals dmabuf width height format flags planes
  | surface | xdgSurface | xdgToplevel | shmPool | shmBuffer | seatDevice | viewport | fractionalScale =>
      exact bear_places covered b numbers guestId globals graph _ _ rfl

end Shapes

namespace Blueprint

variable {b b' : Blueprint} {guestId : UInt32} {outcome : Option Interface}

-- Ids that stay below 2 ^ 32 are never given twice.
theorem Places.kept (places : b.Places guestId b' outcome) (numbers : b.Numbers) (room : b.next.toNat + 2 < 2 ^ 32)
    (nonzero : guestId ≠ 0) : b'.Numbers ∧ b'.next.toNat ≤ b.next.toNat + 2 ∧
      (∀ g i, g ≠ guestId → (b'.knows g i ↔ b.knows g i)) ∧
      ∀ i, b'.knows guestId i ↔ outcome = some i ∨ outcome = none ∧ b.knows guestId i := by
  have counts : ∀ k, k ≤ 2 → (b.next + UInt32.ofNat k).toNat = b.next.toNat + k := by
    intro k few
    rw [UInt32.toNat_add, UInt32.toNat_ofNat']
    omega
  cases places with
  | left objects spent few next =>
      have after := counts spent few
      refine ⟨⟨by rw [objects]; exact numbers.null, fun g h i found => ?_, fun g h i found => ?_⟩, ?_, fun g i _ => ?_, fun i => ?_⟩
      · rw [objects] at found
        have := numbers.below g h i found
        rw [next, after]
        omega
      · rw [objects] at found
        exact numbers.listed g h i found
      · rw [next, after]
        omega
      · simp only [knows, objects]
      · simp only [knows, objects]
        simp
  | placed i spent few objects next listed =>
      have own := counts spent (by omega)
      have after : b'.next.toNat = b.next.toNat + spent + 1 := by
        rw [next, UInt32.toNat_add, own]
        have one : (1 : UInt32).toNat = 1 := rfl
        omega
      have found : ∀ g, b'.objects g = if g = guestId then some (b.next + UInt32.ofNat spent, i) else b.objects g := by
        intro g
        rw [objects]
        show (if g = guestId then _ else (b.objects g).filter _) = _
        split
        · rfl
        · cases held : b.objects g with
          | none => rfl
          | some object =>
              have below := numbers.below g object.1 object.2 held
              have apart : object.1 ≠ b.next + UInt32.ofNat spent := by
                intro same
                rw [same, own] at below
                omega
              rw [Option.filter_some, decide_eq_true apart]
              rfl
      refine ⟨⟨?_, fun g h j held => ?_, fun g h j held => ?_⟩, by omega, fun g j other => ?_, fun j => ?_⟩
      · rw [found, if_neg (Ne.symm nonzero)]
        exact numbers.null
      · rw [found] at held
        split at held
        · cases held
          omega
        · have := numbers.below g h j held
          omega
      · rw [found] at held
        split at held
        · cases held
          exact listed
        · exact numbers.listed g h j held
      · simp only [knows, found, if_neg other]
      · simp only [knows, found, if_pos]
        simp

end Blueprint

section Growing

variable {p : Protocol} {b : Blueprint} {guestId : UInt32}

theorem ask_requests (request : Option HostRequest) : b.requests <+: (b.ask guestId request).requests := List.prefix_append _ _

theorem tell_requests (hostId : UInt32) (i : Interface) (request : String) (text : Option String) :
    b.requests <+: (b.tell p guestId hostId i request text).requests := by
  cases text with
  | none => exact List.prefix_rfl
  | some text => exact ask_requests _

theorem fill_requests (paramsHostId : UInt32) (planes : List DmabufPlane) :
    b.requests <+: (b.fill p guestId paramsHostId planes).requests := by
  induction planes generalizing b with
  | nil => exact List.prefix_rfl
  | cons plane rest ih => exact (ask_requests _).trans ih

theorem furnish_requests (graph : RecreationGraph) (hostId : UInt32) (recipe : Recreatable) :
    b.requests <+: (b.furnish p graph guestId hostId recipe).requests := by
  unfold Blueprint.furnish
  split
  · exact ask_requests _
  · exact ((tell_requests _ _ _ _).trans (tell_requests _ _ _ _)).trans (ask_requests _)
  · exact List.prefix_rfl

theorem bear_requests (errand : Errand) (child : Interface) (born : Blueprint) (is : b.bear p guestId errand child = some born) :
    b.requests <+: born.requests := by
  unfold Blueprint.bear at is
  split at is
  · split at is
    · cases is
    · cases is
      exact List.prefix_append _ _
  · cases is

theorem bind_requests (globals : Globals) (i : Interface) (version : UInt32) :
    b.requests <+: (b.bind globals guestId i version).requests := by
  unfold Blueprint.bind
  split
  · exact List.prefix_rfl
  · exact List.prefix_append _ _

theorem immediate_requests (paramsHostId : UInt32) (width height : Int32) (format flags : UInt32) :
    b.requests <+: (b.immediate p guestId paramsHostId width height format flags).requests := by
  unfold Blueprint.immediate
  split
  · exact List.prefix_rfl
  · exact List.prefix_append _ _

theorem buffer_requests (dmabufGuestId : UInt32) (width height : Int32) (format flags : UInt32) (planes : List DmabufPlane) :
    b.requests <+: (b.buffer p guestId dmabufGuestId width height format flags planes).requests := by
  unfold Blueprint.buffer
  split
  · exact List.prefix_rfl
  · split
    · exact List.prefix_rfl
    · rename_i request _
      have spent : b.requests <+: (b.ask guestId (some request)).spend.requests := ask_requests _
      dsimp only
      split
      · exact spent
      · exact (spent.trans (fill_requests _ _)).trans (immediate_requests _ _ _ _ _)

theorem add_requests (globals : Globals) (graph : RecreationGraph) (entry : UInt32 × Recreatable) :
    b.requests <+: (b.add p globals graph entry).requests := by
  obtain ⟨guestId, recipe⟩ := entry
  have child : ∀ errand : Errand, b.requests <+: ((b.bear p guestId errand recipe.interface).elim b fun born =>
      born.furnish p graph guestId b.next recipe).requests := by
    intro errand
    cases is : b.bear p guestId errand recipe.interface with
    | none => exact List.prefix_rfl
    | some born => exact (bear_requests errand _ born is).trans (furnish_requests graph _ recipe)
  cases recipe with
  | global interface version => exact bind_requests globals interface version
  | dmabufBuffer dmabuf width height format flags planes => exact buffer_requests dmabuf width height format flags planes
  | surface | xdgSurface | xdgToplevel | shmPool | shmBuffer | seatDevice | viewport | fractionalScale => exact child _

theorem drawn_requests (p : Protocol) (globals : Globals) (graph : RecreationGraph) (registryGuestId : UInt32)
    (done : List (UInt32 × Recreatable)) :
    (Blueprint.opening registryGuestId).requests <+: (Blueprint.drawn p globals graph registryGuestId done).requests := by
  unfold Blueprint.drawn
  generalize Blueprint.opening registryGuestId = b
  induction done generalizing b with
  | nil => exact List.prefix_rfl
  | cons entry rest ih => exact (add_requests globals graph entry).trans (ih _)

end Growing

section Drawing

variable {p : Protocol} (covered : Covered p) (globals : Globals) (graph : RecreationGraph) (registryGuestId : UInt32)

theorem opening_numbers (nonzero : registryGuestId ≠ 0) : (Blueprint.opening registryGuestId).Numbers where
  null := by
    show (if (0 : UInt32) = registryGuestId then _ else _) = _
    rw [if_neg (Ne.symm nonzero)]
    rfl
  below g h i found := by
    show h.toNat < 4
    have is : (if g = registryGuestId then some (2, wlRegistry) else if g = 1 then some (1, wlDisplay) else none) = some (h, i) := found
    split at is
    · cases is
      decide
    · split at is
      · cases is
        decide
      · cases is
  listed g h i found := by
    have is : (if g = registryGuestId then some (2, wlRegistry) else if g = 1 then some (1, wlDisplay) else none) = some (h, i) := found
    split at is
    · cases is
      decide
    · split at is
      · cases is
        decide
      · cases is

theorem Orderly.before {recipes : List (UInt32 × Recreatable)} {entry : UInt32 × Recreatable}
    (orderly : Orderly registryGuestId (recipes ++ [entry])) : Orderly registryGuestId recipes where
  distinct := by
    have distinct := orderly.distinct
    rw [List.map_append, List.nodup_append] at distinct
    exact distinct.1
  own id member := orderly.own id (by rw [List.map_append]; exact List.mem_append_left _ member)
  earlier before first after split id needed member := by
    refine orderly.earlier before first (after ++ [entry]) (by rw [split]; simp) id needed ?_
    rw [← List.cons_append, List.map_append]
    exact List.mem_append_left _ member

theorem opening_restorable (apart : registryGuestId ≠ 1) (g : UInt32) (i : Interface) :
    (Blueprint.opening registryGuestId).knows g i ↔ Restorable p globals registryGuestId [] g i := by
  show (∃ h, (if g = registryGuestId then some (2, wlRegistry) else if g = 1 then some (1, wlDisplay) else none) = some (h, i)) ↔ _
  constructor
  · rintro ⟨h, is⟩
    split at is
    · rename_i same
      cases is
      rw [same]
      exact .registry
    · split at is
      · rename_i same
        cases is
        rw [same]
        exact .display
      · cases is
  · intro restorable
    cases restorable with
    | display => exact ⟨1, by rw [if_neg (Ne.symm apart), if_pos rfl]⟩
    | registry => exact ⟨2, by rw [if_pos rfl]⟩
    | global _ _ _ recorded | child _ _ _ _ _ recorded | buffer _ _ _ _ _ _ _ _ recorded => cases recorded

include covered

-- Of recipes in order, what comes back is what can.
theorem drawn_restorable (nonzero : registryGuestId ≠ 0) (apart : registryGuestId ≠ 1) (done : List (UInt32 × Recreatable))
    (orderly : Orderly registryGuestId done) (room : 2 * done.length + 4 < 2 ^ 32) :
    (Blueprint.drawn p globals graph registryGuestId done).Numbers ∧
      (Blueprint.drawn p globals graph registryGuestId done).next.toNat ≤ 2 * done.length + 4 ∧
      ∀ g i, (Blueprint.drawn p globals graph registryGuestId done).knows g i ↔ Restorable p globals registryGuestId done g i := by
  induction done using List.reverseRecOn with
  | nil => exact ⟨opening_numbers registryGuestId nonzero, Nat.le_refl 4, opening_restorable globals registryGuestId apart⟩
  | append_singleton done entry ih =>
      rw [List.length_append, List.length_singleton] at room ⊢
      obtain ⟨numbers, small, same⟩ := ih (orderly.before registryGuestId) (by omega)
      obtain ⟨named, display, registry⟩ := orderly.own entry.1 (by simp)
      obtain ⟨outcome, places, grants⟩ := add_places covered _ numbers globals graph entry
      obtain ⟨numbers', few, others, own⟩ := places.kept numbers (by omega) named
      have fresh : entry.1 ∉ done.map Prod.fst := by
        have distinct := orderly.distinct
        rw [List.map_append, List.nodup_append] at distinct
        exact fun member => distinct.2.2 entry.1 member entry.1 (by simp) rfl
      have unneeded : ∀ earlier ∈ done, entry.1 ∉ earlier.2.needs := by
        intro earlier member needed
        obtain ⟨before, after, split⟩ := List.append_of_mem member
        refine orderly.earlier before earlier (after ++ [entry]) (by rw [split]; simp) entry.1 needed ?_
        simp
      have alone : entry.1 ∉ entry.2.needs := fun needed => orderly.earlier done entry [] rfl entry.1 needed (by simp)
      have step : Blueprint.drawn p globals graph registryGuestId (done ++ [entry]) =
          (Blueprint.drawn p globals graph registryGuestId done).add p globals graph entry := by
        simp [Blueprint.drawn]
      rw [step]
      refine ⟨numbers', by omega, fun g i => ?_⟩
      have known : (Blueprint.drawn p globals graph registryGuestId done).knows = Restorable p globals registryGuestId done :=
        funext fun g => funext fun i => propext (same g i)
      by_cases mine : g = entry.1
      · subst mine
        rw [Restorable.snoc_own unneeded alone fresh display registry, own, grants, known]
        have unknown : ¬ Restorable p globals registryGuestId done entry.1 i := fun back => by
          rcases back.recorded with one | same | member
          · exact display one
          · exact registry same
          · exact fresh member
        tauto
      · rw [others g i mine, same]
        exact ⟨.mono fun _ => List.mem_append_left _, .snoc_other unneeded g mine⟩

end Drawing

-- The guest id that a connection's registry was asked for under: recovery asks
-- for that first.
def askedRegistry (history : List Traffic) : Option UInt32 := (replayLog (connection history)).head?.map Prod.fst

-- At the end of a recovery the client's objects that the host knows are those
-- that can come back, each with the interface it had.
theorem restorable_restored (env : Env) (covered : Covered env.protocol) (gtkOutcomes hostOutcomes : List WriteOutcome)
    (cache : ClipboardCache) (events : List Event) (st : State)
    (run : Runs (step env) (Picks env) (start gtkOutcomes hostOutcomes cache) events st) (few : Few env.protocol st.session.trace)
    (succeed : HostWritesSucceed (connection st.session.trace)) (r : Replay) (replaying : st.control.replay = some r)
    (ended : r.rest = []) (registryGuestId : UInt32) (asked : askedRegistry st.session.trace = some registryGuestId)
    (orderly : Orderly registryGuestId st.session.graph.recipes) (room : 2 * st.session.graph.recipes.length + 4 < 2 ^ 32)
    (g : UInt32) (i : Interface) : (∃ h, st.session.objects.resolved g = some (h, i)) ↔
      Restorable env.protocol r.globals registryGuestId st.session.graph.recipes g i := by
  obtain ⟨-, registryGuestId', done, nonzero, apart, split, drawn⟩ :=
    (plotted_of_run env covered gtkOutcomes hostOutcomes cache events st run few).replaying r replaying
  have paper := drawn succeed
  rw [ended, List.append_nil] at split
  obtain ⟨more, grown⟩ := drawn_requests env.protocol r.globals st.session.graph registryGuestId' done
  have same : registryGuestId' = registryGuestId := by
    rw [askedRegistry, paper.requests, ← grown] at asked
    exact Option.some.inj asked
  subst same
  rw [paper.objects, split]
  exact (drawn_restorable covered r.globals st.session.graph registryGuestId' nonzero apart done (split ▸ orderly)
    (by rw [← split]; exact room)).2.2 g i

def needsEarlier : List (UInt32 × Recreatable) → Bool
  | [] => true
  | entry :: rest => entry.2.needs.all (fun id => id ∉ (entry :: rest).map Prod.fst) && needsEarlier rest

def isOrderly (registryGuestId : UInt32) (recipes : List (UInt32 × Recreatable)) : Bool :=
  decide (recipes.map Prod.fst).Nodup && (recipes.map Prod.fst).all (fun id => id ≠ 0 && id ≠ 1 && id ≠ registryGuestId) &&
    needsEarlier recipes

theorem needs_earlier_sound (recipes : List (UInt32 × Recreatable)) (checked : needsEarlier recipes = true) :
    ∀ before entry after, recipes = before ++ entry :: after → ∀ id ∈ entry.2.needs, id ∉ (entry :: after).map Prod.fst := by
  induction recipes with
  | nil => simp
  | cons first rest ih =>
      obtain ⟨here, later⟩ := Bool.and_eq_true_iff.mp checked
      intro before entry after split id needed
      cases before with
      | nil =>
          cases split
          exact of_decide_eq_true (List.all_eq_true.mp here id needed)
      | cons _ before =>
          cases split
          exact ih later before entry after rfl id needed

theorem is_orderly_sound (registryGuestId : UInt32) (recipes : List (UInt32 × Recreatable))
    (checked : isOrderly registryGuestId recipes = true) : Orderly registryGuestId recipes := by
  simp only [isOrderly, Bool.and_eq_true, decide_eq_true_eq] at checked
  obtain ⟨⟨distinct, own⟩, earlier⟩ := checked
  refine ⟨distinct, fun id member => ?_, needs_earlier_sound recipes earlier⟩
  have apart := List.all_eq_true.mp own id member
  simp only [Bool.and_eq_true, decide_eq_true_eq] at apart
  exact ⟨apart.1.1, apart.1.2, apart.2⟩

-- The new compositor has no seat: the keyboard (6) stays away, and the toplevel
-- (9) comes back.
def seatGone : List Event :=
  windowLost ++ [reconnectCore, .hostReadable (.data (globalEvent 1 "wl_compositor" ++ globalEvent 2 "xdg_wm_base" ++ registryDone) [])] ++
    turns 10 ++ [.lapse]

theorem restorable_restored_window : ∃ st r, Runs (step coreEnv) (Picks coreEnv) coreStart seatGone st ∧ st.control = .replaying r ∧
    (∀ i, ¬ Restorable coreProtocol r.globals 2 st.session.graph.recipes 6 i) ∧
      Restorable coreProtocol r.globals 2 st.session.graph.recipes 9 ⟨"xdg_toplevel"⟩ := by
  have fold : (coreRun picksWell seatGone).map (fun st =>
      (isDistinct coreProtocol st.session.trace && st.control.isReplaying [] && isOrderly 2 st.session.graph.recipes,
        decide (askedRegistry st.session.trace = some 2 ∧ 2 * st.session.graph.recipes.length + 4 < 2 ^ 32),
        decide (st.session.objects.resolved 6 = none ∧ st.session.objects.resolved 9 = some (8, ⟨"xdg_toplevel"⟩)))) =
          some (true, true, true) := by
    decide +kernel
  obtain ⟨st, reached, facts⟩ := Option.map_eq_some_iff.mp fold
  simp only [Prod.mk.injEq, Bool.and_eq_true, decide_eq_true_eq] at facts
  obtain ⟨⟨⟨distinct, replays⟩, orderly⟩, ⟨asked, room⟩, keyboard, toplevel⟩ := facts
  obtain ⟨r, control, ended⟩ := Control.is_replaying replays
  have sound := is_distinct_sound coreProtocol _ distinct
  have run := Runs.of_checked picksWell picks_well_sound reached
  have restored := restorable_restored coreEnv core_covered [] [] ClipboardCache.new _ st run sound.few sound.succeed r
    (by rw [control]; rfl) ended 2 asked (is_orderly_sound 2 _ orderly) room
  refine ⟨st, r, run, control, fun i back => ?_, (restored 9 _).mp ⟨8, toplevel⟩⟩
  obtain ⟨h, held⟩ := (restored 6 i).mpr back
  rw [keyboard] at held
  cases held

end WlResprox
