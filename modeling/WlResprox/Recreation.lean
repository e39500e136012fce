import WlResprox.HashMap
import WlResprox.Protocol

set_option autoImplicit false

namespace WlResprox

inductive SeatDeviceKind where
  | pointer
  | keyboard
  | touch
deriving DecidableEq, Repr

def SeatDeviceKind.requestName : SeatDeviceKind → String
  | .pointer => "get_pointer"
  | .keyboard => "get_keyboard"
  | .touch => "get_touch"

structure DmabufPlane where
  fd : Fd
  planeIdx : UInt32
  offset : UInt32
  stride : UInt32
  modifier : UInt64
deriving DecidableEq, Repr

inductive Recreatable where
  | global (interface : Interface) (version : UInt32)
  | surface (parentGuestId : UInt32)
  | xdgSurface (parentGuestId surfaceGuestId : UInt32)
  | xdgToplevel (parentGuestId : UInt32) (title appId : Option String)
  | shmPool (wlShmGuestId : UInt32) (fd : Fd) (size : Int32)
  | shmBuffer (poolGuestId : UInt32) (offset width height stride : Int32) (format : UInt32)
  | dmabufBuffer (dmabufGuestId : UInt32) (width height : Int32) (format flags : UInt32) (planes : List DmabufPlane)
  | seatDevice (seatGuestId : UInt32) (kind : SeatDeviceKind)
  | viewport (viewporterGuestId surfaceGuestId : UInt32) (destination : Option (Int32 × Int32))
  | fractionalScale (managerGuestId surfaceGuestId : UInt32)
deriving DecidableEq

structure RecreationGraph where
  recipes : List (UInt32 × Recreatable)
deriving DecidableEq

namespace RecreationGraph

def new : RecreationGraph := ⟨[]⟩

def record (g : RecreationGraph) (guestId : UInt32) (recipe : Recreatable) : RecreationGraph :=
  ⟨g.recipes ++ [(guestId, recipe)]⟩

def recipeFor (g : RecreationGraph) (guestId : UInt32) : Option Recreatable :=
  (g.recipes.reverse.find? fun entry => entry.1 = guestId).map Prod.snd

def remove (g : RecreationGraph) (guestId : UInt32) : RecreationGraph :=
  ⟨g.recipes.filter fun entry => entry.1 ≠ guestId⟩

-- `change` answers none on a recipe of another shape, and the scan goes on.
def updateFirst (guestId : UInt32) (change : Recreatable → Option Recreatable) :
    List (UInt32 × Recreatable) → List (UInt32 × Recreatable)
  | [] => []
  | (id, recipe) :: rest =>
      if id = guestId then
        match change recipe with
        | some changed => (id, changed) :: rest
        | none => (id, recipe) :: updateFirst guestId change rest
      else (id, recipe) :: updateFirst guestId change rest

def update (g : RecreationGraph) (guestId : UInt32) (change : Recreatable → Option Recreatable) : RecreationGraph :=
  ⟨(updateFirst guestId change g.recipes.reverse).reverse⟩

def updateShmPoolSize (g : RecreationGraph) (guestId : UInt32) (newSize : Int32) : RecreationGraph :=
  g.update guestId fun
    | .shmPool wlShm fd _ => some (.shmPool wlShm fd newSize)
    | _ => none

def updateToplevelTitle (g : RecreationGraph) (guestId : UInt32) (newTitle : String) : RecreationGraph :=
  g.update guestId fun
    | .xdgToplevel parent _ appId => some (.xdgToplevel parent (some newTitle) appId)
    | _ => none

def updateToplevelAppId (g : RecreationGraph) (guestId : UInt32) (newAppId : String) : RecreationGraph :=
  g.update guestId fun
    | .xdgToplevel parent title _ => some (.xdgToplevel parent title (some newAppId))
    | _ => none

def updateViewportDestination (g : RecreationGraph) (guestId : UInt32) (width height : Int32) : RecreationGraph :=
  g.update guestId fun
    | .viewport viewporter surface _ => some (.viewport viewporter surface (some (width, height)))
    | _ => none

theorem update_first_ids (guestId : UInt32) (change : Recreatable → Option Recreatable)
    (recipes : List (UInt32 × Recreatable)) : (updateFirst guestId change recipes).map Prod.fst = recipes.map Prod.fst := by
  induction recipes with
  | nil => rfl
  | cons entry rest ih =>
      obtain ⟨id, recipe⟩ := entry
      by_cases same : id = guestId
      · cases changed : change recipe <;> simp [updateFirst, same, changed, ih]
      · simp [updateFirst, same, ih]

theorem update_ids (g : RecreationGraph) (guestId : UInt32) (change : Recreatable → Option Recreatable) :
    (g.update guestId change).recipes.map Prod.fst = g.recipes.map Prod.fst := by
  simp [update, update_first_ids]

theorem mem_remove (g : RecreationGraph) (guestId id : UInt32) (recipe : Recreatable) :
    (id, recipe) ∈ (g.remove guestId).recipes ↔ id ≠ guestId ∧ (id, recipe) ∈ g.recipes := by
  simp [remove, and_comm]

end RecreationGraph

end WlResprox
