import Mathlib.Data.List.Nodup
import WlResprox.Protocol

set_option autoImplicit false

namespace WlResprox

def declared (table : List MessageDesc) (name : String) : Option (List ArgumentType × Option Interface) :=
  (table.find? fun desc => desc.name = name).map fun desc => (desc.signature, desc.childInterface)

-- Opcodes are 16 bits wide and a name occurs once in a table.
structure Indexed (table : List MessageDesc) : Prop where
  short : table.length < 2 ^ 16
  distinct : (table.map MessageDesc.name).Nodup

-- The interfaces of everything a recovery brings back or asks.
def recoveredInterfaces : List String :=
  ["wl_display", "wl_registry", "wl_compositor", "xdg_wm_base", "wl_shm", "zwp_linux_dmabuf_v1", "wl_seat", "wp_viewporter",
   "wp_fractional_scale_manager_v1", "xdg_activation_v1", "wl_surface", "xdg_surface", "xdg_toplevel", "wl_shm_pool",
   "wl_buffer", "wl_pointer", "wl_keyboard", "wl_touch", "wp_viewport", "wp_fractional_scale_v1",
   "zwp_linux_buffer_params_v1"]

-- Of these interfaces at most one has the request, and with this shape.
def Creates (p : Protocol) (request : String) (signature : List ArgumentType) (child : String) : Prop :=
  child ∈ recoveredInterfaces ∧ ∀ i : Interface, i.name ∈ recoveredInterfaces → ∀ desc ∈ p.requests i, desc.name = request →
    desc.signature = signature ∧ desc.childInterface = some ⟨child⟩

def CarriesNo (argType : ArgumentType) (table : List MessageDesc) (name : String) : Prop :=
  ∀ desc ∈ table, desc.name = name → argType ∉ desc.signature

-- What the proxy relies on in the generated tables: the signatures its
-- coverage tests assert, the opcodes it writes out as numbers, and that the
-- messages it makes up or observes create nothing.
structure Covered (p : Protocol) : Prop where
  requests : ∀ i, Indexed (p.requests i)
  events : ∀ i, Indexed (p.events i)
  sync : (p.requests wlDisplay)[0]? = some ⟨"sync", false, [.newId], some ⟨"wl_callback"⟩⟩
  getRegistry : (p.requests wlDisplay)[1]? = some ⟨"get_registry", false, [.newId], some ⟨"wl_registry"⟩⟩
  displayRequests : (p.requests wlDisplay).length = 2
  bind : (p.requests ⟨"wl_registry"⟩)[0]? = some ⟨"bind", false, [.uint, .str, .uint, .newId], none⟩
  createDataSource : (p.requests ⟨"wl_data_device_manager"⟩)[0]? =
    some ⟨"create_data_source", false, [.newId], some ⟨"wl_data_source"⟩⟩
  getDataDevice : (p.requests ⟨"wl_data_device_manager"⟩)[1]? =
    some ⟨"get_data_device", false, [.newId, .object], some ⟨"wl_data_device"⟩⟩
  offer : (p.requests ⟨"wl_data_source"⟩)[0]? = some ⟨"offer", false, [.str], none⟩
  setSelection : (p.requests ⟨"wl_data_device"⟩)[1]? = some ⟨"set_selection", false, [.object, .uint], none⟩
  createSurface : Creates p "create_surface" [.newId] "wl_surface"
  getXdgSurface : Creates p "get_xdg_surface" [.newId, .object] "xdg_surface"
  getToplevel : Creates p "get_toplevel" [.newId] "xdg_toplevel"
  createPool : Creates p "create_pool" [.newId, .fd, .int] "wl_shm_pool"
  createBuffer : Creates p "create_buffer" [.newId, .int, .int, .int, .int, .uint] "wl_buffer"
  createParams : Creates p "create_params" [.newId] "zwp_linux_buffer_params_v1"
  createImmed : Creates p "create_immed" [.newId, .int, .int, .uint, .uint] "wl_buffer"
  getPointer : Creates p "get_pointer" [.newId] "wl_pointer"
  getKeyboard : Creates p "get_keyboard" [.newId] "wl_keyboard"
  getTouch : Creates p "get_touch" [.newId] "wl_touch"
  getViewport : Creates p "get_viewport" [.newId, .object] "wp_viewport"
  getFractionalScale : Creates p "get_fractional_scale" [.newId, .object] "wp_fractional_scale_v1"
  add : declared (p.requests ⟨"zwp_linux_buffer_params_v1"⟩) "add" = some ([.fd, .uint, .uint, .uint, .uint, .uint], none)
  setTitle : declared (p.requests ⟨"xdg_toplevel"⟩) "set_title" = some ([.str], none)
  setAppId : declared (p.requests ⟨"xdg_toplevel"⟩) "set_app_id" = some ([.str], none)
  setDestination : declared (p.requests ⟨"wp_viewport"⟩) "set_destination" = some ([.int, .int], none)
  quietRequests : ∀ i, ∀ name ∈ ["commit", "ack_configure"],
    CarriesNo .newId (p.requests i) name ∧ CarriesNo .object (p.requests i) name
  quietEvents : ∀ i, ∀ name ∈ ["configure", "done", "delete_id", "release", "leave", "button"], CarriesNo .newId (p.events i) name
  quietInput : ∀ i : Interface, i.name ∈ ["wl_pointer", "wl_keyboard", "wl_touch"] → ∀ desc ∈ p.events i,
    ArgumentType.newId ∉ desc.signature
  deleteId : declared (p.events wlDisplay) "delete_id" = some ([.uint], none)

-- A name is declared once, so the entry a message resolves to is the declared one.
theorem declared_entry (table : List MessageDesc) (name : String) (signature : List ArgumentType) (child : Option Interface)
    (indexed : Indexed table) (known : declared table name = some (signature, child)) (desc : MessageDesc) (listed : desc ∈ table)
    (named : desc.name = name) : desc.signature = signature ∧ desc.childInterface = child := by
  obtain ⟨entry, found, same⟩ := Option.map_eq_some_iff.mp known
  have here : entry.name = name := by simpa using List.find?_some found
  have unique : entry = desc :=
    List.inj_on_of_nodup_map indexed.distinct (List.mem_of_find?_eq_some found) listed (here.trans named.symm)
  cases same
  rw [unique]
  exact ⟨rfl, rfl⟩

def request (name : String) (signature : List ArgumentType) : MessageDesc := ⟨name, false, signature, none⟩

def creates (name : String) (signature : List ArgumentType) (child : String) : MessageDesc := ⟨name, false, signature, some ⟨child⟩⟩

def destructor (name : String) : MessageDesc := ⟨name, true, [], none⟩

-- The core of the tables wayland-scanner generates, enough for a GTK client
-- with shm buffers, input devices and a viewport.
def coreRequests : List (String × List MessageDesc) :=
  [("wl_display", [creates "sync" [.newId] "wl_callback", creates "get_registry" [.newId] "wl_registry"]),
   ("wl_registry", [request "bind" [.uint, .str, .uint, .newId]]),
   ("wl_compositor", [creates "create_surface" [.newId] "wl_surface", creates "create_region" [.newId] "wl_region"]),
   ("wl_shm_pool", [creates "create_buffer" [.newId, .int, .int, .int, .int, .uint] "wl_buffer", destructor "destroy",
      request "resize" [.int]]),
   ("wl_shm", [creates "create_pool" [.newId, .fd, .int] "wl_shm_pool", destructor "release"]),
   ("wl_buffer", [destructor "destroy"]),
   ("wl_data_offer", [request "accept" [.uint, .str], request "receive" [.str, .fd], destructor "destroy"]),
   ("wl_data_source", [request "offer" [.str], destructor "destroy"]),
   ("wl_data_device", [request "start_drag" [.object, .object, .object, .uint], request "set_selection" [.object, .uint],
      destructor "release"]),
   ("wl_data_device_manager", [creates "create_data_source" [.newId] "wl_data_source",
      creates "get_data_device" [.newId, .object] "wl_data_device"]),
   ("wl_surface", [destructor "destroy", request "attach" [.object, .int, .int], request "damage" [.int, .int, .int, .int],
      creates "frame" [.newId] "wl_callback", request "set_opaque_region" [.object], request "set_input_region" [.object],
      request "commit" []]),
   ("wl_seat", [creates "get_pointer" [.newId] "wl_pointer", creates "get_keyboard" [.newId] "wl_keyboard",
      creates "get_touch" [.newId] "wl_touch", destructor "release"]),
   ("wl_pointer", [request "set_cursor" [.uint, .object, .int, .int], destructor "release"]),
   ("wl_keyboard", [destructor "release"]),
   ("wl_touch", [destructor "release"]),
   ("wl_region", [destructor "destroy", request "add" [.int, .int, .int, .int]]),
   ("xdg_wm_base", [destructor "destroy", creates "create_positioner" [.newId] "xdg_positioner",
      creates "get_xdg_surface" [.newId, .object] "xdg_surface", request "pong" [.uint]]),
   ("xdg_surface", [destructor "destroy", creates "get_toplevel" [.newId] "xdg_toplevel",
      creates "get_popup" [.newId, .object, .object] "xdg_popup", request "set_window_geometry" [.int, .int, .int, .int],
      request "ack_configure" [.uint]]),
   ("xdg_toplevel", [destructor "destroy", request "set_parent" [.object], request "set_title" [.str],
      request "set_app_id" [.str]]),
   ("zwp_linux_dmabuf_v1", [destructor "destroy", creates "create_params" [.newId] "zwp_linux_buffer_params_v1"]),
   ("zwp_linux_buffer_params_v1", [destructor "destroy", request "add" [.fd, .uint, .uint, .uint, .uint, .uint],
      request "create" [.int, .int, .uint, .uint], creates "create_immed" [.newId, .int, .int, .uint, .uint] "wl_buffer"]),
   ("wp_viewporter", [destructor "destroy", creates "get_viewport" [.newId, .object] "wp_viewport"]),
   ("wp_viewport", [destructor "destroy", request "set_source" [.fixed, .fixed, .fixed, .fixed],
      request "set_destination" [.int, .int]]),
   ("wp_fractional_scale_manager_v1", [destructor "destroy",
      creates "get_fractional_scale" [.newId, .object] "wp_fractional_scale_v1"]),
   ("wp_fractional_scale_v1", [destructor "destroy"])]

def coreEvents : List (String × List MessageDesc) :=
  [("wl_display", [request "error" [.object, .uint, .str], request "delete_id" [.uint]]),
   ("wl_registry", [request "global" [.uint, .str, .uint], request "global_remove" [.uint]]),
   ("wl_callback", [request "done" [.uint]]),
   ("wl_shm", [request "format" [.uint]]),
   ("wl_buffer", [request "release" []]),
   ("wl_data_offer", [request "offer" [.str]]),
   ("wl_data_source", [request "target" [.str], request "send" [.str, .fd], request "cancelled" []]),
   ("wl_data_device", [creates "data_offer" [.newId] "wl_data_offer", request "enter" [.uint, .object, .fixed, .fixed, .object],
      request "leave" [], request "motion" [.uint, .fixed, .fixed], request "drop" [], request "selection" [.object]]),
   ("wl_surface", [request "enter" [.object], request "leave" [.object]]),
   ("wl_seat", [request "capabilities" [.uint], request "name" [.str]]),
   ("wl_pointer", [request "enter" [.uint, .object, .fixed, .fixed], request "leave" [.uint, .object],
      request "motion" [.uint, .fixed, .fixed], request "button" [.uint, .uint, .uint, .uint]]),
   ("wl_keyboard", [request "keymap" [.uint, .fd, .uint], request "enter" [.uint, .object, .array],
      request "leave" [.uint, .object], request "key" [.uint, .uint, .uint, .uint]]),
   ("xdg_wm_base", [request "ping" [.uint]]),
   ("xdg_surface", [request "configure" [.uint]]),
   ("xdg_toplevel", [request "configure" [.int, .int, .array], request "close" []]),
   ("wp_fractional_scale_v1", [request "preferred_scale" [.uint]])]

def tableOf (tables : List (String × List MessageDesc)) (interface : Interface) : List MessageDesc :=
  match tables.find? fun entry => entry.1 = interface.name with
  | none => []
  | some entry => entry.2

def coreProtocol : Protocol := ⟨fun _ => 1, tableOf coreRequests, tableOf coreEvents⟩

theorem table_of_all (tables : List (String × List MessageDesc)) (good : List MessageDesc → Prop) (empty : good [])
    (each : ∀ entry ∈ tables, good entry.2) (i : Interface) : good (tableOf tables i) := by
  unfold tableOf
  split
  · exact empty
  · rename_i entry found
    exact each entry (List.mem_of_find?_eq_some found)

instance (argType : ArgumentType) (table : List MessageDesc) (name : String) : Decidable (CarriesNo argType table name) :=
  inferInstanceAs (Decidable (∀ desc ∈ table, desc.name = name → argType ∉ desc.signature))

theorem core_creates (name : String) (signature : List ArgumentType) (child : String) (back : child ∈ recoveredInterfaces)
    (each : ∀ entry ∈ coreRequests, ∀ desc ∈ entry.2, desc.name = name →
      desc.signature = signature ∧ desc.childInterface = some ⟨child⟩) : Creates coreProtocol name signature child := by
  refine ⟨back, fun i _ => ?_⟩
  exact table_of_all coreRequests
    (fun table => ∀ desc ∈ table, desc.name = name → desc.signature = signature ∧ desc.childInterface = some ⟨child⟩)
    (fun desc absent => by cases absent) each i

theorem core_covered : Covered coreProtocol where
  requests i := table_of_all coreRequests Indexed ⟨by decide, by decide⟩
    (fun entry member => by
      have each : ∀ entry ∈ coreRequests, entry.2.length < 2 ^ 16 ∧ (entry.2.map MessageDesc.name).Nodup := by decide +kernel
      exact ⟨(each entry member).1, (each entry member).2⟩) i
  events i := table_of_all coreEvents Indexed ⟨by decide, by decide⟩
    (fun entry member => by
      have each : ∀ entry ∈ coreEvents, entry.2.length < 2 ^ 16 ∧ (entry.2.map MessageDesc.name).Nodup := by decide +kernel
      exact ⟨(each entry member).1, (each entry member).2⟩) i
  sync := by decide +kernel
  getRegistry := by decide +kernel
  displayRequests := by decide +kernel
  bind := by decide +kernel
  createDataSource := by decide +kernel
  getDataDevice := by decide +kernel
  offer := by decide +kernel
  setSelection := by decide +kernel
  createSurface := core_creates _ _ _ (by decide +kernel) (by decide +kernel)
  getXdgSurface := core_creates _ _ _ (by decide +kernel) (by decide +kernel)
  getToplevel := core_creates _ _ _ (by decide +kernel) (by decide +kernel)
  createPool := core_creates _ _ _ (by decide +kernel) (by decide +kernel)
  createBuffer := core_creates _ _ _ (by decide +kernel) (by decide +kernel)
  createParams := core_creates _ _ _ (by decide +kernel) (by decide +kernel)
  createImmed := core_creates _ _ _ (by decide +kernel) (by decide +kernel)
  getPointer := core_creates _ _ _ (by decide +kernel) (by decide +kernel)
  getKeyboard := core_creates _ _ _ (by decide +kernel) (by decide +kernel)
  getTouch := core_creates _ _ _ (by decide +kernel) (by decide +kernel)
  getViewport := core_creates _ _ _ (by decide +kernel) (by decide +kernel)
  getFractionalScale := core_creates _ _ _ (by decide +kernel) (by decide +kernel)
  add := by decide +kernel
  setTitle := by decide +kernel
  setAppId := by decide +kernel
  setDestination := by decide +kernel
  quietRequests i := table_of_all coreRequests (fun table => ∀ name ∈ ["commit", "ack_configure"],
      CarriesNo .newId table name ∧ CarriesNo .object table name)
    (by decide +kernel) (by decide +kernel) i
  quietEvents i := table_of_all coreEvents
    (fun table => ∀ name ∈ ["configure", "done", "delete_id", "release", "leave", "button"], CarriesNo .newId table name)
    (by decide +kernel) (by decide +kernel) i
  quietInput i named := by
    have each : ∀ name ∈ ["wl_pointer", "wl_keyboard", "wl_touch"], ∀ desc ∈ tableOf coreEvents ⟨name⟩,
        ArgumentType.newId ∉ desc.signature := by decide +kernel
    exact each i.name named
  deleteId := by decide +kernel

-- The entries the trackers rely on, whole.
structure Detailed (p : Protocol) : Prop extends Covered p where
  callbackRequests : p.requests ⟨"wl_callback"⟩ = []
  frame : (p.requests ⟨"wl_surface"⟩).find? (fun desc => desc.name = "frame") =
    some ⟨"frame", false, [.newId], some ⟨"wl_callback"⟩⟩
  attach : (p.requests ⟨"wl_surface"⟩).find? (fun desc => desc.name = "attach") =
    some ⟨"attach", false, [.object, .int, .int], none⟩
  commit : (p.requests ⟨"wl_surface"⟩).find? (fun desc => desc.name = "commit") = some ⟨"commit", false, [], none⟩
  resize : (p.requests ⟨"wl_shm_pool"⟩).find? (fun desc => desc.name = "resize") = some ⟨"resize", false, [.int], none⟩
  callbackDone : (p.events ⟨"wl_callback"⟩).find? (fun desc => desc.name = "done") = some ⟨"done", false, [.uint], none⟩
  bufferRelease : (p.events ⟨"wl_buffer"⟩).find? (fun desc => desc.name = "release") = some ⟨"release", false, [], none⟩
  pointerEnter : (p.events ⟨"wl_pointer"⟩).find? (fun desc => desc.name = "enter") =
    some ⟨"enter", false, [.uint, .object, .fixed, .fixed], none⟩
  pointerLeave : (p.events ⟨"wl_pointer"⟩).find? (fun desc => desc.name = "leave") =
    some ⟨"leave", false, [.uint, .object], none⟩
  pointerButton : (p.events ⟨"wl_pointer"⟩).find? (fun desc => desc.name = "button") =
    some ⟨"button", false, [.uint, .uint, .uint, .uint], none⟩
  keyboardEnter : (p.events ⟨"wl_keyboard"⟩).find? (fun desc => desc.name = "enter") =
    some ⟨"enter", false, [.uint, .object, .array], none⟩
  keyboardLeave : (p.events ⟨"wl_keyboard"⟩).find? (fun desc => desc.name = "leave") =
    some ⟨"leave", false, [.uint, .object], none⟩

-- Names are distinct, so an entry of that name is that entry.
theorem find_entry (table : List MessageDesc) (indexed : Indexed table) (entry desc : MessageDesc)
    (known : table.find? (fun desc => desc.name = entry.name) = some entry) (listed : desc ∈ table) (named : desc.name = entry.name) :
    desc = entry :=
  List.inj_on_of_nodup_map indexed.distinct listed (List.mem_of_find?_eq_some known) named

theorem core_detailed : Detailed coreProtocol where
  toCovered := core_covered
  callbackRequests := by decide
  frame := by decide
  attach := by decide
  commit := by decide
  resize := by decide
  callbackDone := by decide
  bufferRelease := by decide
  pointerEnter := by decide
  pointerLeave := by decide
  pointerButton := by decide
  keyboardEnter := by decide
  keyboardLeave := by decide

end WlResprox
