import WlResprox.Wire

set_option autoImplicit false

namespace WlResprox

inductive Direction where
  | clientToHost
  | hostToClient
deriving DecidableEq, Repr

-- A generated table is one static per interface name, so the name stands for
-- the pointer. What the table holds is generated code and enters as a Protocol.
structure Interface where
  name : String
deriving DecidableEq, Repr

structure MessageDesc where
  name : String
  isDestructor : Bool
  signature : List ArgumentType
  childInterface : Option Interface
deriving DecidableEq, Repr

structure Protocol where
  version : Interface → UInt32
  requests : Interface → List MessageDesc
  events : Interface → List MessageDesc

def Protocol.messages (p : Protocol) : Direction → Interface → List MessageDesc
  | .clientToHost => p.requests
  | .hostToClient => p.events

def wlDisplay : Interface := ⟨"wl_display"⟩

def tabulatedInterfaces : List String :=
  ["wl_display", "wl_registry", "wl_callback", "wl_compositor", "wl_shm_pool", "wl_shm", "wl_buffer",
   "wl_data_offer", "wl_data_source", "wl_data_device", "wl_data_device_manager", "wl_shell", "wl_shell_surface",
   "wl_surface", "wl_seat", "wl_pointer", "wl_keyboard", "wl_touch", "wl_output", "wl_region", "wl_subcompositor",
   "wl_subsurface", "wl_fixes", "xdg_wm_base", "xdg_positioner", "xdg_surface", "xdg_toplevel", "xdg_popup",
   "zwp_linux_dmabuf_v1", "wp_presentation", "wp_viewporter", "wp_tearing_control_manager_v1",
   "wp_fractional_scale_manager_v1", "zwp_pointer_constraints_v1", "zwp_pointer_gestures_v1",
   "zwp_primary_selection_device_manager_v1", "zwp_relative_pointer_manager_v1", "zwp_idle_inhibit_manager_v1",
   "zwp_keyboard_shortcuts_inhibit_manager_v1", "wp_single_pixel_buffer_manager_v1", "wp_cursor_shape_manager_v1",
   "zwp_tablet_manager_v1", "zwp_tablet_manager_v2", "zwp_text_input_manager_v1", "zwp_text_input_manager_v3",
   "wp_security_context_manager_v1", "wp_alpha_modifier_v1", "wp_linux_drm_syncobj_manager_v1",
   "zxdg_output_manager_v1", "zxdg_decoration_manager_v1", "xdg_activation_v1", "xdg_toplevel_icon_manager_v1",
   "zxdg_exporter_v1", "zxdg_importer_v1", "zxdg_exporter_v2", "zxdg_importer_v2", "ext_idle_notifier_v1",
   "ext_session_lock_manager_v1", "ext_foreign_toplevel_list_v1", "ext_output_image_capture_source_manager_v1",
   "ext_foreign_toplevel_image_capture_source_manager_v1", "ext_image_copy_capture_manager_v1",
   "ext_data_control_manager_v1", "ext_workspace_manager_v1", "xdg_wm_dialog_v1", "xdg_system_bell_v1",
   "wp_color_manager_v1", "wp_color_representation_manager_v1", "wp_fifo_manager_v1",
   "wp_commit_timing_manager_v1", "zwlr_data_control_manager_v1", "zwlr_export_dmabuf_manager_v1",
   "zwlr_foreign_toplevel_manager_v1", "zwlr_gamma_control_manager_v1", "zwlr_layer_shell_v1",
   "zwlr_output_manager_v1", "zwlr_output_power_manager_v1", "zwlr_screencopy_manager_v1",
   "zwlr_virtual_pointer_manager_v1", "org_kde_kwin_server_decoration_manager", "zwp_input_method_manager_v2",
   "zwp_virtual_keyboard_manager_v1", "org_kde_kwin_appmenu_manager", "xdg_toplevel_drag_manager_v1",
   "wp_pointer_warp_v1"]

def lookupInterface (name : String) : Option Interface :=
  if name ∈ tabulatedInterfaces then some ⟨name⟩ else none

def opcodeOf (table : List MessageDesc) (name : String) : Option UInt16 :=
  (table.findIdx? fun desc => desc.name = name).map UInt16.ofNat

def requestOpcode (p : Protocol) (interface : Interface) (name : String) : Option UInt16 :=
  opcodeOf (p.requests interface) name

def eventOpcode (p : Protocol) (interface : Interface) (name : String) : Option UInt16 :=
  opcodeOf (p.events interface) name

structure SignatureWalk where
  newIdOffset : Option Nat
  objectOffsets : List Nat
  fdCount : Nat
  dynamicInterfaceName : Option String
deriving DecidableEq, Repr

structure WalkState where
  offset : Nat
  walk : SignatureWalk
deriving DecidableEq, Repr

-- usize is 64 bits wide.
def checkedAdd (a b : Nat) : Option Nat := if a + b < 2 ^ 64 then some (a + b) else none

def advance (payload : Bytes) (offset width : Nat) : Except String Nat :=
  match checkedAdd offset width with
  | none => .error "offset overflow"
  | some stop =>
      if payload.length < stop then .error "payload shorter than its own signature declares" else .ok stop

def walkArgument (payload : Bytes) (st : WalkState) (argType : ArgumentType) : Except String WalkState :=
  match argType with
  | .int | .uint | .fixed =>
      match advance payload st.offset 4 with
      | .error e => .error e
      | .ok stop => .ok { st with offset := stop }
  | .object =>
      match advance payload st.offset 4 with
      | .error e => .error e
      | .ok stop => .ok ⟨stop, { st.walk with objectOffsets := st.walk.objectOffsets ++ [st.offset] }⟩
  | .newId =>
      match advance payload st.offset 4 with
      | .error e => .error e
      | .ok stop => .ok ⟨stop, { st.walk with newIdOffset := some st.offset }⟩
  | .str | .array =>
      match advance payload st.offset 4 with
      | .error e => .error e
      | .ok lenEnd =>
          let len := (wordAt payload st.offset).toNat
          match advance payload lenEnd (nextMultipleOf4 len) with
          | .error e => .error e
          | .ok dataEnd =>
              -- The first string that is not null and is valid UTF-8 names the interface.
              if argType = .str ∧ st.walk.dynamicInterfaceName = none ∧ 0 < len then
                .ok ⟨dataEnd, { st.walk with
                  dynamicInterfaceName := fromUtf8 (slice payload lenEnd (lenEnd + len - 1)) }⟩
              else .ok { st with offset := dataEnd }
  | .fd => .ok { st with walk := { st.walk with fdCount := st.walk.fdCount + 1 } }

def walkFrom (payload : Bytes) (st : WalkState) (signature : List ArgumentType) : Except String WalkState :=
  signature.foldlM (walkArgument payload) st

def walkSignature (payload : Bytes) (signature : List ArgumentType) : Except String SignatureWalk :=
  (walkFrom payload ⟨0, ⟨none, [], 0, none⟩⟩ signature).map WalkState.walk

def resolveChildInterface (p : Protocol) (desc : MessageDesc) (dynamicInterfaceName : Option String) :
    Option (Interface × UInt32) :=
  match desc.childInterface with
  | some iface => some (iface, p.version iface)
  | none =>
      match dynamicInterfaceName with
      | none => none
      | some name => (lookupInterface name).map fun iface => (iface, p.version iface)

theorem advance_ok (payload : Bytes) (offset width stop : Nat) (ok : advance payload offset width = .ok stop) :
    stop = offset + width ∧ offset + width ≤ payload.length := by
  unfold advance checkedAdd at ok
  split at ok
  · cases ok
  · rename_i sum found
    split at found <;> cases found
    split at ok
    · cases ok
    · cases ok
      exact ⟨rfl, by omega⟩

theorem advance_congr (a b : Bytes) (offset width : Nat) (lengths : a.length = b.length) :
    advance a offset width = advance b offset width := by
  simp only [advance, lengths]

end WlResprox
