import WlResprox.HashMap
import WlResprox.Wire

set_option autoImplicit false

namespace WlResprox

structure BufferFlowTracker where
  pendingAttach : HashMap UInt32
  inFlight : HashSet

namespace BufferFlowTracker

def new : BufferFlowTracker := ⟨∅, ∅⟩

def onAttach (t : BufferFlowTracker) (surfaceGuestId bufferGuestId : UInt32) : BufferFlowTracker :=
  { t with pendingAttach := t.pendingAttach.insert surfaceGuestId bufferGuestId }

def onCommit (t : BufferFlowTracker) (surfaceGuestId : UInt32) : BufferFlowTracker :=
  match t.pendingAttach.lookup surfaceGuestId with
  | none => t
  | some buffer => if buffer ≠ 0 then { t with inFlight := t.inFlight.insert buffer () } else t

def onRelease (t : BufferFlowTracker) (bufferGuestId : UInt32) : BufferFlowTracker :=
  { t with inFlight := t.inFlight.erase bufferGuestId }

def drainInFlight (t : BufferFlowTracker) (order : HashOrder) : List UInt32 × BufferFlowTracker :=
  (order.arrange t.inFlight.keys, { t with inFlight := ∅ })

end BufferFlowTracker

structure PendingFrameTracker where
  awaitingDone : HashSet

namespace PendingFrameTracker

def new : PendingFrameTracker := ⟨∅⟩

def onFrameRequested (t : PendingFrameTracker) (callbackGuestId : UInt32) : PendingFrameTracker :=
  ⟨t.awaitingDone.insert callbackGuestId ()⟩

def onSyncRequested (t : PendingFrameTracker) (callbackGuestId : UInt32) : PendingFrameTracker :=
  ⟨t.awaitingDone.insert callbackGuestId ()⟩

def onDoneReceived (t : PendingFrameTracker) (callbackGuestId : UInt32) : PendingFrameTracker :=
  ⟨t.awaitingDone.erase callbackGuestId⟩

def drainAwaitingDone (t : PendingFrameTracker) (order : HashOrder) : List UInt32 × PendingFrameTracker :=
  (order.arrange t.awaitingDone.keys, ⟨∅⟩)

end PendingFrameTracker

structure PointerState where
  enteredSurface : Option UInt32
  pressedButtons : List UInt32
deriving DecidableEq

structure KeyboardState where
  enteredSurface : Option UInt32
deriving DecidableEq

structure GrabTracker where
  pointers : HashMap PointerState
  keyboards : HashMap KeyboardState

def buttonStatePressed : UInt32 := 1

namespace GrabTracker

def new : GrabTracker := ⟨∅, ∅⟩

def pointer (t : GrabTracker) (pointerGuestId : UInt32) : PointerState :=
  (t.pointers.lookup pointerGuestId).getD ⟨none, []⟩

def onPointerEnter (t : GrabTracker) (pointerGuestId surfaceGuestId : UInt32) : GrabTracker :=
  { t with pointers := t.pointers.insert pointerGuestId { t.pointer pointerGuestId with enteredSurface := some surfaceGuestId } }

def onPointerLeave (t : GrabTracker) (pointerGuestId : UInt32) : GrabTracker :=
  match t.pointers.lookup pointerGuestId with
  | none => t
  | some state => { t with pointers := t.pointers.insert pointerGuestId { state with enteredSurface := none } }

def onPointerButton (t : GrabTracker) (pointerGuestId button state : UInt32) : GrabTracker :=
  let pressed := (t.pointer pointerGuestId).pressedButtons
  let buttons :=
    if state = buttonStatePressed then if button ∈ pressed then pressed else pressed ++ [button]
    else pressed.filter (· ≠ button)
  { t with pointers := t.pointers.insert pointerGuestId { t.pointer pointerGuestId with pressedButtons := buttons } }

def onKeyboardEnter (t : GrabTracker) (keyboardGuestId surfaceGuestId : UInt32) : GrabTracker :=
  { t with keyboards := t.keyboards.insert keyboardGuestId ⟨some surfaceGuestId⟩ }

def onKeyboardLeave (t : GrabTracker) (keyboardGuestId : UInt32) : GrabTracker :=
  match t.keyboards.lookup keyboardGuestId with
  | none => t
  | some _ => { t with keyboards := t.keyboards.insert keyboardGuestId ⟨none⟩ }

def activePointerGrabs (t : GrabTracker) (order : HashOrder) : List (UInt32 × Option UInt32 × List UInt32) :=
  ((order.arrange t.pointers.entries).filter fun e => e.2.enteredSurface.isSome || !e.2.pressedButtons.isEmpty).map
    fun e => (e.1, e.2.enteredSurface, e.2.pressedButtons)

def activeKeyboardGrabs (t : GrabTracker) (order : HashOrder) : List (UInt32 × UInt32) :=
  (order.arrange t.keyboards.entries).filterMap fun e => e.2.enteredSurface.map fun surface => (e.1, surface)

def clear (_ : GrabTracker) : GrabTracker := new

end GrabTracker

def isCacheableMime (mimeType : String) : Bool :=
  mimeType ∈ ["text/plain", "text/plain;charset=utf-8", "UTF8_STRING", "STRING", "TEXT", "image/png"]

structure ClipboardCache where
  byMimeType : AList fun _ : String => Bytes

namespace ClipboardCache

def new : ClipboardCache := ⟨∅⟩

def store (cache : ClipboardCache) (mimeType : String) (bytes : Bytes) : ClipboardCache :=
  ⟨cache.byMimeType.insert mimeType bytes⟩

def get (cache : ClipboardCache) (mimeType : String) : Option Bytes := cache.byMimeType.lookup mimeType

def cachedMimeTypes (cache : ClipboardCache) (order : HashOrder) : List String := order.arrange cache.byMimeType.keys

end ClipboardCache

structure ReclaimState where
  pending : Bool
  dataDeviceManagerGlobal : Option (UInt32 × UInt32)
  activeSourceHostId : Option UInt32
deriving DecidableEq

structure DesktopAppIndex where
  ids : List String
  byBinary : AList fun _ : String => String

namespace DesktopAppIndex

def hasId (index : DesktopAppIndex) (appId : String) : Bool := appId ∈ index.ids

def resolveByBinary (index : DesktopAppIndex) (binaryName : String) : Option String := index.byBinary.lookup binaryName

end DesktopAppIndex

end WlResprox
