import IoTNode.Blinking
import IoTNode.LedChanges
import IoTNode.Startup
import IoTNode.Handlers

set_option autoImplicit false

namespace IoTNode

open Coap Foundations Lobaro

namespace Startup

def Storage.owner (storage : Storage) (pResource : Option CoAPRes) : Option App :=
  App.all.find? (fun app => (storage.handle app).isSome && storage.handle app == pResource)

theorem Storage.owner_iff {storage : Storage} {pResource : Option CoAPRes} {app : App} :
    storage.owner pResource = some app ↔
      ∃ handle, storage.handle app = some handle ∧ pResource = some handle := by
  constructor
  · intro h
    have hfound := List.find?_some h
    rw [Bool.and_eq_true, beq_iff_eq] at hfound
    obtain ⟨handle, hh⟩ := Option.isSome_iff_exists.mp hfound.1
    exact ⟨handle, hh, hfound.2.symm.trans hh⟩
  · rintro ⟨handle, happ, rfl⟩
    apply find?_eq_of_unique
    · cases app <;> decide
    · simp [happ]
    · intro other _ ho
      rw [Bool.and_eq_true, beq_iff_eq] at ho
      exact App.uri_inj (storage.fresh ho.2 happ)

structure Dispatches (storage : Storage) (registry : Registry App) : Prop where
  owned : ∀ handleRequest request response app, storage.owner request.pResource = some app →
    registry.resourceHandler handleRequest request response =
      (handleRequest app { message := request } { message := response }).map
        (Registry.dispatched app)
  unmapped : ∀ handleRequest request response, storage.owner request.pResource = none →
    registry.resourceHandler handleRequest request response = .ok (Registry.notMapped response)

theorem Boots.dispatches {bits : ResOpt} {storage : Storage} {memory : LedMemory} {ret : ℤ}
    {t : Started} (h : Boots bits storage memory ret t) :
    Dispatches storage t.world.registry where
  owned handleRequest request response app ho := by
    obtain ⟨handle, happ, hr⟩ := Storage.owner_iff.mp ho
    exact h.reaches handleRequest happ hr response
  unmapped handleRequest request response ho := by
    apply h.unmapped
    intro app handle happ hr
    have hsome := Storage.owner_iff.mpr ⟨handle, happ, hr⟩
    rw [ho] at hsome
    cases hsome

end Startup

open Startup

structure Node where
  registry : Registry App
  loop : MainLoop
  switchState : SwitchResource.State
  -- what `tcpip_adapter_get_ip_info` answers
  ipInfo : Option WifiResource.IpInfo

inductive NodeAction
  | iterate (connected : Bool)
  | request (lib : LobaroLibrary) (request response : CoAPMessage)
  | switchTask (state : SwitchResource.State)
  | address (ipInfo : Option WifiResource.IpInfo)

namespace Node

variable (json : JsonLibrary) (lib : LobaroLibrary) (s : Node)

def withLED (led : LEDResource) : Node := { s with loop := { s.loop with statusLED := led } }

def handleRequest : App → LobaroCoapMessage → LobaroCoapMessage →
    Except Abort (LobaroCoapMessage × CoapResult)
  | .wifi => WifiResource.handleRequest lib json s.ipInfo
  | .led => fun request response =>
    (LEDResource.handleRequest lib json s.loop.statusLED request response).map Prod.snd
  | .switch => SwitchResource.handleRequest lib json s.switchState

-- what the handler of a resource leaves behind; the other two only read
def handled (request response : LobaroCoapMessage) : App → Node
  | .led =>
    match LEDResource.handleRequest lib json s.loop.statusLED request response with
    | .ok (led, _) => s.withLED led
    | .error _ => s
  | _ => s

def serve (request response : CoAPMessage) : Except Abort (Node × Dispatch App) := do
  let dispatch ← s.registry.resourceHandler (s.handleRequest json lib) request response
  let after := dispatch.called.foldl
    (fun s app => s.handled json lib { message := request } { message := response } app) s
  return (after, dispatch)

/-- A node whose main task has just reached its loop. -/
def Initial (bits : ResOpt) (storage : Storage) (memory : LedMemory) (s : Node) : Prop :=
  ∃ library ret t, Startup.taskHandle bits storage library memory ret = .ok t ∧
    s.registry = t.world.registry ∧ s.loop = { statusLED := t.statusLED }

def system (bits : ResOpt) (storage : Storage) (memory : LedMemory) : System Node NodeAction where
  init := Initial bits storage memory
  step s
    | .iterate connected => some { s with loop := s.loop.iteration connected }
    | .request lib request response =>
      match s.serve json lib request response with
      | .ok (t, _) => some t
      | .error _ => none
    | .switchTask state => some { s with switchState := state }
    | .address ipInfo => some { s with ipInfo := ipInfo }

theorem Initial.boots {bits : ResOpt} {storage : Storage} {memory : LedMemory} {s : Node}
    (h : Initial bits storage memory s) :
    Registry.Holds s.registry storage.history.creations ∧ Dispatches storage s.registry ∧
      s.loop = { statusLED := Startup.statusLED memory (storage.handle .led).isSome } := by
  obtain ⟨library, ret, started, hs, hregistry, hloop⟩ := h
  have hboots := boots_of_taskHandle hs
  rw [hregistry, hloop, hboots.statusLED, hboots.ledConfigured]
  exact ⟨hboots.holds, hboots.dispatches, rfl⟩

section Serving

variable {json lib s} {storage : Storage} {request response : CoAPMessage}

theorem led_of_owner {pResource : Option CoAPRes} (ho : storage.owner pResource = some .led) :
    storage.handle .led ≠ none := by
  obtain ⟨handle, hh, _⟩ := Storage.owner_iff.mp ho
  rw [hh]
  exact Option.some_ne_none handle

theorem serve_led (h : Dispatches storage s.registry)
    (ho : storage.owner request.pResource = some .led) :
    s.serve json lib request response =
      (LEDResource.handleRequest lib json s.loop.statusLED { message := request }
        { message := response }).map
          (fun outcome => (s.withLED outcome.1, Registry.dispatched .led outcome.2)) := by
  unfold serve
  rw [h.owned _ _ _ _ ho]
  dsimp only [handleRequest]
  cases hr : LEDResource.handleRequest lib json s.loop.statusLED { message := request }
      { message := response } with
  | error abort => rfl
  | ok outcome => simp [Except.map, bind, Except.bind, pure, Except.pure, Registry.dispatched,
      handled, hr]

theorem serve_other (h : Dispatches storage s.registry)
    (ho : storage.owner request.pResource ≠ some .led) :
    ∃ dispatch, s.serve json lib request response = .ok (s, dispatch) := by
  unfold serve
  cases howner : storage.owner request.pResource with
  | none =>
    rw [h.unmapped _ _ _ howner]
    exact ⟨_, rfl⟩
  | some app =>
    rw [h.owned _ _ _ _ howner]
    cases app with
    | led => exact absurd howner ho
    | wifi =>
      dsimp only [handleRequest]
      rw [WifiResource.handleRequest_eq]
      exact ⟨_, rfl⟩
    | switch =>
      dsimp only [handleRequest]
      rw [SwitchResource.handleRequest_eq]
      exact ⟨_, rfl⟩

end Serving

end Node

end IoTNode
