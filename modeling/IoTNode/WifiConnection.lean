import IoTNode.CoapTask
import IoTNode.MainLoop

set_option autoImplicit false

namespace IoTNode

open Foundations LobaroCoap

/-- What the driver makes of the station, as it documents it. -/
inductive Link
  | down
  | connecting
  | associated
deriving DecidableEq, Repr

/-- The station, the events that wait for `event_handler`, and what the handler and the main task
share. -/
structure WifiConnection where
  link : Link
  address : Bool
  -- ghost: the address was lost while the station stayed associated
  expired : Bool
  events : List SystemEvent
  connected : Bool
  coapConnectedBit : Bool
  coap : LobaroCoap
  loop : MainLoop

inductive WifiAction
  | associate
  | refuse
  | lose
  | lease
  | expire
  | handle (accepted : Bool)
  | coapTask (answers : Answers)
  | iterate

namespace WifiConnection

variable (endpoints : LobaroEndpoints) (s : WifiConnection)

def espWifiConnect (accepted : Bool) : WifiConnection :=
  if accepted = true ∧ s.link = .down then { s with link := .connecting } else s

def eventHandler (accepted : Bool) : SystemEvent → WifiConnection
  -- the name of the host, whose failure is logged
  | .staStart => s
  | .staConnected => { s with connected := true }
  | .staGotIp => { s with coapConnectedBit := true, coap := s.coap.eventHandler .staGotIp }
  | .staDisconnected =>
    -- what `esp_wifi_connect` returns is dropped
    { s with
      coapConnectedBit := false
      connected := false
      coap := s.coap.eventHandler .staDisconnected }.espWifiConnect accepted
  | .other => s

def post (event : SystemEvent) : WifiConnection := { s with events := s.events ++ [event] }

/-- After `esp_wifi_start` and the first `esp_wifi_connect`. -/
structure Initial : Prop where
  link : s.link = .connecting
  address : s.address = false
  expired : s.expired = false
  events : s.events = [.staStart]
  connected : s.connected = false
  coapConnectedBit : s.coapConnectedBit = false
  coap : s.coap = {}

def step : WifiAction → Option WifiConnection
  | .associate =>
    if s.link = .connecting then some ({ s with link := .associated }.post .staConnected) else none
  | .refuse =>
    if s.link = .connecting then some ({ s with link := .down }.post .staDisconnected) else none
  | .lose =>
    if s.link = .associated then
      some ({ s with link := .down, address := false, expired := false }.post .staDisconnected)
    else none
  | .lease =>
    if s.link = .associated then
      some ({ s with address := true, expired := false }.post .staGotIp)
    else none
  -- `SYSTEM_EVENT_STA_LOST_IP`, which `event_handler` leaves to `default`
  | .expire =>
    if s.address then some ({ s with address := false, expired := true }.post .other) else none
  | .handle accepted =>
    match s.events with
    | [] => none
    | event :: events => some ({ s with events := events }.eventHandler accepted event)
  | .coapTask answers =>
    (s.coap.taskHandle endpoints answers).map (fun coap => { s with coap := coap })
  | .iterate => some { s with loop := s.loop.iteration s.connected }

def system : System WifiConnection WifiAction where
  init := Initial
  step s a := s.step endpoints a

def connectedAfter (connected : Bool) : SystemEvent → Bool
  | .staConnected => true
  | .staDisconnected => false
  | _ => connected

def readyAfter (ready : Bool) : SystemEvent → Bool
  | .staGotIp => true
  | .staDisconnected => false
  | _ => ready

/-- The events on their way make up for what the node does not know yet of the station. -/
structure Informed : Prop where
  connected : s.events.foldl connectedAfter s.connected = decide (s.link = .associated)
  ready : s.events.foldl readyAfter s.coap.networkReady = (s.address || s.expired)
  bit : s.coapConnectedBit = s.coap.networkReady
  leased : (s.address || s.expired) = true → s.link = .associated

section Steps

variable {endpoints s} {t : WifiConnection}

theorem Initial.informed (h : s.Initial) : s.Informed where
  connected := by
    rw [h.events, h.connected, h.link]
    rfl
  ready := by
    rw [h.events, h.coap, h.address, h.expired]
    rfl
  bit := by rw [h.coapConnectedBit, h.coap]
  leased hl := by
    rw [h.address, h.expired] at hl
    cases hl

theorem espWifiConnect_informed {accepted : Bool} (h : s.Informed) :
    (s.espWifiConnect accepted).Informed := by
  unfold espWifiConnect
  split_ifs with hdown
  · refine ⟨?_, h.ready, h.bit, fun hl => ?_⟩
    · rw [h.connected, hdown.2]
      rfl
    · have hassociated := h.leased hl
      rw [hdown.2] at hassociated
      cases hassociated
  · exact h

theorem Informed.handle {accepted : Bool} {event : SystemEvent} {events : List SystemEvent}
    (h : s.Informed) (he : s.events = event :: events) :
    ({ s with events := events }.eventHandler accepted event).Informed := by
  obtain ⟨hconnected, hready, hbit, hleased⟩ := h
  rw [he, List.foldl_cons] at hconnected hready
  cases event with
  | staDisconnected => exact espWifiConnect_informed ⟨hconnected, hready, rfl, hleased⟩
  | staGotIp => exact ⟨hconnected, hready, rfl, hleased⟩
  | _ => exact ⟨hconnected, hready, hbit, hleased⟩

theorem informed_step (s : WifiConnection) (a : WifiAction) (t : WifiConnection) (h : s.Informed)
    (ht : (system endpoints).step s a = some t) : t.Informed := by
  change s.step endpoints a = some t at ht
  unfold step at ht
  cases a with
  | associate =>
    obtain ⟨hlink, ht⟩ := Option.ite_none_right_eq_some.mp ht
    obtain rfl := Option.some.inj ht
    refine ⟨?_, ?_, h.bit, fun _ => rfl⟩
    · rw [post, List.foldl_append]
      rfl
    · rw [post, List.foldl_append]
      exact h.ready
  | refuse =>
    obtain ⟨hlink, ht⟩ := Option.ite_none_right_eq_some.mp ht
    obtain rfl := Option.some.inj ht
    have hnone : (s.address || s.expired) = false := by
      by_contra hl
      have hassociated := h.leased (Bool.not_eq_false _ ▸ hl)
      rw [hlink] at hassociated
      cases hassociated
    refine ⟨?_, ?_, h.bit, fun hl => ?_⟩
    · rw [post, List.foldl_append]
      rfl
    · rw [post, List.foldl_append]
      exact hnone.symm
    · exact absurd (hnone.symm.trans hl) (by decide)
  | lose =>
    obtain ⟨_, ht⟩ := Option.ite_none_right_eq_some.mp ht
    obtain rfl := Option.some.inj ht
    refine ⟨?_, ?_, h.bit, fun hl => (by cases hl)⟩
    · rw [post, List.foldl_append]
      rfl
    · rw [post, List.foldl_append]
      rfl
  | lease =>
    obtain ⟨hlink, ht⟩ := Option.ite_none_right_eq_some.mp ht
    obtain rfl := Option.some.inj ht
    refine ⟨?_, ?_, h.bit, fun _ => hlink⟩
    · rw [post, List.foldl_append]
      exact h.connected
    · rw [post, List.foldl_append]
      rfl
  | expire =>
    obtain ⟨haddress, ht⟩ := Option.ite_none_right_eq_some.mp ht
    obtain rfl := Option.some.inj ht
    have hleased : (s.address || s.expired) = true := by rw [haddress, Bool.true_or]
    refine ⟨?_, ?_, h.bit, fun _ => h.leased hleased⟩
    · rw [post, List.foldl_append]
      exact h.connected
    · rw [post, List.foldl_append]
      exact h.ready.trans hleased
  | handle accepted =>
    cases he : s.events with
    | nil =>
      rw [he] at ht
      cases ht
    | cons event events =>
      rw [he] at ht
      obtain rfl := Option.some.inj ht
      exact h.handle he
  | coapTask answers =>
    obtain ⟨coap, hcoap, rfl⟩ := Option.map_eq_some_iff.mp ht
    have hready : coap.networkReady = s.coap.networkReady :=
      (taskHandle_control endpoints hcoap).networkReady
    refine ⟨h.connected, ?_, ?_, h.leased⟩
    · dsimp only
      rw [hready]
      exact h.ready
    · dsimp only
      rw [hready]
      exact h.bit
  | iterate =>
    obtain rfl := Option.some.inj ht
    exact ⟨h.connected, h.ready, h.bit, h.leased⟩

/-- A station that is down was reported, and the report makes the node connect again. -/
def Owed (s : WifiConnection) : Prop := s.link = .down → .staDisconnected ∈ s.events

theorem Owed.post {event : SystemEvent} (h : s.Owed) : (s.post event).Owed :=
  fun hdown => List.mem_append_left _ (h hdown)

theorem Owed.handle {event : SystemEvent} {events : List SystemEvent} (h : s.Owed)
    (he : s.events = event :: events) :
    ({ s with events := events }.eventHandler true event).Owed := by
  unfold Owed at h
  rw [he] at h
  cases event with
  | staDisconnected =>
    intro hdown
    simp only [eventHandler, espWifiConnect, true_and] at hdown ⊢
    split_ifs at hdown with hlink
    exact absurd hdown hlink
  | _ =>
    intro hdown
    simpa [eventHandler] using h hdown

theorem owed_step (s : WifiConnection) (a : WifiAction) (t : WifiConnection) (h : s.Owed)
    (ha : a ≠ .handle false) (ht : (system endpoints).step s a = some t) : t.Owed := by
  change s.step endpoints a = some t at ht
  unfold step at ht
  cases a with
  | associate =>
    obtain ⟨_, ht⟩ := Option.ite_none_right_eq_some.mp ht
    obtain rfl := Option.some.inj ht
    exact fun hdown => (by cases hdown)
  | refuse =>
    obtain ⟨_, ht⟩ := Option.ite_none_right_eq_some.mp ht
    obtain rfl := Option.some.inj ht
    exact fun _ => List.mem_append_right _ (List.mem_singleton_self _)
  | lose =>
    obtain ⟨_, ht⟩ := Option.ite_none_right_eq_some.mp ht
    obtain rfl := Option.some.inj ht
    exact fun _ => List.mem_append_right _ (List.mem_singleton_self _)
  | lease =>
    obtain ⟨_, ht⟩ := Option.ite_none_right_eq_some.mp ht
    obtain rfl := Option.some.inj ht
    exact Owed.post (s := { s with address := true, expired := false }) h
  | expire =>
    obtain ⟨_, ht⟩ := Option.ite_none_right_eq_some.mp ht
    obtain rfl := Option.some.inj ht
    exact Owed.post (s := { s with address := false, expired := true }) h
  | handle accepted =>
    cases accepted with
    | false => exact absurd rfl ha
    | true =>
      cases he : s.events with
      | nil =>
        rw [he] at ht
        cases ht
      | cons event events =>
        rw [he] at ht
        obtain rfl := Option.some.inj ht
        exact h.handle he
  | coapTask answers =>
    obtain ⟨coap, _, rfl⟩ := Option.map_eq_some_iff.mp ht
    exact h
  | iterate =>
    obtain rfl := Option.some.inj ht
    exact h

end Steps

/-- Whatever the station does and however its events queue up: once they are handled, the node knows
whether the station is associated and has had an address, tries to connect unless it is, and the
next iteration of the main loop shows it on the LED. The first iteration that finds a connection
signals it instead, and the one after shows it. -/
theorem wifi_settled (s t : WifiConnection) (actions : List WifiAction) (hs : s.Initial)
    (ht : (system endpoints).run s actions = some t) (he : t.events = []) :
    (t.connected = true ↔ t.link = .associated) ∧
      (t.coap.networkReady = true ↔ t.address = true ∨ t.expired = true) ∧
      t.coapConnectedBit = t.coap.networkReady ∧
      (t.coap.networkReady = true → t.connected = true) ∧
      (.handle false ∉ actions → t.link ≠ .down) ∧
      (t.link ≠ .associated → (t.loop.iteration t.connected).statusLED.mode = .showStatus) ∧
      (t.link = .associated → t.loop.lastConnectedState = true →
        (t.loop.iteration t.connected).statusLED.mode = .user) ∧
      (t.link = .associated → t.loop.lastConnectedState = false →
        (t.loop.iteration t.connected).statusLED = t.loop.statusLED.setStatusColor 0 15 0 250 ∧
        ((t.loop.iteration t.connected).iteration t.connected).statusLED.mode = .user) := by
  have hinformed : t.Informed := (system endpoints).reachable_invariant
    (fun _ hi => hi.informed) informed_step ⟨s, actions, hs, ht⟩
  have hconnected : t.connected = true ↔ t.link = .associated := by
    have hfold := hinformed.connected
    rw [he, List.foldl_nil] at hfold
    rw [hfold, decide_eq_true_iff]
  have hready : t.coap.networkReady = true ↔ t.address = true ∨ t.expired = true := by
    have hfold := hinformed.ready
    rw [he, List.foldl_nil] at hfold
    rw [hfold, Bool.or_eq_true]
  refine ⟨hconnected, hready, hinformed.bit, ?_, ?_, ?_, ?_, ?_⟩
  · intro hnetwork
    apply hconnected.mpr
    apply hinformed.leased
    rw [Bool.or_eq_true]
    exact hready.mp hnetwork
  · intro haccepted hdown
    have halong : (system endpoints).Along (fun _ a => a ≠ .handle false) s actions := by
      rintro before a after u rfl _ rfl
      exact haccepted (by simp)
    have howed : t.Owed := by
      refine (system endpoints).run_invariant owed_step ?_ halong ht
      intro hlink
      rw [hs.link] at hlink
      cases hlink
    have hmem := howed hdown
    rw [he] at hmem
    cases hmem
  · intro hlink
    have hoff : t.connected = false := by
      rw [← Bool.not_eq_true]
      exact fun hon => hlink (hconnected.mp hon)
    rw [hoff]
    simp [MainLoop.iteration]
  · intro hlink hlast
    rw [hconnected.mpr hlink]
    exact (MainLoop.iteration_mode hlast).2
  · intro hlink hlast
    rw [hconnected.mpr hlink]
    have hfirst : t.loop.iteration true = { t.loop with
        lastConnectedState := true
        statusLED := t.loop.statusLED.setStatusColor 0 15 0 250 } := by
      unfold MainLoop.iteration
      rw [if_pos rfl, if_pos (by simp [hlast])]
    rw [hfirst]
    exact ⟨rfl, (MainLoop.iteration_mode rfl).2⟩

def starting : WifiConnection where
  link := .connecting
  address := false
  expired := false
  events := [.staStart]
  connected := false
  coapConnectedBit := false
  coap := {}
  loop := {}

theorem wifi_settled_lost :
    ∃ t, (system someEndpoints).run starting
        [.associate, .handle true, .lease, .handle true, .handle true, .iterate, .lose,
          .handle true] = some t ∧ t.coap.networkReady ≠ true ∧ t.link ≠ .down ∧
      (t.loop.iteration t.connected).statusLED.mode = .showStatus := by
  obtain ⟨_, hready, _, _, hdown, hstatus, _⟩ := wifi_settled someEndpoints starting _
    [.associate, .handle true, .lease, .handle true, .handle true, .iterate, .lose, .handle true]
    ⟨rfl, rfl, rfl, rfl, rfl, rfl, rfl⟩ rfl rfl
  refine ⟨_, rfl, ?_, hdown (by simp), hstatus (by decide)⟩
  intro hnetwork
  rcases hready.mp hnetwork with haddress | hexpired
  · cases haddress
  · cases hexpired

end WifiConnection

end IoTNode
