import IoTNode.Datagrams
import IoTNode.Foundations.Simulations

set_option autoImplicit false

namespace IoTNode

open Foundations

/-- The part of an endpoint that its type gives a meaning to. -/
def NetEp.known (ep : NetEp) : NetEp :=
  match ep.netType with
  | .ipv4 => { ep with netAddr := ⟨ep.netAddr.w0, 0, 0, 0⟩ }
  | .ipv6 => ep
  | .other => { ep with netAddr := ⟨0, 0, 0, 0⟩ }

def NetPacket.known (packet : NetPacket) : NetPacket :=
  { packet with remoteEp := packet.remoteEp.known }

def LibraryCall.known : LibraryCall → LibraryCall
  | .handleIncomingPacket context buffer packet => .handleIncomingPacket context buffer packet.known
  | call => call

/-- Without what `packet` and `Sender` of `ReadDatagram` hold before they are set. -/
def Answers.cleared (a : Answers) : Answers :=
  { a with remoteEp := ⟨.other, ⟨0, 0, 0, 0⟩, 0⟩, sender := ⟨.other, ⟨0, 0, 0, 0⟩, 0⟩ }

/-- Both branches of `ReadDatagram` that set an address are taken. -/
def Netbuf.Addressed (datagram : Netbuf) : Prop :=
  datagram.addr.type ≠ .any ∧ (datagram.toaddr.type = .v4 ∨ datagram.addr.type = .v6)

def Answers.Addressed (a : Answers) : Prop := ∀ datagram, a.received = some datagram →
  datagram.Addressed

namespace LobaroCoap

def ComparesKnown (endpoints : LobaroEndpoints) : Prop :=
  ∀ ep ep' other, ep.known = ep'.known → endpoints.epAreEqual ep other =
    endpoints.epAreEqual ep' other

def known (s : LobaroCoap) : LobaroCoap := { s with calls := s.calls.map LibraryCall.known }

section Steps

variable {endpoints : LobaroEndpoints} {s : LobaroCoap} {a : Answers}

@[simp] theorem known_log (s : LobaroCoap) (call : LibraryCall) :
    (s.log call).known = s.known.log call.known := by
  unfold log known
  simp

@[simp] theorem known_withNetbufs (s : LobaroCoap) (netbufs : ℕ) :
    known { s with netbufs := netbufs } = { s.known with netbufs := netbufs } := rfl

@[simp] theorem known_goto (s : LobaroCoap) (task : TaskStep) :
    (s.goto task).known = s.known.goto task := rfl

theorem epKnown_known (ep : NetEp) : ep.known.known = ep.known := by
  unfold NetEp.known
  cases htype : ep.netType <;> simp [htype]

theorem callKnown_known (call : LibraryCall) : call.known.known = call.known := by
  cases call with
  | handleIncomingPacket context buffer packet =>
    simp [LibraryCall.known, NetPacket.known, epKnown_known]
  | _ => rfl

theorem callKnown_comp : LibraryCall.known ∘ LibraryCall.known = LibraryCall.known :=
  funext callKnown_known

theorem known_known (s : LobaroCoap) : s.known.known = s.known := by
  unfold known
  simp [callKnown_known]

theorem setEndpoint_known {ep ep' : NetEp} {v4 v6 : Bool} {words : IpWords}
    (hport : ep.netPort = ep'.netPort) (h : v4 = true ∨ v6 = true) :
    (setEndpoint ep v4 v6 words).known = (setEndpoint ep' v4 v6 words).known := by
  unfold setEndpoint
  cases v4 with
  | true => simp [NetEp.known, hport]
  | false =>
    obtain rfl : v6 = true := by simpa using h
    simp [NetEp.known, hport]

theorem packetOf_known (hep : ComparesKnown endpoints) {datagram : Netbuf}
    (h : datagram.Addressed) :
    (packetOf endpoints a datagram).known = (packetOf endpoints a.cleared datagram).known := by
  obtain ⟨haddr, htoaddr⟩ := h
  have hknown : datagram.addr.type = .v4 ∨ datagram.addr.type = .v6 := by
    cases htype : datagram.addr.type with
    | v4 => exact Or.inl rfl
    | v6 => exact Or.inr rfl
    | any => exact absurd htype haddr
  have hremote : (setEndpoint { a.remoteEp with netPort := datagram.port }
      (datagram.addr.type = .v4) (datagram.addr.type = .v6) datagram.addr.words).known =
      (setEndpoint { a.cleared.remoteEp with netPort := datagram.port }
        (datagram.addr.type = .v4) (datagram.addr.type = .v6) datagram.addr.words).known :=
    setEndpoint_known rfl (by simpa using hknown)
  have hsender : (setEndpoint { a.sender with netPort := a.localPort }
      (datagram.toaddr.type = .v4) (datagram.addr.type = .v6) datagram.toaddr.words).known =
      (setEndpoint { a.cleared.sender with netPort := a.localPort }
        (datagram.toaddr.type = .v4) (datagram.addr.type = .v6) datagram.toaddr.words).known :=
    setEndpoint_known rfl (by simpa using htoaddr)
  unfold packetOf NetPacket.known
  dsimp only
  rw [hremote, hep _ _ endpoints.ipv4Multicast hsender, hep _ _ endpoints.ipv6Multicast hsender]
  rfl

theorem fillAndSend_known (buffer : NetbufId) (send : Send) :
    (s.fillAndSend buffer send).1.known = (s.known.fillAndSend buffer send).1 := by
  have hcontext : s.known.context = s.context := rfl
  unfold fillAndSend
  by_cases hcopied : send.netbufRef = true
  · by_cases htype : send.packet.remoteEp.netType = .ipv4
    · by_cases hlive : s.context = none
      · simp [log, hcopied, htype, hlive, known, LibraryCall.known]
      · simp [log, hcopied, htype, hlive, known, LibraryCall.known]
    · simp [hcopied, htype, LibraryCall.known]
  · simp [hcopied, LibraryCall.known]

theorem sendDatagram_known (send : Send) :
    (s.sendDatagram send).1.known = (s.known.sendDatagram send).1 := by
  have htype : (s.log (.netconn .type s.socket)).typeOfSocket = s.typeOfSocket := rfl
  have hknown : (s.known.log (.netconn .type s.known.socket)).typeOfSocket = s.typeOfSocket := rfl
  unfold sendDatagram
  dsimp only
  rw [htype, hknown]
  by_cases hudp : s.typeOfSocket.group = .udp
  · rw [if_neg (not_not.mpr hudp), if_neg (not_not.mpr hudp)]
    rw [known_log, fillAndSend_known, known_withNetbufs, known_log, known_log]
    rfl
  · rw [if_pos hudp, if_pos hudp]
    exact known_log s _

theorem callTx_known (sends : List Send) : (s.callTx sends).known = s.known.callTx sends := by
  induction sends generalizing s with
  | nil => rfl
  | cons send sends ih =>
    have hrest : s.callTx (send :: sends) = (s.sendDatagram send).1.callTx sends := rfl
    have hknown : s.known.callTx (send :: sends) = (s.known.sendDatagram send).1.callTx sends := rfl
    rw [hrest, hknown, ih, sendDatagram_known]

theorem handleDatagram_known (hep : ComparesKnown endpoints) (buffer : NetbufId)
    {datagram : Netbuf} (h : datagram.Addressed) :
    (s.handleDatagram endpoints a buffer datagram).known =
      (s.known.handleDatagram endpoints a.cleared buffer datagram).known := by
  have htype : (s.log (.netconn .type s.socket)).typeOfSocket = s.typeOfSocket := rfl
  have hknown : (s.known.log (.netconn .type s.known.socket)).typeOfSocket = s.typeOfSocket := rfl
  unfold handleDatagram
  dsimp only
  rw [htype, hknown]
  by_cases hudp : s.typeOfSocket.group = .udp
  · rw [if_neg (not_not.mpr hudp), if_neg (not_not.mpr hudp)]
    have hlog : (s.log (.netconn .type s.socket)).context = s.context := rfl
    have hlogKnown : (s.known.log (.netconn .type s.known.socket)).context = s.context := rfl
    rw [hlog, hlogKnown]
    cases s.context with
    | none => simp [known_known]; rfl
    | some context =>
      simp only [known_log, callTx_known, known_known, LibraryCall.known,
        packetOf_known hep h (a := a)]
      rfl
  · rw [if_pos hudp, if_pos hudp]
    simp [known_known]; rfl

theorem readDatagram_known (hep : ComparesKnown endpoints) (h : a.Addressed) :
    (s.readDatagram endpoints a).known = (s.known.readDatagram endpoints a.cleared).known := by
  have hreceived : a.cleared.received = a.received := rfl
  unfold readDatagram
  rw [hreceived]
  cases hr : a.received with
  | none => simp [known_known]; rfl
  | some datagram =>
    have hstart : known { (s.log (.netconn .recv s.socket)).log (.netbufReceived s.netbufs) with
          netbufs := s.netbufs + 1 } =
        { (s.known.log (.netconn .recv s.socket)).log (.netbufReceived s.netbufs) with
          netbufs := s.netbufs + 1 } := by
      rw [known_withNetbufs, known_log, known_log]
      rfl
    dsimp only
    rw [handleDatagram_known hep _ (h datagram hr)]
    exact congrArg (fun u => (handleDatagram endpoints u a.cleared s.netbufs datagram).known) hstart

theorem taskHandle_known (hep : ComparesKnown endpoints) (h : a.Addressed) :
    (s.taskHandle endpoints a).map known =
      (s.known.taskHandle endpoints a.cleared).map known := by
  have htask : s.known.task = s.task := rfl
  unfold taskHandle
  rw [htask]
  cases s.task with
  | outerCheck => cases hready : s.networkReady <;> simp [known, goto, hready, callKnown_comp]
  | newSocket =>
    cases hnew : a.netconnNew <;> simp [known, log, Answers.cleared, hnew, callKnown_comp]
  | newContext =>
    cases hnew : a.coapNewSocket <;> simp [known, log, Answers.cleared, hnew, callKnown_comp]
  | bind =>
    cases hbind : a.netconnBind <;>
      simp [known, log, goto, Answers.cleared, hbind, callKnown_comp]
  | innerCheck => cases hready : s.networkReady <;> simp [known, goto, hready, callKnown_comp]
  | contextCheck =>
    cases hcontext : s.context <;> simp [known, goto, hcontext, callKnown_comp]
  | notify =>
    cases hdequeued : a.dequeued with
    | none => simp [Answers.cleared, hdequeued, known_known]
    | some resource => simp [Answers.cleared, hdequeued, callTx_known, known_known]
  | read =>
    rw [Option.map_some, Option.map_some, known_goto, known_goto, readDatagram_known hep h]
  | doWork => simp [Answers.cleared, callTx_known, known_known]
  | deleted => rfl
  | _ => simp [known, log, goto, callKnown_comp]

def cleared : CoapAction → CoapAction
  | .event event => .event event
  | .task a => .task a.cleared

theorem step_known (hep : ComparesKnown endpoints) (s s' : LobaroCoap) (action action' : CoapAction)
    (hs : s.known = s'.known) (ha : cleared action = cleared action')
    (h : ∀ a, action = .task a → a.Addressed) :
    ((system endpoints).step s action).map known =
      ((system endpoints).step s' action').map known := by
  cases action with
  | event event =>
    cases action' with
    | event event' =>
      obtain rfl := CoapAction.event.inj ha
      have hevent : ∀ s : LobaroCoap, (s.eventHandler event).known = s.known.eventHandler event :=
        fun s => by cases event <;> rfl
      change some (s.eventHandler event).known = some (s'.eventHandler event).known
      rw [hevent, hevent, hs]
    | task a' => cases ha
  | task a =>
    cases action' with
    | event event' => cases ha
    | task a' =>
      have ha : a.cleared = a'.cleared := CoapAction.task.inj ha
      have haddressed : a'.Addressed := by
        intro datagram hr
        have hreceived : a.cleared.received = a'.cleared.received := by rw [ha]
        exact h a rfl datagram (hreceived.trans hr)
      change (s.taskHandle endpoints a).map known = (s'.taskHandle endpoints a').map known
      rw [taskHandle_known hep (h a rfl), taskHandle_known hep haddressed, hs, ha]

theorem packets_known (s : LobaroCoap) : s.known.packets = s.packets.map NetPacket.known := by
  unfold packets known
  dsimp only
  rw [List.filterMap_map, List.map_filterMap]
  congr 1
  funext call
  cases call <;> rfl

theorem readDatagram_differs {datagram : Netbuf} (hlive : s.Live)
    (hr : a.received = some datagram) (htype : datagram.addr.type = .any) :
    ∃ b : Answers, b.cleared = a.cleared ∧
      (s.readDatagram endpoints b).known ≠ (s.readDatagram endpoints a).known := by
  have hremote : ∀ b : Answers, (packetOf endpoints b datagram).remoteEp =
      { b.remoteEp with netPort := datagram.port } := by
    intro b
    simp [packetOf, setEndpoint, htype]
  -- a stack that holds an endpoint of another type than this one
  obtain ⟨netType, hne⟩ : ∃ netType, netType ≠ a.remoteEp.netType := by
    cases a.remoteEp.netType with
    | ipv4 => exact ⟨.ipv6, by decide⟩
    | _ => exact ⟨.ipv4, by decide⟩
  have hknown : ∀ ep : NetEp, ep.known.netType = ep.netType := by
    intro ep
    unfold NetEp.known
    cases htype : ep.netType <;> simp [htype]
  refine ⟨{ a with remoteEp := { a.remoteEp with netType := netType } }, rfl, fun hsame => hne ?_⟩
  have hpackets := congrArg packets hsame
  rw [packets_known, packets_known, readDatagram_packets, if_pos hlive, readDatagram_packets,
    if_pos hlive, hr] at hpackets
  simp only [Option.toList_some, List.map_append, List.map_singleton, List.append_cancel_left_eq,
    List.singleton_inj] at hpackets
  have htypes := congrArg (fun packet : NetPacket => packet.remoteEp.netType) hpackets
  unfold NetPacket.known at htypes
  dsimp only at htypes
  rw [hknown, hknown, hremote, hremote] at htypes
  exact htypes

end Steps

def knownEndpoints : LobaroEndpoints :=
  { someEndpoints with epAreEqual := fun ep other => ep.known = other.known }

theorem knownEndpoints_comparesKnown : ComparesKnown knownEndpoints := by
  intro ep ep' other h
  simp [knownEndpoints, h]

def served : Answers :=
  { received := some ⟨[[0x40]], ⟨.v4, ⟨1, 0, 0, 0⟩⟩, 7, ⟨.v4, ⟨2, 0, 0, 0⟩⟩⟩ }

def staleServed : Answers := { served with remoteEp := ⟨.ipv6, ⟨1, 2, 3, 4⟩, 9⟩ }

def firstDatagram (a : Answers) : List CoapAction :=
  .event .staGotIp :: (List.replicate 10 (.task {})).concat (.task a)

end LobaroCoap

end IoTNode
