import IoTNode.CoapTask

set_option autoImplicit false

namespace IoTNode

open Lobaro

def LibraryCall.packet? : LibraryCall → Option NetPacket
  | .handleIncomingPacket _ _ packet => some packet
  | _ => none

def LibraryCall.sendto? : LibraryCall → Option (UInt32 × UInt16 × List UInt8)
  | .netconn (.sendto address port payload) _ => some (address, port, payload)
  | _ => none

namespace LobaroCoap

def packets (s : LobaroCoap) : List NetPacket := s.calls.filterMap LibraryCall.packet?

def sent (s : LobaroCoap) : List (UInt32 × UInt16 × List UInt8) :=
  s.calls.filterMap LibraryCall.sendto?

/-- The socket is a datagram socket, and a context is there. -/
def Live (s : LobaroCoap) : Prop := s.typeOfSocket.group = .udp ∧ s.context ≠ none

instance (s : LobaroCoap) : Decidable s.Live := inferInstanceAs (Decidable (_ ∧ _))

section Calls

variable {endpoints : LobaroEndpoints} {s : LobaroCoap}

@[simp] theorem packets_log (call : LibraryCall) :
    (s.log call).packets = s.packets ++ call.packet?.toList := by
  unfold packets log
  rw [List.filterMap_append]
  cases call <;> rfl

@[simp] theorem sent_log (call : LibraryCall) :
    (s.log call).sent = s.sent ++ call.sendto?.toList := by
  unfold sent log
  rw [List.filterMap_append, List.filterMap_cons, List.filterMap_nil]
  cases call.sendto? <;> rfl

theorem fillAndSend_packets (buffer : NetbufId) (send : Send) :
    (s.fillAndSend buffer send).1.packets = s.packets := by
  unfold fillAndSend
  dsimp only
  split_ifs <;> simp [LibraryCall.packet?]

theorem sendDatagram_packets (send : Send) : (s.sendDatagram send).1.packets = s.packets := by
  unfold sendDatagram
  dsimp only
  split_ifs
  · simp [LibraryCall.packet?]
  · rw [packets_log, fillAndSend_packets]
    change ((s.log _).log _).packets ++ _ = _
    simp [LibraryCall.packet?]

theorem callTx_packets (sends : List Send) : (s.callTx sends).packets = s.packets := by
  induction sends generalizing s with
  | nil => rfl
  | cons send sends ih =>
    have hrest : (s.callTx (send :: sends)).packets = (s.sendDatagram send).1.packets := ih
    rw [hrest, sendDatagram_packets]

theorem handleDatagram_packets (a : Answers) (buffer : NetbufId) (datagram : Netbuf) :
    (s.handleDatagram endpoints a buffer datagram).packets =
      s.packets ++ if s.Live then [packetOf endpoints a datagram] else [] := by
  have htype : (s.log (.netconn .type s.socket)).typeOfSocket = s.typeOfSocket := rfl
  have hcontext : (s.log (.netconn .type s.socket)).context = s.context := rfl
  unfold handleDatagram
  dsimp only
  rw [htype, hcontext]
  by_cases hudp : s.typeOfSocket.group = .udp
  · rw [if_neg (not_not.mpr hudp)]
    cases hc : s.context with
    | none =>
      have hdead : ¬ s.Live := fun h => h.2 hc
      rw [if_neg hdead]
      simp [LibraryCall.packet?]
    | some context =>
      have hlive : s.Live := ⟨hudp, by simp [hc]⟩
      rw [if_pos hlive]
      simp [callTx_packets, LibraryCall.packet?]
  · have hdead : ¬ s.Live := fun h => hudp h.1
    rw [if_pos hudp, if_neg hdead]
    simp [LibraryCall.packet?]

theorem readDatagram_packets (a : Answers) :
    (s.readDatagram endpoints a).packets = s.packets ++
      if s.Live then a.received.toList.map (packetOf endpoints a) else [] := by
  unfold readDatagram
  cases a.received with
  | none => simp [LibraryCall.packet?]
  | some datagram =>
    dsimp only
    rw [handleDatagram_packets]
    change ((s.log _).log _).packets ++ (if s.Live then _ else _) = _
    simp [LibraryCall.packet?]

end Calls

variable (endpoints : LobaroEndpoints)

/-- The packet that this call of `ReadDatagram` passes to `CoAP_HandleIncomingPacket`. -/
def Hands (s : LobaroCoap) (a : Answers) (packet : NetPacket) : Prop :=
  (s.readDatagram endpoints a).packets = s.packets ++ [packet]

def ReadsWhole (s : LobaroCoap) (a : Answers) : Prop :=
  ∀ datagram packet, a.received = some datagram → Hands endpoints s a packet →
    packet.pData = datagram.segments.flatten ∧
      packet.size.toNat = datagram.segments.flatten.length

def Contiguous (datagram : Netbuf) : Prop :=
  datagram.segments.tail.flatten = [] ∧ datagram.segments.flatten.length ≤ 65535

section Receiving

variable {endpoints} {s : LobaroCoap} {a : Answers} {datagram : Netbuf} {packet : NetPacket}

theorem hands_iff (hr : a.received = some datagram) :
    Hands endpoints s a packet ↔ s.Live ∧ packet = packetOf endpoints a datagram := by
  unfold Hands
  rw [readDatagram_packets, List.append_cancel_left_eq, hr, Option.toList_some, List.map_singleton]
  by_cases hlive : s.Live
  · rw [if_pos hlive, List.singleton_inj]
    exact ⟨fun h => ⟨hlive, h.symm⟩, fun h => h.2.symm⟩
  · rw [if_neg hlive]
    exact iff_of_false (List.cons_ne_nil _ _).symm (fun h => hlive h.1)

theorem flatten_head (segments : List (List UInt8)) :
    segments.flatten = segments.headD [] ++ segments.tail.flatten := by
  cases segments <;> rfl

theorem packetOf_whole_iff :
    (packetOf endpoints a datagram).pData = datagram.segments.flatten ∧
        (packetOf endpoints a datagram).size.toNat = datagram.segments.flatten.length ↔
      Contiguous datagram := by
  have hdata : (packetOf endpoints a datagram).pData = datagram.segments.flatten ↔
      datagram.segments.tail.flatten = [] := by
    rw [flatten_head]
    exact ⟨fun h => List.self_eq_append_right.mp h, fun h => by rw [h, List.append_nil]; rfl⟩
  unfold Contiguous
  rw [hdata]
  apply and_congr_right
  intro htail
  have hsize : (packetOf endpoints a datagram).size.toNat =
      datagram.segments.flatten.length % 65536 := by
    rw [flatten_head, htail, List.append_nil]
    exact UInt16.toNat_ofNat'
  rw [hsize]
  omega

end Receiving

theorem readsWhole_iff (s : LobaroCoap) (a : Answers) :
    ReadsWhole endpoints s a ↔
      (s.Live → ∀ datagram, a.received = some datagram → Contiguous datagram) := by
  constructor
  · intro h hlive datagram hr
    exact packetOf_whole_iff.mp (h datagram _ hr ((hands_iff hr).mpr ⟨hlive, rfl⟩))
  · intro h datagram packet hr hp
    obtain ⟨hlive, rfl⟩ := (hands_iff hr).mp hp
    exact packetOf_whole_iff.mpr (h hlive datagram hr)

-- a task that serves its first connection
def serving : LobaroCoap :=
  { networkReady := true
    socket := some 0
    context := some 0
    task := .read
    sockets := 1
    contexts := 1
    socketType := fun _ => .udp }

def twoSegmentDatagram : Netbuf :=
  ⟨[[0x40, 1], [0, 1]], ⟨.v4, ⟨0x0100007f, 0, 0, 0⟩⟩, 5683, ⟨.v4, ⟨0x0200007f, 0, 0, 0⟩⟩⟩

theorem readsWhole_counterexample :
    ¬ ReadsWhole someEndpoints serving { received := some twoSegmentDatagram } := by
  intro h
  have hdata := (h twoSegmentDatagram _ rfl ((hands_iff rfl).mpr ⟨by decide, rfl⟩)).1
  exact absurd hdata (by decide)

end LobaroCoap

end IoTNode
