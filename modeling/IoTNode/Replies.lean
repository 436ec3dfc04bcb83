import IoTNode.Datagrams

set_option autoImplicit false

namespace IoTNode.LobaroCoap

open Lobaro

def accepted (packet : NetPacket) : Send := ⟨packet, true, true⟩

/-- `sendto` takes an IPv4 address, which no IPv6 address is. -/
def NamesAddress (addr : IpAddr) (address : UInt32) : Prop :=
  addr.type = .v4 ∧ addr.words.w0 = address

structure RepliesTo (t : LobaroCoap) (reply : NetPacket) (datagram : Netbuf) : Prop where
  success : (t.sendDatagram (accepted reply)).2 = true
  sent : ∃ address, NamesAddress datagram.addr address ∧
    (t.sendDatagram (accepted reply)).1.sent =
      t.sent ++ [(address, datagram.port, reply.pData.take reply.size.toNat)]

def Refuses (t : LobaroCoap) (reply : NetPacket) : Prop :=
  ∀ netbufRef netconnSendto,
    (t.sendDatagram ⟨reply, netbufRef, netconnSendto⟩).2 = false ∧
      (t.sendDatagram ⟨reply, netbufRef, netconnSendto⟩).1.sent = t.sent

section Sending

variable {t : LobaroCoap} {buffer : NetbufId} {send : Send}

theorem fillAndSend_sends (hc : t.context ≠ none) (hr : send.netbufRef)
    (h4 : send.packet.remoteEp.netType = .ipv4) :
    (t.fillAndSend buffer send).2 = send.netconnSendto ∧
      (t.fillAndSend buffer send).1.sent = t.sent ++ [(send.packet.remoteEp.netAddr.w0,
        send.packet.remoteEp.netPort, send.packet.pData.take send.packet.size.toNat)] := by
  have hcontext : (t.log (.netbufUse buffer)).context ≠ none := hc
  unfold fillAndSend
  dsimp only
  rw [if_neg (not_not.mpr hr), if_neg (not_not.mpr h4), if_neg hcontext]
  exact ⟨rfl, by simp [LibraryCall.sendto?]⟩

theorem fillAndSend_refuses (h4 : send.packet.remoteEp.netType ≠ .ipv4) :
    (t.fillAndSend buffer send).2 = false ∧ (t.fillAndSend buffer send).1.sent = t.sent := by
  unfold fillAndSend
  dsimp only
  split_ifs <;> exact ⟨rfl, by simp [LibraryCall.sendto?]⟩

theorem sendDatagram_udp (hudp : t.typeOfSocket.group = .udp) (send : Send) :
    ∃ u : LobaroCoap, u.context = t.context ∧ u.sent = t.sent ∧
      (t.sendDatagram send).2 = (u.fillAndSend t.netbufs send).2 ∧
      (t.sendDatagram send).1.sent = (u.fillAndSend t.netbufs send).1.sent := by
  have htype : ¬ (t.log (.netconn .type t.socket)).typeOfSocket.group ≠ .udp := not_not.mpr hudp
  unfold sendDatagram
  dsimp only
  rw [if_neg htype]
  let u : LobaroCoap :=
    { (t.log (.netconn .type t.socket)).log (.netbufNew t.netbufs) with netbufs := t.netbufs + 1 }
  refine ⟨u, rfl, ?_, rfl, ?_⟩
  · change ((t.log _).log _).sent = t.sent
    simp [LibraryCall.sendto?]
  · rw [sent_log]
    exact List.append_nil _

theorem sendDatagram_sends (ht : t.Live) (send : Send) (hr : send.netbufRef)
    (h4 : send.packet.remoteEp.netType = .ipv4) :
    (t.sendDatagram send).2 = send.netconnSendto ∧
      (t.sendDatagram send).1.sent = t.sent ++ [(send.packet.remoteEp.netAddr.w0,
        send.packet.remoteEp.netPort, send.packet.pData.take send.packet.size.toNat)] := by
  obtain ⟨u, hcontext, hsent, hresult, hafter⟩ := sendDatagram_udp ht.1 send
  rw [hresult, hafter, ← hsent]
  exact fillAndSend_sends (hcontext ▸ ht.2) hr h4

theorem sendDatagram_refuses (ht : t.Live) (h4 : send.packet.remoteEp.netType ≠ .ipv4) :
    (t.sendDatagram send).2 = false ∧ (t.sendDatagram send).1.sent = t.sent := by
  obtain ⟨u, _, hsent, hresult, hafter⟩ := sendDatagram_udp ht.1 send
  rw [hresult, hafter, ← hsent]
  exact fillAndSend_refuses h4

end Sending

section Endpoints

variable (endpoints : LobaroEndpoints) (a : Answers) {datagram : Netbuf}

theorem remoteEp_v4 (h : datagram.addr.type = .v4) :
    (packetOf endpoints a datagram).remoteEp.netType = .ipv4 ∧
      (packetOf endpoints a datagram).remoteEp.netAddr.w0 = datagram.addr.words.w0 ∧
      (packetOf endpoints a datagram).remoteEp.netPort = datagram.port := by
  unfold packetOf setEndpoint
  dsimp only
  rw [h]
  exact ⟨rfl, rfl, rfl⟩

theorem remoteEp_v6 (h : datagram.addr.type = .v6) :
    (packetOf endpoints a datagram).remoteEp.netType = .ipv6 := by
  unfold packetOf setEndpoint
  dsimp only
  rw [h]
  rfl

end Endpoints

def Replies (endpoints : LobaroEndpoints) (s : LobaroCoap) (a : Answers) : Prop :=
  ∀ datagram packet, a.received = some datagram →
    datagram.addr.type = .v4 ∨ datagram.addr.type = .v6 → Hands endpoints s a packet →
    ∀ (t : LobaroCoap) reply, t.Live → reply.remoteEp = packet.remoteEp → RepliesTo t reply datagram

theorem replies_v4_only (endpoints : LobaroEndpoints) (s t : LobaroCoap) (a : Answers)
    (datagram : Netbuf) (packet reply : NetPacket) (hr : a.received = some datagram)
    (hp : Hands endpoints s a packet) (ht : t.Live) (he : reply.remoteEp = packet.remoteEp) :
    (datagram.addr.type = .v4 → RepliesTo t reply datagram) ∧
      (datagram.addr.type = .v6 → Refuses t reply) := by
  obtain ⟨_, rfl⟩ := (hands_iff hr).mp hp
  constructor
  · intro h4
    obtain ⟨htype, haddress, hport⟩ := remoteEp_v4 endpoints a h4
    rw [← he] at htype haddress hport
    obtain ⟨hsuccess, hsent⟩ := sendDatagram_sends ht (accepted reply) rfl htype
    refine ⟨hsuccess, _, ⟨h4, rfl⟩, ?_⟩
    rw [hsent, ← haddress, ← hport]
    rfl
  · intro h6 netbufRef netconnSendto
    have htype : reply.remoteEp.netType ≠ .ipv4 := by
      rw [he, remoteEp_v6 endpoints a h6]
      decide
    exact sendDatagram_refuses ht htype

def answerTo (datagram : Netbuf) : NetPacket :=
  { packetOf someEndpoints { received := some datagram } datagram with pData := [0x60], size := 1 }

theorem replies_v4_only_segments :
    RepliesTo serving (answerTo twoSegmentDatagram) twoSegmentDatagram :=
  (replies_v4_only someEndpoints serving serving { received := some twoSegmentDatagram }
    twoSegmentDatagram _ (answerTo twoSegmentDatagram) rfl
    ((hands_iff rfl).mpr ⟨by decide, rfl⟩) (by decide) rfl).1 rfl

def datagramV6 : Netbuf :=
  ⟨[[0x40, 1, 0, 1]], ⟨.v6, ⟨0x000080fe, 0, 0, 0x01000000⟩⟩, 5683,
    ⟨.v6, ⟨0x000080fe, 0, 0, 0x02000000⟩⟩⟩

theorem replies_counterexample :
    ¬ ∀ s a, Replies someEndpoints s a := by
  intro h
  have hreply := h serving { received := some datagramV6 } datagramV6 _ rfl (Or.inr rfl)
    ((hands_iff rfl).mpr ⟨by decide, rfl⟩) serving (answerTo datagramV6) (by decide) rfl
  exact absurd hreply.success (by decide)

end IoTNode.LobaroCoap
