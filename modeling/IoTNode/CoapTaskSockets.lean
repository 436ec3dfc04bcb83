import IoTNode.CoapTask
import IoTNode.Foundations.Lifetimes

set_option autoImplicit false

namespace IoTNode.LobaroCoap

open Foundations Ledger

def socketEvent : LibraryCall → Option (Lifetime (Option SocketId))
  | .netconnNew created => created.map (fun socket => .create (some socket))
  | .netconn _ socket => some (.use socket)
  | .netconnDelete socket => some (.delete socket)
  | _ => none

def netbufEvent : LibraryCall → Option (Lifetime NetbufId)
  | .netbufNew buffer => some (.create buffer)
  | .netbufReceived buffer => some (.create buffer)
  | .netbufUse buffer => some (.use buffer)
  | .netbufDelete buffer => some (.delete buffer)
  -- the packet lies in the buffer
  | .handleIncomingPacket _ buffer _ => some (.use buffer)
  | _ => none

def receivedBuffer : LibraryCall → Option NetbufId
  | .netbufReceived buffer => some buffer
  | _ => none

def handledBuffer : LibraryCall → Option NetbufId
  | .handleIncomingPacket _ buffer _ => some buffer
  | _ => none

def socketEvents (calls : List LibraryCall) : List (Lifetime (Option SocketId)) :=
  calls.filterMap socketEvent

def netbufEvents (calls : List LibraryCall) : List (Lifetime NetbufId) :=
  calls.filterMap netbufEvent

def received (calls : List LibraryCall) : List NetbufId := calls.filterMap receivedBuffer

def handled (calls : List LibraryCall) : List NetbufId := calls.filterMap handledBuffer

def Numbered (n : ℕ) (socket : Option SocketId) : Prop := ∃ k < n, socket = some k

def AtMostOne (l : Ledger (Option SocketId)) : Prop := l.live.length ≤ 1

structure Sockets (calls : List LibraryCall) (n : ℕ) (live : List (Option SocketId)) : Prop where
  leaves : Leaves (Numbered n) (socketEvents calls) live
  one : Ledger.system.Always AtMostOne Ledger.empty (socketEvents calls)

section Calls

variable {calls : List LibraryCall} {n : ℕ} {live : List (Option SocketId)} {call : LibraryCall}

theorem socketEvents_snoc (calls : List LibraryCall) (call : LibraryCall) :
    socketEvents (calls ++ [call]) = socketEvents calls ++ (socketEvent call).toList := by
  unfold socketEvents
  rw [List.filterMap_append]
  cases h : socketEvent call <;> simp [h]

theorem netbufEvents_snoc (calls : List LibraryCall) (call : LibraryCall) :
    netbufEvents (calls ++ [call]) = netbufEvents calls ++ (netbufEvent call).toList := by
  unfold netbufEvents
  rw [List.filterMap_append]
  cases h : netbufEvent call <;> simp [h]

theorem Sockets.quiet (h : Sockets calls n live) (hc : socketEvent call = none) :
    Sockets (calls ++ [call]) n live := by
  have he : socketEvents (calls ++ [call]) = socketEvents calls := by
    rw [socketEvents_snoc, hc, Option.toList_none, List.append_nil]
  exact ⟨he ▸ h.leaves, he ▸ h.one⟩

theorem Sockets.event {m : ℕ} {live' : List (Option SocketId)} {e : Lifetime (Option SocketId)}
    (h : Sockets calls n live) (hc : socketEvent call = some e) (hone : live'.length ≤ 1)
    (hl : Leaves (Numbered m) (socketEvents calls ++ [e]) live') :
    Sockets (calls ++ [call]) m live' := by
  have he : socketEvents (calls ++ [call]) = socketEvents calls ++ [e] := by
    rw [socketEvents_snoc, hc, Option.toList_some]
  refine ⟨he ▸ hl, ?_⟩
  rw [he]
  apply h.one.snoc
  intro t ht
  obtain ⟨l, hr, _, hlive⟩ := hl
  obtain rfl := Option.some.inj (ht.symm.trans hr)
  unfold AtMostOne
  rw [hlive]
  exact hone

theorem Sockets.use {socket : Option SocketId} (h : Sockets calls n [socket])
    (hc : socketEvent call = some (.use socket)) : Sockets (calls ++ [call]) n [socket] :=
  h.event hc (Nat.le_refl 1) (h.leaves.use (List.mem_singleton_self socket))

theorem Sockets.create (h : Sockets calls n []) :
    Sockets (calls ++ [.netconnNew (some n)]) (n + 1) [some n] := by
  have hfresh : ¬ Numbered n (some n) := by
    rintro ⟨k, hk, he⟩
    obtain rfl := Option.some.inj he
    exact Nat.lt_irrefl n hk
  have hmore : ∀ j, Numbered n j → Numbered (n + 1) j := by
    rintro j ⟨k, hk, rfl⟩
    exact ⟨k, Nat.lt_succ_of_lt hk, rfl⟩
  have hlast : Numbered (n + 1) (some n) := ⟨n, Nat.lt_succ_self n, rfl⟩
  exact h.event rfl (Nat.le_refl 1) (h.leaves.create hfresh hmore hlast)

theorem Sockets.delete {socket : Option SocketId} (h : Sockets calls n [socket]) :
    Sockets (calls ++ [.netconnDelete socket]) n [] :=
  h.event rfl (Nat.zero_le 1) h.leaves.delete

end Calls

def Netbufs (calls : List LibraryCall) (n : ℕ) (live : List NetbufId) : Prop :=
  Leaves (· < n) (netbufEvents calls) live

section Buffers

variable {calls : List LibraryCall} {n : ℕ} {live : List NetbufId} {call : LibraryCall}
  {buffer : NetbufId}

theorem Netbufs.quiet (h : Netbufs calls n live) (hc : netbufEvent call = none) :
    Netbufs (calls ++ [call]) n live := by
  unfold Netbufs
  rw [netbufEvents_snoc, hc, Option.toList_none, List.append_nil]
  exact h

theorem Netbufs.create (h : Netbufs calls n live) (hc : netbufEvent call = some (.create n)) :
    Netbufs (calls ++ [call]) (n + 1) (n :: live) := by
  unfold Netbufs
  rw [netbufEvents_snoc, hc]
  exact Leaves.create h (Nat.lt_irrefl n) (fun _ hj => Nat.lt_succ_of_lt hj) (Nat.lt_succ_self n)

theorem Netbufs.use (h : Netbufs calls n live) (hb : buffer ∈ live)
    (hc : netbufEvent call = some (.use buffer)) : Netbufs (calls ++ [call]) n live := by
  unfold Netbufs
  rw [netbufEvents_snoc, hc]
  exact Leaves.use h hb

theorem Netbufs.delete (h : Netbufs calls n (buffer :: live)) :
    Netbufs (calls ++ [.netbufDelete buffer]) n live := by
  unfold Netbufs
  rw [netbufEvents_snoc]
  exact Leaves.delete h

end Buffers

def Given (calls : List LibraryCall) (due : List NetbufId) : Prop :=
  received calls = handled calls ++ due

theorem received_snoc (calls : List LibraryCall) (call : LibraryCall) :
    received (calls ++ [call]) = received calls ++ (receivedBuffer call).toList := by
  unfold received
  rw [List.filterMap_append]
  cases h : receivedBuffer call <;> simp [h]

theorem handled_snoc (calls : List LibraryCall) (call : LibraryCall) :
    handled (calls ++ [call]) = handled calls ++ (handledBuffer call).toList := by
  unfold handled
  rw [List.filterMap_append]
  cases h : handledBuffer call <;> simp [h]

theorem Given.quiet {calls : List LibraryCall} {call : LibraryCall} {due : List NetbufId}
    (h : Given calls due) (hr : receivedBuffer call = none) (hh : handledBuffer call = none) :
    Given (calls ++ [call]) due := by
  unfold Given at *
  rw [received_snoc, handled_snoc, hr, hh, Option.toList_none, List.append_nil, List.append_nil, h]

/-- What holds while the task serves: a UDP socket and a context, the buffers `live`, and the
received buffers `due` that the library has not been given yet. -/
structure Serves (s : LobaroCoap) (live due : List NetbufId) : Prop where
  socket : s.typeOfSocket.group = .udp
  context : s.context ≠ none
  sockets : Sockets s.calls s.sockets [s.socket]
  netbufs : Netbufs s.calls s.netbufs live
  given : Given s.calls due

section Serving

variable {s : LobaroCoap} {live due : List NetbufId} {call : LibraryCall} {buffer : NetbufId}

theorem Serves.netconn (h : Serves s live due) (op : NetconnOp) :
    Serves (s.log (.netconn op s.socket)) live due where
  socket := h.socket
  context := h.context
  sockets := h.sockets.use rfl
  netbufs := h.netbufs.quiet rfl
  given := h.given.quiet rfl rfl

theorem Serves.netbufNew (h : Serves s live due) :
    Serves { s.log (.netbufNew s.netbufs) with netbufs := s.netbufs + 1 } (s.netbufs :: live) due where
  socket := h.socket
  context := h.context
  sockets := h.sockets.quiet rfl
  netbufs := h.netbufs.create rfl
  given := h.given.quiet rfl rfl

theorem Serves.netbufUse (h : Serves s live due) (hb : buffer ∈ live) :
    Serves (s.log (.netbufUse buffer)) live due where
  socket := h.socket
  context := h.context
  sockets := h.sockets.quiet rfl
  netbufs := h.netbufs.use hb rfl
  given := h.given.quiet rfl rfl

theorem Serves.netbufDelete (h : Serves s (buffer :: live) due) :
    Serves (s.log (.netbufDelete buffer)) live due where
  socket := h.socket
  context := h.context
  sockets := h.sockets.quiet rfl
  netbufs := h.netbufs.delete
  given := h.given.quiet rfl rfl

theorem Serves.quiet (h : Serves s live due) (hs : socketEvent call = none)
    (hb : netbufEvent call = none) (hr : receivedBuffer call = none)
    (hh : handledBuffer call = none) : Serves (s.log call) live due where
  socket := h.socket
  context := h.context
  sockets := h.sockets.quiet hs
  netbufs := h.netbufs.quiet hb
  given := h.given.quiet hr hh

theorem Serves.fillAndSend (h : Serves s live due) (hb : buffer ∈ live) (send : Send) :
    Serves (s.fillAndSend buffer send).1 live due := by
  have hfilled := h.netbufUse hb
  unfold LobaroCoap.fillAndSend
  dsimp only
  split_ifs <;> first | exact hfilled | exact (hfilled.netbufUse hb).netconn _

theorem Serves.sendDatagram (h : Serves s live due) (send : Send) :
    Serves (s.sendDatagram send).1 live due := by
  have htyped := h.netconn .type
  unfold LobaroCoap.sendDatagram
  dsimp only
  split_ifs with hg
  · exact htyped
  · exact (htyped.netbufNew.fillAndSend List.mem_cons_self send).netbufDelete

theorem Serves.callTx (h : Serves s live due) (sends : List Send) :
    Serves (s.callTx sends) live due := by
  induction sends generalizing s with
  | nil => exact h
  | cons send sends ih => exact ih (h.sendDatagram send)

theorem Serves.netbufReceived (h : Serves s live []) :
    Serves { s.log (.netbufReceived s.netbufs) with netbufs := s.netbufs + 1 } (s.netbufs :: live)
      [s.netbufs] where
  socket := h.socket
  context := h.context
  sockets := h.sockets.quiet rfl
  netbufs := h.netbufs.create rfl
  given := by
    have hg := h.given
    unfold Given at *
    simp only [log, received_snoc, handled_snoc, hg]
    simp [receivedBuffer, handledBuffer]

theorem Serves.handleIncomingPacket (h : Serves s live [buffer]) (hb : buffer ∈ live)
    (context : ContextId) (packet : NetPacket) :
    Serves (s.log (.handleIncomingPacket context buffer packet)) live [] where
  socket := h.socket
  context := h.context
  sockets := h.sockets.quiet rfl
  netbufs := h.netbufs.use hb rfl
  given := by
    have hg := h.given
    unfold Given at *
    simp only [log, received_snoc, handled_snoc, hg]
    simp [receivedBuffer, handledBuffer]

theorem Serves.handleDatagram {endpoints : LobaroEndpoints} (h : Serves s (buffer :: live) [buffer])
    (a : Answers) (datagram : Netbuf) :
    Serves (s.handleDatagram endpoints a buffer datagram) live [] := by
  have htyped := h.netconn .type
  have hb : buffer ∈ buffer :: live := List.mem_cons_self
  unfold LobaroCoap.handleDatagram
  dsimp only
  rw [if_neg (not_not.mpr htyped.socket)]
  split
  · exact absurd ‹_› htyped.context
  · have hread := (htyped.netbufUse hb).netconn .getaddr
    exact ((hread.handleIncomingPacket hb _ _).callTx a.sends).netbufDelete

theorem Serves.readDatagram {endpoints : LobaroEndpoints} (h : Serves s live []) (a : Answers) :
    Serves (s.readDatagram endpoints a) live [] := by
  have hrecv := h.netconn .recv
  unfold LobaroCoap.readDatagram
  cases a.received with
  | none => exact hrecv
  | some datagram => exact hrecv.netbufReceived.handleDatagram a datagram

end Serving

structure Idle (s : LobaroCoap) : Prop where
  sockets : Sockets s.calls s.sockets []
  netbufs : Netbufs s.calls s.netbufs []
  given : Given s.calls []

structure Opened (s : LobaroCoap) : Prop where
  socket : s.typeOfSocket.group = .udp
  sockets : Sockets s.calls s.sockets [s.socket]
  netbufs : Netbufs s.calls s.netbufs []
  given : Given s.calls []

def Disciplined (s : LobaroCoap) : Prop :=
  match s.task with
  | .outerCheck | .newSocket | .deleted => s.Idle
  | .newContext => s.Opened
  | _ => s.Serves [] []

section Phases

variable {endpoints : LobaroEndpoints} {s t : LobaroCoap} {call : LibraryCall}

theorem Serves.goto (h : Serves s [] []) (task : TaskStep) : Serves (s.goto task) [] [] :=
  ⟨h.socket, h.context, h.sockets, h.netbufs, h.given⟩

theorem Idle.goto (h : Idle s) (task : TaskStep) : Idle (s.goto task) :=
  ⟨h.sockets, h.netbufs, h.given⟩

theorem Serves.opened (h : Serves s [] []) : Opened s :=
  ⟨h.socket, h.sockets, h.netbufs, h.given⟩

theorem Idle.quiet (h : Idle s) (hs : socketEvent call = none) (hb : netbufEvent call = none)
    (hr : receivedBuffer call = none) (hh : handledBuffer call = none) : Idle (s.log call) where
  sockets := h.sockets.quiet hs
  netbufs := h.netbufs.quiet hb
  given := h.given.quiet hr hh

theorem Opened.quiet (h : Opened s) (hs : socketEvent call = none) (hb : netbufEvent call = none)
    (hr : receivedBuffer call = none) (hh : handledBuffer call = none) : Opened (s.log call) where
  socket := h.socket
  sockets := h.sockets.quiet hs
  netbufs := h.netbufs.quiet hb
  given := h.given.quiet hr hh

theorem Opened.netconnDelete (h : Opened s) : Idle (s.log (.netconnDelete s.socket)) where
  sockets := h.sockets.delete
  netbufs := h.netbufs.quiet rfl
  given := h.given.quiet rfl rfl

theorem Idle.ended (h : Idle s) {socket : Option SocketId} {context : Option ContextId} :
    Idle { s.log .vTaskDelete with socket := socket, context := context, task := .deleted } where
  sockets := h.sockets.quiet rfl
  netbufs := h.netbufs.quiet rfl
  given := h.given.quiet rfl rfl

theorem Idle.netconnNew (h : Idle s) :
    Opened { s.log (.netconnNew (some s.sockets)) with
      socket := some s.sockets
      sockets := s.sockets + 1
      socketType := Function.update s.socketType s.sockets .udp
      task := .newContext } where
  socket := by
    simp only [typeOfSocket, Option.elim_some, Function.update_self]
    decide
  sockets := h.sockets.create
  netbufs := h.netbufs.quiet rfl
  given := h.given.quiet rfl rfl

theorem Opened.serves (h : Opened s) {context : ContextId} {contexts : ℕ} {task : TaskStep} :
    Serves { s with context := some context, contexts := contexts, task := task } [] [] :=
  ⟨h.socket, by simp, h.sockets, h.netbufs, h.given⟩

theorem disciplined_setNetworkReady (h : Disciplined s) (ready : Bool) :
    Disciplined (s.setNetworkReady ready) := by
  unfold Disciplined at *
  dsimp only [setNetworkReady]
  split at h
  · exact ⟨h.sockets, h.netbufs, h.given⟩
  · exact ⟨h.sockets, h.netbufs, h.given⟩
  · exact ⟨h.sockets, h.netbufs, h.given⟩
  · exact ⟨h.socket, h.sockets, h.netbufs, h.given⟩
  · exact ⟨h.socket, h.context, h.sockets, h.netbufs, h.given⟩

theorem disciplined_task {a : Answers} (h : Disciplined s)
    (ht : s.taskHandle endpoints a = some t) : Disciplined t := by
  unfold taskHandle at ht
  unfold Disciplined at h
  cases hs : s.task with
  | outerCheck =>
    simp only [hs, Option.some.injEq] at h ht
    split_ifs at ht with hr
    · subst ht
      exact h.goto .newSocket
    · subst ht
      simpa only [Disciplined, hs] using h
  | newSocket =>
    simp only [hs] at h ht
    split_ifs at ht with ha <;> obtain rfl := Option.some.inj ht
    · exact h.netconnNew
    · exact (h.quiet rfl rfl rfl rfl).ended
  | newContext =>
    simp only [hs] at h ht
    split_ifs at ht with ha <;> obtain rfl := Option.some.inj ht
    · exact (h.quiet rfl rfl rfl rfl).serves
    · exact (h.quiet rfl rfl rfl rfl).netconnDelete.ended
  | bind =>
    simp only [hs] at h ht
    split_ifs at ht with ha <;> obtain rfl := Option.some.inj ht
    · exact (h.netconn _).goto .join
    · exact (h.netconn _).opened.netconnDelete.ended
  | join =>
    simp only [hs, Option.some.injEq] at h ht
    subst ht
    exact (h.netconn _).goto .setTx
  | setTx =>
    simp only [hs, Option.some.injEq] at h ht
    subst ht
    exact h.goto .innerCheck
  | innerCheck =>
    simp only [hs, Option.some.injEq] at h ht
    subst ht
    split_ifs <;> exact h.goto _
  | contextCheck =>
    simp only [hs, Option.some.injEq] at h ht
    subst ht
    split_ifs <;> exact h.goto _
  | notify =>
    simp only [hs] at h ht
    cases hd : a.dequeued with
    | none =>
      simp only [hd, Option.some.injEq] at ht
      subst ht
      exact h.goto .recvTimeout
    | some resource =>
      simp only [hd, Option.some.injEq] at ht
      subst ht
      exact ((h.quiet rfl rfl rfl rfl).callTx a.sends).goto .recvTimeout
  | recvTimeout =>
    simp only [hs, Option.some.injEq] at h ht
    subst ht
    exact (h.netconn _).goto .read
  | read =>
    simp only [hs, Option.some.injEq] at h ht
    subst ht
    exact (h.readDatagram a).goto .doWork
  | doWork =>
    simp only [hs, Option.some.injEq] at h ht
    subst ht
    exact ((h.quiet rfl rfl rfl rfl).callTx a.sends).goto .innerCheck
  | teardown =>
    simp only [hs, Option.some.injEq] at h ht
    subst ht
    exact h.opened.netconnDelete.goto .outerCheck
  | deleted => simp [hs] at ht

end Phases

theorem disciplined_reachable {endpoints : LobaroEndpoints} {s : LobaroCoap}
    (h : (system endpoints).Reachable s) : Disciplined s := by
  refine (system endpoints).reachable_invariant ?_ ?_ h
  · rintro _ rfl
    exact ⟨⟨leaves_nil, Ledger.always_empty (Nat.zero_le 1)⟩, leaves_nil, rfl⟩
  · intro s a t hs ht
    cases a with
    | event event =>
      obtain rfl := Option.some.inj ht
      cases event <;> first | exact hs | exact disciplined_setNetworkReady hs _
    | task a => exact disciplined_task hs ht

theorem Disciplined.sockets {s : LobaroCoap} (h : Disciplined s) :
    ∃ live, Sockets s.calls s.sockets live ∧ (s.task = .deleted → live = []) := by
  unfold Disciplined at h
  split at h
  · exact ⟨[], h.sockets, fun _ => rfl⟩
  · exact ⟨[], h.sockets, fun _ => rfl⟩
  · exact ⟨[], h.sockets, fun _ => rfl⟩
  · exact ⟨_, h.sockets, fun ht => by simp_all⟩
  · exact ⟨_, h.sockets, fun ht => by simp_all⟩

theorem Disciplined.buffers {s : LobaroCoap} (h : Disciplined s) :
    Netbufs s.calls s.netbufs [] ∧ Given s.calls [] := by
  unfold Disciplined at h
  split at h <;> exact ⟨h.netbufs, h.given⟩

theorem received_sublist (calls : List LibraryCall) :
    (received calls).Sublist ((netbufEvents calls).filterMap Ledger.created) := by
  induction calls with
  | nil => exact List.Sublist.refl _
  | cons call calls ih => cases call <;> first | exact ih | exact ih.cons _ | exact ih.cons_cons _

theorem sockets_disciplined (endpoints : LobaroEndpoints) (s : LobaroCoap)
    (h : (system endpoints).Reachable s) :
    (∃ l, Ledger.system.run Ledger.empty (socketEvents s.calls) = some l ∧
      (s.task = .deleted → l.live = [])) ∧
    Ledger.system.Always AtMostOne Ledger.empty (socketEvents s.calls) ∧
    ((socketEvents s.calls).filterMap Ledger.deleted).Nodup ∧
    (∃ l, Ledger.system.run Ledger.empty (netbufEvents s.calls) = some l ∧ l.live = []) ∧
    ∀ buffer ∈ received s.calls,
      ((netbufEvents s.calls).filterMap Ledger.deleted).count buffer = 1 ∧
        (handled s.calls).count buffer = 1 := by
  have hd := disciplined_reachable h
  obtain ⟨live, ⟨⟨l, hl, _, hlive⟩, hone⟩, hended⟩ := hd.sockets
  obtain ⟨⟨m, hm, _, hnone⟩, hgiven⟩ := hd.buffers
  have hnodup := (received_sublist s.calls).nodup (Ledger.created_nodup hm)
  rw [Given, List.append_nil] at hgiven
  refine ⟨⟨l, hl, fun ht => hlive.trans (hended ht)⟩, hone, Ledger.deleted_nodup hl,
    ⟨m, hm, hnone⟩, fun buffer hb => ⟨?_, ?_⟩⟩
  · exact Ledger.count_deleted hm hnone ((received_sublist s.calls).subset hb)
  · rw [← hgiven]
    exact List.count_eq_one_of_mem hnodup hb

def ipv4 (word : UInt32) : IpAddr := ⟨.v4, ⟨word, 0, 0, 0⟩⟩

def exchange : List CoapAction :=
  let datagram : Netbuf := ⟨[[0x40, 1, 0, 1]], ipv4 0x0100a8c0, 40000, ipv4 0x0200a8c0⟩
  let reply : NetPacket := ⟨[0x60, 0x45, 0, 1], 4, ⟨.ipv4, ⟨0x0100a8c0, 0, 0, 0⟩, 40000⟩, .none⟩
  .event .staGotIp :: List.replicate 10 (.task {}) ++
    [.task { received := some datagram, sends := [⟨reply, true, true⟩] }, .task {},
      .event .staDisconnected, .task {}, .task {}]

theorem sockets_disciplined_exchange :
    ∃ s, (system someEndpoints).run {} exchange = some s ∧ received s.calls = [0] ∧
      ((netbufEvents s.calls).filterMap Ledger.deleted).count 0 = 1 ∧
        (handled s.calls).count 0 = 1 :=
  ⟨_, rfl, rfl,
    (sockets_disciplined someEndpoints _ ⟨{}, exchange, rfl, rfl⟩).2.2.2.2 0
      (List.mem_singleton_self 0)⟩

end IoTNode.LobaroCoap
