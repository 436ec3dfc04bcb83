import IoTNode.Foundations.Systems
import IoTNode.LobaroLibrary

set_option autoImplicit false

namespace IoTNode

open Foundations Lobaro

/-! The sockets, buffers and contexts that the libraries hand out are numbered in order. -/

abbrev SocketId := ℕ
abbrev NetbufId := ℕ
abbrev ContextId := ℕ

abbrev NetconnType := UInt8

def NetconnType.udp : NetconnType := 0x20

def NetconnType.group (type : NetconnType) : NetconnType := type &&& 0xf0

inductive IpAddrType
  | v4
  | v6
  | any
deriving DecidableEq, Repr

structure IpWords where
  w0 : UInt32
  w1 : UInt32
  w2 : UInt32
  w3 : UInt32
deriving DecidableEq, Repr

structure IpAddr where
  type : IpAddrType
  words : IpWords
deriving DecidableEq, Repr

structure Netbuf where
  segments : List (List UInt8)
  addr : IpAddr
  port : UInt16
  toaddr : IpAddr
deriving DecidableEq, Repr

inductive NetType
  | ipv4
  | ipv6
  | other
deriving DecidableEq, Repr

structure NetEp where
  netType : NetType
  netAddr : IpWords
  netPort : UInt16
deriving DecidableEq, Repr

inductive MetaInfo
  | none
  | multicast
deriving DecidableEq, Repr

structure NetPacket where
  pData : List UInt8
  size : UInt16
  remoteEp : NetEp
  metaInfo : MetaInfo
deriving DecidableEq, Repr

structure LobaroEndpoints where
  ipv4Multicast : NetEp
  ipv6Multicast : NetEp
  epAreEqual : NetEp → NetEp → Bool

structure Send where
  packet : NetPacket
  netbufRef : Bool
  netconnSendto : Bool
deriving DecidableEq, Repr

/-- What the libraries answer during one step of the task; a step reads what it asks for.
`remoteEp` and `sender` are what the uninitialised locals of `ReadDatagram` hold. -/
structure Answers where
  netconnNew : Bool := true
  coapNewSocket : Bool := true
  netconnBind : Bool := true
  dequeued : Option CoAPRes := none
  received : Option Netbuf := none
  localPort : UInt16 := 0
  remoteEp : NetEp := ⟨.other, ⟨0, 0, 0, 0⟩, 0⟩
  sender : NetEp := ⟨.other, ⟨0, 0, 0, 0⟩, 0⟩
  sends : List Send := []
deriving DecidableEq, Repr

inductive NetconnOp
  | type
  | bind (port : UInt16)
  | join (group : List UInt8)
  | setRecvTimeout (milliseconds : ℕ)
  | recv
  | getaddr
  | sendto (address : UInt32) (port : UInt16) (payload : List UInt8)
deriving DecidableEq, Repr

inductive LibraryCall
  | netconnNew (created : Option SocketId)
  | netconn (op : NetconnOp) (socket : Option SocketId)
  | netconnDelete (socket : Option SocketId)
  | coapNewSocket (created : Option ContextId)
  | netbufNew (buffer : NetbufId)
  | netbufReceived (buffer : NetbufId)
  | netbufUse (buffer : NetbufId)
  | netbufDelete (buffer : NetbufId)
  | handleIncomingPacket (context : ContextId) (buffer : NetbufId) (packet : NetPacket)
  | notifyResourceObservers (resource : CoAPRes)
  | doWork
  | vTaskDelete
deriving DecidableEq, Repr

inductive TaskStep
  | outerCheck
  | newSocket
  | newContext
  | bind
  | join
  | setTx
  | innerCheck
  | contextCheck
  | notify
  | recvTimeout
  | read
  | doWork
  | teardown
  | deleted
deriving DecidableEq, Repr

structure LobaroCoap where
  networkReady : Bool := false
  socket : Option SocketId := none
  context : Option ContextId := none
  task : TaskStep := .outerCheck
  -- how many sockets, buffers and contexts were handed out so far
  sockets : ℕ := 0
  netbufs : ℕ := 0
  contexts : ℕ := 0
  socketType : SocketId → NetconnType := fun _ => 0
  -- ghost: the library calls made so far, in order
  calls : List LibraryCall := []

def kCoapPort : UInt16 := 5683

def multicastAddr : List UInt8 := [224, 0, 1, 187]

def someEndpoints : LobaroEndpoints :=
  let ep : NetEp := ⟨.ipv4, ⟨0xbb0100e0, 0, 0, 0⟩, kCoapPort⟩
  ⟨ep, ep, fun a b => a = b⟩

namespace LobaroCoap

variable (endpoints : LobaroEndpoints) (s : LobaroCoap)

def setNetworkReady (ready : Bool) : LobaroCoap := { s with networkReady := ready }

def log (call : LibraryCall) : LobaroCoap := { s with calls := s.calls ++ [call] }

def goto (task : TaskStep) : LobaroCoap := { s with task := task }

-- `this->_socket->type`
def typeOfSocket : NetconnType := s.socket.elim 0 s.socketType

def fillAndSend (buffer : NetbufId) (send : Send) : LobaroCoap × Bool :=
  let s := s.log (.netbufUse buffer)
  if ¬ send.netbufRef then (s, false)
  else if send.packet.remoteEp.netType ≠ .ipv4 then (s, false)
  else if s.context = none then (s, false)
  else
    let op := NetconnOp.sendto send.packet.remoteEp.netAddr.w0 send.packet.remoteEp.netPort
      (send.packet.pData.take send.packet.size.toNat)
    ((s.log (.netbufUse buffer)).log (.netconn op s.socket), send.netconnSendto)

def sendDatagram (send : Send) : LobaroCoap × Bool :=
  let s := s.log (.netconn .type s.socket)
  if s.typeOfSocket.group ≠ .udp then (s, false)
  else
    let buffer := s.netbufs
    let (s, success) :=
      { s.log (.netbufNew buffer) with netbufs := buffer + 1 }.fillAndSend buffer send
    (s.log (.netbufDelete buffer), success)

def callTx (sends : List Send) : LobaroCoap :=
  sends.foldl (fun s send => (s.sendDatagram send).1) s

def setEndpoint (ep : NetEp) (v4 v6 : Bool) (words : IpWords) : NetEp :=
  -- the address is a union, and IPv4 sets its first word only
  if v4 then { ep with netType := .ipv4, netAddr := { ep.netAddr with w0 := words.w0 } }
  else if v6 then { ep with netType := .ipv6, netAddr := words }
  else ep

def packetOf (a : Answers) (datagram : Netbuf) : NetPacket :=
  -- `netbuf_data` gives the first segment
  let data := datagram.segments.headD []
  let remoteEp := setEndpoint { a.remoteEp with netPort := datagram.port }
    (datagram.addr.type = .v4) (datagram.addr.type = .v6) datagram.addr.words
  let sender := setEndpoint { a.sender with netPort := a.localPort }
    -- the second test of the source is on `addr`, not on `toaddr`
    (datagram.toaddr.type = .v4) (datagram.addr.type = .v6) datagram.toaddr.words
  let multicast := endpoints.epAreEqual sender endpoints.ipv4Multicast ||
    endpoints.epAreEqual sender endpoints.ipv6Multicast
  { pData := data
    size := UInt16.ofNat data.length
    remoteEp := remoteEp
    metaInfo := if multicast then .multicast else .none }

def handleDatagram (a : Answers) (buffer : NetbufId) (datagram : Netbuf) : LobaroCoap :=
  let s := s.log (.netconn .type s.socket)
  if s.typeOfSocket.group ≠ .udp then s
  else
    match s.context with
    | none => s
    | some context =>
      let s := (s.log (.netbufUse buffer)).log (.netconn .getaddr s.socket)
      let s := s.log (.handleIncomingPacket context buffer (packetOf endpoints a datagram))
      (s.callTx a.sends).log (.netbufDelete buffer)

def readDatagram (a : Answers) : LobaroCoap :=
  let s := s.log (.netconn .recv s.socket)
  match a.received with
  | none => s
  | some datagram =>
    let buffer := s.netbufs
    { s.log (.netbufReceived buffer) with netbufs := buffer + 1 }.handleDatagram endpoints a buffer
      datagram

def taskHandle (a : Answers) : Option LobaroCoap :=
  match s.task with
  | .outerCheck => some (if ¬ s.networkReady then s else s.goto .newSocket)
  | .newSocket =>
    if a.netconnNew then
      some { s.log (.netconnNew (some s.sockets)) with
        socket := some s.sockets
        sockets := s.sockets + 1
        socketType := Function.update s.socketType s.sockets .udp
        task := .newContext }
    else
      some { (s.log (.netconnNew none)).log .vTaskDelete with socket := none, task := .deleted }
  | .newContext =>
    if a.coapNewSocket then
      some { s.log (.coapNewSocket (some s.contexts)) with
        context := some s.contexts
        contexts := s.contexts + 1
        task := .bind }
    else
      let s := (s.log (.coapNewSocket none)).log (.netconnDelete s.socket)
      some { s.log .vTaskDelete with context := none, task := .deleted }
  | .bind =>
    let s := s.log (.netconn (.bind kCoapPort) s.socket)
    if a.netconnBind then some (s.goto .join)
    else some (((s.log (.netconnDelete s.socket)).log .vTaskDelete).goto .deleted)
  -- a failure to join the group is only logged
  | .join => some ((s.log (.netconn (.join multicastAddr) s.socket)).goto .setTx)
  | .setTx => some (s.goto .innerCheck)
  | .innerCheck => some (s.goto (if s.networkReady then .contextCheck else .teardown))
  | .contextCheck => some (s.goto (if s.context = none then .teardown else .notify))
  | .notify =>
    match a.dequeued with
    | none => some (s.goto .recvTimeout)
    | some resource =>
      some (((s.log (.notifyResourceObservers resource)).callTx a.sends).goto .recvTimeout)
  | .recvTimeout => some ((s.log (.netconn (.setRecvTimeout 1) s.socket)).goto .read)
  | .read => some ((s.readDatagram endpoints a).goto .doWork)
  | .doWork => some (((s.log .doWork).callTx a.sends).goto .innerCheck)
  | .teardown => some ((s.log (.netconnDelete s.socket)).goto .outerCheck)
  | .deleted => none

inductive SystemEvent
  | staStart
  | staConnected
  | staGotIp
  | staDisconnected
  | other
deriving DecidableEq, Repr

def eventHandler : SystemEvent → LobaroCoap
  | .staGotIp => s.setNetworkReady true
  | .staDisconnected => s.setNetworkReady false
  | _ => s

inductive CoapAction
  | event (event : SystemEvent)
  | task (answers : Answers)
deriving DecidableEq, Repr

def system : System LobaroCoap CoapAction where
  init s := s = {}
  step s
    | .event event => some (s.eventHandler event)
    | .task answers => s.taskHandle endpoints answers

structure SameTask (s t : LobaroCoap) : Prop where
  networkReady : t.networkReady = s.networkReady
  socket : t.socket = s.socket
  context : t.context = s.context
  task : t.task = s.task
  sockets : t.sockets = s.sockets
  contexts : t.contexts = s.contexts
  socketType : t.socketType = s.socketType

section Frames

variable {endpoints} {s}

theorem SameTask.refl (s : LobaroCoap) : SameTask s s := ⟨rfl, rfl, rfl, rfl, rfl, rfl, rfl⟩

theorem SameTask.trans {t u : LobaroCoap} (h : SameTask s t) (h' : SameTask t u) : SameTask s u :=
  ⟨h'.networkReady.trans h.networkReady, h'.socket.trans h.socket, h'.context.trans h.context,
    h'.task.trans h.task, h'.sockets.trans h.sockets, h'.contexts.trans h.contexts,
    h'.socketType.trans h.socketType⟩

theorem SameTask.log {t : LobaroCoap} (h : SameTask s t) (call : LibraryCall) :
    SameTask s (t.log call) := h.trans ⟨rfl, rfl, rfl, rfl, rfl, rfl, rfl⟩

theorem SameTask.withBuffer {t : LobaroCoap} (h : SameTask s t) (netbufs : ℕ) :
    SameTask s { t with netbufs := netbufs } := h.trans ⟨rfl, rfl, rfl, rfl, rfl, rfl, rfl⟩

theorem fillAndSend_same (buffer : NetbufId) (send : Send) :
    SameTask s (s.fillAndSend buffer send).1 := by
  have h := (SameTask.refl s).log (.netbufUse buffer)
  unfold fillAndSend
  dsimp only
  split_ifs <;> first | exact h | exact (h.log _).log _

theorem sendDatagram_same (send : Send) : SameTask s (s.sendDatagram send).1 := by
  have h := (SameTask.refl s).log (.netconn .type s.socket)
  unfold sendDatagram
  dsimp only
  split_ifs
  · exact h
  · exact (((h.log _).withBuffer _).trans (fillAndSend_same _ send)).log _

theorem callTx_same (sends : List Send) : SameTask s (s.callTx sends) := by
  induction sends generalizing s with
  | nil => exact SameTask.refl s
  | cons send sends ih => exact (sendDatagram_same send).trans ih

theorem handleDatagram_same (a : Answers) (buffer : NetbufId) (datagram : Netbuf) :
    SameTask s (s.handleDatagram endpoints a buffer datagram) := by
  have h := (SameTask.refl s).log (.netconn .type s.socket)
  unfold handleDatagram
  dsimp only
  split_ifs
  · exact h
  · split
    · exact h
    · exact ((((h.log _).log _).log _).trans (callTx_same a.sends)).log _

theorem readDatagram_same (a : Answers) : SameTask s (s.readDatagram endpoints a) := by
  have h := (SameTask.refl s).log (.netconn .recv s.socket)
  unfold readDatagram
  cases a.received with
  | none => exact h
  | some datagram => exact ((h.log _).withBuffer _).trans (handleDatagram_same a _ datagram)

end Frames

section Calls

variable {endpoints} {s} {t : LobaroCoap}

def Grows (s t : LobaroCoap) : Prop := s.calls <+: t.calls

theorem grows_refl (s : LobaroCoap) : Grows s s := List.prefix_refl _

theorem Grows.log (h : Grows s t) (call : LibraryCall) : Grows s (t.log call) :=
  h.trans (List.prefix_append t.calls [call])

theorem Grows.withBuffer (h : Grows s t) (netbufs : ℕ) : Grows s { t with netbufs := netbufs } := h

theorem fillAndSend_grows (h : Grows s t) (buffer : NetbufId) (send : Send) :
    Grows s (t.fillAndSend buffer send).1 := by
  have hused := h.log (.netbufUse buffer)
  unfold fillAndSend
  dsimp only
  split_ifs <;> first | exact hused | exact (hused.log _).log _

theorem sendDatagram_grows (h : Grows s t) (send : Send) : Grows s (t.sendDatagram send).1 := by
  have htyped := h.log (.netconn .type t.socket)
  unfold sendDatagram
  dsimp only
  split_ifs
  · exact htyped
  · exact (fillAndSend_grows ((htyped.log _).withBuffer _) _ send).log _

theorem callTx_grows (h : Grows s t) (sends : List Send) : Grows s (t.callTx sends) := by
  induction sends generalizing t with
  | nil => exact h
  | cons send sends ih => exact ih (sendDatagram_grows h send)

theorem handleDatagram_grows (h : Grows s t) (a : Answers) (buffer : NetbufId) (datagram : Netbuf) :
    Grows s (t.handleDatagram endpoints a buffer datagram) := by
  have htyped := h.log (.netconn .type t.socket)
  unfold handleDatagram
  dsimp only
  split_ifs
  · exact htyped
  · split
    · exact htyped
    · exact (callTx_grows (((htyped.log _).log _).log _) a.sends).log _

theorem readDatagram_grows (h : Grows s t) (a : Answers) :
    Grows s (t.readDatagram endpoints a) := by
  have hrecv := h.log (.netconn .recv t.socket)
  unfold readDatagram
  cases a.received with
  | none => exact hrecv
  | some datagram => exact handleDatagram_grows ((hrecv.log _).withBuffer _) a _ datagram

end Calls

def nextStep (a : Answers) : TaskStep :=
  match s.task with
  | .outerCheck => if s.networkReady then .newSocket else .outerCheck
  | .newSocket => if a.netconnNew then .newContext else .deleted
  | .newContext => if a.coapNewSocket then .bind else .deleted
  | .bind => if a.netconnBind then .join else .deleted
  | .join => .setTx
  | .setTx => .innerCheck
  | .innerCheck => if s.networkReady then .contextCheck else .teardown
  | .contextCheck => if s.context = none then .teardown else .notify
  | .notify => .recvTimeout
  | .recvTimeout => .read
  | .read => .doWork
  | .doWork => .innerCheck
  | .teardown => .outerCheck
  | .deleted => .deleted

structure Control (s : LobaroCoap) (a : Answers) (t : LobaroCoap) : Prop where
  running : s.task ≠ .deleted
  task : t.task = s.nextStep a
  networkReady : t.networkReady = s.networkReady
  contexts : t.contexts =
    if s.task = .newContext ∧ a.coapNewSocket then s.contexts + 1 else s.contexts

-- what a step calls before anything else
def firstCalls : List LibraryCall :=
  match s.task with
  | .bind => [.netconn (.bind kCoapPort) s.socket]
  | .join => [.netconn (.join multicastAddr) s.socket]
  | _ => []

def Ordinary (s : LobaroCoap) (a : Answers) (t : LobaroCoap) : Prop :=
  ∃ u, SameTask s u ∧ s.calls ++ s.firstCalls <+: u.calls ∧ t = u.goto (s.nextStep a)

theorem SameTask.ordinary {s u : LobaroCoap} {a : Answers} {task : TaskStep} (h : SameTask s u)
    (hcalls : s.calls ++ s.firstCalls <+: u.calls) (next : s.nextStep a = task) :
    Ordinary s a (u.goto task) := ⟨u, h, hcalls, by rw [next]⟩

theorem Grows.quiet {s u : LobaroCoap} (h : Grows s u) (hq : s.firstCalls = []) :
    s.calls ++ s.firstCalls <+: u.calls := by
  rw [hq, List.append_nil]
  exact h

theorem taskHandle_ordinary {s t : LobaroCoap} {a : Answers}
    (h : s.taskHandle endpoints a = some t) (hn : s.task ≠ .newSocket ∧ s.task ≠ .newContext) :
    s.task ≠ .deleted ∧ Ordinary s a t := by
  have same := SameTask.refl s
  have grows := grows_refl s
  unfold taskHandle at h
  cases hs : s.task with
  | outerCheck =>
    simp only [hs, Option.some.injEq] at h
    refine ⟨by simp, ?_⟩
    have hcalls := grows.quiet (by simp [firstCalls, hs])
    by_cases hr : s.networkReady = true
    · rw [if_neg (not_not.mpr hr)] at h
      subst h
      exact same.ordinary hcalls (by simp [nextStep, hs, hr])
    · rw [if_pos hr] at h
      subst h
      have hstay : s.nextStep a = s.task := by simp [nextStep, hs, hr]
      exact ⟨s, same, hcalls, by rw [hstay]; rfl⟩
  | newSocket => exact absurd hs hn.1
  | newContext => exact absurd hs hn.2
  | bind =>
    simp only [hs] at h
    refine ⟨by simp, ?_⟩
    have hbound := grows_refl (s.log (.netconn (.bind kCoapPort) s.socket))
    split_ifs at h with ha <;> obtain rfl := Option.some.inj h
    · exact (same.log _).ordinary (by simp only [firstCalls, hs]; exact hbound)
        (by simp [nextStep, hs, ha])
    · exact (((same.log _).log _).log _).ordinary
        (by simp only [firstCalls, hs]; exact (hbound.log _).log _) (by simp [nextStep, hs, ha])
  | join =>
    simp only [hs, Option.some.injEq] at h
    subst h
    have hjoined := grows_refl (s.log (.netconn (.join multicastAddr) s.socket))
    exact ⟨by simp, (same.log _).ordinary (by simp only [firstCalls, hs]; exact hjoined)
      (by simp [nextStep, hs])⟩
  | setTx =>
    simp only [hs, Option.some.injEq] at h
    subst h
    exact ⟨by simp, same.ordinary (grows.quiet (by simp [firstCalls, hs])) (by simp [nextStep, hs])⟩
  | innerCheck =>
    simp only [hs, Option.some.injEq] at h
    subst h
    exact ⟨by simp, same.ordinary (grows.quiet (by simp [firstCalls, hs])) (by simp [nextStep, hs])⟩
  | contextCheck =>
    simp only [hs, Option.some.injEq] at h
    subst h
    exact ⟨by simp, same.ordinary (grows.quiet (by simp [firstCalls, hs])) (by simp [nextStep, hs])⟩
  | notify =>
    simp only [hs] at h
    refine ⟨by simp, ?_⟩
    cases hd : a.dequeued with
    | none =>
      simp only [hd, Option.some.injEq] at h
      subst h
      exact same.ordinary (grows.quiet (by simp [firstCalls, hs])) (by simp [nextStep, hs])
    | some resource =>
      simp only [hd, Option.some.injEq] at h
      subst h
      exact ((same.log _).trans (callTx_same a.sends)).ordinary
        ((callTx_grows (grows.log _) a.sends).quiet (by simp [firstCalls, hs]))
        (by simp [nextStep, hs])
  | recvTimeout =>
    simp only [hs, Option.some.injEq] at h
    subst h
    exact ⟨by simp, (same.log _).ordinary ((grows.log _).quiet (by simp [firstCalls, hs]))
      (by simp [nextStep, hs])⟩
  | read =>
    simp only [hs, Option.some.injEq] at h
    subst h
    exact ⟨by simp, (readDatagram_same a).ordinary
      ((readDatagram_grows grows a).quiet (by simp [firstCalls, hs])) (by simp [nextStep, hs])⟩
  | doWork =>
    simp only [hs, Option.some.injEq] at h
    subst h
    exact ⟨by simp, ((same.log _).trans (callTx_same a.sends)).ordinary
      ((callTx_grows (grows.log _) a.sends).quiet (by simp [firstCalls, hs]))
      (by simp [nextStep, hs])⟩
  | teardown =>
    simp only [hs, Option.some.injEq] at h
    subst h
    exact ⟨by simp, (same.log _).ordinary ((grows.log _).quiet (by simp [firstCalls, hs]))
      (by simp [nextStep, hs])⟩
  | deleted => simp [hs] at h

theorem taskHandle_newSocket {s t : LobaroCoap} {a : Answers}
    (h : s.taskHandle endpoints a = some t) (hs : s.task = .newSocket) :
    (a.netconnNew ∧ t = { s.log (.netconnNew (some s.sockets)) with
      socket := some s.sockets
      sockets := s.sockets + 1
      socketType := Function.update s.socketType s.sockets .udp
      task := .newContext }) ∨
    (¬ a.netconnNew ∧
      t = { (s.log (.netconnNew none)).log .vTaskDelete with socket := none, task := .deleted }) := by
  unfold taskHandle at h
  simp only [hs] at h
  split_ifs at h with ha
  · exact Or.inl ⟨ha, (Option.some.inj h).symm⟩
  · exact Or.inr ⟨ha, (Option.some.inj h).symm⟩

theorem taskHandle_newContext {s t : LobaroCoap} {a : Answers}
    (h : s.taskHandle endpoints a = some t) (hs : s.task = .newContext) :
    (a.coapNewSocket ∧ t = { s.log (.coapNewSocket (some s.contexts)) with
      context := some s.contexts
      contexts := s.contexts + 1
      task := .bind }) ∨
    (¬ a.coapNewSocket ∧
      t = { ((s.log (.coapNewSocket none)).log (.netconnDelete s.socket)).log .vTaskDelete with
        context := none
        task := .deleted }) := by
  unfold taskHandle at h
  simp only [hs] at h
  split_ifs at h with ha
  · exact Or.inl ⟨ha, (Option.some.inj h).symm⟩
  · exact Or.inr ⟨ha, (Option.some.inj h).symm⟩

theorem taskHandle_control {s t : LobaroCoap} {a : Answers}
    (h : s.taskHandle endpoints a = some t) : Control s a t := by
  by_cases hsocket : s.task = .newSocket
  · rcases taskHandle_newSocket endpoints h hsocket with ⟨ha, rfl⟩ | ⟨ha, rfl⟩ <;>
      exact ⟨by simp [hsocket], by simp [nextStep, hsocket, ha], rfl, by simp [hsocket, log]⟩
  · by_cases hcontext : s.task = .newContext
    · rcases taskHandle_newContext endpoints h hcontext with ⟨ha, rfl⟩ | ⟨ha, rfl⟩ <;>
        exact ⟨by simp [hcontext], by simp [nextStep, hcontext, ha], rfl,
          by simp [hcontext, ha, log]⟩
    · obtain ⟨hd, u, same, _, rfl⟩ := taskHandle_ordinary endpoints h ⟨hsocket, hcontext⟩
      refine ⟨hd, rfl, same.networkReady, ?_⟩
      rw [if_neg (fun hc => hcontext hc.1)]
      exact same.contexts

end LobaroCoap

end IoTNode
