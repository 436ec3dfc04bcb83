import IoTNode.CoapTaskConnections
import IoTNode.Foundations.Simulations
import IoTNode.NotifyQueue
import IoTNode.Registration

set_option autoImplicit false

namespace IoTNode

open Coap Foundations Lobaro

def LibraryCall.notified? : LibraryCall → Option CoAPRes
  | .notifyResourceObservers resource => some resource
  | _ => none

namespace LobaroCoap

def notified (s : LobaroCoap) : List CoAPRes := s.calls.filterMap LibraryCall.notified?

section Calls

variable {endpoints : LobaroEndpoints} {s t : LobaroCoap}

@[simp] theorem notified_log (call : LibraryCall) :
    (s.log call).notified = s.notified ++ call.notified?.toList := by
  unfold notified log
  rw [List.filterMap_append]
  cases call <;> rfl

@[simp] theorem notified_goto (task : TaskStep) : (s.goto task).notified = s.notified := rfl

theorem fillAndSend_notified (buffer : NetbufId) (send : Send) :
    (s.fillAndSend buffer send).1.notified = s.notified := by
  unfold fillAndSend
  dsimp only
  split_ifs <;> simp [LibraryCall.notified?]

theorem sendDatagram_notified (send : Send) : (s.sendDatagram send).1.notified = s.notified := by
  unfold sendDatagram
  dsimp only
  split_ifs
  · simp [LibraryCall.notified?]
  · rw [notified_log, fillAndSend_notified]
    change ((s.log _).log _).notified ++ _ = _
    simp [LibraryCall.notified?]

@[simp] theorem callTx_notified (sends : List Send) : (s.callTx sends).notified = s.notified := by
  induction sends generalizing s with
  | nil => rfl
  | cons send sends ih =>
    have hrest : (s.callTx (send :: sends)).notified = (s.sendDatagram send).1.notified := ih
    rw [hrest, sendDatagram_notified]

theorem handleDatagram_notified (a : Answers) (buffer : NetbufId) (datagram : Netbuf) :
    (s.handleDatagram endpoints a buffer datagram).notified = s.notified := by
  unfold handleDatagram
  dsimp only
  split_ifs
  · simp [LibraryCall.notified?]
  · split
    · simp [LibraryCall.notified?]
    · simp [LibraryCall.notified?]

@[simp] theorem readDatagram_notified (a : Answers) :
    (s.readDatagram endpoints a).notified = s.notified := by
  unfold readDatagram
  cases a.received with
  | none => simp [LibraryCall.notified?]
  | some datagram =>
    dsimp only
    rw [handleDatagram_notified]
    change ((s.log _).log _).notified = _
    simp [LibraryCall.notified?]

/-- Only the step that reads the queue notifies observers. -/
theorem taskHandle_notified {a : Answers} (h : s.taskHandle endpoints a = some t) :
    t.notified = s.notified ++ if s.task = .notify then a.dequeued.toList else [] := by
  by_cases hsocket : s.task = .newSocket
  · rcases taskHandle_newSocket endpoints h hsocket with ⟨_, rfl⟩ | ⟨_, rfl⟩
    · change (s.log _).notified = _
      simp [hsocket, LibraryCall.notified?]
    · change ((s.log _).log _).notified = _
      simp [hsocket, LibraryCall.notified?]
  by_cases hcontext : s.task = .newContext
  · rcases taskHandle_newContext endpoints h hcontext with ⟨_, rfl⟩ | ⟨_, rfl⟩
    · change (s.log _).notified = _
      simp [hcontext, LibraryCall.notified?]
    · change (((s.log _).log _).log _).notified = _
      simp [hcontext, LibraryCall.notified?]
  unfold taskHandle at h
  cases hs : s.task with
  | newSocket => exact absurd hs hsocket
  | newContext => exact absurd hs hcontext
  | deleted => simp [hs] at h
  | outerCheck =>
    simp only [hs, Option.some.injEq] at h
    split_ifs at h <;> subst h <;> simp
  | bind =>
    simp only [hs] at h
    split_ifs at h <;> obtain rfl := Option.some.inj h <;> simp [LibraryCall.notified?]
  | notify =>
    simp only [hs] at h
    cases hd : a.dequeued with
    | none =>
      simp only [hd, Option.some.injEq] at h
      subst h
      simp
    | some resource =>
      simp only [hd, Option.some.injEq] at h
      subst h
      simp [LibraryCall.notified?]
  | _ =>
    simp only [hs, Option.some.injEq] at h
    subst h
    simp [LibraryCall.notified?]

end Calls

end LobaroCoap

/-- The CoAP task with the queue that it reads, which any task may write to. -/
structure NotificationService where
  coap : LobaroCoap
  notifyQueue : NotifyQueue ResourceAddr
  -- `resourceToNotify` between `xQueueReceive` and the notification
  inHand : Option ResourceAddr
  -- ghost: the resources that found room in the queue
  accepted : List ResourceAddr

inductive ServiceAction
  | event (event : LobaroCoap.SystemEvent)
  | notify (resource : ResourceAddr)
  | task (answers : Answers)

def ServiceAction.isTask : ServiceAction → Bool
  | .task _ => true
  | _ => false

namespace NotificationService

variable {α : Type} (endpoints : LobaroEndpoints) (registry : Registry α) (s : NotificationService)

def start : NotificationService := ⟨{}, .empty, none, []⟩

def notify (resource : ResourceAddr) : NotificationService :=
  { s with
    notifyQueue := (xQueueSend s.notifyQueue resource).1
    accepted := s.accepted ++ if s.notifyQueue.Full then [] else [resource] }

def received : Option ResourceAddr :=
  if s.coap.task = .notify ∧ s.inHand = none then (xQueueReceive s.notifyQueue).2 else none

-- the task looks at `_resource` before it notifies
def answersTo (a : Answers) : Answers := { a with dequeued := s.inHand.bind registry.handleAt }

def taskHandle (a : Answers) : Option NotificationService :=
  match s.received with
  -- `xQueueReceive` alone: anything may happen before `CoAP_NotifyResourceObservers`
  | some resource =>
    some { s with
      notifyQueue := (xQueueReceive s.notifyQueue).1
      inHand := some resource }
  | none =>
    (s.coap.taskHandle endpoints (s.answersTo registry a)).map (fun coap =>
      { s with
        coap := coap
        inHand := none })

def system : System NotificationService ServiceAction where
  init s := s = start
  step s
    | .event event => some { s with coap := s.coap.eventHandler event }
    | .notify resource => some (s.notify resource)
    | .task answers => s.taskHandle endpoints registry answers

def coapActions (s : NotificationService) : ServiceAction → List LobaroCoap.CoapAction
  | .event event => [.event event]
  | .notify _ => []
  | .task answers =>
    if s.received = none then [.task (s.answersTo registry answers)] else []

def handlesOf (resources : List ResourceAddr) : List CoAPRes :=
  resources.filterMap registry.handleAt

/-- The entries that were accepted and not notified yet, the one in hand first. -/
def outstanding : List ResourceAddr := s.inHand.toList ++ s.notifyQueue.items

section Steps

variable {endpoints registry s} {t : NotificationService}

structure Received (s t : NotificationService) (resource : ResourceAddr) : Prop where
  task : s.coap.task = .notify
  before : s.inHand = none
  inHand : t.inHand = some resource
  items : s.notifyQueue.items = resource :: t.notifyQueue.items
  coap : t.coap = s.coap
  accepted : t.accepted = s.accepted

structure Proceeded (endpoints : LobaroEndpoints) (registry : Registry α)
    (s t : NotificationService) (a : Answers) : Prop where
  empty : s.coap.task = .notify → s.inHand = none → s.notifyQueue.items = []
  coap : s.coap.taskHandle endpoints (s.answersTo registry a) = some t.coap
  inHand : t.inHand = none
  queue : t.notifyQueue = s.notifyQueue
  accepted : t.accepted = s.accepted

theorem received_some {resource : ResourceAddr} (h : s.received = some resource) :
    s.coap.task = .notify ∧ s.inHand = none ∧
      s.notifyQueue.items = resource :: (xQueueReceive s.notifyQueue).1.items := by
  obtain ⟨⟨htask, hhand⟩, hitem⟩ := Option.ite_none_right_eq_some.mp h
  exact ⟨htask, hhand, (xQueueReceive_some (Prod.ext rfl hitem)).2⟩

theorem received_none (h : s.received = none) (htask : s.coap.task = .notify)
    (hhand : s.inHand = none) : s.notifyQueue.items = [] := by
  unfold received at h
  rw [if_pos ⟨htask, hhand⟩] at h
  exact (xQueueReceive_none (Prod.ext rfl h)).1

theorem taskHandle_received {resource : ResourceAddr} (h : s.received = some resource)
    (a : Answers) :
    s.taskHandle endpoints registry a =
      some { s with notifyQueue := (xQueueReceive s.notifyQueue).1, inHand := some resource } := by
  unfold taskHandle
  rw [h]

theorem taskHandle_proceeds {a : Answers} {coap : LobaroCoap} (h : s.received = none)
    (hcoap : s.coap.taskHandle endpoints (s.answersTo registry a) = some coap) :
    s.taskHandle endpoints registry a = some { s with coap := coap, inHand := none } := by
  unfold taskHandle
  rw [h, hcoap]
  rfl

theorem taskHandle_cases {a : Answers} (h : s.taskHandle endpoints registry a = some t) :
    (∃ resource, s.received = some resource ∧ Received s t resource) ∨
      s.received = none ∧ Proceeded endpoints registry s t a := by
  unfold taskHandle at h
  cases hr : s.received with
  | some resource =>
    rw [hr] at h
    obtain rfl := Option.some.inj h
    obtain ⟨htask, hhand, hitems⟩ := received_some hr
    exact Or.inl ⟨resource, rfl, htask, hhand, rfl, hitems, rfl, rfl⟩
  | none =>
    rw [hr] at h
    obtain ⟨coap, hcoap, rfl⟩ := Option.map_eq_some_iff.mp h
    exact Or.inr ⟨rfl, received_none hr, hcoap, rfl, rfl, rfl⟩

theorem simulates_coap :
    (LobaroCoap.system endpoints).Simulates (system endpoints registry) (coapActions registry)
      (fun s coap => s.coap = coap) where
  start := by
    rintro s rfl
    exact ⟨{}, rfl, rfl⟩
  keep := by
    rintro s _ a t rfl ht
    cases a with
    | event event =>
      obtain rfl := Option.some.inj ht
      exact ⟨_, rfl, rfl⟩
    | notify resource =>
      obtain rfl := Option.some.inj ht
      exact ⟨_, rfl, rfl⟩
    | task answers =>
      refine ⟨t.coap, ?_, rfl⟩
      unfold coapActions
      dsimp only
      rcases taskHandle_cases ht with ⟨resource, hr, htaken⟩ | ⟨hr, hdone⟩
      · rw [if_neg (by rw [hr]; exact Option.some_ne_none resource), htaken.coap]
        rfl
      · rw [if_pos hr]
        exact (LobaroCoap.system endpoints).run_cons_some.mpr ⟨_, hdone.coap, rfl⟩

theorem handlesOf_append (first second : List ResourceAddr) :
    handlesOf registry (first ++ second) = handlesOf registry first ++ handlesOf registry second :=
  List.filterMap_append

theorem handlesOf_toList (inHand : Option ResourceAddr) :
    handlesOf registry inHand.toList = (inHand.bind registry.handleAt).toList := by
  cases inHand with
  | none => rfl
  | some resource => cases hh : registry.handleAt resource <;> simp [handlesOf, hh]

theorem notify_items (s : NotificationService) (resource : ResourceAddr) :
    (s.notify resource).notifyQueue.items =
      s.notifyQueue.items ++ if s.notifyQueue.Full then [] else [resource] := by
  unfold notify
  by_cases hf : s.notifyQueue.Full
  · simp only [if_pos hf, List.append_nil, xQueueSend_full hf]
  · obtain ⟨sent, hs, _, hi⟩ := xQueueSend_room hf resource
    simp only [if_neg hf, hs]
    exact hi

theorem notify_outstanding (s : NotificationService) (resource : ResourceAddr) :
    (s.notify resource).outstanding =
      s.outstanding ++ if s.notifyQueue.Full then [] else [resource] := by
  unfold outstanding
  rw [notify_items, List.append_assoc]
  rfl

theorem Received.outstanding {resource : ResourceAddr} (h : Received s t resource) :
    t.outstanding = s.outstanding := by
  unfold NotificationService.outstanding
  rw [h.inHand, h.before, h.items]
  rfl

/-- An entry is in hand only between the two statements. -/
structure InOrder (registry : Registry α) (s : NotificationService) : Prop where
  hand : s.inHand ≠ none → s.coap.task = .notify
  order : handlesOf registry s.accepted = s.coap.notified ++ handlesOf registry s.outstanding

/-- A step that does not take an entry notifies for the one in hand. -/
theorem Proceeded.served {a : Answers} (h : Proceeded endpoints registry s t a)
    (hhand : s.inHand ≠ none → s.coap.task = .notify) :
    s.outstanding = s.inHand.toList ++ t.outstanding ∧
      t.coap.notified = s.coap.notified ++ handlesOf registry s.inHand.toList := by
  constructor
  · unfold outstanding
    rw [h.inHand, h.queue]
    rfl
  · rw [LobaroCoap.taskHandle_notified h.coap, handlesOf_toList]
    split_ifs with hs
    · rfl
    · rw [not_imp_comm.mp hhand hs]
      rfl

theorem InOrder.step {a : ServiceAction} (h : InOrder registry s)
    (ht : (system endpoints registry).step s a = some t) : InOrder registry t := by
  obtain ⟨hhand, horder⟩ := h
  cases a with
  | event event =>
    obtain rfl := Option.some.inj ht
    have hsame : (s.coap.eventHandler event).notified = s.coap.notified := by
      cases event <;> rfl
    have htask : (s.coap.eventHandler event).task = s.coap.task := by
      cases event <;> rfl
    exact ⟨fun hn => htask.trans (hhand hn), horder.trans (by rw [hsame]; rfl)⟩
  | notify resource =>
    obtain rfl := Option.some.inj ht
    refine ⟨hhand, ?_⟩
    rw [notify_outstanding]
    change handlesOf registry (s.accepted ++ _) = s.coap.notified ++ _
    rw [handlesOf_append, handlesOf_append, horder, List.append_assoc]
  | task answers =>
    rcases taskHandle_cases ht with ⟨resource, _, htaken⟩ | ⟨_, hdone⟩
    · refine ⟨fun _ => by rw [htaken.coap, htaken.task], ?_⟩
      rw [htaken.accepted, htaken.coap, htaken.outstanding]
      exact horder
    · obtain ⟨houtstanding, hnotified⟩ := hdone.served hhand
      refine ⟨fun hn => absurd hdone.inHand hn, ?_⟩
      rw [hdone.accepted, horder, houtstanding, hnotified, handlesOf_append, List.append_assoc]

theorem inOrder_reachable (h : (system endpoints registry).Reachable s) : InOrder registry s := by
  refine (system endpoints registry).reachable_invariant ?_ (fun _ _ _ => InOrder.step) h
  rintro s rfl
  exact ⟨fun hn => absurd rfl hn, rfl⟩

end Steps

def oneResource : Registry Unit :=
  ⟨fun _ => some ⟨(), some 5⟩, [0], fun _ => ⟨0, true, none⟩⟩

def toLoop : List ServiceAction :=
  [.notify 0, .event .staGotIp, .task {}, .task {}, .task {}, .task {}, .task {}, .task {}]

section Progress

open LobaroCoap

variable {endpoints registry} {s t u : NotificationService}

/-- How many steps the task is from the next notification once the entry is in hand, while there is a
network. -/
def untilQueue : TaskStep → ℕ
  | .notify => 1
  | .contextCheck => 2
  | .innerCheck => 3
  | .setTx => 4
  | .doWork => 4
  | .join => 5
  | .read => 5
  | .bind => 6
  | .recvTimeout => 6
  | .newContext => 7
  | .newSocket => 8
  | .outerCheck => 9
  | .teardown => 10
  | .deleted => 0

def serves : TaskStep → Bool
  | .innerCheck => true
  | .contextCheck => true
  | .notify => true
  | .recvTimeout => true
  | .read => true
  | .doWork => true
  | _ => false

/-- The library grants a socket, a context and the port, whichever the task asks for. -/
def Grants (a : Answers) : Prop :=
  a.netconnNew = true ∧ a.coapNewSocket = true ∧ a.netconnBind = true

def taskSteps (actions : List ServiceAction) : ℕ := actions.countP ServiceAction.isTask

def StaysConnected (actions : List ServiceAction) : Prop :=
  .event .staDisconnected ∉ actions

def GrantsAll (actions : List ServiceAction) : Prop := ∀ a, .task a ∈ actions → Grants a

structure Nearer (before after : TaskStep) : Prop where
  running : after ≠ .deleted
  serves : serves before = true → serves after = true
  distance : untilQueue after + 1 = untilQueue before + if before = .notify then 6 else 0

theorem nextStep_nearer {coap : LobaroCoap} {a : Answers} (hd : coap.task ≠ .deleted)
    (hready : coap.networkReady = true) (hcontext : coap.task = .contextCheck → coap.context ≠ none)
    (hg : serves coap.task = true ∨ Grants a) : Nearer coap.task (coap.nextStep a) := by
  unfold nextStep
  cases hs : coap.task with
  | deleted => exact absurd hs hd
  | contextCheck =>
    dsimp only
    rw [if_neg (hcontext hs)]
    exact ⟨by simp, fun _ => rfl, rfl⟩
  | outerCheck | innerCheck =>
    dsimp only
    rw [if_pos hready]
    exact ⟨by simp, id, rfl⟩
  | newSocket =>
    rw [hs] at hg
    obtain ⟨hnew, _, _⟩ := hg.resolve_left (by decide)
    dsimp only
    rw [if_pos hnew]
    exact ⟨by simp, id, rfl⟩
  | newContext =>
    rw [hs] at hg
    obtain ⟨_, hnew, _⟩ := hg.resolve_left (by decide)
    dsimp only
    rw [if_pos hnew]
    exact ⟨by simp, id, rfl⟩
  | bind =>
    rw [hs] at hg
    obtain ⟨_, _, hbind⟩ := hg.resolve_left (by decide)
    dsimp only
    rw [if_pos hbind]
    exact ⟨by simp, id, rfl⟩
  | setTx => exact ⟨by simp, fun _ => rfl, rfl⟩
  | notify | recvTimeout | read | doWork | join | teardown => exact ⟨by simp, id, rfl⟩

-- the entry has to be taken first
def untilNotified (s : NotificationService) : ℕ :=
  untilQueue s.coap.task + if s.inHand = none then 1 else 0

/-- What a run of connected steps from `s` has come to, `done` being the entries it notified for. -/
structure Serving (endpoints : LobaroEndpoints) (registry : Registry α)
    (s t : NotificationService) (steps : ℕ) (added done : List ResourceAddr) : Prop where
  reachable : (LobaroCoap.system endpoints).Reachable t.coap
  ready : t.coap.networkReady = true
  running : t.coap.task ≠ .deleted
  serves : serves s.coap.task = true → serves t.coap.task = true
  hand : t.inHand ≠ none → t.coap.task = .notify
  items : s.outstanding ++ added = done ++ t.outstanding
  cost : untilNotified s + 7 * done.length ≤ steps + untilNotified t
  -- the task lost no step to an empty queue
  pace : done.length < s.outstanding.length →
    steps + untilNotified t = untilNotified s + 7 * done.length
  notified : t.coap.notified = s.coap.notified ++ handlesOf registry done
  accepted : t.accepted = s.accepted ++ added

theorem Received.until {resource : ResourceAddr} (h : Received t u resource) :
    untilNotified u + 1 = untilNotified t := by
  unfold untilNotified
  rw [h.before, h.inHand, h.coap, if_pos rfl, if_neg (Option.some_ne_none resource)]

theorem Proceeded.until {a : Answers} (h : Proceeded endpoints registry t u a)
    (hhand : t.inHand ≠ none → t.coap.task = .notify) (hn : Nearer t.coap.task u.coap.task) :
    t.outstanding = [] ∧ untilNotified u + 1 = untilNotified t + 6 ∨
      untilNotified u + 1 = untilNotified t + 7 * t.inHand.toList.length := by
  have hdistance := hn.distance
  unfold untilNotified
  rw [h.inHand, if_pos rfl]
  cases hr : t.inHand with
  | some resource =>
    have htask : t.coap.task = .notify := hhand (by rw [hr]; exact Option.some_ne_none resource)
    rw [htask, if_pos rfl] at hdistance
    rw [htask, if_neg (Option.some_ne_none resource)]
    right
    simp only [Option.toList_some, List.length_singleton]
    omega
  | none =>
    rw [if_pos rfl]
    by_cases hs : t.coap.task = .notify
    · left
      rw [hs, if_pos rfl] at hdistance
      refine ⟨?_, by rw [hs]; omega⟩
      unfold outstanding
      rw [hr, h.empty hs hr]
      rfl
    · right
      rw [if_neg hs] at hdistance
      simp only [Option.toList_none, List.length_nil]
      omega

theorem Serving.receive {steps : ℕ} {added done : List ResourceAddr} {resource : ResourceAddr}
    (h : Serving endpoints registry s t steps added done) (hu : Received t u resource) :
    Serving endpoints registry s u (steps + 1) added done := by
  have huntil := hu.until
  have hcost := h.cost
  refine ⟨hu.coap ▸ h.reachable, hu.coap ▸ h.ready, hu.coap ▸ h.running, hu.coap ▸ h.serves,
    fun _ => by rw [hu.coap, hu.task], ?_, by omega, ?_, hu.coap ▸ h.notified,
    hu.accepted.trans h.accepted⟩
  · rw [hu.outstanding]
    exact h.items
  · intro hmore
    have hpace := h.pace hmore
    omega

theorem Serving.proceed {steps : ℕ} {added done : List ResourceAddr} {a : Answers}
    (h : Serving endpoints registry s t steps added done)
    (hg : NotificationService.serves s.coap.task = true ∨ Grants a)
    (hu : Proceeded endpoints registry t u a) :
    Serving endpoints registry s u (steps + 1) added (done ++ t.inHand.toList) := by
  have hcontrol := taskHandle_control endpoints hu.coap
  have hnearer : Nearer t.coap.task u.coap.task := by
    rw [hcontrol.task]
    exact nextStep_nearer h.running h.ready (serving_context h.reachable) (hg.imp_left h.serves)
  obtain ⟨houtstanding, hnotified⟩ := hu.served h.hand
  have hcost := h.cost
  have hlengths := congrArg List.length h.items
  rw [List.length_append, List.length_append] at hlengths
  have huntil := hu.until h.hand hnearer
  refine ⟨h.reachable.step _ (a := .task (t.answersTo registry a)) hu.coap,
    hcontrol.networkReady.trans h.ready, hnearer.running, fun hs => hnearer.serves (h.serves hs),
    fun hn => absurd hu.inHand hn, ?_, ?_, ?_, ?_, hu.accepted.trans h.accepted⟩
  · rw [h.items, houtstanding, List.append_assoc]
  · rw [List.length_append]
    rcases huntil with ⟨hempty, huntil⟩ | huntil
    · have hnone := congrArg List.length houtstanding
      rw [hempty, List.length_append, List.length_nil] at hnone
      omega
    · omega
  · rw [List.length_append]
    intro hmore
    have hpace := h.pace (by omega)
    rcases huntil with ⟨hempty, _⟩ | huntil
    · -- nothing was outstanding, so all of it is done
      rw [hempty, List.length_nil] at hlengths
      omega
    · omega
  · rw [hnotified, h.notified, handlesOf_append, List.append_assoc]

theorem Serving.task {steps : ℕ} {added done : List ResourceAddr}
    (h : Serving endpoints registry s t steps added done) {a : Answers}
    (hg : NotificationService.serves s.coap.task = true ∨ Grants a)
    (hu : t.taskHandle endpoints registry a = some u) :
    ∃ done', Serving endpoints registry s u (steps + 1) added done' := by
  rcases taskHandle_cases hu with ⟨resource, _, htaken⟩ | ⟨_, hdone⟩
  · exact ⟨_, h.receive htaken⟩
  · exact ⟨_, h.proceed hg hdone⟩

theorem Serving.step {steps : ℕ} {added done : List ResourceAddr}
    (h : Serving endpoints registry s t steps added done) {a : ServiceAction}
    (hg : NotificationService.serves s.coap.task = true ∨ ∀ answers, a = .task answers →
      Grants answers)
    (ha : a ≠ .event .staDisconnected) (hu : (system endpoints registry).step t a = some u) :
    ∃ more done',
      Serving endpoints registry s u (steps + if a.isTask then 1 else 0) (added ++ more) done' ∧
        ((∀ resource, a ≠ .notify resource) → more = []) := by
  cases a with
  | task answers =>
    obtain ⟨done', hserving⟩ := h.task (hg.imp_right (fun hg => hg answers rfl)) hu
    refine ⟨[], done', ?_, fun _ => rfl⟩
    rw [List.append_nil]
    exact hserving
  | event event =>
    obtain rfl := Option.some.inj hu
    have hsame : (t.coap.eventHandler event).notified = t.coap.notified := by
      cases event <;> rfl
    have htask : (t.coap.eventHandler event).task = t.coap.task := by
      cases event <;> rfl
    have hready : (t.coap.eventHandler event).networkReady = true := by
      cases event <;> first | exact h.ready | rfl | exact absurd rfl ha
    have hreachable : (LobaroCoap.system endpoints).Reachable (t.coap.eventHandler event) :=
      h.reachable.step _ (a := .event event) rfl
    have huntil : untilNotified { t with coap := t.coap.eventHandler event } = untilNotified t := by
      unfold untilNotified
      rw [htask]
    refine ⟨[], done, ⟨hreachable, hready, ?_, ?_, ?_, ?_, ?_, ?_, hsame.trans h.notified, ?_⟩,
      fun _ => rfl⟩
    · rw [htask]
      exact h.running
    · rw [htask]
      exact h.serves
    · rw [htask]
      exact h.hand
    · rw [List.append_nil]
      exact h.items
    · rw [huntil]
      exact h.cost
    · rw [huntil]
      exact h.pace
    · rw [List.append_nil]
      exact h.accepted
  | notify resource =>
    obtain rfl := Option.some.inj hu
    refine ⟨if t.notifyQueue.Full then [] else [resource], done, ⟨h.reachable, h.ready, h.running,
      h.serves, h.hand, ?_, h.cost, h.pace, h.notified, ?_⟩, fun hn => absurd rfl (hn resource)⟩
    · rw [notify_outstanding, ← List.append_assoc, h.items, List.append_assoc]
    · rw [← List.append_assoc, ← h.accepted]
      rfl

theorem taskSteps_snoc (actions : List ServiceAction) (a : ServiceAction) :
    taskSteps (actions ++ [a]) = taskSteps actions + if a.isTask then 1 else 0 := by
  unfold taskSteps
  rw [List.countP_append, List.countP_singleton]

theorem serving_run {actions : List ServiceAction} (hs : (system endpoints registry).Reachable s)
    (hd : s.coap.task ≠ .deleted) (hready : s.coap.networkReady = true)
    (hg : serves s.coap.task = true ∨ GrantsAll actions) (hc : StaysConnected actions)
    (ht : (system endpoints registry).run s actions = some t) :
    ∃ added done, Serving endpoints registry s t (taskSteps actions) added done ∧
      ((∀ resource, .notify resource ∉ actions) → added = []) := by
  induction actions using List.reverseRecOn generalizing t with
  | nil =>
    obtain rfl := Option.some.inj ht
    obtain ⟨coap, hreachable, rfl⟩ := simulates_coap.reachable hs
    have hcost : untilNotified s + 7 * 0 = taskSteps [] + untilNotified s := (Nat.zero_add _).symm
    exact ⟨[], [], ⟨hreachable, hready, hd, id, (inOrder_reachable hs).hand, List.append_nil _,
      Nat.le_of_eq hcost, fun _ => hcost.symm, (List.append_nil _).symm, (List.append_nil _).symm⟩,
      fun _ => rfl⟩
  | append_singleton actions a ih =>
    obtain ⟨u, hu, ht⟩ := (system endpoints registry).run_snoc_some.mp ht
    unfold StaysConnected at hc
    rw [List.mem_append, List.mem_singleton, not_or] at hc
    have hbefore : serves s.coap.task = true ∨ GrantsAll actions :=
      hg.imp_right (fun hg answers hm => hg answers (List.mem_append_left _ hm))
    have hlast : serves s.coap.task = true ∨ ∀ answers, a = .task answers → Grants answers := by
      refine hg.imp_right (fun hg answers ha => hg answers ?_)
      exact List.mem_append_right _ (List.mem_singleton.mpr ha.symm)
    obtain ⟨added, done, hserving, hadded⟩ := ih hbefore hc.1 hu
    obtain ⟨more, done', hnext, hmore⟩ := hserving.step hlast (Ne.symm hc.2) ht
    rw [taskSteps_snoc]
    refine ⟨added ++ more, done', hnext, fun hn => ?_⟩
    have hquiet : ∀ resource, .notify resource ∉ actions :=
      fun resource hm => hn resource (List.mem_append_left _ hm)
    have hother : ∀ resource, a ≠ .notify resource := by
      rintro resource rfl
      exact hn resource (List.mem_append_right _ (List.mem_singleton_self _))
    rw [hadded hquiet, hmore hother, List.nil_append]

theorem untilQueue_pos {task : TaskStep} (h : task ≠ .deleted) : 0 < untilQueue task := by
  cases task <;> first | exact absurd rfl h | exact Nat.succ_pos _

theorem untilQueue_le (task : TaskStep) : untilQueue task ≤ 10 := by
  cases task <;> decide

theorem untilQueue_serves {task : TaskStep} (h : serves task = true) : untilQueue task ≤ 6 := by
  cases task <;> first | decide | cases h

theorem untilNotified_pos (h : s.coap.task ≠ .deleted) : 0 < untilNotified s :=
  Nat.add_pos_left (untilQueue_pos h) _

theorem untilNotified_le (s : NotificationService) : untilNotified s ≤ 11 := by
  have hle := untilQueue_le s.coap.task
  unfold untilNotified
  split_ifs <;> omega

theorem untilNotified_serves (h : serves s.coap.task = true) : untilNotified s ≤ 7 := by
  have hle := untilQueue_serves h
  unfold untilNotified
  split_ifs <;> omega

theorem untilNotified_innerCheck (hs : (system endpoints registry).Reachable s)
    (hcheck : s.coap.task = .innerCheck) : s.inHand = none ∧ untilNotified s = 4 := by
  have hhand : s.inHand = none := by
    by_contra hn
    have htask := (inOrder_reachable hs).hand hn
    rw [hcheck] at htask
    cases htask
  unfold untilNotified
  rw [hcheck, hhand]
  exact ⟨rfl, rfl⟩

/-- Of the entries that were outstanding, `done` starts with the first `n`. -/
theorem Serving.take_prefix {steps n : ℕ} {added done : List ResourceAddr}
    (h : Serving endpoints registry s t steps added done)
    (hn : n ≤ done.length ∨ s.outstanding.length ≤ done.length) :
    s.outstanding.take n <+: done := by
  have hfirst : s.outstanding.take n <+: s.outstanding ++ added :=
    (List.take_prefix _ _).trans (List.prefix_append _ _)
  have hdone : done <+: s.outstanding ++ added := ⟨_, h.items.symm⟩
  apply List.prefix_of_prefix_length_le hfirst hdone
  rw [List.length_take]
  omega

theorem Serving.checked {steps : ℕ} {added done : List ResourceAddr}
    (h : Serving endpoints registry s t steps added done) (hs : NotificationService.serves s.coap.task)
    (hcheck : untilNotified s = 4) :
    done.length ≤ (steps + 3) / 7 ∧
      ((steps + 3) / 7 ≤ done.length ∨ s.outstanding.length ≤ done.length) := by
  have hcost := h.cost
  have hpace := h.pace
  have hpos := untilNotified_pos h.running
  have hle := untilNotified_serves (h.serves hs)
  omega

theorem Serving.paced {steps : ℕ} {added done : List ResourceAddr}
    (h : Serving endpoints registry s t steps added done) :
    (steps - 4) / 7 ≤ done.length ∨ s.outstanding.length ≤ done.length := by
  have hpace := h.pace
  have hpos := untilNotified_pos h.running
  have hle := untilNotified_le s
  omega

theorem Serving.enough {steps : ℕ} {added done : List ResourceAddr}
    (h : Serving endpoints registry s t steps added done)
    (hhand : s.inHand ≠ none → s.coap.task = .notify)
    (hlong : 7 * s.notifyQueue.items.length + 4 ≤ steps) :
    s.outstanding.length ≤ done.length := by
  have hpace := h.pace
  have hpos := untilNotified_pos h.running
  have hlength : s.outstanding.length = s.inHand.toList.length + s.notifyQueue.items.length :=
    List.length_append
  cases hr : s.inHand with
  | none =>
    have hle := untilNotified_le s
    rw [hr, Option.toList_none, List.length_nil] at hlength
    omega
  | some resource =>
    -- the one in hand is notified in the next step
    have hone : untilNotified s = 1 := by
      unfold untilNotified
      rw [hhand (by rw [hr]; exact Option.some_ne_none resource), hr]
      rfl
    rw [hr, Option.toList_some, List.length_singleton] at hlength
    omega

theorem Serving.drained {steps : ℕ} {done : List ResourceAddr}
    (h : Serving endpoints registry s t steps [] done) :
    t.outstanding = s.outstanding.drop done.length := by
  rw [← List.append_nil s.outstanding, h.items, List.drop_left]

theorem drained_after {actions : List ServiceAction} (hs : (system endpoints registry).Reachable s)
    (hd : s.coap.task ≠ .deleted) (hready : s.coap.networkReady = true) (hg : GrantsAll actions)
    (hc : StaysConnected actions) (ht : (system endpoints registry).run s actions = some t)
    (hquiet : ∀ resource, .notify resource ∉ actions)
    (hlong : 7 * s.notifyQueue.items.length + 4 ≤ taskSteps actions) :
    t.outstanding = [] := by
  obtain ⟨added, done, h, hadded⟩ := serving_run hs hd hready (Or.inr hg) hc ht
  rw [hadded hquiet] at h
  rw [h.drained]
  exact List.drop_eq_nil_of_le (h.enough (inOrder_reachable hs).hand hlong)

theorem connected_run {actions : List ServiceAction} (hs : (system endpoints registry).Reachable s)
    (hd : s.coap.task ≠ .deleted) (hready : s.coap.networkReady = true) (hg : GrantsAll actions)
    (hc : StaysConnected actions) : ∃ t, (system endpoints registry).run s actions = some t := by
  induction actions using List.reverseRecOn with
  | nil => exact ⟨s, rfl⟩
  | append_singleton actions a ih =>
    unfold StaysConnected at hc
    rw [List.mem_append, not_or] at hc
    have hbefore : GrantsAll actions := fun answers hm => hg answers (List.mem_append_left _ hm)
    obtain ⟨u, hu⟩ := ih hbefore hc.1
    obtain ⟨_, _, hserving, _⟩ := serving_run hs hd hready (Or.inr hbefore) hc.1 hu
    have hstep : ∃ t, (system endpoints registry).step u a = some t := by
      cases a with
      | event event => exact ⟨_, rfl⟩
      | notify resource => exact ⟨_, rfl⟩
      | task answers =>
        have hcoap : ∃ coap, u.coap.taskHandle endpoints (u.answersTo registry answers) =
            some coap := taskHandle_some hserving.running
        obtain ⟨coap, hcoap⟩ := hcoap
        cases hr : u.received with
        | some resource => exact ⟨_, taskHandle_received hr answers⟩
        | none => exact ⟨_, taskHandle_proceeds hr hcoap⟩
    obtain ⟨t, ht⟩ := hstep
    exact ⟨t, (system endpoints registry).run_snoc_some.mpr ⟨u, hu, ht⟩⟩

end Progress

/-- While the network stays, seven steps of the task serve one entry of the queue, the oldest first,
whatever else is queued, received or answered meanwhile. -/
theorem served_within (s t : NotificationService) (actions : List ServiceAction)
    (hs : (system endpoints registry).Reachable s) (hcheck : s.coap.task = .innerCheck)
    (hready : s.coap.networkReady = true) (hc : StaysConnected actions)
    (ht : (system endpoints registry).run s actions = some t) :
    (∃ made, t.coap.notified = s.coap.notified ++ made ∧
      handlesOf registry (s.notifyQueue.items.take ((taskSteps actions + 3) / 7)) <+: made) ∧
    ((∀ resource, .notify resource ∉ actions) →
      t.inHand.toList ++ t.notifyQueue.items =
        s.notifyQueue.items.drop ((taskSteps actions + 3) / 7)) := by
  have hserves : serves s.coap.task = true := by rw [hcheck]; rfl
  obtain ⟨added, done, h, hadded⟩ := serving_run hs (by rw [hcheck]; decide) hready
    (Or.inl hserves) hc ht
  obtain ⟨hhand, huntil⟩ := untilNotified_innerCheck hs hcheck
  obtain ⟨hatMost, hatLeast⟩ := h.checked hserves huntil
  have hqueue : s.outstanding = s.notifyQueue.items := by
    unfold outstanding
    rw [hhand]
    rfl
  constructor
  · obtain ⟨rest, hrest⟩ := h.take_prefix hatLeast
    refine ⟨handlesOf registry done, h.notified, handlesOf registry rest, ?_⟩
    rw [← hqueue, ← hrest, handlesOf_append]
  · intro hquiet
    rw [hadded hquiet] at h
    have hdrained : t.inHand.toList ++ t.notifyQueue.items = s.outstanding.drop done.length :=
      h.drained
    rw [hdrained, hqueue]
    rw [hqueue] at hatLeast
    rcases hatLeast with hatLeast | hall
    · rw [Nat.le_antisymm hatMost hatLeast]
    · rw [List.drop_eq_nil_of_le hall, List.drop_eq_nil_of_le (Nat.le_trans hall hatMost)]

theorem served_within_four :
    ∃ s t made, (system someEndpoints oneResource).Reachable s ∧
      (system someEndpoints oneResource).run s [.task {}, .notify 0, .task {}, .task {}, .task {}] =
        some t ∧
      t.coap.notified = s.coap.notified ++ made ∧ [5] <+: made := by
  have hs : (system someEndpoints oneResource).Reachable _ := ⟨start, toLoop, rfl, rfl⟩
  have hc : StaysConnected [.task {}, .notify 0, .task {}, .task {}, .task {}] := by
    simp [StaysConnected]
  obtain ⟨⟨made, hmade, hserved⟩, _⟩ := served_within someEndpoints oneResource _ _
    [.task {}, .notify 0, .task {}, .task {}, .task {}] hs rfl rfl hc rfl
  exact ⟨_, _, made, hs, rfl, hmade, hserved⟩

end NotificationService

end IoTNode
