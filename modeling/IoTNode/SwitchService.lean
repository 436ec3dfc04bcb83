import IoTNode.NotificationService
import IoTNode.SwitchTask

set_option autoImplicit false

namespace IoTNode

open Coap Foundations Lobaro SwitchResource

/-- The switch, whose observers are told by the CoAP task while that has a network. -/
structure SwitchService where
  coap : LobaroCoap
  world : SwitchWorld

inductive SwitchServiceAction
  | event (event : LobaroCoap.SystemEvent)
  | switch (action : SwitchAction)
  | task (answers : Answers)

namespace SwitchService

variable {α : Type} (endpoints : LobaroEndpoints) (registry : Registry α) (this : ResourceAddr)
  (activeLevel : UInt32) (s : SwitchService)

def inHand : Option ResourceAddr :=
  match s.world.coapStep with
  | .receive => none
  | .notify resource => some resource

def received : Option ResourceAddr :=
  if s.coap.task = .notify ∧ s.inHand = none then
    s.world.notifyQueue.bind (fun queue => (xQueueReceive queue).2)
  else none

def answersTo (a : Answers) : Answers := { a with dequeued := s.inHand.bind registry.handleAt }

def dequeue (resource : ResourceAddr) : SwitchWorld :=
  { s.world with
    notifyQueue := s.world.notifyQueue.map (fun queue => (xQueueReceive queue).1)
    coapStep := .notify resource }

def deliver : SwitchWorld :=
  { s.world with
    coapStep := .receive
    -- the library calls `HandleNotify`, which reads `_state` now
    delivered :=
      if s.inHand = some this ∧ registry.handleAt this ≠ none then s.world.state
      else s.world.delivered }

def taskHandle (a : Answers) : Option SwitchService :=
  match s.received with
  -- `xQueueReceive` alone: the switch may write `_state` before it is read
  | some resource => some { s with world := s.dequeue resource }
  | none =>
    (s.coap.taskHandle endpoints (s.answersTo registry a)).map (fun coap =>
      { coap := coap
        world := s.deliver registry this })

def system : System SwitchService SwitchServiceAction where
  init s := s.coap = {} ∧ s.world.Initial
  step s
    | .event event => some { s with coap := s.coap.eventHandler event }
    -- the reading end of the queue is the CoAP task
    | .switch .coapTask => none
    | .switch action =>
      ((SwitchWorld.system this activeLevel).step s.world action).map (fun world =>
        { s with world := world })
    | .task answers => s.taskHandle endpoints registry this answers

section World

variable {endpoints registry this activeLevel s} {t : SwitchService}

/-- What the actions are to the switch and a CoAP task that is always there. -/
def worldActions (s : SwitchService) : SwitchServiceAction → List SwitchAction
  | .event _ => []
  | .switch action => [action]
  | .task _ => if s.coap.task = .notify then [.coapTask] else []

structure Between (this : ResourceAddr) (activeLevel : UInt32) (s : SwitchService)
    (world : SwitchWorld) : Prop where
  same : world = s.world
  coherent : world.Coherent this activeLevel
  hand : s.inHand ≠ none → s.coap.task = .notify

theorem inHand_none (h : s.inHand = none) : s.world.coapStep = .receive := by
  unfold inHand at h
  cases hs : s.world.coapStep with
  | receive => rfl
  | notify resource =>
    rw [hs] at h
    cases h

theorem inHand_some {resource : ResourceAddr} (h : s.inHand = some resource) :
    s.world.coapStep = .notify resource := by
  unfold inHand at h
  cases hs : s.world.coapStep with
  | receive =>
    rw [hs] at h
    cases h
  | notify p =>
    rw [hs] at h
    rw [Option.some.inj h]

theorem inHand_congr (h : t.world.coapStep = s.world.coapStep) : t.inHand = s.inHand := by
  unfold inHand
  rw [h]

theorem taskHandle_cases {a : Answers} (h : s.taskHandle endpoints registry this a = some t) :
    (∃ resource, s.received = some resource ∧ t.coap = s.coap ∧ t.world = s.dequeue resource) ∨
      s.received = none ∧ s.coap.taskHandle endpoints (s.answersTo registry a) = some t.coap ∧
        t.world = s.deliver registry this := by
  unfold taskHandle at h
  cases hr : s.received with
  | some resource =>
    rw [hr] at h
    obtain rfl := Option.some.inj h
    exact Or.inl ⟨resource, rfl, rfl, rfl⟩
  | none =>
    rw [hr] at h
    obtain ⟨coap, hcoap, rfl⟩ := Option.map_eq_some_iff.mp h
    exact Or.inr ⟨rfl, hcoap, rfl⟩

theorem dequeue_step {resource : ResourceAddr} (h : s.received = some resource) :
    s.coap.task = .notify ∧
      (SwitchWorld.system this activeLevel).step s.world .coapTask = some (s.dequeue resource) := by
  obtain ⟨⟨htask, hhand⟩, hitem⟩ := Option.ite_none_right_eq_some.mp h
  obtain ⟨queue, hq, hitem⟩ := Option.bind_eq_some_iff.mp hitem
  refine ⟨htask, ?_⟩
  change s.world.coapTask this = _
  unfold SwitchWorld.coapTask dequeue
  rw [inHand_none hhand, hq]
  dsimp only [Option.map_some]
  rw [hitem]
  rfl

theorem deliver_idle (h : s.inHand = none) : s.deliver registry this = s.world := by
  unfold deliver
  rw [h, if_neg (fun hn => by cases hn.1), ← inHand_none h]

theorem deliver_step (hcreated : registry.handleAt this ≠ none)
    (hc : s.world.Coherent this activeLevel) (htask : s.coap.task = .notify)
    (hr : s.received = none) :
    (SwitchWorld.system this activeLevel).step s.world .coapTask =
      some (s.deliver registry this) := by
  obtain ⟨queue, hq, _⟩ := hc.queue
  change s.world.coapTask this = _
  cases hhand : s.inHand with
  | none =>
    unfold received at hr
    rw [if_pos ⟨htask, hhand⟩, hq, Option.bind_some] at hr
    have hsame : (xQueueReceive queue).1 = queue := (xQueueReceive_none (Prod.ext rfl hr)).2
    rw [deliver_idle hhand]
    unfold SwitchWorld.coapTask
    rw [inHand_none hhand, hq]
    dsimp only [Option.map_some]
    rw [hr, hsame, ← hq, Option.elim_none, ← inHand_none hhand]
  | some resource =>
    have hstep := inHand_some hhand
    obtain rfl : resource = this := hc.notifying resource hstep
    unfold SwitchWorld.coapTask deliver
    rw [hstep, hhand, if_pos ⟨rfl, hcreated⟩]
    dsimp only
    rw [if_pos rfl]

theorem switch_step {action : SwitchAction}
    (h : (system endpoints registry this activeLevel).step s (.switch action) = some t) :
    action ≠ .coapTask ∧ t.coap = s.coap ∧
      (SwitchWorld.system this activeLevel).step s.world action = some t.world := by
  cases action with
  | coapTask => cases h
  | _ =>
    dsimp only [system] at h
    obtain ⟨world, hworld, rfl⟩ := Option.map_eq_some_iff.mp h
    exact ⟨by simp, rfl, hworld⟩

theorem coapStep_kept {action : SwitchAction} {world : SwitchWorld} (hne : action ≠ .coapTask)
    (h : (SwitchWorld.system this activeLevel).step s.world action = some world) :
    world.coapStep = s.world.coapStep := by
  cases action with
  | coapTask => exact absurd rfl hne
  | edge =>
    obtain rfl := Option.some.inj h
    rfl
  | register =>
    obtain rfl := Option.some.inj h
    rfl
  | gpioHandler =>
    obtain ⟨_, h⟩ := Option.ite_none_right_eq_some.mp h
    obtain rfl := Option.some.inj h
    rfl
  | switchTask result =>
    change s.world.switchTask this activeLevel result = some world at h
    unfold SwitchWorld.switchTask at h
    cases hs : s.world.switchStep with
    | take =>
      simp only [hs] at h
      obtain ⟨_, h⟩ := Option.ite_none_right_eq_some.mp h
      obtain rfl := Option.some.inj h
      rfl
    | _ =>
      simp only [hs, Option.some.injEq] at h
      subst h
      rfl

/-- Seen from the switch, an outage is a time in which the CoAP task does nothing. -/
theorem simulates_world (hcreated : registry.handleAt this ≠ none) :
    (SwitchWorld.system this activeLevel).Simulates (system endpoints registry this activeLevel)
      worldActions (Between this activeLevel) where
  start := by
    rintro s ⟨_, hinitial⟩
    refine ⟨s.world, hinitial, rfl, hinitial.coherent, fun hn => absurd ?_ hn⟩
    unfold inHand
    rw [hinitial.coapStep]
  keep := by
    rintro s _ a t ⟨rfl, hcoherent, hhand⟩ ht
    cases a with
    | event event =>
      obtain rfl := Option.some.inj ht
      have htask : (s.coap.eventHandler event).task = s.coap.task := by
        cases event <;> rfl
      exact ⟨s.world, rfl, rfl, hcoherent, fun hn => htask.trans (hhand hn)⟩
    | switch action =>
      obtain ⟨hne, hcoap, hworld⟩ := switch_step ht
      refine ⟨t.world, ?_, rfl, SwitchWorld.coherent_step s.world action t.world hcoherent hworld, ?_⟩
      · exact (SwitchWorld.system this activeLevel).run_cons_some.mpr ⟨t.world, hworld, rfl⟩
      · rw [inHand_congr (coapStep_kept hne hworld), hcoap]
        exact hhand
    | task answers =>
      unfold worldActions
      rcases taskHandle_cases ht with ⟨resource, hr, hcoap, hworld⟩ | ⟨hr, _, hworld⟩
      · obtain ⟨htask, hstep⟩ : s.coap.task = .notify ∧
            (SwitchWorld.system this activeLevel).step s.world .coapTask =
              some (s.dequeue resource) := dequeue_step hr
        rw [← hworld] at hstep
        dsimp only
        rw [if_pos htask]
        refine ⟨t.world, ?_, rfl, SwitchWorld.coherent_step _ _ _ hcoherent hstep,
          fun _ => by rw [hcoap, htask]⟩
        exact (SwitchWorld.system this activeLevel).run_cons_some.mpr ⟨t.world, hstep, rfl⟩
      · have hempty : t.inHand = none := by
          unfold inHand
          rw [hworld]
          rfl
        dsimp only
        by_cases htask : s.coap.task = .notify
        · have hstep := deliver_step hcreated hcoherent htask hr
          rw [← hworld] at hstep
          rw [if_pos htask]
          refine ⟨t.world, ?_, rfl, SwitchWorld.coherent_step _ _ _ hcoherent hstep,
            fun hn => absurd hempty hn⟩
          exact (SwitchWorld.system this activeLevel).run_cons_some.mpr ⟨t.world, hstep, rfl⟩
        · rw [deliver_idle (not_imp_comm.mp hhand htask)] at hworld
          rw [if_neg htask, ← hworld]
          exact ⟨t.world, rfl, rfl, hworld ▸ hcoherent, fun hn => absurd hempty hn⟩

end World

section Queue

variable {endpoints registry this activeLevel s} {t : SwitchService}

def isTask : SwitchServiceAction → Bool
  | .task _ => true
  | _ => false

def isEnqueue (s : SwitchService) : SwitchServiceAction → Bool
  | .switch (.switchTask _) => s.world.switchStep == .enqueue
  | _ => false

/-- What the actions are to the CoAP task and its queue. -/
def serviceActions (this : ResourceAddr) (s : SwitchService) :
    SwitchServiceAction → List ServiceAction
  | .event event => [.event event]
  | .task answers => [.task answers]
  | .switch action => if s.isEnqueue (.switch action) then [.notify this] else []

structure Queues (s : SwitchService) (service : NotificationService) : Prop where
  coap : service.coap = s.coap
  queue : s.world.notifyQueue = some service.notifyQueue
  hand : service.inHand = s.inHand

theorem Queues.received {service : NotificationService} (h : Queues s service) :
    service.received = s.received := by
  unfold NotificationService.received SwitchService.received
  rw [h.coap, h.hand, h.queue, Option.bind_some]

theorem switch_queue {action : SwitchAction} {world : SwitchWorld} {queue : NotifyQueue ResourceAddr}
    (hne : action ≠ .coapTask) (hq : s.world.notifyQueue = some queue)
    (h : (SwitchWorld.system this activeLevel).step s.world action = some world) :
    world.notifyQueue = some
      (if s.isEnqueue (.switch action) then (xQueueSend queue this).1 else queue) := by
  cases action with
  | coapTask => exact absurd rfl hne
  | edge =>
    obtain rfl := Option.some.inj h
    exact hq
  | register =>
    obtain rfl := Option.some.inj h
    exact hq
  | gpioHandler =>
    obtain ⟨_, h⟩ := Option.ite_none_right_eq_some.mp h
    obtain rfl := Option.some.inj h
    exact hq
  | switchTask result =>
    change s.world.switchTask this activeLevel result = some world at h
    unfold SwitchWorld.switchTask at h
    cases hs : s.world.switchStep with
    | take =>
      simp only [hs] at h
      obtain ⟨_, h⟩ := Option.ite_none_right_eq_some.mp h
      obtain rfl := Option.some.inj h
      simp [isEnqueue, hs, hq]
    | enqueue =>
      simp only [hs, Option.some.injEq] at h
      subst h
      simp [isEnqueue, hs, hq, notifyObservers_created]
    | _ =>
      simp only [hs, Option.some.injEq] at h
      subst h
      simp [isEnqueue, hs, hq]

theorem simulates_service :
    (NotificationService.system endpoints registry).Simulates
      (system endpoints registry this activeLevel) (serviceActions this) Queues where
  start := by
    rintro s ⟨hcoap, hinitial⟩
    refine ⟨NotificationService.start, rfl, hcoap.symm, hinitial.queue, ?_⟩
    unfold inHand
    rw [hinitial.coapStep]
    rfl
  keep := by
    rintro s n a t ⟨hcoap, hqueue, hhand⟩ ht
    cases a with
    | event event =>
      obtain rfl := Option.some.inj ht
      exact ⟨_, rfl, by rw [hcoap], hqueue, hhand⟩
    | switch action =>
      obtain ⟨hne, hkept, hworld⟩ := switch_step ht
      have hnext := switch_queue hne hqueue hworld
      have hsame : s.inHand = t.inHand := (inHand_congr (coapStep_kept hne hworld)).symm
      unfold serviceActions
      dsimp only
      by_cases he : s.isEnqueue (.switch action) = true
      · rw [if_pos he] at hnext ⊢
        exact ⟨n.notify this, rfl, hcoap.trans hkept.symm, hnext, hhand.trans hsame⟩
      · rw [if_neg he] at hnext ⊢
        exact ⟨n, rfl, hcoap.trans hkept.symm, hnext, hhand.trans hsame⟩
    | task answers =>
      have hreceived : n.received = s.received := Queues.received ⟨hcoap, hqueue, hhand⟩
      have hanswers : n.answersTo registry answers = s.answersTo registry answers := by
        unfold NotificationService.answersTo answersTo
        rw [hhand]
      rcases taskHandle_cases ht with ⟨resource, hr, hkept, hworld⟩ | ⟨hr, hcoap', hworld⟩
      · have hstep : (NotificationService.system endpoints registry).step n (.task answers) = _ :=
          NotificationService.taskHandle_received (hreceived.trans hr) answers
        refine ⟨_, (NotificationService.system endpoints registry).run_cons_some.mpr
          ⟨_, hstep, rfl⟩, hcoap.trans hkept.symm, ?_, ?_⟩
        · rw [hworld]
          unfold dequeue
          rw [hqueue]
          rfl
        · unfold inHand
          rw [hworld]
          rfl
      · rw [← hanswers, ← hcoap] at hcoap'
        have hstep : (NotificationService.system endpoints registry).step n (.task answers) = _ :=
          NotificationService.taskHandle_proceeds (hreceived.trans hr) hcoap'
        refine ⟨_, (NotificationService.system endpoints registry).run_cons_some.mpr
          ⟨_, hstep, rfl⟩, rfl, ?_, ?_⟩
        · rw [hworld]
          exact hqueue
        · unfold inHand
          rw [hworld]
          rfl

theorem serviceActions_isTask (s : SwitchService) (a : SwitchServiceAction) :
    (serviceActions this s a).countP ServiceAction.isTask = if isTask a then 1 else 0 := by
  cases a with
  | event event => rfl
  | task answers => rfl
  | switch action =>
    change (if s.isEnqueue (.switch action) then _ else _ : List ServiceAction).countP _ = 0
    split_ifs <;> rfl

theorem trace_staysConnected {actions : List SwitchServiceAction}
    (h : .event .staDisconnected ∉ actions) :
    NotificationService.StaysConnected
      ((system endpoints registry this activeLevel).trace (serviceActions this) s actions) := by
  intro hmem
  obtain ⟨before, a, after, u, rfl, _, ha⟩ := System.mem_trace hmem
  apply h
  cases a with
  | event event =>
    obtain rfl := ServiceAction.event.inj (List.mem_singleton.mp ha)
    simp
  | task answers => cases List.mem_singleton.mp ha
  | switch action =>
    dsimp only [serviceActions] at ha
    split_ifs at ha
    · cases List.mem_singleton.mp ha
    · cases ha

theorem trace_grants {actions : List SwitchServiceAction}
    (h : ∀ a, .task a ∈ actions → NotificationService.Grants a) :
    NotificationService.GrantsAll
      ((system endpoints registry this activeLevel).trace (serviceActions this) s actions) := by
  intro answers hmem
  obtain ⟨before, a, after, u, rfl, _, ha⟩ := System.mem_trace hmem
  cases a with
  | event event => cases List.mem_singleton.mp ha
  | task answers' =>
    obtain rfl := ServiceAction.task.inj (List.mem_singleton.mp ha)
    apply h
    simp
  | switch action =>
    dsimp only [serviceActions] at ha
    split_ifs at ha
    · cases List.mem_singleton.mp ha
    · cases ha

theorem trace_quiet {actions : List SwitchServiceAction}
    (h : (system endpoints registry this activeLevel).Along
      (fun s a => s.isEnqueue a = false) s actions) (resource : ResourceAddr) :
    .notify resource ∉
      (system endpoints registry this activeLevel).trace (serviceActions this) s actions := by
  intro hmem
  obtain ⟨before, a, after, u, he, hr, ha⟩ := System.mem_trace hmem
  have hquiet := h before a after u he hr
  cases a with
  | event event => cases List.mem_singleton.mp ha
  | task answers => cases List.mem_singleton.mp ha
  | switch action =>
    dsimp only [serviceActions] at ha
    rw [hquiet] at ha
    cases ha

end Queue

/-- However often the network came and went: once an interrupt was handled and the switch has nothing
left to do, an empty queue and no entry in hand mean that the observers know the state of the pin. -/
theorem outage_coherent (hcreated : registry.handleAt this ≠ none) (s : SwitchService)
    (hs : (system endpoints registry this activeLevel).Reachable s) (hi : 0 < s.world.interrupts)
    (hpending : s.world.pending = 0) (hsemaphore : s.world.switchSemaphore = false)
    (hstep : s.world.switchStep = .take) (hqueue : entries s.world.notifyQueue = [])
    (hreceive : s.world.coapStep = .receive) :
    s.world.state = reading activeLevel s.world.level ∧ s.world.delivered = s.world.state := by
  obtain ⟨_, _, rfl, hcoherent, _⟩ := (simulates_world hcreated).reachable hs
  have hquiet : s.world.Quiescent := ⟨hpending, hsemaphore, hstep, hqueue, hreceive⟩
  exact hquiet.coherent hcoherent hi

def idleWorld : SwitchWorld where
  level := true
  registered := false
  pending := 0
  interrupts := 0
  switchSemaphore := true
  switchStep := .take
  state := .idle
  notifyQueue := some .empty
  coapStep := .receive
  delivered := .idle

theorem idleWorld_initial : idleWorld.Initial := ⟨rfl, rfl, rfl, rfl, rfl, fun _ => ⟨rfl, rfl⟩⟩

def pushedOffline : List SwitchServiceAction :=
  .event .staGotIp :: .event .staDisconnected :: .switch .register :: .switch .edge ::
    .switch .gpioHandler :: (List.replicate 6 (.switch (.switchTask .ok))).concat (.event .staGotIp)

theorem outage_coherent_pushed :
    ∃ s, (system someEndpoints NotificationService.oneResource 0 0).Reachable s ∧
      s.world.level = false ∧ s.world.state = reading 0 s.world.level ∧
      s.world.delivered = s.world.state := by
  have hs : (system someEndpoints NotificationService.oneResource 0 0).Reachable _ :=
    ⟨⟨{}, idleWorld⟩, pushedOffline ++ List.replicate 10 (.task {}), ⟨rfl, idleWorld_initial⟩, rfl⟩
  exact ⟨_, hs, rfl, outage_coherent someEndpoints NotificationService.oneResource 0 0
    (fun h => by cases h) _ hs (by decide) rfl rfl rfl rfl rfl⟩

def taskSteps (actions : List SwitchServiceAction) : ℕ := actions.countP isTask

/-- However the network went before: once it is back, the library grants what the task asks for and
the switch queues nothing, the CoAP task empties the queue, and then the observers know `_state`. -/
theorem told_after_outage (hcreated : registry.handleAt this ≠ none) (s t : SwitchService)
    (actions : List SwitchServiceAction)
    (hs : (system endpoints registry this activeLevel).Reachable s)
    (hd : s.coap.task ≠ .deleted) (hready : s.coap.networkReady = true)
    (hgrants : ∀ a, .task a ∈ actions → NotificationService.Grants a)
    (hconnected : .event .staDisconnected ∉ actions)
    (hquiet : (system endpoints registry this activeLevel).Along
      (fun s a => s.isEnqueue a = false) s actions)
    (ht : (system endpoints registry this activeLevel).run s actions = some t)
    (hlong : 7 * (entries s.world.notifyQueue).length + 4 ≤ taskSteps actions) :
    entries t.world.notifyQueue = [] ∧ t.world.coapStep = .receive ∧
      (t.world.delivered = t.world.state ∨ t.world.switchStep = .enqueue) := by
  have hsim : (NotificationService.system endpoints registry).Simulates
    (system endpoints registry this activeLevel) (serviceActions this) Queues := simulates_service
  obtain ⟨n, hn, hqueues⟩ := hsim.reachable hs
  obtain ⟨m, hm, hafter⟩ := hsim.run hqueues ht
  have hsteps : ((system endpoints registry this activeLevel).trace (serviceActions this) s
    actions).countP ServiceAction.isTask = actions.countP isTask :=
    System.countP_trace serviceActions_isTask ht
  have hempty : m.outstanding = [] := by
    rw [hqueues.queue] at hlong
    rw [← hqueues.coap] at hd hready
    apply NotificationService.drained_after hn hd hready (trace_grants hgrants)
      (trace_staysConnected hconnected) hm (trace_quiet hquiet)
    unfold NotificationService.taskSteps
    rw [hsteps]
    exact hlong
  obtain ⟨hhand, hitems⟩ := List.append_eq_nil_iff.mp hempty
  have hreceive : t.world.coapStep = .receive := by
    apply inHand_none
    rw [← hafter.hand]
    exact Option.toList_eq_nil_iff.mp hhand
  have hentries : entries t.world.notifyQueue = [] := by
    rw [hafter.queue]
    exact hitems
  refine ⟨hentries, hreceive, ?_⟩
  obtain ⟨_, _, rfl, hcoherent, _⟩ := (simulates_world hcreated).reachable (hs.run _ ht)
  rcases hcoherent.observers with (henqueue | hnonempty | hnotify) | hdelivered
  · exact Or.inr henqueue
  · exact absurd hentries hnonempty
  · rw [hreceive] at hnotify
    cases hnotify
  · exact Or.inl hdelivered

theorem told_after_outage_pushed :
    ∃ s t, (system someEndpoints NotificationService.oneResource 0 0).Reachable s ∧
      s.world.delivered ≠ s.world.state ∧
      (system someEndpoints NotificationService.oneResource 0 0).run s
        (.switch .edge :: List.replicate 11 (.task {})) = some t ∧
      (t.world.delivered = t.world.state ∨ t.world.switchStep = .enqueue) := by
  have hs : (system someEndpoints NotificationService.oneResource 0 0).Reachable _ :=
    ⟨⟨{}, idleWorld⟩, pushedOffline, ⟨rfl, idleWorld_initial⟩, rfl⟩
  have hactions : ∀ a : SwitchServiceAction, a ∈ .switch .edge :: List.replicate 11 (.task {}) →
      a = .switch .edge ∨ a = .task {} := by
    intro a ha
    rcases List.mem_cons.mp ha with ha | ha
    · exact Or.inl ha
    · exact Or.inr (List.mem_replicate.mp ha).2
  have hgrants : ∀ a, .task a ∈ SwitchServiceAction.switch .edge :: List.replicate 11 (.task {}) →
      NotificationService.Grants a := by
    intro a ha
    rcases hactions _ ha with ha | ha
    · cases ha
    · obtain rfl := SwitchServiceAction.task.inj ha
      exact ⟨rfl, rfl, rfl⟩
  have hconnected : .event .staDisconnected ∉
      SwitchServiceAction.switch .edge :: List.replicate 11 (.task {}) := by
    intro ha
    rcases hactions _ ha with ha | ha <;> cases ha
  have hquiet : ∀ s, (system someEndpoints NotificationService.oneResource 0 0).Along
      (fun s a => s.isEnqueue a = false) s (.switch .edge :: List.replicate 11 (.task {})) := by
    intro s before a after u he _
    have ha : a ∈ SwitchServiceAction.switch .edge :: List.replicate 11 (.task {}) := by
      rw [he]
      simp
    rcases hactions a ha with rfl | rfl <;> rfl
  have htold := told_after_outage someEndpoints NotificationService.oneResource 0 0
    (fun h => by cases h) _ _ _ hs (by decide) rfl hgrants hconnected (hquiet _) rfl (by decide)
  exact ⟨_, _, hs, by decide, rfl, htold.2.2⟩

end SwitchService

end IoTNode
