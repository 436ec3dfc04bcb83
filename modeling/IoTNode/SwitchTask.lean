import IoTNode.NotifyQueue
import IoTNode.Resources
import IoTNode.Handlers

set_option autoImplicit false

namespace IoTNode.SwitchResource

open Coap Foundations Lobaro

def gpioGetLevel (level : Bool) : UInt32 := if level then 1 else 0

def reading (activeLevel : UInt32) (level : Bool) : State :=
  if gpioGetLevel level = activeLevel then .pushed else .idle

inductive SwitchStep
  | take
  | sample
  | compare (state : State)
  | write (state : State)
  | enqueue
  | delay
deriving DecidableEq, Repr

inductive CoapStep
  | receive
  | notify (resource : ResourceAddr)
deriving DecidableEq, Repr

structure SwitchWorld where
  level : Bool
  registered : Bool
  pending : ℕ
  -- ghost: the runs of the handler since it was registered
  interrupts : ℕ
  switchSemaphore : Bool
  switchStep : SwitchStep
  state : State
  notifyQueue : Option (NotifyQueue ResourceAddr)
  coapStep : CoapStep
  -- ghost: the value last delivered to the observers, at first `_state`
  delivered : State

inductive SwitchAction
  | edge
  | register
  | gpioHandler
  | switchTask (result : CoapResult)
  | coapTask

namespace SwitchWorld

variable (this : ResourceAddr) (activeLevel : UInt32) (s : SwitchWorld)

def edge : SwitchWorld :=
  { s with level := !s.level, pending := if s.registered then s.pending + 1 else s.pending }

def gpioHandler : Option SwitchWorld :=
  if 0 < s.pending then
    some { s with
      pending := s.pending - 1
      interrupts := s.interrupts + 1
      switchSemaphore := true }
  else none

def switchTask (result : CoapResult) : Option SwitchWorld :=
  match s.switchStep with
  | .take =>
    if s.switchSemaphore then some { s with switchSemaphore := false, switchStep := .sample }
    else none
  | .sample => some { s with switchStep := .compare (reading activeLevel s.level) }
  | .compare state =>
    some { s with switchStep := if state ≠ s.state then .write state else .delay }
  | .write state => some { s with state := state, switchStep := .enqueue }
  | .enqueue =>
    some { s with
      notifyQueue := (notifyObservers s.notifyQueue this result).1
      switchStep := .delay }
  | .delay => some { s with switchStep := .take }

def coapTask : Option SwitchWorld :=
  match s.coapStep with
  | .receive =>
    s.notifyQueue.map (fun queue =>
      { s with
        notifyQueue := some (xQueueReceive queue).1
        coapStep := (xQueueReceive queue).2.elim .receive .notify })
  | .notify resource =>
    -- the library calls `HandleNotify`, which reads `_state` now
    some { s with
      coapStep := .receive
      delivered := if resource = this then s.state else s.delivered }

/-- The task has created the semaphore, which is then given, and has set `_state` to what it read
some time ago. Interrupts may be pending or handled already when the handler is registered. -/
structure Initial : Prop where
  semaphore : s.switchSemaphore = true
  switchStep : s.switchStep = .take
  queue : s.notifyQueue = some .empty
  coapStep : s.coapStep = .receive
  delivered : s.delivered = s.state
  unregistered : s.registered = false → s.pending = 0 ∧ s.interrupts = 0

def system : System SwitchWorld SwitchAction where
  init := Initial
  step s
    | .edge => some s.edge
    | .register => some { s with registered := true }
    | .gpioHandler => s.gpioHandler
    | .switchTask result => s.switchTask this activeLevel result
    | .coapTask => s.coapTask this

structure Quiescent : Prop where
  pending : s.pending = 0
  semaphore : s.switchSemaphore = false
  switchStep : s.switchStep = .take
  queue : entries s.notifyQueue = []
  coapStep : s.coapStep = .receive

def view : State :=
  match s.switchStep with
  | .compare state | .write state => state
  | _ => s.state

def ReadDue : Prop := 0 < s.pending ∨ s.switchSemaphore = true ∨ s.switchStep = .sample

def DeliveryDue : Prop :=
  s.switchStep = .enqueue ∨ entries s.notifyQueue ≠ [] ∨ s.coapStep = .notify this

/-- Whoever is behind has somebody who owes the step that catches up. -/
structure Coherent : Prop where
  registered : s.registered = false → s.pending = 0 ∧ s.interrupts = 0
  pin : 0 < s.interrupts → s.ReadDue ∨ s.view = reading activeLevel s.level
  observers : s.DeliveryDue this ∨ s.delivered = s.state
  queue : ∃ queue, s.notifyQueue = some queue ∧ ∀ p ∈ queue.items, p = this
  notifying : ∀ p, s.coapStep = .notify p → p = this

section Steps

variable {this activeLevel s} {t : SwitchWorld}

theorem Initial.coherent (h : Initial s) : Coherent this activeLevel s where
  registered := h.unregistered
  pin _ := Or.inl (Or.inr (Or.inl h.semaphore))
  observers := Or.inr h.delivered
  queue := ⟨.empty, h.queue, fun _ hp => absurd hp List.not_mem_nil⟩
  notifying p hp := by rw [h.coapStep] at hp; cases hp

theorem Coherent.edge (h : Coherent this activeLevel s) : Coherent this activeLevel s.edge where
  registered hr := by
    have hs : s.registered = false := hr
    simpa [SwitchWorld.edge, hs] using h.registered hs
  pin hi := by
    have hr : s.registered = true := by
      by_contra hn
      have := (h.registered (by simpa using hn)).2
      have hi : 0 < s.interrupts := hi
      omega
    refine Or.inl (Or.inl ?_)
    simp [SwitchWorld.edge, hr]
  observers := h.observers
  queue := h.queue
  notifying := h.notifying

theorem Coherent.register (h : Coherent this activeLevel s) :
    Coherent this activeLevel { s with registered := true } where
  registered hr := absurd hr (by simp)
  pin := h.pin
  observers := h.observers
  queue := h.queue
  notifying := h.notifying

theorem Coherent.gpioHandler (h : Coherent this activeLevel s) (ht : s.gpioHandler = some t) :
    Coherent this activeLevel t := by
  obtain ⟨hp, ht⟩ := Option.ite_none_right_eq_some.mp ht
  obtain rfl := Option.some.inj ht
  exact {
    registered := fun hr => by
      have := (h.registered hr).1
      omega
    pin := fun _ => Or.inl (Or.inr (Or.inl rfl))
    observers := h.observers
    queue := h.queue
    notifying := h.notifying }

theorem Coherent.switchTask {result : CoapResult} (h : Coherent this activeLevel s)
    (ht : s.switchTask this activeLevel result = some t) : Coherent this activeLevel t := by
  obtain ⟨hreg, hpin, hobs, hqueue, hnot⟩ := h
  unfold SwitchWorld.switchTask at ht
  unfold ReadDue view at hpin
  unfold DeliveryDue at hobs
  cases hs : s.switchStep with
  | take =>
    simp only [hs] at ht
    obtain ⟨_, ht⟩ := Option.ite_none_right_eq_some.mp ht
    obtain rfl := Option.some.inj ht
    refine ⟨hreg, fun _ => Or.inl (Or.inr (Or.inr rfl)), ?_, hqueue, hnot⟩
    simpa [DeliveryDue, hs] using hobs
  | sample =>
    simp only [hs] at ht
    obtain rfl := Option.some.inj ht
    refine ⟨hreg, fun _ => Or.inr rfl, ?_, hqueue, hnot⟩
    simpa [DeliveryDue, hs] using hobs
  | compare state =>
    simp only [hs, Option.some.injEq] at ht hpin hobs
    subst ht
    refine ⟨hreg, fun hi => ?_, ?_, hqueue, hnot⟩
    · by_cases hne : state ≠ s.state
      · simpa [ReadDue, view, hne] using hpin hi
      · rw [ne_eq, not_not] at hne
        simpa [ReadDue, view, hne] using hpin hi
    · by_cases hne : state ≠ s.state <;> simpa [DeliveryDue, hne] using hobs
  | write state =>
    simp only [hs, Option.some.injEq] at ht hpin
    subst ht
    refine ⟨hreg, fun hi => ?_, Or.inl (Or.inl rfl), hqueue, hnot⟩
    simpa [ReadDue, view] using hpin hi
  | enqueue =>
    simp only [hs, Option.some.injEq] at ht hpin
    subst ht
    obtain ⟨queue, hq, hthis⟩ := hqueue
    have hmem : ∀ p ∈ (xQueueSend queue this).1.items, p = this := by
      intro p hp
      rcases xQueueSend_mem hp with hp | hp
      · exact hthis p hp
      · exact hp
    refine ⟨hreg, fun hi => ?_, ?_, ?_, hnot⟩
    · simpa [ReadDue, view] using hpin hi
    · dsimp only
      rw [hq]
      exact Or.inl (Or.inr (Or.inl (notifyObservers_ne_nil queue this result)))
    · dsimp only
      rw [hq, notifyObservers_created]
      exact ⟨_, rfl, hmem⟩
  | delay =>
    simp only [hs, Option.some.injEq] at ht hpin
    subst ht
    refine ⟨hreg, fun hi => ?_, ?_, hqueue, hnot⟩
    · simpa [ReadDue, view] using hpin hi
    · simpa [DeliveryDue, hs] using hobs

theorem Coherent.coapTask (h : Coherent this activeLevel s) (ht : s.coapTask this = some t) :
    Coherent this activeLevel t := by
  obtain ⟨hreg, hpin, hobs, ⟨queue, hq, hthis⟩, hnot⟩ := h
  unfold SwitchWorld.coapTask at ht
  unfold DeliveryDue at hobs
  cases hs : s.coapStep with
  | receive =>
    simp only [hs, hq, Option.map_some, Option.some.injEq] at ht
    subst ht
    cases hr : xQueueReceive queue with
    | mk rest item =>
      cases item with
      | none =>
        obtain ⟨_, rfl⟩ := xQueueReceive_none hr
        refine ⟨hreg, hpin, ?_, ⟨rest, rfl, hthis⟩, fun p hp => by simp at hp⟩
        simpa [DeliveryDue, hs, hq] using hobs
      | some p =>
        have hi := (xQueueReceive_some hr).2
        have hp : p = this := hthis p (hi ▸ List.mem_cons_self)
        subst hp
        refine ⟨hreg, hpin, Or.inl (Or.inr (Or.inr rfl)), ⟨rest, rfl, fun q hq => ?_⟩, ?_⟩
        · exact hthis q (hi ▸ List.mem_cons_of_mem p hq)
        · rintro q ⟨⟩
          rfl
  | notify resource =>
    simp only [hs, Option.some.injEq] at ht
    subst ht
    have hr : resource = this := hnot resource hs
    refine ⟨hreg, hpin, Or.inr ?_, ⟨queue, hq, hthis⟩, fun p hp => by simp at hp⟩
    simp [hr]

theorem coherent_step (s : SwitchWorld) (a : SwitchAction) (t : SwitchWorld)
    (h : Coherent this activeLevel s) (ht : (system this activeLevel).step s a = some t) :
    Coherent this activeLevel t := by
  cases a with
  | edge =>
    obtain rfl := Option.some.inj ht
    exact h.edge
  | register =>
    obtain rfl := Option.some.inj ht
    exact h.register
  | gpioHandler => exact h.gpioHandler ht
  | switchTask result => exact h.switchTask ht
  | coapTask => exact h.coapTask ht

theorem Quiescent.coherent (hq : Quiescent s) (h : Coherent this activeLevel s)
    (hi : 0 < s.interrupts) :
    s.state = reading activeLevel s.level ∧ s.delivered = s.state := by
  have hview : s.view = s.state := by simp [view, hq.switchStep]
  constructor
  · rw [← hview]
    apply (h.pin hi).resolve_left
    rintro (hp | hp | hp)
    · exact absurd hp (by rw [hq.pending]; exact Nat.lt_irrefl 0)
    · exact absurd hp (by simp [hq.semaphore])
    · exact absurd hp (by simp [hq.switchStep])
  · apply h.observers.resolve_left
    rintro (hp | hp | hp)
    · exact absurd hp (by simp [hq.switchStep])
    · exact hp hq.queue
    · exact absurd hp (by simp [hq.coapStep])

end Steps

/-- Once an interrupt was handled, the observers were told the state of the pin whenever nobody
has anything left to do; a call that finds the queue full leaves entries that will tell it. -/
theorem switch_coherent :
    (∀ s, (system this activeLevel).Reachable s → s.Quiescent → 0 < s.interrupts →
      s.state = reading activeLevel s.level ∧ s.delivered = s.state) ∧
    ∀ s result t queue, (system this activeLevel).Reachable s → s.switchStep = .enqueue →
      s.notifyQueue = some queue → queue.Full →
      (system this activeLevel).step s (.switchTask result) = some t →
      t.notifyQueue = some queue ∧ t.DeliveryDue this := by
  have coherent : ∀ s, (system this activeLevel).Reachable s → Coherent this activeLevel s :=
    fun s hs => (system this activeLevel).reachable_invariant (fun _ hi => hi.coherent)
      coherent_step hs
  constructor
  · intro s hs hq hi
    exact hq.coherent (coherent s hs) hi
  · intro s result t queue hs hstep hqueue hf ht
    have hsend : (notifyObservers s.notifyQueue this result).1 = some queue := by
      rw [hqueue, notifyObservers_created, xQueueSend_full hf]
    have he := notifyObservers_ne_nil queue this result
    rw [← hqueue, hsend] at he
    have ht : s.switchTask this activeLevel result = some t := ht
    simp only [switchTask, hstep, hsend, Option.some.injEq] at ht
    subst ht
    exact ⟨rfl, Or.inr (Or.inl he)⟩

/-- The pin has moved since the task last read it, and the semaphore is given. -/
def overdue (level : Bool) (interrupts : ℕ) (queue : NotifyQueue ResourceAddr) : SwitchWorld where
  level := level
  registered := true
  pending := 0
  interrupts := interrupts
  switchSemaphore := true
  switchStep := .take
  state := if level then .pushed else .idle
  notifyQueue := some queue
  coapStep := .receive
  delivered := .idle

theorem overdue_initial : (overdue false 0 .empty).Initial :=
  ⟨rfl, rfl, rfl, rfl, rfl, fun hr => by cases hr⟩

-- the task's loop from taking the semaphore to `NotifyObservers`, which is left to come
def turn : List SwitchAction :=
  [.switchTask .ok, .switchTask .ok, .switchTask .ok, .switchTask .ok]

theorem overdue_turn (this : ResourceAddr) (level : Bool) (interrupts : ℕ)
    (queue : NotifyQueue ResourceAddr) :
    (system this 0).run (overdue level interrupts queue)
        (turn ++ [.switchTask .ok, .switchTask .ok, .edge, .gpioHandler]) =
      some (overdue (!level) (interrupts + 1) (xQueueSend queue this).1) := by
  cases level <;> rfl

theorem overdue_reachable (this : ResourceAddr) (n : ℕ) (hn : n ≤ kNotifyQueueSize) :
    ∃ level queue, queue.items.length = n ∧ (system this 0).Reachable (overdue level n queue) := by
  induction n with
  | zero => exact ⟨false, .empty, rfl, _, [], overdue_initial, rfl⟩
  | succ n ih =>
    obtain ⟨level, queue, hlength, hreach⟩ := ih (Nat.le_of_succ_le hn)
    have hroom : ¬ queue.Full := by
      unfold BoundedQueue.Full
      omega
    obtain ⟨sent, hsent, _, hitems⟩ := xQueueSend_room hroom this
    have hturn := overdue_turn this level n queue
    rw [hsent] at hturn
    refine ⟨!level, sent, ?_, hreach.run _ hturn⟩
    rw [hitems, List.length_append, hlength]
    rfl

theorem switch_coherent_runs :
    (∃ s, (system 7 0).Reachable s ∧ s.Quiescent ∧ 0 < s.interrupts ∧ s.level = true ∧
      s.state = .idle ∧ s.delivered = .idle) ∧
    ∃ s t queue, (system 7 0).Reachable s ∧ s.switchStep = .enqueue ∧
      s.notifyQueue = some queue ∧ queue.Full ∧
      (system 7 0).step s (.switchTask .ok) = some t ∧ t.notifyQueue = some queue ∧
      t.DeliveryDue 7 := by
  obtain ⟨hquiet, hfull⟩ := switch_coherent 7 0
  constructor
  · obtain ⟨t, ht, hq, hi, hlevel⟩ : ∃ t, (system 7 0).run (overdue false 0 .empty)
        (turn ++ [.switchTask .ok, .switchTask .ok, .edge, .gpioHandler] ++ turn ++
          [.switchTask .ok, .switchTask .ok, .coapTask, .coapTask, .coapTask, .coapTask]) =
          some t ∧ t.Quiescent ∧ 0 < t.interrupts ∧ t.level = true :=
      ⟨_, rfl, ⟨rfl, rfl, rfl, rfl, rfl⟩, by decide, rfl⟩
    have hreach : (system 7 0).Reachable t := ⟨_, _, overdue_initial, ht⟩
    obtain ⟨hstate, hdelivered⟩ := hquiet t hreach hq hi
    rw [hlevel] at hstate
    exact ⟨t, hreach, hq, hi, hlevel, hstate, hdelivered.trans hstate⟩
  · obtain ⟨level, queue, hlength, hreach⟩ := overdue_reachable 7 kNotifyQueueSize (Nat.le_refl _)
    obtain ⟨s, hs, hstep, hqueue⟩ : ∃ s, (system 7 0).run (overdue level kNotifyQueueSize queue) turn =
        some s ∧ s.switchStep = .enqueue ∧ s.notifyQueue = some queue := by
      cases level <;> exact ⟨_, rfl, rfl, rfl⟩
    have hreach : (system 7 0).Reachable s := hreach.run _ hs
    obtain ⟨t, ht⟩ : ∃ t, (system 7 0).step s (.switchTask .ok) = some t := by
      simp [system, switchTask, hstep]
    obtain ⟨hkept, hdue⟩ := hfull s .ok t queue hreach hstep hqueue hlength ht
    exact ⟨s, t, queue, hreach, hstep, hqueue, hlength, ht, hkept, hdue⟩

end SwitchWorld

end IoTNode.SwitchResource
