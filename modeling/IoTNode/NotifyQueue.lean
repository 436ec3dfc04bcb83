import IoTNode.Coap
import IoTNode.Foundations.BoundedQueues
import IoTNode.Foundations.Systems

set_option autoImplicit false

namespace IoTNode.Lobaro

open Coap Foundations

def kNotifyQueueSize : ℕ := 20

abbrev NotifyQueue (π : Type) := BoundedQueue π kNotifyQueueSize

variable {π : Type}

def xQueueSend (queue : NotifyQueue π) (item : π) : NotifyQueue π × Bool :=
  match queue.send item with
  | none => (queue, false)
  | some sent => (sent, true)

def xQueueReceive (queue : NotifyQueue π) : NotifyQueue π × Option π :=
  match queue.receive with
  | none => (queue, none)
  | some (item, rest) => (rest, some item)

def queueResourceNotification (notifyQueue : Option (NotifyQueue π)) (resource : Option π)
    (result : CoapResult) : Option (NotifyQueue π) × CoapResult :=
  match notifyQueue, resource with
  | none, _ => (none, .error)
  | some queue, none => (some queue, .error)
  -- what `xQueueSend` returns is dropped, and `result` is left as the caller passed it
  | some queue, some item => (some (xQueueSend queue item).1, result)

def notifyObservers (notifyQueue : Option (NotifyQueue π)) (this : π) (result : CoapResult) :
    Option (NotifyQueue π) × CoapResult :=
  queueResourceNotification notifyQueue (some this) result

theorem notifyObservers_created (queue : NotifyQueue π) (this : π) (result : CoapResult) :
    notifyObservers (some queue) this result = (some (xQueueSend queue this).1, result) := rfl

theorem xQueueSend_full {queue : NotifyQueue π} (h : queue.Full) (item : π) :
    xQueueSend queue item = (queue, false) := by
  unfold xQueueSend
  rw [BoundedQueue.send_none.mpr h]

theorem xQueueSend_room {queue : NotifyQueue π} (h : ¬ queue.Full) (item : π) :
    ∃ sent, xQueueSend queue item = (sent, true) ∧ queue.send item = some sent ∧
      sent.items = queue.items ++ [item] := by
  unfold xQueueSend
  cases hs : queue.send item with
  | none => exact absurd (BoundedQueue.send_none.mp hs) h
  | some sent => exact ⟨sent, rfl, rfl, (BoundedQueue.send_some.mp hs).2⟩

theorem xQueueSend_mem {queue : NotifyQueue π} {item p : π}
    (h : p ∈ (xQueueSend queue item).1.items) : p ∈ queue.items ∨ p = item := by
  by_cases hf : queue.Full
  · rw [xQueueSend_full hf] at h
    exact Or.inl h
  · obtain ⟨sent, hs, _, hi⟩ := xQueueSend_room hf item
    rw [hs] at h
    dsimp only at h
    rw [hi] at h
    rcases List.mem_append.mp h with h | h
    · exact Or.inl h
    · exact Or.inr (List.mem_singleton.mp h)

theorem xQueueReceive_none {queue rest : NotifyQueue π} (h : xQueueReceive queue = (rest, none)) :
    queue.items = [] ∧ rest = queue := by
  unfold xQueueReceive at h
  cases hr : queue.receive with
  | none =>
    rw [hr] at h
    exact ⟨BoundedQueue.receive_none.mp hr, (Prod.mk.inj h).1.symm⟩
  | some next => simp [hr] at h

theorem xQueueReceive_some {queue rest : NotifyQueue π} {p : π}
    (h : xQueueReceive queue = (rest, some p)) :
    queue.receive = some (p, rest) ∧ queue.items = p :: rest.items := by
  unfold xQueueReceive at h
  cases hr : queue.receive with
  | none => simp [hr] at h
  | some next =>
    obtain ⟨item, remaining⟩ := next
    rw [hr] at h
    simp only [Prod.mk.injEq, Option.some.injEq] at h
    obtain ⟨rfl, rfl⟩ := h
    exact ⟨rfl, BoundedQueue.receive_some.mp hr⟩

def entries (notifyQueue : Option (NotifyQueue π)) : List π :=
  notifyQueue.elim [] BoundedQueue.items

theorem notifyObservers_mem {notifyQueue : Option (NotifyQueue π)} {this p : π}
    {result : CoapResult} (h : p ∈ entries (notifyObservers notifyQueue this result).1) :
    p ∈ entries notifyQueue ∨ p = this := by
  cases notifyQueue with
  | none => exact Or.inl h
  | some queue =>
    rw [notifyObservers_created] at h
    exact xQueueSend_mem h

theorem notifyObservers_ne_nil (queue : NotifyQueue π) (this : π) (result : CoapResult) :
    entries (notifyObservers (some queue) this result).1 ≠ [] := by
  rw [notifyObservers_created]
  change (xQueueSend queue this).1.items ≠ []
  by_cases hf : queue.Full
  · rw [xQueueSend_full hf]
    intro hn
    rw [BoundedQueue.Full, hn] at hf
    cases hf
  · obtain ⟨sent, hs, _, hi⟩ := xQueueSend_room hf this
    rw [hs, hi]
    exact List.append_ne_nil_of_right_ne_nil _ (List.cons_ne_nil this [])

structure NotifyReport (π : Type) where
  resource : π
  prior : CoapResult
  before : List π
  after : List π
  result : CoapResult

def NotifyReport.Truthful (report : NotifyReport π) : Prop :=
  (report.result = .ok ↔ report.after = report.before ++ [report.resource]) ∧
    (report.result = .error ↔ report.after = report.before)

structure Notifications (π : Type) where
  notifyQueue : Option (NotifyQueue π)
  -- ghost: the calls finished so far, and the pointers handed to the CoAP task
  reports : List (NotifyReport π)
  dequeued : List π

inductive NotifyAction (π : Type)
  | notify (resource : π) (prior : CoapResult)
  | dequeue

namespace Notifications

def start : Notifications π := ⟨some .empty, [], []⟩

def notify (s : Notifications π) (resource : π) (prior : CoapResult) : Notifications π :=
  let (notifyQueue, result) := notifyObservers s.notifyQueue resource prior
  let report := ⟨resource, prior, entries s.notifyQueue, entries notifyQueue, result⟩
  { s with notifyQueue := notifyQueue, reports := s.reports ++ [report] }

def dequeue (s : Notifications π) : Notifications π :=
  match s.notifyQueue with
  | none => s
  | some queue =>
    let (rest, item) := xQueueReceive queue
    { s with notifyQueue := some rest, dequeued := s.dequeued ++ item.toList }

def system : System (Notifications π) (NotifyAction π) where
  init s := s = start
  step s
    | .notify resource prior => some (s.notify resource prior)
    | .dequeue => some s.dequeue

def reportedOk (s : Notifications π) : List π :=
  (s.reports.filter (·.result = .ok)).map NotifyReport.resource

def Told (s : Notifications π) : Prop :=
  (∀ report ∈ s.reports, report.Truthful) ∧ s.dequeued <+: s.reportedOk

def HasRoom (s : Notifications π) : Prop := (entries s.notifyQueue).length < kNotifyQueueSize

/-- The caller's variable happens to hold what the call ought to report. -/
def Foretold (s : Notifications π) : NotifyAction π → Prop
  | .notify _ prior => (prior = .ok ∧ s.HasRoom) ∨ (prior = .error ∧ ¬ s.HasRoom)
  | .dequeue => True

structure Accounted (s : Notifications π) (queue : NotifyQueue π) : Prop where
  created : s.notifyQueue = some queue
  truthful : ∀ report ∈ s.reports, report.Truthful
  accounts : BoundedQueue.Accounts s.reportedOk s.dequeued queue

section Steps

variable {s : Notifications π} {queue : NotifyQueue π}

theorem hasRoom_created (h : s.notifyQueue = some queue) : s.HasRoom ↔ ¬ queue.Full := by
  unfold HasRoom
  rw [h]
  exact ⟨Nat.ne_of_lt, BoundedQueue.length_lt_of_not_full⟩

theorem notify_created (h : s.notifyQueue = some queue) (resource : π) (prior : CoapResult) :
    s.notify resource prior =
      { s with
        notifyQueue := some (xQueueSend queue resource).1
        reports := s.reports ++
          [⟨resource, prior, queue.items, (xQueueSend queue resource).1.items, prior⟩] } := by
  unfold notify
  rw [h, notifyObservers_created]
  rfl

theorem report_truthful_iff (queue : NotifyQueue π) (resource : π) (prior : CoapResult) :
    NotifyReport.Truthful
        ⟨resource, prior, queue.items, (xQueueSend queue resource).1.items, prior⟩ ↔
      (prior = .ok ∧ ¬ queue.Full) ∨ (prior = .error ∧ queue.Full) := by
  unfold NotifyReport.Truthful
  by_cases hf : queue.Full
  · rw [xQueueSend_full hf]
    cases prior <;> simp [hf]
  · obtain ⟨sent, hs, _, hi⟩ := xQueueSend_room hf resource
    rw [hs, hi]
    cases prior <;> simp [hf]

theorem foretold_iff (h : s.notifyQueue = some queue) (resource : π) (prior : CoapResult) :
    s.Foretold (.notify resource prior) ↔
      NotifyReport.Truthful
        ⟨resource, prior, queue.items, (xQueueSend queue resource).1.items, prior⟩ := by
  rw [report_truthful_iff, Foretold, hasRoom_created h, not_not]

theorem Accounted.notify (h : Accounted s queue) {resource : π} {prior : CoapResult}
    (hp : s.Foretold (.notify resource prior)) :
    Accounted (s.notify resource prior) (xQueueSend queue resource).1 := by
  have ht := (foretold_iff h.created resource prior).mp hp
  rw [notify_created h.created]
  refine ⟨rfl, ?_, ?_⟩
  · intro report hr
    rcases List.mem_append.mp hr with hr | hr
    · exact h.truthful report hr
    · rw [List.mem_singleton.mp hr]
      exact ht
  · rcases (report_truthful_iff queue resource prior).mp ht with ⟨rfl, hf⟩ | ⟨rfl, hf⟩
    · obtain ⟨sent, hs, hsend, _⟩ := xQueueSend_room hf resource
      rw [hs]
      simpa [reportedOk] using h.accounts.send hsend
    · rw [xQueueSend_full hf]
      simpa [reportedOk] using h.accounts

theorem Accounted.dequeue (h : Accounted s queue) : ∃ rest, Accounted s.dequeue rest := by
  unfold Notifications.dequeue
  rw [h.created]
  dsimp only
  cases hr : xQueueReceive queue with
  | mk rest item =>
    refine ⟨rest, rfl, h.truthful, ?_⟩
    cases item with
    | none =>
      obtain ⟨_, rfl⟩ := xQueueReceive_none hr
      rw [Option.toList_none, List.append_nil]
      exact h.accounts
    | some p => exact h.accounts.receive (xQueueReceive_some hr).1

theorem accounted_start : Accounted (start (π := π)) .empty :=
  ⟨rfl, fun _ hr => absurd hr List.not_mem_nil, BoundedQueue.accounts_empty⟩

theorem accounted_step (s : Notifications π) (a : NotifyAction π) (t : Notifications π)
    (hs : ∃ queue, Accounted s queue) (ha : s.Foretold a) (ht : system.step s a = some t) :
    ∃ queue, Accounted t queue := by
  obtain ⟨queue, hq⟩ := hs
  cases a with
  | notify resource prior =>
    obtain rfl := Option.some.inj ht
    exact ⟨_, hq.notify ha⟩
  | dequeue =>
    obtain rfl := Option.some.inj ht
    exact hq.dequeue

theorem system_created {t : Notifications π} {actions : List (NotifyAction π)}
    (h : system.run start actions = some t) : ∃ queue, t.notifyQueue = some queue := by
  refine system.run_invariant (I := fun s => ∃ queue, s.notifyQueue = some queue) ?_
    ⟨.empty, rfl⟩ (system.along_true start actions) h
  rintro s a t ⟨queue, hq⟩ _ ht
  cases a with
  | notify resource prior =>
    obtain rfl := Option.some.inj ht
    exact ⟨_, by rw [notify_created hq]⟩
  | dequeue =>
    obtain rfl := Option.some.inj ht
    unfold Notifications.dequeue
    rw [hq]
    exact ⟨_, rfl⟩

end Steps

theorem told_iff_foretold (actions : List (NotifyAction π)) :
    system.Always Told start actions ↔ system.Along Foretold start actions := by
  constructor
  · intro h before a after t he hr
    cases a with
    | dequeue => trivial
    | notify resource prior =>
      obtain ⟨queue, hq⟩ := system_created hr
      have hnext : system.run start (before ++ [.notify resource prior]) =
          some (t.notify resource prior) := system.run_snoc_some.mpr ⟨t, hr, rfl⟩
      have htold := h _ after _ (by rw [he, List.append_assoc, List.singleton_append]) hnext
      rw [notify_created hq] at htold
      rw [foretold_iff hq]
      exact htold.1 _ (List.mem_append_right _ (List.mem_singleton_self _))
  · intro h before after t he hr
    obtain ⟨queue, hq⟩ := system.always_invariant accounted_step
      ⟨.empty, accounted_start⟩ h before after t he hr
    exact ⟨hq.truthful, hq.accounts.isPrefix⟩

theorem told_counterexample : ¬ system.Always Told start [.notify 7 .error] := by
  intro h
  have htold := h [.notify 7 .error] [] _ rfl rfl
  have htruth := htold.1 ⟨7, .error, [], [7], .error⟩ (List.mem_singleton_self _)
  exact absurd (htruth.2.mp rfl) (by decide)

end Notifications

end IoTNode.Lobaro
