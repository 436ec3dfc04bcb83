import IoTNode.NotifyQueue
import IoTNode.Resources

set_option autoImplicit false

namespace IoTNode.Lobaro

open Coap Foundations

/-- A pointer to a resource, with the creation it came from: the same storage can be used again. -/
structure ResourcePtr where
  addr : ResourceAddr
  birth : ℕ
deriving DecidableEq, Repr

inductive Serving
  | polling
  | examining (p : ResourcePtr)
  | notifying (p : ResourcePtr)
  | faulted (p : ResourcePtr)
deriving DecidableEq, Repr

def Serving.pointer : Serving → Option ResourcePtr
  | .examining p => some p
  | .notifying p => some p
  | _ => none

/-- `~LobaroCoapResource`, when it removes its own registry entry and nothing else. -/
def Registry.forgetResource {α : Type} (s : Registry α) (addr : ResourceAddr) : Registry α :=
  { s with
    objects := Function.update s.objects addr none
    resources := s.resources.filter (· ≠ addr) }

structure ResourceWorld (α : Type) where
  registry : Registry α
  -- ghost: the number of creations in each storage
  births : ResourceAddr → ℕ
  notifyQueue : Option (NotifyQueue ResourcePtr)
  task : Serving
  -- ghost: the calls of `CoAP_NotifyResourceObservers`
  notified : List CoAPRes

inductive ResourceAction (α : Type)
  | create (addr : ResourceAddr) (app : α) (created : Option CoAPRes)
  | notify (addr : ResourceAddr) (prior : CoapResult)
  | destroy (addr : ResourceAddr)
  | coapTask

namespace ResourceWorld

variable {α : Type} (bits : ResOpt) (s : ResourceWorld α)

def start (library : CoAPRes → CoAPResData) : ResourceWorld α where
  registry := ⟨fun _ => none, [], library⟩
  births := fun _ => 0
  notifyQueue := some .empty
  task := .polling
  notified := []

def read (p : ResourcePtr) : Option (LobaroCoapResource α) :=
  if s.births p.addr = p.birth then s.registry.objects p.addr else none

def create (addr : ResourceAddr) (app : α) (created : Option CoAPRes) : ResourceWorld α :=
  { s with
    registry := (s.registry.createResource bits addr app created).1
    births := Function.update s.births addr (s.births addr + 1) }

def notify (addr : ResourceAddr) (prior : CoapResult) : ResourceWorld α :=
  { s with notifyQueue := (notifyObservers s.notifyQueue ⟨addr, s.births addr⟩ prior).1 }

def destroy (addr : ResourceAddr) : ResourceWorld α :=
  { s with registry := s.registry.forgetResource addr }

def received (outcome : NotifyQueue ResourcePtr × Option ResourcePtr) : ResourceWorld α :=
  { s with notifyQueue := some outcome.1, task := outcome.2.elim .polling .examining }

-- the guard in the serving loop's `if` reads through the pointer, and its body does so once more
def coapTask : Option (ResourceWorld α) :=
  match s.task with
  | .polling => s.notifyQueue.map (fun queue => s.received (xQueueReceive queue))
  | .examining p =>
    match s.read p with
    | none => some { s with task := .faulted p }
    | some r => some { s with task := if r.resource = none then .polling else .notifying p }
  | .notifying p =>
    match s.read p with
    | none => some { s with task := .faulted p }
    | some r => some { s with task := .polling, notified := s.notified ++ r.resource.toList }
  | .faulted _ => none

def system : System (ResourceWorld α) (ResourceAction α) where
  init s := ∃ library, s = start library
  step s
    | .create addr app created =>
      if (s.registry.objects addr).isSome then none else some (s.create bits addr app created)
    | .notify addr prior => if (s.registry.objects addr).isSome then some (s.notify addr prior) else none
    | .destroy addr => if (s.registry.objects addr).isSome then some (s.destroy addr) else none
    | .coapTask => s.coapTask

def NoFault (s : ResourceWorld α) : Prop := ∀ p, s.task ≠ .faulted p

def Unreferenced (s : ResourceWorld α) (addr : ResourceAddr) : Prop :=
  (∀ p ∈ entries s.notifyQueue, p.addr ≠ addr) ∧ ∀ p, s.task.pointer = some p → p.addr ≠ addr

def DestroysUnreferenced (s : ResourceWorld α) : ResourceAction α → Prop
  | .destroy addr => s.Unreferenced addr
  | _ => True

def Live (s : ResourceWorld α) (p : ResourcePtr) : Prop := (s.read p).isSome

structure Sound (s : ResourceWorld α) : Prop where
  queued : ∀ p ∈ entries s.notifyQueue, s.Live p
  held : ∀ p, s.task.pointer = some p → s.Live p
  noFault : s.NoFault

section Steps

variable {bits} {s t : ResourceWorld α}

theorem live_iff {p : ResourcePtr} :
    s.Live p ↔ s.births p.addr = p.birth ∧ (s.registry.objects p.addr).isSome := by
  unfold Live read
  split_ifs with h <;> simp [h]

theorem Live.addr_ne {p : ResourcePtr} (h : s.Live p) {addr : ResourceAddr}
    (ha : (s.registry.objects addr).isSome = false) : p.addr ≠ addr := by
  rintro rfl
  exact absurd (live_iff.mp h).2 (by simp [ha])

theorem create_read {p : ResourcePtr} (h : s.Live p) {addr : ResourceAddr} {app : α}
    {created : Option CoAPRes} (ha : (s.registry.objects addr).isSome = false) :
    (s.create bits addr app created).read p = s.read p := by
  have hne := h.addr_ne ha
  unfold read
  simp only [create, Registry.createResource_objects, Function.update_of_ne hne]

theorem create_live {p : ResourcePtr} (h : s.Live p) {addr : ResourceAddr} {app : α}
    {created : Option CoAPRes} (ha : (s.registry.objects addr).isSome = false) :
    (s.create bits addr app created).Live p := by
  unfold Live
  rw [create_read h ha]
  exact h

theorem destroy_live {p : ResourcePtr} (h : s.Live p) {addr : ResourceAddr} (hne : p.addr ≠ addr) :
    (s.destroy addr).Live p := by
  obtain ⟨hb, ho⟩ := live_iff.mp h
  apply live_iff.mpr
  exact ⟨hb, by simpa [destroy, Registry.forgetResource, Function.update_of_ne hne] using ho⟩

theorem Sound.create (h : Sound s) {addr : ResourceAddr} {app : α} {created : Option CoAPRes}
    (ha : (s.registry.objects addr).isSome = false) : Sound (s.create bits addr app created) :=
  ⟨fun p hp => create_live (h.queued p hp) ha, fun p hp => create_live (h.held p hp) ha, h.noFault⟩

theorem Sound.notify (h : Sound s) {addr : ResourceAddr} (prior : CoapResult)
    (ha : (s.registry.objects addr).isSome) : Sound (s.notify addr prior) := by
  refine ⟨?_, h.held, h.noFault⟩
  intro p hp
  rcases notifyObservers_mem hp with hp | rfl
  · exact h.queued p hp
  · exact live_iff.mpr ⟨rfl, ha⟩

theorem Sound.destroy (h : Sound s) {addr : ResourceAddr} (hu : s.Unreferenced addr) :
    Sound (s.destroy addr) :=
  ⟨fun p hp => destroy_live (h.queued p hp) (hu.1 p hp),
    fun p hp => destroy_live (h.held p hp) (hu.2 p hp), h.noFault⟩

theorem Sound.received (h : Sound s) {queue : NotifyQueue ResourcePtr}
    (hq : s.notifyQueue = some queue) : Sound (s.received (xQueueReceive queue)) := by
  have hqueued : ∀ p ∈ queue.items, s.Live p := fun p hp => h.queued p (by rw [hq]; exact hp)
  cases hr : xQueueReceive queue with
  | mk rest item =>
    cases item with
    | none =>
      obtain ⟨_, rfl⟩ := xQueueReceive_none hr
      exact ⟨hqueued, fun _ hp => absurd hp (by simp [ResourceWorld.received, Serving.pointer]),
        fun _ => by simp [ResourceWorld.received]⟩
    | some p =>
      have hi := (xQueueReceive_some hr).2
      rw [hi] at hqueued
      refine ⟨fun q hq => hqueued q (List.mem_cons_of_mem p hq), ?_,
        fun _ => by simp [ResourceWorld.received]⟩
      rintro _ ⟨⟩
      exact hqueued p List.mem_cons_self

theorem coapTask_cases (ht : s.coapTask = some t) :
    (∃ queue, s.task = .polling ∧ s.notifyQueue = some queue ∧
      t = s.received (xQueueReceive queue)) ∨
    (∃ p this, s.task = .examining p ∧ s.read p = some this ∧
      t = { s with task := if this.resource = none then .polling else .notifying p }) ∨
    (∃ p this, s.task = .notifying p ∧ s.read p = some this ∧
      t = { s with task := .polling, notified := s.notified ++ this.resource.toList }) ∨
    ∃ p, s.task.pointer = some p ∧ s.read p = none ∧ t = { s with task := .faulted p } := by
  unfold ResourceWorld.coapTask at ht
  cases hs : s.task with
  | polling =>
    simp only [hs, Option.map_eq_some_iff] at ht
    obtain ⟨queue, hq, rfl⟩ := ht
    exact .inl ⟨queue, rfl, hq, rfl⟩
  | examining p =>
    cases hr : s.read p with
    | none =>
      simp only [hs, hr, Option.some.injEq] at ht
      exact .inr (.inr (.inr ⟨p, rfl, hr, ht.symm⟩))
    | some this =>
      simp only [hs, hr, Option.some.injEq] at ht
      exact .inr (.inl ⟨p, this, rfl, hr, ht.symm⟩)
  | notifying p =>
    cases hr : s.read p with
    | none =>
      simp only [hs, hr, Option.some.injEq] at ht
      exact .inr (.inr (.inr ⟨p, rfl, hr, ht.symm⟩))
    | some this =>
      simp only [hs, hr, Option.some.injEq] at ht
      exact .inr (.inr (.inl ⟨p, this, rfl, hr, ht.symm⟩))
  | faulted p =>
    rw [hs] at ht
    cases ht

theorem Sound.coapTask (h : Sound s) (ht : s.coapTask = some t) : Sound t := by
  obtain ⟨queue, _, hq, rfl⟩ | ⟨p, this, hs, hr, rfl⟩ | ⟨p, this, hs, hr, rfl⟩ | ⟨p, hp, hr, _⟩ :=
    coapTask_cases ht
  · exact h.received hq
  · refine ⟨h.queued, fun q hq => ?_, fun q => ?_⟩
    · split_ifs at hq
      · cases hq
      · exact h.held q (by rw [hs]; exact hq)
    · dsimp only
      split_ifs <;> simp
  · exact ⟨h.queued, fun q hq => (by cases hq), fun q => by simp⟩
  · have hlive := h.held p hp
    rw [Live, hr] at hlive
    cases hlive

theorem sound_step (s : ResourceWorld α) (a : ResourceAction α) (t : ResourceWorld α)
    (h : Sound s) (ha : s.DestroysUnreferenced a) (ht : (system bits).step s a = some t) :
    Sound t := by
  cases a with
  | create addr app created =>
    obtain ⟨ho, ht⟩ := Option.ite_none_left_eq_some.mp ht
    obtain rfl := Option.some.inj ht
    exact h.create (by simpa using ho)
  | notify addr prior =>
    obtain ⟨ho, ht⟩ := Option.ite_none_right_eq_some.mp ht
    obtain rfl := Option.some.inj ht
    exact h.notify prior ho
  | destroy addr =>
    obtain ⟨ho, ht⟩ := Option.ite_none_right_eq_some.mp ht
    obtain rfl := Option.some.inj ht
    exact h.destroy ha
  | coapTask => exact h.coapTask ht

theorem sound_start (library : CoAPRes → CoAPResData) : Sound (start (α := α) library) :=
  ⟨fun _ hp => absurd hp List.not_mem_nil, fun _ hp => absurd hp (by simp [start, Serving.pointer]),
    fun _ => by simp [start]⟩

end Steps

section Faults

variable {bits} {s : ResourceWorld α} {p : ResourcePtr}

def tasks (n : ℕ) : List (ResourceAction α) := List.replicate n .coapTask

theorem run_tasks_succ {t u : ResourceWorld α} {n : ℕ} (hs : s.coapTask = some t)
    (ht : (system bits).run t (tasks n) = some u) : (system bits).run s (tasks (n + 1)) = some u :=
  (system bits).run_cons_some.mpr ⟨t, hs, ht⟩

def Faults (bits : ResOpt) (s : ResourceWorld α) : Prop :=
  ∃ n t p, (system bits).run s (tasks n) = some t ∧ t.task = .faulted p

theorem Faults.before {t : ResourceWorld α} (hs : s.coapTask = some t) (h : Faults bits t) :
    Faults bits s := by
  obtain ⟨n, u, p, hr, hu⟩ := h
  exact ⟨n + 1, u, p, run_tasks_succ hs hr, hu⟩

theorem faults_now (h : s.task = .faulted p) : Faults bits s := ⟨0, s, p, rfl, h⟩

theorem faults_of_pointer (hp : s.task.pointer = some p) (hd : ¬ s.Live p) : Faults bits s := by
  have hr : s.read p = none := by simpa [Live] using hd
  refine Faults.before (t := { s with task := .faulted p }) ?_ (faults_now rfl)
  unfold coapTask
  cases hs : s.task with
  | polling => simp [hs, Serving.pointer] at hp
  | faulted q => simp [hs, Serving.pointer] at hp
  | examining q =>
    obtain rfl : q = p := by simpa [hs, Serving.pointer] using hp
    simp [hr]
  | notifying q =>
    obtain rfl : q = p := by simpa [hs, Serving.pointer] using hp
    simp [hr]

theorem faults_of_notifying {q : ResourcePtr} (hs : s.task = .notifying q)
    (next : ∀ notified, Faults bits { s with task := .polling, notified := notified }) :
    Faults bits s := by
  cases hr : s.read q with
  | none =>
    apply faults_of_pointer (p := q) (by rw [hs]; rfl)
    simp [Live, hr]
  | some r =>
    refine Faults.before ?_ (next (s.notified ++ r.resource.toList))
    simp [coapTask, hs, hr]

theorem faults_of_examining {q : ResourcePtr} (hs : s.task = .examining q)
    (next : ∀ notified, Faults bits { s with task := .polling, notified := notified }) :
    Faults bits s := by
  cases hr : s.read q with
  | none =>
    apply faults_of_pointer (p := q) (by rw [hs]; rfl)
    simp [Live, hr]
  | some r =>
    by_cases hn : r.resource = none
    · refine Faults.before ?_ (next s.notified)
      simp [coapTask, hs, hr, hn]
    · refine Faults.before (t := { s with task := .notifying q }) ?_
        (faults_of_notifying rfl next)
      simp [coapTask, hs, hr, hn]

theorem faults_of_queued {queue : NotifyQueue ResourcePtr} (hq : s.notifyQueue = some queue)
    (hp : p ∈ queue.items) (hd : ¬ s.Live p) (hs : s.task = .polling) : Faults bits s := by
  induction hn : queue.items.length generalizing s queue with
  | zero =>
    rw [List.length_eq_zero_iff.mp hn] at hp
    exact absurd hp List.not_mem_nil
  | succ n ih =>
    have hstep : s.coapTask = some (s.received (xQueueReceive queue)) := by
      simp [coapTask, hs, hq]
    apply Faults.before hstep
    cases hr : xQueueReceive queue with
    | mk rest item =>
      cases item with
      | none => rw [(xQueueReceive_none hr).1] at hp; exact absurd hp List.not_mem_nil
      | some q =>
        have hi := (xQueueReceive_some hr).2
        rw [hi, List.length_cons, Nat.succ_inj] at hn
        rw [hi] at hp
        rcases List.mem_cons.mp hp with rfl | hp
        · exact faults_of_pointer (p := p) rfl hd
        · apply faults_of_examining (q := q) rfl
          intro notified
          exact ih rfl hp hd rfl hn

theorem destroy_dead (s : ResourceWorld α) (p : ResourcePtr) : ¬ (s.destroy p.addr).Live p := by
  rw [live_iff]
  simp [destroy, Registry.forgetResource]

theorem faults_of_referenced {addr : ResourceAddr} (hn : s.NoFault)
    (hu : ¬ s.Unreferenced addr) : Faults bits (s.destroy addr) := by
  by_cases hheld : ∃ p, s.task.pointer = some p ∧ p.addr = addr
  · obtain ⟨p, hp, rfl⟩ := hheld
    exact faults_of_pointer (p := p) hp (s.destroy_dead p)
  · obtain ⟨p, hp, rfl⟩ : ∃ p ∈ entries s.notifyQueue, p.addr = addr := by
      by_contra hqueued
      refine hu ⟨fun p hp ha => hqueued ⟨p, hp, ha⟩, fun p hp ha => hheld ⟨p, hp, ha⟩⟩
    obtain ⟨queue, hq⟩ : ∃ queue, s.notifyQueue = some queue := by
      cases hq : s.notifyQueue with
      | none => rw [hq] at hp; exact absurd hp List.not_mem_nil
      | some queue => exact ⟨queue, rfl⟩
    rw [hq] at hp
    have hd := s.destroy_dead p
    cases hs : s.task with
    | polling => exact faults_of_queued hq hp hd hs
    | examining q =>
      exact faults_of_examining hs (fun notified => faults_of_queued hq hp hd rfl)
    | notifying q =>
      exact faults_of_notifying hs (fun notified => faults_of_queued hq hp hd rfl)
    | faulted q => exact absurd hs (hn q)

end Faults

theorem queued_pointers_live (library : CoAPRes → CoAPResData) :
    (∀ actions, (system (α := α) bits).Along DestroysUnreferenced (start library) actions →
      (system bits).Always NoFault (start library) actions) ∧
    ∀ s t : ResourceWorld α, ∀ addr, (system bits).Reachable s → s.NoFault →
      (system bits).step s (.destroy addr) = some t → ¬ s.Unreferenced addr → Faults bits t := by
  constructor
  · intro actions h before after t he hr
    exact ((system bits).always_invariant sound_step (sound_start library) h before after t he hr).noFault
  · intro s t addr _ hn ht hu
    obtain ⟨_, ht⟩ := Option.ite_none_right_eq_some.mp ht
    obtain rfl := Option.some.inj ht
    exact faults_of_referenced hn hu

theorem queued_pointers_counterexample :
    ¬ (system ⟨1, 2, 4, 8⟩).Always NoFault (start (α := Unit) (fun _ => ⟨0, false, none⟩))
      [.create 0 () (some 5), .notify 0 .ok, .destroy 0, .coapTask, .coapTask] := by
  intro h
  exact h _ [] _ (List.append_nil _).symm rfl ⟨0, 1⟩ rfl

end ResourceWorld

end IoTNode.Lobaro
