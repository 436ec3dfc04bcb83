import IoTNode.SwitchTask

set_option autoImplicit false

namespace IoTNode.SwitchResource

open Coap Foundations Lobaro

-- nothing initialises `_switchSemaphore` before the task creates the semaphore
inductive SemaphoreHandle
  | uninitialised
  | null
  | created
deriving DecidableEq, Repr

/-- The calls of the constructor that are left, once the resource is created. -/
inductive ConstructorStep
  | xTaskCreate
  | gpioConfig
  | gpioInstallIsrService
  | gpioIsrHandlerAdd
  | returned
deriving DecidableEq, Repr

/-- The task before its loop. `vSemaphoreCreateBinary` creates the semaphore and then gives it. -/
inductive TaskStep
  | absent
  | createSemaphore
  | giveSemaphore
  | sample
  | write (state : State)
  | loop
deriving DecidableEq, Repr

structure SwitchStartup where
  constructorStep : ConstructorStep
  taskStep : TaskStep
  semaphore : SemaphoreHandle
  world : SwitchWorld
  faulted : Bool

inductive StartupAction
  | construct (succeeded : Bool)
  | switchTask (allocated : Bool) (result : CoapResult)
  | edge
  | gpioHandler
  | coapTask

theorem SwitchWorld.switchTask_frame {this : ResourceAddr} {activeLevel : UInt32}
    {s t : SwitchWorld} {result : CoapResult} (h : s.switchTask this activeLevel result = some t) :
    t.registered = s.registered ∧ t.pending = s.pending ∧ t.interrupts = s.interrupts ∧
      t.delivered = s.delivered := by
  unfold switchTask at h
  cases hs : s.switchStep with
  | take =>
    simp only [hs] at h
    obtain ⟨_, h⟩ := Option.ite_none_right_eq_some.mp h
    obtain rfl := Option.some.inj h
    exact ⟨rfl, rfl, rfl, rfl⟩
  | _ =>
    simp only [hs, Option.some.injEq] at h
    subst h
    exact ⟨rfl, rfl, rfl, rfl⟩

theorem SwitchWorld.coapTask_frame {this : ResourceAddr} {s t : SwitchWorld}
    (h : s.coapTask this = some t) :
    t.registered = s.registered ∧ t.pending = s.pending ∧ t.interrupts = s.interrupts ∧
      t.switchSemaphore = s.switchSemaphore ∧ t.switchStep = s.switchStep ∧ t.level = s.level ∧
      t.state = s.state := by
  unfold coapTask at h
  cases hs : s.coapStep with
  | receive =>
    simp only [hs] at h
    obtain ⟨queue, _, rfl⟩ := Option.map_eq_some_iff.mp h
    exact ⟨rfl, rfl, rfl, rfl, rfl, rfl, rfl⟩
  | notify resource =>
    simp only [hs, Option.some.injEq] at h
    subst h
    exact ⟨rfl, rfl, rfl, rfl, rfl, rfl, rfl⟩

namespace SwitchStartup

variable (this : ResourceAddr) (activeLevel : UInt32) (s : SwitchStartup)

-- what the calls return is logged at most, and the constructor goes on
def construct (succeeded : Bool) : Option SwitchStartup :=
  match s.constructorStep with
  | .xTaskCreate =>
    some { s with
      constructorStep := .gpioConfig
      taskStep := if succeeded then .createSemaphore else .absent }
  | .gpioConfig => some { s with constructorStep := .gpioInstallIsrService }
  | .gpioInstallIsrService =>
    -- without the service there is nothing that the handler could be added to
    some { s with constructorStep := if succeeded then .gpioIsrHandlerAdd else .returned }
  | .gpioIsrHandlerAdd =>
    some { s with constructorStep := .returned, world := { s.world with registered := true } }
  | .returned => none

def switchTask (allocated : Bool) (result : CoapResult) : Option SwitchStartup :=
  match s.taskStep with
  | .absent => none
  | .createSemaphore =>
    some (if allocated then { s with semaphore := .created, taskStep := .giveSemaphore }
      else { s with semaphore := .null, taskStep := .sample })
  | .giveSemaphore =>
    some { s with taskStep := .sample, world := { s.world with switchSemaphore := true } }
  | .sample => some { s with taskStep := .write (reading activeLevel s.world.level) }
  | .write state => some { s with taskStep := .loop, world := { s.world with state := state } }
  | .loop =>
    if s.semaphore = .created then
      (s.world.switchTask this activeLevel result).map (fun world => { s with world := world })
    -- `xSemaphoreTake` of a null handle is an assertion
    else some { s with faulted := true }

def gpioHandler : Option SwitchStartup :=
  if s.semaphore = .created then
    s.world.gpioHandler.map (fun world => { s with world := world })
  else if 0 < s.world.pending then some { s with faulted := true }
  else none

/-- The constructor has created the resource: the queue is there, the switch is not. -/
structure Initial : Prop where
  constructorStep : s.constructorStep = .xTaskCreate
  taskStep : s.taskStep = .absent
  semaphore : s.semaphore = .uninitialised
  running : s.faulted = false
  registered : s.world.registered = false
  pending : s.world.pending = 0
  interrupts : s.world.interrupts = 0
  switchSemaphore : s.world.switchSemaphore = false
  switchStep : s.world.switchStep = .take
  state : s.world.state = .idle
  notifyQueue : s.world.notifyQueue = some .empty
  coapStep : s.world.coapStep = .receive
  delivered : s.world.delivered = .idle

def act : StartupAction → Option SwitchStartup
  | .construct succeeded => s.construct succeeded
  | .switchTask allocated result => s.switchTask this activeLevel allocated result
  | .edge => some { s with world := s.world.edge }
  | .gpioHandler => s.gpioHandler
  | .coapTask => (s.world.coapTask this).map (fun world => { s with world := world })

def system : System SwitchStartup StartupAction where
  init := Initial
  step s a := if s.faulted then none else s.act this activeLevel a

def Ready : Prop := s.taskStep = .loop ∧ s.semaphore = .created

/-- What the task finds when it enters its loop. -/
structure Waiting (world : SwitchWorld) : Prop where
  switchStep : world.switchStep = .take
  notifyQueue : world.notifyQueue = some .empty
  coapStep : world.coapStep = .receive
  delivered : world.delivered = .idle

structure Prepared : Prop where
  task : s.constructorStep = .xTaskCreate → s.taskStep = .absent
  handle : s.semaphore = .created → s.taskStep ≠ .absent ∧ s.taskStep ≠ .createSemaphore
  giving : s.taskStep = .giveSemaphore → s.semaphore = .created
  given : s.semaphore = .created →
    s.taskStep = .giveSemaphore ∨ s.taskStep = .loop ∨ s.world.switchSemaphore = true
  unregistered : s.world.registered = false → s.world.pending = 0 ∧ s.world.interrupts = 0
  waiting : ¬ s.Ready → Waiting s.world

section Steps

variable {this activeLevel s} {t : SwitchStartup}

theorem Waiting.of_eq {world world' : SwitchWorld} (h : Waiting world)
    (hstep : world'.switchStep = world.switchStep) (hqueue : world'.notifyQueue = world.notifyQueue)
    (hcoap : world'.coapStep = world.coapStep) (hdelivered : world'.delivered = world.delivered) :
    Waiting world' :=
  ⟨hstep.trans h.switchStep, hqueue.trans h.notifyQueue, hcoap.trans h.coapStep,
    hdelivered.trans h.delivered⟩

theorem Initial.prepared (h : s.Initial) : s.Prepared where
  task _ := h.taskStep
  handle hc := by rw [h.semaphore] at hc; cases hc
  giving hg := by rw [h.taskStep] at hg; cases hg
  given hc := by rw [h.semaphore] at hc; cases hc
  unregistered _ := ⟨h.pending, h.interrupts⟩
  waiting _ := ⟨h.switchStep, h.notifyQueue, h.coapStep, h.delivered⟩

theorem Prepared.registered (h : s.Prepared) (hp : 0 < s.world.pending) :
    s.world.registered = true := by
  by_contra hr
  have hnone := (h.unregistered (by simpa using hr)).1
  omega

theorem construct_cases {succeeded : Bool} (h : s.construct succeeded = some t) :
    (∃ c k, t = { s with constructorStep := c, taskStep := k } ∧ c ≠ .xTaskCreate ∧
      (k = s.taskStep ∨ s.constructorStep = .xTaskCreate ∧ (k = .absent ∨ k = .createSemaphore))) ∨
    (s.constructorStep = .gpioIsrHandlerAdd ∧
      t = { s with constructorStep := .returned, world := { s.world with registered := true } }) := by
  unfold construct at h
  cases hc : s.constructorStep with
  | xTaskCreate =>
    simp only [hc, Option.some.injEq] at h
    refine Or.inl ⟨.gpioConfig, if succeeded then .createSemaphore else .absent, h.symm, by decide,
      Or.inr ⟨rfl, ?_⟩⟩
    cases succeeded
    · exact Or.inl rfl
    · exact Or.inr rfl
  | gpioConfig =>
    simp only [hc, Option.some.injEq] at h
    exact Or.inl ⟨.gpioInstallIsrService, s.taskStep, h.symm, by decide, Or.inl rfl⟩
  | gpioInstallIsrService =>
    simp only [hc, Option.some.injEq] at h
    refine Or.inl ⟨if succeeded then .gpioIsrHandlerAdd else .returned, s.taskStep, h.symm, ?_,
      Or.inl rfl⟩
    cases succeeded <;> decide
  | gpioIsrHandlerAdd =>
    simp only [hc, Option.some.injEq] at h
    exact Or.inr ⟨rfl, h.symm⟩
  | returned =>
    simp only [hc] at h
    cases h

theorem Prepared.construct {succeeded : Bool} (h : s.Prepared)
    (ht : s.construct succeeded = some t) : t.Prepared := by
  rcases construct_cases ht with ⟨c, k, rfl, hc, hk⟩ | ⟨_, rfl⟩
  · rcases hk with rfl | ⟨hcreate, hk⟩
    · exact ⟨fun hn => absurd hn hc, h.handle, h.giving, h.given, h.unregistered, h.waiting⟩
    · have hfirst : s.taskStep = .absent := h.task hcreate
      have hsemaphore : s.semaphore ≠ .created := fun hs => (h.handle hs).1 hfirst
      refine ⟨fun hn => absurd hn hc, fun hs => absurd hs hsemaphore, ?_,
        fun hs => absurd hs hsemaphore, h.unregistered,
        fun _ => h.waiting (fun hr => hsemaphore hr.2)⟩
      intro hg
      have hg : k = .giveSemaphore := hg
      rcases hk with rfl | rfl <;> cases hg
  · refine ⟨fun hn => (by cases hn), h.handle, h.giving, h.given, fun hr => (by cases hr), ?_⟩
    intro hr
    have hwaiting : Waiting s.world := h.waiting hr
    exact hwaiting.of_eq rfl rfl rfl rfl

theorem Prepared.edge (h : s.Prepared) : Prepared { s with world := s.world.edge } where
  task := h.task
  handle := h.handle
  giving := h.giving
  given := h.given
  unregistered hr := by
    have hs : s.world.registered = false := hr
    simpa [SwitchWorld.edge, hs] using h.unregistered hs
  waiting hr := by
    have hwaiting : Waiting s.world := h.waiting hr
    exact hwaiting.of_eq rfl rfl rfl rfl

theorem gpioHandler_cases (h : s.gpioHandler = some t) :
    0 < s.world.pending ∧
      (s.semaphore = .created ∧ t = { s with world := { s.world with
          pending := s.world.pending - 1
          interrupts := s.world.interrupts + 1
          switchSemaphore := true } } ∨
        s.semaphore ≠ .created ∧ t = { s with faulted := true }) := by
  unfold gpioHandler at h
  by_cases hs : s.semaphore = .created
  · rw [if_pos hs] at h
    obtain ⟨world, hworld, rfl⟩ := Option.map_eq_some_iff.mp h
    obtain ⟨hp, hworld⟩ := Option.ite_none_right_eq_some.mp hworld
    obtain rfl := Option.some.inj hworld
    exact ⟨hp, Or.inl ⟨hs, rfl⟩⟩
  · rw [if_neg hs] at h
    obtain ⟨hp, h⟩ := Option.ite_none_right_eq_some.mp h
    exact ⟨hp, Or.inr ⟨hs, (Option.some.inj h).symm⟩⟩

theorem Prepared.gpioHandler (h : s.Prepared) (ht : s.gpioHandler = some t) : t.Prepared := by
  obtain ⟨hp, ⟨hs, rfl⟩ | ⟨_, rfl⟩⟩ := gpioHandler_cases ht
  · refine ⟨h.task, h.handle, h.giving, fun _ => Or.inr (Or.inr rfl), ?_, ?_⟩
    · intro hr
      have hnone := (h.unregistered hr).1
      omega
    · intro hr
      have hwaiting : Waiting s.world := h.waiting hr
      exact hwaiting.of_eq rfl rfl rfl rfl
  · exact ⟨h.task, h.handle, h.giving, h.given, h.unregistered, h.waiting⟩

theorem Prepared.switchTask {allocated : Bool} {result : CoapResult} (h : s.Prepared)
    (ht : s.switchTask this activeLevel allocated result = some t) : t.Prepared := by
  unfold SwitchStartup.switchTask at ht
  have hnever : s.constructorStep ≠ .xTaskCreate := by
    intro hc
    simp [h.task hc] at ht
  have hlater : s.taskStep ≠ .loop → Waiting s.world := fun hne => h.waiting (fun hr => hne hr.1)
  cases hk : s.taskStep with
  | absent =>
    simp only [hk] at ht
    cases ht
  | createSemaphore =>
    simp only [hk, Option.some.injEq] at ht
    have hwaiting : Waiting s.world := hlater (by rw [hk]; simp)
    cases allocated
    · obtain rfl := ht
      exact ⟨fun hc => absurd hc hnever, fun hs => (by cases hs), fun hg => (by cases hg),
        fun hs => (by cases hs), h.unregistered, fun _ => hwaiting⟩
    · obtain rfl := ht
      exact ⟨fun hc => absurd hc hnever, fun _ => ⟨by simp, by simp⟩, fun _ => rfl,
        fun _ => Or.inl rfl, h.unregistered, fun _ => hwaiting⟩
  | giveSemaphore =>
    simp only [hk, Option.some.injEq] at ht
    subst ht
    have hwaiting : Waiting s.world := hlater (by rw [hk]; simp)
    exact ⟨fun hc => absurd hc hnever, fun _ => ⟨by simp, by simp⟩, fun hg => (by cases hg),
      fun _ => Or.inr (Or.inr rfl), h.unregistered, fun _ => hwaiting.of_eq rfl rfl rfl rfl⟩
  | sample =>
    simp only [hk, Option.some.injEq] at ht
    subst ht
    have hwaiting : Waiting s.world := hlater (by rw [hk]; simp)
    refine ⟨fun hc => absurd hc hnever, fun _ => ⟨by simp, by simp⟩, fun hg => (by cases hg), ?_,
      h.unregistered, fun _ => hwaiting⟩
    intro hs
    simpa [hk] using h.given hs
  | write state =>
    simp only [hk, Option.some.injEq] at ht
    subst ht
    have hwaiting : Waiting s.world := hlater (by rw [hk]; simp)
    exact ⟨fun hc => absurd hc hnever, fun _ => ⟨by simp, by simp⟩, fun hg => (by cases hg),
      fun _ => Or.inr (Or.inl rfl), h.unregistered, fun _ => hwaiting.of_eq rfl rfl rfl rfl⟩
  | loop =>
    simp only [hk] at ht
    by_cases hs : s.semaphore = .created
    · rw [if_pos hs] at ht
      obtain ⟨world, hworld, rfl⟩ := Option.map_eq_some_iff.mp ht
      obtain ⟨hregistered, hpending, hinterrupts, _⟩ := SwitchWorld.switchTask_frame hworld
      refine ⟨fun hc => absurd hc hnever, fun _ => ⟨by simp, by simp⟩, fun hg => (by cases hg),
        fun _ => Or.inr (Or.inl rfl), ?_, fun hr => absurd ⟨rfl, hs⟩ hr⟩
      dsimp only
      rw [hregistered, hpending, hinterrupts]
      exact h.unregistered
    · rw [if_neg hs] at ht
      obtain rfl := Option.some.inj ht
      exact ⟨fun hc => absurd hc hnever, fun hc => absurd hc hs, fun hg => (by cases hg),
        fun hc => absurd hc hs, h.unregistered, fun _ => h.waiting (fun hr => hs hr.2)⟩

theorem Prepared.coapTask {world : SwitchWorld} (h : s.Prepared)
    (ht : s.world.coapTask this = some world) : Prepared { s with world := world } := by
  obtain ⟨hregistered, hpending, hinterrupts, hsemaphore, _⟩ := SwitchWorld.coapTask_frame ht
  refine ⟨h.task, h.handle, h.giving, ?_, ?_, ?_⟩
  · dsimp only
    rw [hsemaphore]
    exact h.given
  · dsimp only
    rw [hregistered, hpending, hinterrupts]
    exact h.unregistered
  · intro hr
    have hwaiting : Waiting s.world := h.waiting hr
    unfold SwitchWorld.coapTask at ht
    rw [hwaiting.coapStep, hwaiting.notifyQueue, Option.map_some] at ht
    obtain rfl := Option.some.inj ht
    exact ⟨hwaiting.switchStep, rfl, rfl, hwaiting.delivered⟩

theorem step_some {a : StartupAction} :
    (system this activeLevel).step s a = some t ↔
      s.faulted = false ∧ s.act this activeLevel a = some t := by
  unfold system
  cases hf : s.faulted <;> simp [hf]

theorem prepared_step (s : SwitchStartup) (a : StartupAction) (t : SwitchStartup) (h : s.Prepared)
    (ht : (system this activeLevel).step s a = some t) : t.Prepared := by
  obtain ⟨_, ht⟩ := step_some.mp ht
  cases a with
  | construct succeeded => exact h.construct ht
  | switchTask allocated result => exact h.switchTask ht
  | edge =>
    obtain rfl := Option.some.inj ht
    exact h.edge
  | gpioHandler => exact h.gpioHandler ht
  | coapTask =>
    obtain ⟨world, hworld, rfl⟩ := Option.map_eq_some_iff.mp ht
    exact h.coapTask hworld

theorem reachable_prepared (h : (system this activeLevel).Reachable s) : s.Prepared :=
  (system this activeLevel).reachable_invariant (fun _ hi => hi.prepared) prepared_step h

end Steps

section Faults

variable {this activeLevel s} {t : SwitchStartup}

/-- The handler waits for the semaphore, and there is memory for that. -/
def Careful (s : SwitchStartup) : StartupAction → Prop
  | .construct _ => s.constructorStep = .gpioIsrHandlerAdd → s.semaphore = .created
  | .switchTask allocated _ => s.taskStep = .createSemaphore → allocated = true
  | _ => True

structure Safe (s : SwitchStartup) : Prop where
  prepared : s.Prepared
  running : s.faulted = false
  registered : s.world.registered = true → s.semaphore = .created
  task : s.taskStep ≠ .absent → s.taskStep ≠ .createSemaphore → s.semaphore = .created

theorem Safe.switchTask {allocated : Bool} {result : CoapResult} (h : s.Safe)
    (hc : s.taskStep = .createSemaphore → allocated = true)
    (ht : s.switchTask this activeLevel allocated result = some t) :
    t.faulted = false ∧ t.semaphore = .created := by
  unfold SwitchStartup.switchTask at ht
  cases hk : s.taskStep with
  | absent =>
    simp only [hk] at ht
    cases ht
  | createSemaphore =>
    simp only [hk, hc hk, Option.some.injEq] at ht
    subst ht
    exact ⟨h.running, rfl⟩
  | loop =>
    have hs : s.semaphore = .created := h.task (by rw [hk]; simp) (by rw [hk]; simp)
    simp only [hk] at ht
    rw [if_pos hs] at ht
    obtain ⟨world, _, rfl⟩ := Option.map_eq_some_iff.mp ht
    exact ⟨h.running, hs⟩
  | _ =>
    simp only [hk, Option.some.injEq] at ht
    subst ht
    exact ⟨h.running, h.task (by rw [hk]; simp) (by rw [hk]; simp)⟩

theorem safe_step (s : SwitchStartup) (a : StartupAction) (t : SwitchStartup) (h : s.Safe)
    (hc : s.Careful a) (ht : (system this activeLevel).step s a = some t) : t.Safe := by
  have hprepared : t.Prepared := prepared_step s a t h.prepared ht
  obtain ⟨hrunning, ht⟩ := step_some.mp ht
  cases a with
  | construct succeeded =>
    rcases construct_cases ht with ⟨c, k, rfl, _, hk⟩ | ⟨hadd, rfl⟩
    · refine ⟨hprepared, hrunning, h.registered, ?_⟩
      rcases hk with rfl | ⟨_, rfl | rfl⟩
      · exact h.task
      · exact fun hne _ => absurd rfl hne
      · exact fun _ hne => absurd rfl hne
    · exact ⟨hprepared, hrunning, fun _ => hc hadd, h.task⟩
  | switchTask allocated result =>
    obtain ⟨hrunning, hs⟩ := h.switchTask hc ht
    exact ⟨hprepared, hrunning, fun _ => hs, fun _ _ => hs⟩
  | edge =>
    obtain rfl := Option.some.inj ht
    exact ⟨hprepared, hrunning, h.registered, h.task⟩
  | gpioHandler =>
    obtain ⟨hp, ⟨hs, rfl⟩ | ⟨hs, rfl⟩⟩ := gpioHandler_cases ht
    · exact ⟨hprepared, hrunning, fun _ => hs, fun _ _ => hs⟩
    · exfalso
      apply hs
      apply h.registered
      exact h.prepared.registered hp
  | coapTask =>
    obtain ⟨world, hworld, rfl⟩ := Option.map_eq_some_iff.mp ht
    refine ⟨hprepared, hrunning, ?_, h.task⟩
    dsimp only
    rw [(SwitchWorld.coapTask_frame hworld).1]
    exact h.registered

def OfPin (actions : List StartupAction) : Prop := ∀ a ∈ actions, a = .edge ∨ a = .gpioHandler

/-- While only the pin acts, it can neither add the handler nor create the semaphore. -/
theorem pin_safe {pins : List StartupAction} (hp : OfPin pins) (hprepared : s.Prepared)
    (hrunning : s.faulted = false) (hs : s.world.registered = true → s.semaphore = .created)
    (ht : (system this activeLevel).run s pins = some t) : t.faulted = false := by
  have kept : ∀ u a v, (u.Prepared ∧ u.faulted = false ∧
      (u.world.registered = true → u.semaphore = .created)) → (a = .edge ∨ a = .gpioHandler) →
      (system this activeLevel).step u a = some v →
      v.Prepared ∧ v.faulted = false ∧ (v.world.registered = true → v.semaphore = .created) := by
    rintro u a v ⟨hprepared, hrunning, hu⟩ ha hv
    refine ⟨prepared_step u a v hprepared hv, ?_⟩
    obtain ⟨_, hv⟩ := step_some.mp hv
    rcases ha with rfl | rfl
    · obtain rfl := Option.some.inj hv
      exact ⟨hrunning, hu⟩
    · obtain ⟨hp, ⟨hc, rfl⟩ | ⟨hc, rfl⟩⟩ := gpioHandler_cases hv
      · exact ⟨hrunning, fun _ => hc⟩
      · exfalso
        apply hc
        apply hu
        exact hprepared.registered hp
  have halong : (system this activeLevel).Along (fun _ a => a = .edge ∨ a = .gpioHandler) s
      pins := by
    intro before a after u he _
    apply hp
    rw [he]
    simp
  exact ((system this activeLevel).run_invariant kept ⟨hprepared, hrunning, hs⟩ halong ht).2.1

end Faults

/-- The constructor hooks the handler without waiting for its task. As long as the task has not
created the semaphore, the pin alone can bring the node down; if the handler waits, nothing can. -/
theorem startup_faults (s t : SwitchStartup) (actions : List StartupAction) (hs : s.Initial)
    (ht : (system this activeLevel).run s actions = some t) :
    ((system this activeLevel).Along Careful s actions → t.faulted = false) ∧
    (t.faulted = false →
      ((∃ pins u, OfPin pins ∧ (system this activeLevel).run t pins = some u ∧ u.faulted = true) ↔
        t.world.registered = true ∧ t.semaphore ≠ .created)) := by
  have hprepared : t.Prepared := reachable_prepared ⟨s, actions, hs, ht⟩
  constructor
  · intro hcareful
    have hsafe : s.Safe := by
      refine ⟨hs.prepared, hs.running, fun hr => ?_, fun hne => absurd hs.taskStep hne⟩
      rw [hs.registered] at hr
      cases hr
    exact ((system this activeLevel).run_invariant safe_step hsafe hcareful ht).running
  · intro hrunning
    constructor
    · rintro ⟨pins, u, hpins, hu, hfaulted⟩
      by_contra hn
      have hfine : u.faulted = false := by
        apply pin_safe hpins hprepared hrunning _ hu
        intro hr
        by_contra hc
        exact hn ⟨hr, hc⟩
      rw [hfine] at hfaulted
      cases hfaulted
    · rintro ⟨hr, hc⟩
      have hedge : (system this activeLevel).step t .edge =
          some { t with world := t.world.edge } := step_some.mpr ⟨hrunning, rfl⟩
      have hpending : 0 < t.world.edge.pending := by
        simp [SwitchWorld.edge, hr]
      have hhandler : (system this activeLevel).step { t with world := t.world.edge } .gpioHandler =
          some { t with world := t.world.edge, faulted := true } := by
        apply step_some.mpr
        refine ⟨hrunning, ?_⟩
        change SwitchStartup.gpioHandler _ = _
        unfold SwitchStartup.gpioHandler
        rw [if_neg hc, if_pos hpending]
      refine ⟨[.edge, .gpioHandler], { t with world := t.world.edge, faulted := true }, ?_, ?_, rfl⟩
      · rintro a ha
        simpa using ha
      · exact (system this activeLevel).run_cons_some.mpr
          ⟨_, hedge, (system this activeLevel).run_cons_some.mpr ⟨_, hhandler, rfl⟩⟩

def powerOn : SwitchStartup where
  constructorStep := .xTaskCreate
  taskStep := .absent
  semaphore := .uninitialised
  faulted := false
  world :=
    { level := true
      registered := false
      pending := 0
      interrupts := 0
      switchSemaphore := false
      switchStep := .take
      state := .idle
      notifyQueue := some .empty
      coapStep := .receive
      delivered := .idle }

theorem powerOn_initial : powerOn.Initial :=
  ⟨rfl, rfl, rfl, rfl, rfl, rfl, rfl, rfl, rfl, rfl, rfl, rfl, rfl⟩

theorem startup_faults_hooked :
    ∃ t pins u, (system 0 0).run powerOn (List.replicate 4 (.construct true)) = some t ∧
      OfPin pins ∧ (system 0 0).run t pins = some u ∧ u.faulted = true := by
  obtain ⟨pins, u, hpins, hu, hfaulted⟩ := ((startup_faults 0 0 powerOn _
    (List.replicate 4 (.construct true)) powerOn_initial rfl).2 rfl).mpr ⟨rfl, by decide⟩
  exact ⟨_, pins, u, rfl, hpins, hu, hfaulted⟩

end SwitchStartup

end IoTNode.SwitchResource
