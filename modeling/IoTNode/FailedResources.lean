import IoTNode.Registration

set_option autoImplicit false

namespace IoTNode.Lobaro

open Coap Foundations

def ResourceCall.Registers : ResourceCall → Prop
  | .notifyObservers _ => False
  | _ => True

namespace ResourceWorld

variable {α : Type} (bits : ResOpt) (s : ResourceWorld α)

def CallInert (addr : ResourceAddr) (this : LobaroCoapResource α) (call : ResourceCall) : Prop :=
  ∃ t result, s.call bits addr this call = .ok (t, result) ∧
    (this.resource = none → call.Registers → result = .error) ∧
    ∀ other ≠ addr, ∀ handle, s.registry.handleAt other = some handle →
      t.registry.library handle = s.registry.library handle

def TaskInert : Prop :=
  ∀ p, s.task.pointer = some p → ∃ this, s.read p = some this ∧
    (this.resource = none → s.task = .examining p ∧ s.coapTask = some { s with task := .polling })

/-- What a step owes a resource whose creation failed, and the resources it is not about. -/
def Inert : SetupAction α → Prop
  | .create _ _ _ => True
  | .call addr call => ∀ this, s.registry.objects addr = some this → s.CallInert bits addr this call
  | .coapTask => s.TaskInert

def ObservesCreated (s : ResourceWorld α) : SetupAction α → Prop
  | .call addr .registerAsObservable =>
    ∀ this, s.registry.objects addr = some this → this.resource ≠ none
  | _ => True

structure Served (s : ResourceWorld α) : Prop where
  sound : Sound s
  notifying : ∀ p this, s.task = .notifying p → s.read p = some this → this.resource ≠ none

section Steps

variable {bits} {s t : ResourceWorld α}

theorem Served.create (h : Served s) {addr : ResourceAddr} {app : α} {created : Option CoAPRes}
    (ha : (s.registry.objects addr).isSome = false) : Served (s.create bits addr app created) := by
  refine ⟨h.sound.create ha, ?_⟩
  intro p this hp hr
  have hlive : s.Live p := h.sound.held p (congrArg Serving.pointer hp)
  rw [create_read hlive ha] at hr
  exact h.notifying p this hp hr

theorem withRegistry_read {registry : Registry α} (ho : registry.objects = s.registry.objects)
    (p : ResourcePtr) : (s.withRegistry registry).read p = s.read p := by
  unfold read withRegistry
  rw [ho]

theorem Served.withRegistry (h : Served s) {registry : Registry α}
    (ho : registry.objects = s.registry.objects) : Served (s.withRegistry registry) := by
  have hlive : ∀ {p}, s.Live p → (s.withRegistry registry).Live p := by
    intro p hp
    unfold Live
    rw [withRegistry_read ho]
    exact hp
  refine ⟨⟨fun p hp => hlive (h.sound.queued p hp), fun p hp => hlive (h.sound.held p hp),
    h.sound.noFault⟩, ?_⟩
  intro p this hp hr
  rw [withRegistry_read ho] at hr
  exact h.notifying p this hp hr

theorem Served.call (h : Served s) {addr : ResourceAddr} {this : LobaroCoapResource α}
    {call : ResourceCall} {result : CoapResult} (ha : s.registry.objects addr = some this)
    (hc : s.call bits addr this call = .ok (t, result)) : Served t := by
  have ho := call_objects hc
  cases call with
  | registerHandler requestType =>
    obtain ⟨rfl, _⟩ := Prod.mk.inj (Except.ok.inj hc)
    exact h.withRegistry ho
  | registerAsObservable =>
    rw [call_registerAsObservable] at hc
    cases hr : this.resource with
    | none => simp [hr] at hc
    | some handle =>
      rw [hr] at hc
      obtain ⟨rfl, _⟩ := Prod.mk.inj (Except.ok.inj hc)
      exact h.withRegistry ho
  | notifyObservers prior =>
    obtain ⟨rfl, _⟩ := Prod.mk.inj (Except.ok.inj hc)
    exact ⟨h.sound.notify prior (by rw [ha]; rfl), h.notifying⟩

theorem Served.coapTask (h : Served s) (ht : s.coapTask = some t) : Served t := by
  refine ⟨h.sound.coapTask ht, ?_⟩
  intro p this hp hr
  obtain ⟨queue, _, _, rfl⟩ | ⟨q, that, _, hthat, rfl⟩ | ⟨q, that, _, _, rfl⟩ | ⟨q, _, _, rfl⟩ :=
    coapTask_cases ht
  · cases hnext : (xQueueReceive queue).2 <;> simp [received, hnext] at hp
  · dsimp only at hp
    split_ifs at hp with hn
    obtain rfl := Serving.notifying.inj hp
    obtain rfl : that = this := Option.some.inj (hthat.symm.trans hr)
    exact hn
  · cases hp
  · cases hp

theorem served_step (s : ResourceWorld α) (a : SetupAction α) (t : ResourceWorld α) (h : Served s)
    (ht : (setup bits).step s a = some t) : Served t := by
  cases a with
  | create addr app created =>
    obtain ⟨⟨hnew, _⟩, rfl⟩ := setup_create.mp ht
    exact h.create (by rw [hnew]; rfl)
  | call addr call =>
    obtain ⟨this, result, ha, hc⟩ := setup_call.mp ht
    exact h.call ha hc
  | coapTask => exact h.coapTask ht

theorem served_start (library : CoAPRes → CoAPResData) : Served (start (α := α) library) :=
  ⟨sound_start library, fun _ _ hp => by cases hp⟩

theorem taskInert_of_served (h : Served s) : s.TaskInert := by
  intro p hp
  obtain ⟨this, hr⟩ := Option.isSome_iff_exists.mp (h.sound.held p hp)
  refine ⟨this, hr, ?_⟩
  intro hn
  cases hs : s.task with
  | polling => simp [hs, Serving.pointer] at hp
  | faulted q => simp [hs, Serving.pointer] at hp
  | notifying q =>
    obtain rfl : q = p := by simpa [hs, Serving.pointer] using hp
    exact absurd hn (h.notifying q this hs hr)
  | examining q =>
    obtain rfl : q = p := by simpa [hs, Serving.pointer] using hp
    refine ⟨rfl, ?_⟩
    unfold ResourceWorld.coapTask
    rw [hs]
    simp [hr, hn]

theorem callInert_iff (ho : s.registry.Owned) {addr : ResourceAddr}
    {this : LobaroCoapResource α} (ha : s.registry.objects addr = some this) (call : ResourceCall) :
    s.CallInert bits addr this call ↔ (call = .registerAsObservable → this.resource ≠ none) := by
  constructor
  · rintro ⟨t, result, hc, _⟩ rfl hn
    rw [call_registerAsObservable, hn] at hc
    cases hc
  · intro h
    have hthis := Registry.handleAt_of_objects ha
    have hothers : ∀ {t result}, s.call bits addr this call = .ok (t, result) →
        ∀ other ≠ addr, ∀ handle, s.registry.handleAt other = some handle →
          t.registry.library handle = s.registry.library handle := by
      intro t result hc other hne handle hh
      apply call_library_other hc
      intro hown
      exact hne (ho.separate hh (hthis.trans hown))
    cases call with
    | registerHandler requestType =>
      refine ⟨_, _, call_registerHandler addr this requestType, ?_, hothers rfl⟩
      intro hn _
      unfold Registry.registerHandler
      rw [hn]
    | registerAsObservable =>
      obtain ⟨handle, hhandle⟩ := Option.ne_none_iff_exists'.mp (h rfl)
      have hc : s.call bits addr this .registerAsObservable = _ :=
        call_registerAsObservable addr this
      rw [hhandle] at hc
      exact ⟨_, _, hc, fun hn => absurd hn (h rfl), hothers hc⟩
    | notifyObservers prior => exact ⟨_, _, rfl, fun _ hr => hr.elim, hothers rfl⟩

theorem inert_iff_of_run {library : CoAPRes → CoAPResData} {actions : List (SetupAction α)}
    (hr : (setup bits).run (start library) actions = some s) (a : SetupAction α) :
    s.Inert bits a ↔ s.ObservesCreated a := by
  cases a with
  | create addr app created => exact Iff.rfl
  | call addr call =>
    have ho := (run_registered hr).owned
    have hcall : s.Inert bits (.call addr call) ↔ ∀ this, s.registry.objects addr = some this →
        (call = .registerAsObservable → this.resource ≠ none) := by
      apply forall_congr'
      intro this
      exact forall_congr' (fun ha => callInert_iff ho ha call)
    rw [hcall]
    cases call <;> simp [ObservesCreated]
  | coapTask =>
    have hserved : Served s := by
      apply (setup bits).reachable_invariant _ served_step ⟨_, actions, ⟨library, rfl⟩, hr⟩
      rintro _ ⟨library, rfl⟩
      exact served_start library
    exact iff_of_true (taskInert_of_served hserved) trivial

end Steps

theorem inert_iff (bits : ResOpt) (library : CoAPRes → CoAPResData)
    (actions : List (SetupAction α)) :
    (setup bits).Along (Inert bits) (start library) actions ↔
      (setup bits).Along ObservesCreated (start library) actions := by
  constructor
  · intro h before a after s he hr
    exact (inert_iff_of_run hr a).mp (h before a after s he hr)
  · intro h before a after s he hr
    exact (inert_iff_of_run hr a).mpr (h before a after s he hr)

theorem inert_counterexample :
    ¬ (setup ⟨1, 2, 4, 8⟩).Along (Inert ⟨1, 2, 4, 8⟩)
      (start (α := Unit) (fun _ => ⟨0, false, none⟩))
      [.create 0 () none, .call 0 .registerAsObservable] := by
  intro h
  obtain ⟨t, result, hc, _⟩ := h [.create 0 () none] (.call 0 .registerAsObservable) [] _ rfl rfl
    ⟨(), none⟩ rfl
  cases hc

end ResourceWorld

end IoTNode.Lobaro
