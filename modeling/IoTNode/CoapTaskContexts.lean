import IoTNode.CoapTask

set_option autoImplicit false

namespace IoTNode.LobaroCoap

open Foundations

structure ContextPool where
  slots : ℕ
  positive : 0 < slots

variable (endpoints : LobaroEndpoints)

/-- lwIP gives the task its socket and its port, and `CoAP_NewSocket` succeeds while a slot is
free; the program gives no slot back. -/
def Supplied (pool : ContextPool) (s : LobaroCoap) : CoapAction → Prop
  | .event _ => True
  | .task a =>
    (s.task = .newSocket → a.netconnNew) ∧ (s.task = .bind → a.netconnBind) ∧
      (s.task = .newContext → (a.coapNewSocket ↔ s.contexts < pool.slots))

def OneContext (s : LobaroCoap) : Prop := s.contexts ≤ 1 ∧ s.task ≠ .deleted

def NeverBack (s : LobaroCoap) : CoapAction → Prop
  | .event _ => True
  | .task _ => s.task = .outerCheck → s.networkReady → s.contexts = 0

structure Budget (s : LobaroCoap) : Prop where
  running : s.task ≠ .deleted
  contexts : s.contexts ≤ 1
  setup : s.task = .newSocket ∨ s.task = .newContext → s.contexts = 0

theorem eventHandler_task (s : LobaroCoap) (event : SystemEvent) :
    (s.eventHandler event).task = s.task ∧ (s.eventHandler event).contexts = s.contexts := by
  cases event <;> exact ⟨rfl, rfl⟩

theorem nextStep_newSocket {s : LobaroCoap} {a : Answers} (h : s.nextStep a = .newSocket) :
    s.task = .outerCheck ∧ s.networkReady := by
  unfold nextStep at h
  grind

theorem nextStep_newContext {s : LobaroCoap} {a : Answers} (h : s.nextStep a = .newContext) :
    s.task = .newSocket := by
  unfold nextStep at h
  grind

theorem nextStep_deleted {s : LobaroCoap} {a : Answers} (h : s.nextStep a = .deleted) :
    s.task = .deleted ∨ (s.task = .newSocket ∧ ¬ a.netconnNew) ∨
      (s.task = .newContext ∧ ¬ a.coapNewSocket) ∨ (s.task = .bind ∧ ¬ a.netconnBind) := by
  unfold nextStep at h
  grind

theorem Budget.task {pool : ContextPool} {s t : LobaroCoap} {a : Answers} (h : Budget s)
    (hs : Supplied pool s (.task a)) (hn : NeverBack s (.task a)) (hc : Control s a t) :
    Budget t := by
  obtain ⟨hnew, hbind, hpool⟩ := hs
  constructor
  · intro hd
    rw [hc.task] at hd
    rcases nextStep_deleted hd with hd | ⟨hd, ha⟩ | ⟨hd, ha⟩ | ⟨hd, ha⟩
    · exact h.running hd
    · exact ha (hnew hd)
    · -- the task has no context yet, so a slot is free
      apply ha
      rw [hpool hd, h.setup (Or.inr hd)]
      exact pool.positive
    · exact ha (hbind hd)
  · rw [hc.contexts]
    split_ifs with ha
    · have hnone := h.setup (Or.inr ha.1)
      omega
    · exact h.contexts
  · intro ht
    rw [hc.task] at ht
    rcases ht with ht | ht
    · obtain ⟨ho, hr⟩ := nextStep_newSocket ht
      rw [hc.contexts, if_neg (by simp [ho])]
      exact hn ho hr
    · have ho := nextStep_newContext ht
      rw [hc.contexts, if_neg (by simp [ho])]
      exact h.setup (Or.inl ho)

theorem budget_step {pool : ContextPool} (s : LobaroCoap) (a : CoapAction) (t : LobaroCoap)
    (h : Budget s) (ha : Supplied pool s a ∧ NeverBack s a)
    (ht : (system endpoints).step s a = some t) : Budget t := by
  cases a with
  | event event =>
    obtain rfl := Option.some.inj ht
    obtain ⟨htask, hcontexts⟩ := eventHandler_task s event
    exact ⟨by rw [htask]; exact h.running, by rw [hcontexts]; exact h.contexts,
      by rw [htask, hcontexts]; exact h.setup⟩
  | task a => exact h.task ha.1 ha.2 (taskHandle_control endpoints ht)

theorem budget_start : Budget {} := ⟨by simp, by simp, by simp⟩

def reconnect (pool : ContextPool) (s : LobaroCoap) : List CoapAction :=
  [.task {}, .task {}, .task { coapNewSocket := decide (s.contexts < pool.slots) }]

theorem reconnect_leaks (pool : ContextPool) {s : LobaroCoap} (ho : s.task = .outerCheck)
    (hr : s.networkReady) (hc : s.contexts = 1) :
    ∃ t, (system endpoints).run s (reconnect pool s) = some t ∧
      (system endpoints).Along (Supplied pool) s (reconnect pool s) ∧ ¬ OneContext t := by
  let answer : Answers := { coapNewSocket := decide (s.contexts < pool.slots) }
  let bound : LobaroCoap :=
    { s.log (.netconnNew (some s.sockets)) with
      socket := some s.sockets
      sockets := s.sockets + 1
      socketType := Function.update s.socketType s.sockets .udp
      task := .newContext }
  have hfirst : (system endpoints).step s (.task {}) = some (s.goto .newSocket) := by
    simp [system, taskHandle, ho, hr]
  have hsecond : (system endpoints).step (s.goto .newSocket) (.task {}) = some bound := rfl
  obtain ⟨t, hthird⟩ : ∃ t, (system endpoints).step bound (.task answer) = some t := by
    change ∃ t, taskHandle endpoints bound answer = some t
    unfold taskHandle
    dsimp only [bound]
    split_ifs <;> exact ⟨_, rfl⟩
  have hcontrol : Control bound answer t := taskHandle_control endpoints hthird
  refine ⟨t, ?_, ?_, ?_⟩
  · exact (system endpoints).run_cons_some.mpr ⟨_, hfirst,
      (system endpoints).run_cons_some.mpr ⟨_, hsecond,
        (system endpoints).run_cons_some.mpr ⟨_, hthird, rfl⟩⟩⟩
  · refine System.Along.cons _ ⟨by simp [ho], by simp [ho], by simp [ho]⟩ hfirst ?_
    refine System.Along.cons _ ⟨fun _ => rfl, by simp [goto], by simp [goto]⟩ hsecond ?_
    refine System.Along.cons _ ?_ hthird ((system endpoints).along_nil t)
    exact ⟨by simp [bound], by simp [bound], fun _ => by simp [bound, log]⟩
  · rintro ⟨hone, hrunning⟩
    by_cases hslot : s.contexts < pool.slots
    · rw [hcontrol.contexts, if_pos ⟨rfl, decide_eq_true hslot⟩] at hone
      have : s.contexts + 1 ≤ 1 := hone
      omega
    · apply hrunning
      rw [hcontrol.task, nextStep]
      simp [bound, answer, hslot]

theorem contexts_leak (pool : ContextPool) :
    (∀ actions, (system endpoints).Along (Supplied pool) {} actions →
      (system endpoints).Along NeverBack {} actions →
      (system endpoints).Always OneContext {} actions) ∧
    ∀ s a, (system endpoints).Reachable s → s.OneContext → ¬ s.NeverBack a →
      ∃ actions t, (system endpoints).run s actions = some t ∧
        (system endpoints).Along (Supplied pool) s actions ∧ ¬ OneContext t := by
  constructor
  · intro actions hs hn before after t he hr
    have hp : (system endpoints).Along (fun s a => Supplied pool s a ∧ NeverBack s a) {} actions :=
      fun before a after t he hr => ⟨hs before a after t he hr, hn before a after t he hr⟩
    have hb := (system endpoints).always_invariant (budget_step endpoints) budget_start hp before
      after t he hr
    exact ⟨hb.contexts, hb.running⟩
  · intro s a _ hone hback
    cases a with
    | event event => exact absurd trivial hback
    | task a =>
      simp only [NeverBack, Classical.not_imp] at hback
      obtain ⟨ho, hr, hc⟩ := hback
      have hc : s.contexts = 1 := by
        have := hone.1
        omega
      obtain ⟨t, ht, hs, hleak⟩ := reconnect_leaks endpoints pool ho hr hc
      exact ⟨_, t, ht, hs, hleak⟩

def flap : List CoapAction :=
  [.event .staGotIp, .task {}, .task {}, .task {}, .task {}, .task {}, .task {},
    .event .staDisconnected, .task {}, .task {}, .event .staGotIp, .task {}, .task {}, .task {}]

theorem contexts_leak_counterexample :
    ¬ ∀ actions, (system someEndpoints).Along (Supplied ⟨2, by decide⟩) {} actions →
      (system someEndpoints).Always OneContext {} actions := by
  intro h
  have hs : (system someEndpoints).Along (Supplied ⟨2, by decide⟩) {} flap := by
    unfold flap
    repeat
      first
        | exact System.along_nil _ _
        | refine System.Along.cons _ trivial rfl ?_
        | refine System.Along.cons _ ⟨fun _ => rfl, fun _ => rfl, fun _ => by decide⟩ rfl ?_
  have hone := h flap hs flap [] _ (List.append_nil _).symm rfl
  exact absurd hone.1 (by decide)

end IoTNode.LobaroCoap
