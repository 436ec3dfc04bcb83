import IoTNode.CoapTaskSockets

set_option autoImplicit false

namespace IoTNode

open Foundations Ledger

namespace LobaroCoap

variable (endpoints : LobaroEndpoints)

/-- How many library calls had been made at the latest `SYSTEM_EVENT_STA_DISCONNECTED`. -/
def mark (s : LobaroCoap) (latest : ℕ) : CoapAction → ℕ
  | .event .staDisconnected => s.calls.length
  | _ => latest

def connections : System (LobaroCoap × ℕ) CoapAction := (system endpoints).observed mark 0

def callsBefore (w : LobaroCoap × ℕ) : List LibraryCall := w.1.calls.take w.2

def callsSince (w : LobaroCoap × ℕ) : List LibraryCall := w.1.calls.drop w.2

structure OnConnection (w : LobaroCoap × ℕ) (socket : SocketId) : Prop where
  inUse : w.1.socket = some socket
  created : .netconnNew (some socket) ∈ callsSince w
  bound : .netconn (.bind kCoapPort) (some socket) ∈ callsSince w
  joined : .netconn (.join multicastAddr) (some socket) ∈ callsSince w

def ServesCurrent (w : LobaroCoap × ℕ) : CoapAction → Prop
  | .event _ => True
  | .task _ => w.1.task = .innerCheck → w.1.networkReady → ∃ socket, OnConnection w socket

end LobaroCoap

def TaskStep.holds : TaskStep → Bool
  | .outerCheck => false
  | .newSocket => false
  | .teardown => false
  | .deleted => false
  | _ => true

def TaskStep.bound : TaskStep → Bool
  | .newContext => false
  | .bind => false
  | task => task.holds

def TaskStep.joined : TaskStep → Bool
  | .join => false
  | task => task.bound

namespace LobaroCoap

/-- The task holds a socket that an earlier connection created. -/
def Stale (w : LobaroCoap × ℕ) (socket : SocketId) : Prop :=
  w.1.task.holds ∧ w.1.socket = some socket ∧ .netconnNew (some socket) ∈ callsBefore w

def NoFlap (w : LobaroCoap × ℕ) : CoapAction → Prop
  | .event .staGotIp => ∀ socket, ¬ Stale w socket
  | _ => True

section Steps

variable {endpoints : LobaroEndpoints} {s t : LobaroCoap} {a : Answers}

theorem taskHandle_keeps (h : s.taskHandle endpoints a = some t) (hn : s.task ≠ .newSocket) :
    t.socket = s.socket ∧ s.calls ++ s.firstCalls <+: t.calls := by
  by_cases hcontext : s.task = .newContext
  · have hquiet : s.firstCalls = [] := by simp [firstCalls, hcontext]
    have grows := grows_refl s
    rcases taskHandle_newContext endpoints h hcontext with ⟨_, rfl⟩ | ⟨_, rfl⟩
    · exact ⟨rfl, (grows.log _).quiet hquiet⟩
    · exact ⟨rfl, (((grows.log _).log _).log _).quiet hquiet⟩
  · obtain ⟨_, u, same, hcalls, rfl⟩ := taskHandle_ordinary endpoints h ⟨hn, hcontext⟩
    exact ⟨same.socket, hcalls⟩

theorem nextStep_holds (h : (s.nextStep a).holds) : s.task = .newSocket ∨ s.task.holds := by
  unfold nextStep at h
  grind [TaskStep.holds]

theorem nextStep_bound (h : (s.nextStep a).bound) : s.task = .bind ∨ s.task.bound := by
  unfold nextStep at h
  grind [TaskStep.bound, TaskStep.holds]

theorem nextStep_joined (h : (s.nextStep a).joined) : s.task = .join ∨ s.task.joined := by
  unfold nextStep at h
  grind [TaskStep.joined, TaskStep.bound, TaskStep.holds]

end Steps

structure Fresh (w : LobaroCoap × ℕ) (socket : SocketId) : Prop where
  created : .netconnNew (some socket) ∈ callsSince w
  bound : w.1.task.bound → .netconn (.bind kCoapPort) (some socket) ∈ callsSince w
  joined : w.1.task.joined → .netconn (.join multicastAddr) (some socket) ∈ callsSince w

/-- A socket that the task holds is of the current connection, or the network is known to be gone. -/
structure Tracked (w : LobaroCoap × ℕ) : Prop where
  marked : w.2 ≤ w.1.calls.length
  held : w.1.task.holds → ∃ socket, w.1.socket = some socket ∧
    (Fresh w socket ∨ w.1.networkReady = false ∧ .netconnNew (some socket) ∈ callsBefore w)

section Tracking

variable {endpoints : LobaroEndpoints} {w : LobaroCoap × ℕ} {s t : LobaroCoap} {a : Answers}
  {call : LibraryCall}

theorem mem_callsBefore (h : call ∈ callsBefore w) (hg : Grows w.1 t) :
    call ∈ callsBefore (t, w.2) := by
  obtain ⟨more, hmore⟩ := hg
  unfold callsBefore at *
  rw [← hmore, List.take_append]
  exact List.mem_append_left _ h

theorem mem_callsSince (h : call ∈ callsSince w) (hg : Grows w.1 t) :
    call ∈ callsSince (t, w.2) := by
  obtain ⟨more, hmore⟩ := hg
  unfold callsSince at *
  rw [← hmore, List.drop_append]
  exact List.mem_append_left _ h

theorem mem_callsSince_new (hm : w.2 ≤ w.1.calls.length) (hg : w.1.calls ++ [call] <+: t.calls) :
    call ∈ callsSince (t, w.2) := by
  obtain ⟨more, hmore⟩ := hg
  unfold callsSince
  rw [← hmore, List.append_assoc, List.drop_append_of_le_length hm]
  simp

theorem Tracked.newSocket (h : Tracked w) (hs : w.1.task = .newSocket)
    (ht : w.1.taskHandle endpoints a = some t) : Tracked (t, w.2) := by
  have grows := grows_refl w.1
  rcases taskHandle_newSocket endpoints ht hs with ⟨_, rfl⟩ | ⟨_, rfl⟩
  · have hcreated := grows_refl (w.1.log (.netconnNew (some w.1.sockets)))
    refine ⟨Nat.le_trans h.marked (grows.log _).length_le, fun _ => ⟨w.1.sockets, rfl, Or.inl ?_⟩⟩
    exact ⟨mem_callsSince_new h.marked hcreated, fun hb => (by cases hb), fun hj => (by cases hj)⟩
  · exact ⟨Nat.le_trans h.marked ((grows.log _).log _).length_le, fun hh => (by cases hh)⟩

theorem Fresh.step {socket : SocketId} (h : Fresh w socket) (hm : w.2 ≤ w.1.calls.length)
    (hs : w.1.socket = some socket) (hcalls : w.1.calls ++ w.1.firstCalls <+: t.calls)
    (hnext : t.task = w.1.nextStep a) : Fresh (t, w.2) socket := by
  have hg : Grows w.1 t := (List.prefix_append _ _).trans hcalls
  refine ⟨mem_callsSince h.created hg, ?_, ?_⟩
  · intro hb
    rcases nextStep_bound (hnext ▸ hb) with hbind | hbound
    · simp only [firstCalls, hbind, hs] at hcalls
      exact mem_callsSince_new hm hcalls
    · exact mem_callsSince (h.bound hbound) hg
  · intro hj
    rcases nextStep_joined (hnext ▸ hj) with hjoin | hjoined
    · simp only [firstCalls, hjoin, hs] at hcalls
      exact mem_callsSince_new hm hcalls
    · exact mem_callsSince (h.joined hjoined) hg

theorem Tracked.task (h : Tracked w) (ht : w.1.taskHandle endpoints a = some t) :
    Tracked (t, w.2) := by
  by_cases hs : w.1.task = .newSocket
  · exact h.newSocket hs ht
  · obtain ⟨hsocket, hcalls⟩ := taskHandle_keeps ht hs
    have hcontrol := taskHandle_control endpoints ht
    have hg : Grows w.1 t := (List.prefix_append _ _).trans hcalls
    refine ⟨Nat.le_trans h.marked hg.length_le, fun hh => ?_⟩
    have hheld := (nextStep_holds (hcontrol.task ▸ hh)).resolve_left hs
    obtain ⟨socket, hsome, hcase⟩ := h.held hheld
    refine ⟨socket, hsocket.trans hsome, ?_⟩
    rcases hcase with hfresh | ⟨hdown, hstale⟩
    · exact Or.inl (hfresh.step h.marked hsome hcalls hcontrol.task)
    · exact Or.inr ⟨hcontrol.networkReady.trans hdown, mem_callsBefore hstale hg⟩

theorem Tracked.disconnected (h : Tracked w) :
    Tracked (w.1.setNetworkReady false, w.1.calls.length) := by
  refine ⟨Nat.le_refl _, fun hh => ?_⟩
  obtain ⟨socket, hsome, hcase⟩ := h.held hh
  refine ⟨socket, hsome, Or.inr ⟨rfl, ?_⟩⟩
  have hall : callsBefore (w.1.setNetworkReady false, w.1.calls.length) = w.1.calls :=
    List.take_length
  rw [hall]
  rcases hcase with hfresh | ⟨_, hstale⟩
  · exact List.mem_of_mem_drop hfresh.created
  · exact List.mem_of_mem_take hstale

theorem Tracked.gotIp (h : Tracked w) (hn : ∀ socket, ¬ Stale w socket) :
    Tracked (w.1.setNetworkReady true, w.2) := by
  refine ⟨h.marked, fun hh => ?_⟩
  obtain ⟨socket, hsome, hcase⟩ := h.held hh
  rcases hcase with hfresh | ⟨_, hstale⟩
  · exact ⟨socket, hsome, Or.inl ⟨hfresh.created, hfresh.bound, hfresh.joined⟩⟩
  · exact absurd ⟨hh, hsome, hstale⟩ (hn socket)

end Tracking

theorem tracked_step {endpoints : LobaroEndpoints} (w : LobaroCoap × ℕ) (a : CoapAction)
    (v : LobaroCoap × ℕ) (h : Tracked w) (hn : NoFlap w a)
    (hv : (connections endpoints).step w a = some v) : Tracked v := by
  obtain ⟨s, latest⟩ := v
  obtain ⟨hstep, hmark⟩ := (system endpoints).observed_step.mp hv
  subst hmark
  cases a with
  | task a => exact h.task hstep
  | event event =>
    obtain rfl := Option.some.inj hstep
    cases event with
    | staGotIp => exact h.gotIp hn
    | staDisconnected => exact h.disconnected
    | staStart => exact h
    | staConnected => exact h
    | other => exact h

theorem Tracked.serves {w : LobaroCoap × ℕ} (h : Tracked w) (a : CoapAction) :
    ServesCurrent w a := by
  cases a with
  | event event => exact trivial
  | task a =>
    intro hs hr
    obtain ⟨socket, hsome, hcase⟩ := h.held (by rw [hs]; rfl)
    rcases hcase with hfresh | ⟨hdown, _⟩
    · exact ⟨socket, hsome, hfresh.created, hfresh.bound (by rw [hs]; rfl),
        hfresh.joined (by rw [hs]; rfl)⟩
    · rw [hr] at hdown
      cases hdown

section Flaps

variable {endpoints : LobaroEndpoints}

theorem connections_run (s t : LobaroCoap) (actions : List CoapAction) (latest : ℕ) :
    (system endpoints).run s actions = some t ↔
      ∃ latest', (connections endpoints).run (s, latest) actions = some (t, latest') := by
  constructor
  · exact fun h => (system endpoints).observed_run h latest
  · rintro ⟨latest', h⟩
    exact (system endpoints).run_of_observed h

theorem created_once {s : LobaroCoap} (h : (system endpoints).Reachable s) {socket : SocketId}
    {n : ℕ} (hbefore : .netconnNew (some socket) ∈ s.calls.take n) :
    .netconnNew (some socket) ∉ s.calls.drop n := by
  intro hsince
  obtain ⟨live, ⟨⟨l, hl, _, _⟩, _⟩, _⟩ := (disciplined_reachable h).sockets
  have hnodup := Ledger.created_nodup hl
  have hmem : ∀ calls : List LibraryCall, .netconnNew (some socket) ∈ calls →
      some socket ∈ (socketEvents calls).filterMap Ledger.created := by
    intro calls hcalls
    exact List.mem_filterMap.mpr ⟨.create (some socket),
      List.mem_filterMap.mpr ⟨_, hcalls, rfl⟩, rfl⟩
  rw [← List.take_append_drop n s.calls, socketEvents, List.filterMap_append,
    List.filterMap_append] at hnodup
  exact List.disjoint_of_nodup_append hnodup (hmem _ hbefore) (hmem _ hsince)

theorem Stale.not_current {w : LobaroCoap × ℕ} {socket : SocketId} (h : Stale w socket)
    (hw : (system endpoints).Reachable w.1) (hs : w.1.task = .innerCheck) (hr : w.1.networkReady) :
    ¬ ServesCurrent w (.task {}) := by
  intro hserves
  obtain ⟨other, hother⟩ := hserves hs hr
  obtain rfl := Option.some.inj (h.2.1.symm.trans hother.inUse)
  exact created_once hw h.2.2 hother.created

def stepsLeft : TaskStep → ℕ
  | .contextCheck => 5
  | .newContext => 4
  | .notify => 4
  | .bind => 3
  | .recvTimeout => 3
  | .join => 2
  | .read => 2
  | .setTx => 1
  | .doWork => 1
  | _ => 0

theorem nextStep_toCheck {s : LobaroCoap} (hh : s.task.holds) (hn : s.task ≠ .innerCheck)
    (hc : s.task = .contextCheck → s.context ≠ none) :
    (s.nextStep {}).holds ∧ stepsLeft (s.nextStep {}) < stepsLeft s.task := by
  unfold nextStep
  cases hs : s.task <;> simp_all [TaskStep.holds, stepsLeft]

theorem taskHandle_some {s : LobaroCoap} {a : Answers} (h : s.task ≠ .deleted) :
    ∃ t, s.taskHandle endpoints a = some t := by
  unfold taskHandle
  cases hs : s.task with
  | newSocket => dsimp only; split_ifs <;> exact ⟨_, rfl⟩
  | newContext => dsimp only; split_ifs <;> exact ⟨_, rfl⟩
  | bind => dsimp only; split_ifs <;> exact ⟨_, rfl⟩
  | notify => cases a.dequeued <;> exact ⟨_, rfl⟩
  | deleted => exact absurd hs h
  | _ => exact ⟨_, rfl⟩

theorem serving_context {s : LobaroCoap} (h : (system endpoints).Reachable s)
    (hs : s.task = .contextCheck) : s.context ≠ none := by
  have hd := disciplined_reachable h
  unfold Disciplined at hd
  rw [hs] at hd
  exact hd.context

structure Missed (endpoints : LobaroEndpoints) (w : LobaroCoap × ℕ) (socket : SocketId) : Prop where
  stale : Stale w socket
  ready : w.1.networkReady
  reachable : (system endpoints).Reachable w.1

theorem Missed.step {w : LobaroCoap × ℕ} {socket : SocketId} (h : Missed endpoints w socket)
    (hn : w.1.task ≠ .innerCheck) :
    ∃ v, (connections endpoints).step w (.task {}) = some v ∧
      Missed endpoints v socket ∧ stepsLeft v.1.task < stepsLeft w.1.task := by
  obtain ⟨hh, hsome, hstale⟩ := h.stale
  have hrunning : w.1.task ≠ .deleted := by
    intro hd
    rw [hd] at hh
    cases hh
  have hsocket : w.1.task ≠ .newSocket := by
    intro hd
    rw [hd] at hh
    cases hh
  obtain ⟨t, ht⟩ : ∃ t, w.1.taskHandle endpoints {} = some t := taskHandle_some hrunning
  obtain ⟨hkept, hcalls⟩ := taskHandle_keeps ht hsocket
  have hcontrol := taskHandle_control endpoints ht
  have hg : Grows w.1 t := (List.prefix_append _ _).trans hcalls
  have hstep : (system endpoints).step w.1 (.task {}) = some t := ht
  obtain ⟨hholds, hless⟩ := nextStep_toCheck hh hn (serving_context h.reachable)
  rw [← hcontrol.task] at hholds hless
  refine ⟨(t, w.2), (system endpoints).observed_step.mpr ⟨hstep, rfl⟩, ⟨?_, ?_, ?_⟩, hless⟩
  · exact ⟨hholds, hkept.trans hsome, mem_callsBefore hstale hg⟩
  · exact hcontrol.networkReady.trans h.ready
  · exact h.reachable.step _ hstep

theorem Missed.served {w : LobaroCoap × ℕ} {socket : SocketId}
    (h : Missed endpoints w socket) :
    ∃ actions v, (connections endpoints).run w actions = some v ∧ ¬ ServesCurrent v (.task {}) := by
  induction hk : stepsLeft w.1.task using Nat.strongRecOn generalizing w with
  | ind k ih =>
    by_cases hs : w.1.task = .innerCheck
    · exact ⟨[], w, rfl, h.stale.not_current h.reachable hs h.ready⟩
    · obtain ⟨v, hv, hmissed, hless⟩ := h.step hs
      obtain ⟨actions, u, hu, hnot⟩ := ih _ (hk ▸ hless) hmissed rfl
      exact ⟨.task {} :: actions, u, (connections endpoints).run_cons_some.mpr ⟨v, hv, hu⟩, hnot⟩

end Flaps

theorem serves_current (endpoints : LobaroEndpoints) :
    (∀ actions, (connections endpoints).Along NoFlap ({}, 0) actions →
      (connections endpoints).Along ServesCurrent ({}, 0) actions) ∧
    ∀ w a, (connections endpoints).Reachable w → ¬ NoFlap w a →
      ∃ actions v, (connections endpoints).run w (a :: actions) = some v ∧
        ¬ ServesCurrent v (.task {}) := by
  constructor
  · intro actions h before a after w he hr
    have hstart : Tracked ({}, 0) := ⟨Nat.le_refl 0, fun hh => by cases hh⟩
    have hbefore : (connections endpoints).Along NoFlap ({}, 0) before :=
      System.Along.left _ (he ▸ h)
    exact ((connections endpoints).run_invariant tracked_step hstart hbefore hr).serves a
  · intro w a hw hflap
    cases a with
    | task a => exact absurd trivial hflap
    | event event =>
      cases event with
      | staGotIp =>
        simp only [NoFlap, not_forall, not_not] at hflap
        obtain ⟨socket, hstale⟩ := hflap
        have hstep : (connections endpoints).step w (.event .staGotIp) =
            some (w.1.setNetworkReady true, w.2) := rfl
        have hreachable := (system endpoints).reachable_of_observed (hw.step _ hstep)
        have hmissed : Missed endpoints (w.1.setNetworkReady true, w.2) socket :=
          ⟨hstale, rfl, hreachable⟩
        obtain ⟨actions, v, hv, hnot⟩ := hmissed.served
        exact ⟨actions, v, (connections endpoints).run_cons_some.mpr ⟨_, hstep, hv⟩, hnot⟩
      | _ => exact absurd trivial hflap

-- the network goes and comes back between two checks of the serving loop
def quickFlap : List CoapAction :=
  .event .staGotIp :: List.replicate 6 (.task {}) ++ [.event .staDisconnected, .event .staGotIp]

theorem serves_current_counterexample :
    ¬ ∀ actions, (connections someEndpoints).Along ServesCurrent ({}, 0) actions := by
  intro h
  obtain ⟨socket, hsocket⟩ := h (quickFlap ++ [.task {}]) quickFlap (.task {}) [] _ rfl rfl rfl rfl
  exact absurd hsocket.created List.not_mem_nil

end LobaroCoap

end IoTNode
