import IoTNode.SwitchStartup

set_option autoImplicit false

namespace IoTNode.SwitchResource

open Coap Foundations Lobaro

/-- What happened at the switch since the node was started. -/
structure SwitchHistory where
  -- since the task last read the pin
  edges : ℕ := 0
  -- the writes to `_state` in the loop of the task
  changes : ℕ := 0
  -- the calls of `NotifyObservers` that found the queue full
  dropped : ℕ := 0
  deliveries : ℕ := 0

namespace SwitchWorld

variable (this : ResourceAddr) (activeLevel : UInt32) (w : SwitchWorld)

def told (d : State) : SwitchWorld := { w with delivered := d }

def noteTask (h : SwitchHistory) : SwitchHistory :=
  match w.switchStep with
  | .sample => { h with edges := 0 }
  | .write _ => { h with changes := h.changes + 1 }
  | .enqueue =>
    if (entries w.notifyQueue).length = kNotifyQueueSize then { h with dropped := h.dropped + 1 }
    else h
  | _ => h

def noteCoap (h : SwitchHistory) : SwitchHistory :=
  match w.coapStep with
  | .receive => h
  | .notify _ => { h with deliveries := h.deliveries + 1 }

/-- The changes that the interrupts so far may still lead to. -/
def due : ℕ :=
  (if w.switchSemaphore then 1 else 0) +
    match w.switchStep with
    | .sample | .compare _ | .write _ => 1
    | _ => 0

def calling : ℕ := if w.switchStep = .enqueue then 1 else 0

def notifying : ℕ := if w.coapStep = .receive then 0 else 1

/-- Every change pays for one call of `NotifyObservers`, which pays for one notification. -/
structure Accounts (h : SwitchHistory) : Prop where
  changes : h.changes + w.due ≤ w.interrupts + 1
  balance : h.deliveries + w.notifying + (entries w.notifyQueue).length + h.dropped + w.calling =
    h.changes
  queue : w.notifyQueue ≠ none

variable {this activeLevel w} {v : SwitchWorld} {h : SwitchHistory}

theorem switchTask_told {result : CoapResult} {d : State}
    (hv : w.switchTask this activeLevel result = some v) :
    (w.told d).switchTask this activeLevel result = some (v.told d) := by
  unfold switchTask at hv ⊢
  dsimp only [told]
  cases hs : w.switchStep with
  | take =>
    simp only [hs] at hv ⊢
    obtain ⟨hsem, hv⟩ := Option.ite_none_right_eq_some.mp hv
    obtain rfl := Option.some.inj hv
    exact if_pos hsem
  | _ =>
    simp only [hs, Option.some.injEq] at hv ⊢
    subst hv
    rfl

theorem coapTask_told {d : State} (hv : w.coapTask this = some v) :
    ∃ e, (w.told d).coapTask this = some (v.told e) ∧
      (e = d ∧ v.delivered = w.delivered ∧ w.coapStep = .receive ∨
        ∃ resource, w.coapStep = .notify resource ∧ e = (if resource = this then w.state else d) ∧
          v.delivered = if resource = this then w.state else w.delivered) := by
  unfold coapTask at hv ⊢
  dsimp only [told]
  cases hs : w.coapStep with
  | receive =>
    simp only [hs] at hv ⊢
    obtain ⟨queue, hq, rfl⟩ := Option.map_eq_some_iff.mp hv
    rw [hq]
    exact ⟨d, rfl, Or.inl ⟨rfl, rfl, trivial⟩⟩
  | notify resource =>
    simp only [hs, Option.some.injEq] at hv ⊢
    subst hv
    exact ⟨_, rfl, Or.inr ⟨resource, rfl, rfl, rfl⟩⟩

theorem noteTask_deliveries (w : SwitchWorld) (h : SwitchHistory) :
    (w.noteTask h).deliveries = h.deliveries := by
  unfold noteTask
  cases w.switchStep with
  | enqueue =>
    dsimp only
    split_ifs <;> rfl
  | _ => rfl

theorem Accounts.switchTask {result : CoapResult} (ha : w.Accounts h)
    (hv : w.switchTask this activeLevel result = some v) : v.Accounts (w.noteTask h) := by
  obtain ⟨hchanges, hbalance, hqueue⟩ := ha
  obtain ⟨queue, hq⟩ := Option.ne_none_iff_exists'.mp hqueue
  unfold SwitchWorld.switchTask at hv
  unfold due at hchanges
  unfold calling notifying at hbalance
  unfold noteTask
  cases hs : w.switchStep with
  | take =>
    simp only [hs] at hv hchanges hbalance ⊢
    obtain ⟨hsem, hv⟩ := Option.ite_none_right_eq_some.mp hv
    obtain rfl := Option.some.inj hv
    refine ⟨?_, ?_, hqueue⟩
    · simpa [due, hsem] using hchanges
    · simpa [calling, notifying] using hbalance
  | sample =>
    simp only [hs, Option.some.injEq] at hv hchanges hbalance ⊢
    subst hv
    refine ⟨?_, ?_, hqueue⟩
    · simpa [due] using hchanges
    · simpa [calling, notifying] using hbalance
  | compare state =>
    simp only [hs, Option.some.injEq] at hv hchanges hbalance ⊢
    subst hv
    refine ⟨?_, ?_, hqueue⟩
    · by_cases hne : state = w.state
      · simp only [due, hne, ne_eq, not_true_eq_false, if_false]
        omega
      · simpa [due, hne] using hchanges
    · by_cases hne : state = w.state <;> simpa [calling, notifying, hne] using hbalance
  | write state =>
    simp only [hs, Option.some.injEq] at hv hchanges hbalance ⊢
    subst hv
    refine ⟨?_, ?_, hqueue⟩
    · dsimp only [due]
      omega
    · simp only [calling, notifying, reduceCtorEq, if_false, if_true] at hbalance ⊢
      omega
  | enqueue =>
    simp only [hs, Option.some.injEq] at hv hchanges hbalance ⊢
    subst hv
    rw [hq] at hbalance
    rw [hq, notifyObservers_created]
    by_cases hf : queue.Full
    · have hlength : (entries (some queue)).length = kNotifyQueueSize := hf
      rw [if_pos hlength, xQueueSend_full hf]
      refine ⟨hchanges, ?_, Option.some_ne_none _⟩
      simp only [calling, notifying, reduceCtorEq, if_false, if_true] at hbalance ⊢
      omega
    · have hlength : (entries (some queue)).length ≠ kNotifyQueueSize := hf
      obtain ⟨sent, hs, _, hitems⟩ := xQueueSend_room hf this
      rw [if_neg hlength, hs]
      refine ⟨hchanges, ?_, Option.some_ne_none _⟩
      simp only [calling, notifying, entries, Option.elim_some, hitems, List.length_append,
        List.length_singleton, reduceCtorEq, if_false, if_true] at hbalance ⊢
      omega
  | delay =>
    simp only [hs, Option.some.injEq] at hv hchanges hbalance ⊢
    subst hv
    refine ⟨?_, ?_, hqueue⟩
    · simpa [due] using hchanges
    · simpa [calling, notifying] using hbalance

theorem Accounts.coapTask (ha : w.Accounts h) (hv : w.coapTask this = some v) :
    v.Accounts (w.noteCoap h) := by
  obtain ⟨hchanges, hbalance, hqueue⟩ := ha
  unfold SwitchWorld.coapTask at hv
  unfold notifying at hbalance
  unfold noteCoap
  cases hs : w.coapStep with
  | receive =>
    simp only [hs] at hv hbalance ⊢
    obtain ⟨queue, hq, rfl⟩ := Option.map_eq_some_iff.mp hv
    rw [hq] at hbalance
    cases hr : xQueueReceive queue with
    | mk rest item =>
      cases item with
      | none =>
        obtain ⟨_, rfl⟩ := xQueueReceive_none hr
        exact ⟨hchanges, hbalance, Option.some_ne_none _⟩
      | some p =>
        have hlength := congrArg List.length (xQueueReceive_some hr).2
        refine ⟨hchanges, ?_, Option.some_ne_none _⟩
        simp only [calling, notifying, entries, Option.elim_some, List.length_cons, reduceCtorEq,
          if_false, if_true] at hlength hbalance ⊢
        omega
  | notify resource =>
    simp only [hs, Option.some.injEq, reduceCtorEq, if_false] at hv hbalance ⊢
    subst hv
    refine ⟨hchanges, ?_, hqueue⟩
    simp only [calling, notifying, if_true] at hbalance ⊢
    omega

/-- The pin as the task last read it. -/
def Seen (activeLevel : UInt32) (w : SwitchWorld) (h : SwitchHistory) (state : State) : Prop :=
  state = reading activeLevel (if h.edges % 2 = 0 then w.level else !w.level)

theorem Seen.edge {state : State} (hs : Seen activeLevel w h state) :
    Seen activeLevel w.edge { h with edges := h.edges + 1 } state := by
  unfold Seen SwitchWorld.edge at *
  dsimp only
  rw [hs]
  by_cases he : h.edges % 2 = 0
  · have ho : (h.edges + 1) % 2 ≠ 0 := by omega
    rw [if_pos he, if_neg ho, Bool.not_not]
  · have ho : (h.edges + 1) % 2 = 0 := by omega
    rw [if_neg he, if_pos ho]

theorem Seen.switchTask {result : CoapResult} (hs : Seen activeLevel w h w.view)
    (hv : w.switchTask this activeLevel result = some v) :
    Seen activeLevel v (w.noteTask h) v.view := by
  unfold SwitchWorld.switchTask at hv
  unfold Seen view at hs
  unfold noteTask
  cases hstep : w.switchStep with
  | take =>
    simp only [hstep] at hv hs ⊢
    obtain ⟨_, hv⟩ := Option.ite_none_right_eq_some.mp hv
    obtain rfl := Option.some.inj hv
    exact hs
  | sample =>
    simp only [hstep, Option.some.injEq] at hv ⊢
    subst hv
    rfl
  | compare state =>
    simp only [hstep, Option.some.injEq] at hv hs ⊢
    subst hv
    by_cases hne : state = w.state
    · simpa [Seen, view, hne] using hs
    · simpa [Seen, view, hne] using hs
  | enqueue =>
    simp only [hstep, Option.some.injEq] at hv hs ⊢
    subst hv
    split_ifs <;> exact hs
  | _ =>
    simp only [hstep, Option.some.injEq] at hv hs ⊢
    subst hv
    exact hs

theorem reading_not_iff (activeLevel : UInt32) (level : Bool) :
    reading activeLevel (!level) = reading activeLevel level ↔ activeLevel ≠ 0 ∧ activeLevel ≠ 1 := by
  unfold reading
  by_cases h0 : activeLevel = 0
  · subst h0
    cases level <;> decide
  · by_cases h1 : activeLevel = 1
    · subst h1
      cases level <;> decide
    · have hne : ∀ b, gpioGetLevel b ≠ activeLevel := by
        rintro (_ | _)
        · exact Ne.symm h0
        · exact Ne.symm h1
      rw [if_neg (hne _), if_neg (hne _)]
      exact iff_of_true rfl ⟨h0, h1⟩

theorem Seen.current_iff {state : State} (hs : Seen activeLevel w h state) :
    state = reading activeLevel w.level ↔
      h.edges % 2 = 0 ∨ activeLevel ≠ 0 ∧ activeLevel ≠ 1 := by
  unfold Seen at hs
  subst hs
  by_cases he : h.edges % 2 = 0
  · simp [he]
  · rw [if_neg he, reading_not_iff, or_iff_right he]

end SwitchWorld

namespace SwitchStartup

variable (this : ResourceAddr) (activeLevel : UInt32)

def note (s : SwitchStartup) (h : SwitchHistory) : StartupAction → SwitchHistory
  | .edge => { h with edges := h.edges + 1 }
  | .switchTask _ _ =>
    match s.taskStep with
    | .sample => { h with edges := 0 }
    | .loop => s.world.noteTask h
    | _ => h
  | .coapTask => s.world.noteCoap h
  | _ => h

/-- What `_state` was or is about to be set to. -/
def seen (s : SwitchStartup) : Option State :=
  match s.taskStep with
  | .write state => some state
  | .loop => some s.world.view
  | _ => none

/-- Once in its loop the task is the one that starts with a given semaphore; only the observers
from before that may know less. -/
structure Follows (s : SwitchStartup) (h : SwitchHistory) : Prop where
  prepared : s.Prepared
  accounts : s.world.Accounts h
  unstarted : ¬ s.Ready → h.changes = 0
  seen : ∀ state, s.seen = some state → SwitchWorld.Seen activeLevel s.world h state
  started : s.Ready → ∃ d, (SwitchWorld.system this activeLevel).Reachable (s.world.told d) ∧
    (d = s.world.delivered ∨ h.deliveries = 0 ∧ s.world.delivered = .idle)

def history : System (SwitchStartup × SwitchHistory) StartupAction :=
  (system this activeLevel).observed note {}

section Follows

variable {this activeLevel} {s t : SwitchStartup} {h : SwitchHistory}

theorem Initial.follows (hs : s.Initial) : s.Follows this activeLevel {} where
  prepared := hs.prepared
  accounts := by
    refine ⟨?_, ?_, ?_⟩
    · simp [SwitchWorld.due, hs.switchSemaphore, hs.switchStep]
    · simp [SwitchWorld.notifying, SwitchWorld.calling, hs.coapStep, hs.notifyQueue, hs.switchStep,
        entries, BoundedQueue.empty]
    · simp [hs.notifyQueue]
  unstarted _ := rfl
  seen state hseen := by
    unfold SwitchStartup.seen at hseen
    rw [hs.taskStep] at hseen
    cases hseen
  started hr := by
    have hloop := hr.1
    rw [hs.taskStep] at hloop
    cases hloop

theorem Follows.construct {succeeded : Bool} (hf : s.Follows this activeLevel h)
    (ht : s.construct succeeded = some t) : t.Follows this activeLevel h := by
  have hprepared : t.Prepared := hf.prepared.construct ht
  rcases construct_cases ht with ⟨c, k, rfl, _, hk⟩ | ⟨_, rfl⟩
  · rcases hk with rfl | ⟨hcreate, hk⟩
    · exact ⟨hprepared, hf.accounts, hf.unstarted, hf.seen, hf.started⟩
    · have hfirst : s.taskStep = .absent := hf.prepared.task hcreate
      have hunready : ¬ s.Ready := fun hr => by
        have hloop := hr.1
        rw [hfirst] at hloop
        cases hloop
      refine ⟨hprepared, hf.accounts, fun _ => hf.unstarted hunready, ?_, ?_⟩
      · intro state hseen
        rcases hk with rfl | rfl <;> cases hseen
      · intro hr
        have hloop : k = .loop := hr.1
        rcases hk with rfl | rfl <;> cases hloop
  · refine ⟨hprepared, ⟨hf.accounts.changes, hf.accounts.balance, hf.accounts.queue⟩, hf.unstarted,
      hf.seen, ?_⟩
    intro hr
    obtain ⟨d, hd, htold⟩ := hf.started hr
    exact ⟨d, hd.step _ (a := .register) rfl, htold⟩

theorem Follows.edge (hf : s.Follows this activeLevel h) :
    Follows this activeLevel { s with world := s.world.edge } { h with edges := h.edges + 1 } where
  prepared := hf.prepared.edge
  accounts := ⟨hf.accounts.changes, hf.accounts.balance, hf.accounts.queue⟩
  unstarted := hf.unstarted
  seen state hseen := (hf.seen state hseen).edge
  started hr := by
    obtain ⟨d, hd, htold⟩ := hf.started hr
    exact ⟨d, hd.step _ (a := .edge) rfl, htold⟩

theorem Follows.gpioHandler (hf : s.Follows this activeLevel h) (ht : s.gpioHandler = some t) :
    t.Follows this activeLevel h := by
  have hprepared : t.Prepared := hf.prepared.gpioHandler ht
  obtain ⟨hp, ⟨_, rfl⟩ | ⟨_, rfl⟩⟩ := gpioHandler_cases ht
  · refine ⟨hprepared, ⟨?_, hf.accounts.balance, hf.accounts.queue⟩, hf.unstarted, hf.seen, ?_⟩
    · have hchanges := hf.accounts.changes
      unfold SwitchWorld.due at hchanges ⊢
      dsimp only
      split_ifs at hchanges ⊢ <;> omega
    · intro hr
      obtain ⟨d, hd, htold⟩ := hf.started hr
      refine ⟨d, hd.step _ (a := .gpioHandler) ?_, htold⟩
      change SwitchWorld.gpioHandler _ = _
      exact if_pos hp
  · exact ⟨hprepared, hf.accounts, hf.unstarted, hf.seen, hf.started⟩

theorem Follows.coapTask {world : SwitchWorld} (hf : s.Follows this activeLevel h)
    (ht : s.world.coapTask this = some world) :
    Follows this activeLevel { s with world := world } (s.world.noteCoap h) := by
  obtain ⟨_, _, _, _, hstep, hlevel, hstate⟩ := SwitchWorld.coapTask_frame ht
  have hnote : (s.world.noteCoap h).changes = h.changes ∧ (s.world.noteCoap h).edges = h.edges := by
    unfold SwitchWorld.noteCoap
    cases s.world.coapStep <;> exact ⟨rfl, rfl⟩
  refine ⟨hf.prepared.coapTask ht, hf.accounts.coapTask ht, ?_, ?_, ?_⟩
  · rw [hnote.1]
    exact hf.unstarted
  · intro state hseen
    have hview : world.view = s.world.view := by
      unfold SwitchWorld.view
      rw [hstep, hstate]
    have hsame : s.seen = some state := by
      unfold SwitchStartup.seen at hseen ⊢
      dsimp only at hseen
      rw [hview] at hseen
      exact hseen
    unfold SwitchWorld.Seen
    rw [hnote.2]
    dsimp only
    rw [hlevel]
    exact hf.seen state hsame
  · intro hr
    obtain ⟨d, hd, htold⟩ := hf.started hr
    obtain ⟨e, he, hafter⟩ := SwitchWorld.coapTask_told (d := d) ht
    refine ⟨e, hd.step _ (a := .coapTask) he, ?_⟩
    rcases hafter with ⟨rfl, hsame, hreceive⟩ | ⟨resource, hnotify, rfl, hdelivered⟩
    · unfold SwitchWorld.noteCoap
      rw [hreceive]
      dsimp only
      rw [hsame]
      exact htold
    · have hcoherent := (SwitchWorld.system this activeLevel).reachable_invariant
        (fun _ hi => hi.coherent) SwitchWorld.coherent_step hd
      have hthis : resource = this := hcoherent.notifying resource hnotify
      rw [if_pos hthis] at hdelivered ⊢
      exact Or.inl hdelivered.symm

theorem Follows.switchTask {allocated : Bool} {result : CoapResult}
    (hf : s.Follows this activeLevel h)
    (ht : s.switchTask this activeLevel allocated result = some t) :
    t.Follows this activeLevel (note s h (.switchTask allocated result)) := by
  have hprepared : t.Prepared := hf.prepared.switchTask ht
  have hunready : s.taskStep ≠ .loop → ¬ s.Ready := fun hne hr => hne hr.1
  unfold SwitchStartup.switchTask at ht
  unfold note
  cases hk : s.taskStep with
  | absent =>
    simp only [hk] at ht
    cases ht
  | createSemaphore =>
    simp only [hk, Option.some.injEq] at ht ⊢
    have hchanges := hf.unstarted (hunready (by rw [hk]; decide))
    cases allocated
    all_goals
      obtain rfl := ht
      exact ⟨hprepared, hf.accounts, fun _ => hchanges, fun _ hs => (by cases hs),
        fun hr => (by cases hr.1)⟩
  | giveSemaphore =>
    simp only [hk, Option.some.injEq] at ht ⊢
    subst ht
    have hnot : ¬ s.Ready := hunready (by rw [hk]; decide)
    have hchanges := hf.unstarted hnot
    refine ⟨hprepared, ⟨?_, hf.accounts.balance, hf.accounts.queue⟩, fun _ => hchanges,
      fun _ hs => (by cases hs), fun hr => (by cases hr.1)⟩
    simp [SwitchWorld.due, hchanges, (hf.prepared.waiting hnot).switchStep]
  | sample =>
    simp only [hk, Option.some.injEq] at ht ⊢
    subst ht
    have hchanges := hf.unstarted (hunready (by rw [hk]; decide))
    refine ⟨hprepared, ⟨hf.accounts.changes, hf.accounts.balance, hf.accounts.queue⟩,
      fun _ => hchanges, ?_, fun hr => (by cases hr.1)⟩
    intro state hseen
    obtain rfl := Option.some.inj hseen
    rfl
  | write state =>
    simp only [hk, Option.some.injEq] at ht ⊢
    subst ht
    have hnot : ¬ s.Ready := hunready (by rw [hk]; simp)
    have hchanges := hf.unstarted hnot
    have hwaiting := hf.prepared.waiting hnot
    refine ⟨hprepared, ⟨hf.accounts.changes, hf.accounts.balance, hf.accounts.queue⟩,
      fun _ => hchanges, ?_, ?_⟩
    · intro state' hseen
      have hview : SwitchWorld.view { s.world with state := state } = state := by
        simp [SwitchWorld.view, hwaiting.switchStep]
      obtain rfl := Option.some.inj hseen
      rw [hview]
      exact hf.seen state (by rw [SwitchStartup.seen, hk])
    · intro hr
      have hsemaphore : s.world.switchSemaphore = true := by
        simpa [hk] using hf.prepared.given hr.2
      refine ⟨state, ⟨SwitchWorld.told { s.world with state := state } state, [],
        ⟨hsemaphore, hwaiting.switchStep, hwaiting.notifyQueue, hwaiting.coapStep, rfl,
          hf.prepared.unregistered⟩, rfl⟩, Or.inr ⟨?_, hwaiting.delivered⟩⟩
      have hbalance := hf.accounts.balance
      omega
  | loop =>
    simp only [hk] at ht ⊢
    by_cases hs : s.semaphore = .created
    · rw [if_pos hs] at ht
      obtain ⟨world, hworld, rfl⟩ := Option.map_eq_some_iff.mp ht
      refine ⟨hprepared, hf.accounts.switchTask hworld, fun hr => absurd ⟨rfl, hs⟩ hr, ?_, ?_⟩
      · intro state hseen
        obtain rfl := Option.some.inj hseen
        have hbefore : SwitchWorld.Seen activeLevel s.world h s.world.view :=
          hf.seen _ (by rw [SwitchStartup.seen, hk])
        exact hbefore.switchTask hworld
      · intro _
        obtain ⟨d, hd, htold⟩ := hf.started ⟨hk, hs⟩
        refine ⟨d, hd.step _ (a := .switchTask result) (SwitchWorld.switchTask_told hworld), ?_⟩
        rw [SwitchWorld.noteTask_deliveries]
        dsimp only
        rw [(SwitchWorld.switchTask_frame hworld).2.2.2]
        exact htold
    · rw [if_neg hs] at ht
      obtain rfl := Option.some.inj ht
      have hnot : ¬ s.Ready := fun hr => hs hr.2
      have hnote : s.world.noteTask h = h := by
        simp [SwitchWorld.noteTask, (hf.prepared.waiting hnot).switchStep]
      rw [hnote]
      refine ⟨hprepared, hf.accounts, fun _ => hf.unstarted hnot, ?_, fun hr => absurd hr.2 hs⟩
      intro state hseen
      apply hf.seen state
      rw [SwitchStartup.seen, hk]
      exact hseen

theorem follows_step (p : SwitchStartup × SwitchHistory) (a : StartupAction)
    (q : SwitchStartup × SwitchHistory) (hf : p.1.Follows this activeLevel p.2)
    (hq : (history this activeLevel).step p a = some q) : q.1.Follows this activeLevel q.2 := by
  obtain ⟨hstep, hnote⟩ := (system this activeLevel).observed_step.mp hq
  obtain ⟨_, hstep⟩ := step_some.mp hstep
  rw [hnote]
  cases a with
  | construct succeeded => exact hf.construct hstep
  | switchTask allocated result => exact hf.switchTask hstep
  | edge =>
    rw [← Option.some.inj hstep]
    exact hf.edge
  | gpioHandler => exact hf.gpioHandler hstep
  | coapTask =>
    obtain ⟨world, hworld, hw⟩ := Option.map_eq_some_iff.mp hstep
    rw [← hw]
    exact hf.coapTask hworld

theorem history_follows {p : SwitchStartup × SwitchHistory}
    (hp : (history this activeLevel).Reachable p) : p.1.Follows this activeLevel p.2 := by
  refine (history this activeLevel).reachable_invariant ?_ follows_step hp
  rintro ⟨s, h⟩ ⟨hs, rfl⟩
  exact hs.follows

end Follows

/-- However the start of the node interleaves: when the switch has nothing left to do, `_state` is
wrong exactly if no interrupt was handled yet and the pin changed unseen an odd number of times.
Only an observer from before the first reading can be left with less than `_state`. -/
theorem startup_coherent (p : SwitchStartup × SwitchHistory)
    (hp : (history this activeLevel).Reachable p) (hready : p.1.Ready)
    (hpending : p.1.world.pending = 0) (hsemaphore : p.1.world.switchSemaphore = false)
    (hstep : p.1.world.switchStep = .take) :
    (p.1.world.state = reading activeLevel p.1.world.level ↔
      0 < p.1.world.interrupts ∨ p.2.edges % 2 = 0 ∨ activeLevel ≠ 0 ∧ activeLevel ≠ 1) ∧
    (entries p.1.world.notifyQueue = [] → p.1.world.coapStep = .receive →
      p.1.world.delivered = p.1.world.state ∨
        p.2.deliveries = 0 ∧ p.1.world.delivered = .idle) := by
  have hf : p.1.Follows this activeLevel p.2 := history_follows hp
  obtain ⟨d, hd, htold⟩ := hf.started hready
  have hcoherent := (SwitchWorld.system this activeLevel).reachable_invariant
    (fun _ hi => hi.coherent) SwitchWorld.coherent_step hd
  have hview : p.1.world.view = p.1.world.state := by simp [SwitchWorld.view, hstep]
  constructor
  · have hseen : SwitchWorld.Seen activeLevel p.1.world p.2 p.1.world.state := by
      rw [← hview]
      exact hf.seen _ (by rw [seen, hready.1])
    rw [hseen.current_iff]
    refine ⟨Or.inr, ?_⟩
    rintro (hi | hsame)
    · rw [← hseen.current_iff, ← hview]
      apply (hcoherent.pin hi).resolve_left
      rintro (hdue | hdue | hdue)
      · exact absurd hpending (Nat.ne_of_gt hdue)
      · exact absurd (hsemaphore.symm.trans hdue) (by simp)
      · exact absurd (hstep.symm.trans hdue) (by simp)
    · exact hsame
  · intro hempty hreceive
    have hdelivered : d = p.1.world.state := by
      apply hcoherent.observers.resolve_left
      rintro (hdue | hdue | hdue)
      · exact absurd (hstep.symm.trans hdue) (by simp)
      · exact hdue hempty
      · exact absurd (hreceive.symm.trans hdue) (by simp)
    rw [← hdelivered]
    rcases htold with rfl | hnever
    · exact Or.inl rfl
    · exact Or.inr hnever

/-- The button is pushed after the task has read the pin and before the handler is added. -/
def pushedUnseen : List StartupAction :=
  [.construct true, .switchTask true .ok, .switchTask true .ok, .switchTask true .ok,
    .switchTask true .ok, .switchTask true .ok, .switchTask true .ok, .switchTask true .ok,
    .switchTask true .ok, .edge, .construct true, .construct true, .construct true]

theorem startup_coherent_unseen :
    ∃ p, (history 0 0).Reachable p ∧ p.1.Ready ∧ p.1.world.registered = true ∧
      p.1.world.state ≠ reading 0 p.1.world.level := by
  have hp : (history 0 0).Reachable _ :=
    ⟨(powerOn, {}), pushedUnseen, ⟨powerOn_initial, rfl⟩, rfl⟩
  refine ⟨_, hp, ⟨rfl, rfl⟩, rfl, fun hstate => ?_⟩
  have hiff := (startup_coherent 0 0 _ hp ⟨rfl, rfl⟩ rfl rfl rfl).1.mp hstate
  exact absurd hiff (by decide)

/-- The semaphore merges the bounces of the button: the interrupts so far and the semaphore that
was given at the start bound the changes of `_state`, each of which is delivered once, is being
notified, waits in the queue, found it full, or is about to be queued. -/
theorem changes_accounted (p : SwitchStartup × SwitchHistory)
    (hp : (history this activeLevel).Reachable p) :
    p.2.changes ≤ p.1.world.interrupts + 1 ∧
      p.2.deliveries + (if p.1.world.coapStep = .receive then 0 else 1) +
        (entries p.1.world.notifyQueue).length + p.2.dropped +
        (if p.1.world.switchStep = .enqueue then 1 else 0) = p.2.changes ∧
      p.2.deliveries + p.2.dropped ≤ p.2.changes ∧
      (p.1.world.switchStep ≠ .enqueue → entries p.1.world.notifyQueue = [] →
        p.1.world.coapStep = .receive → p.2.deliveries + p.2.dropped = p.2.changes) := by
  have haccounts := (history_follows hp).accounts
  have hchanges := haccounts.changes
  have hbalance := haccounts.balance
  refine ⟨by omega, hbalance, by omega, ?_⟩
  intro hstep hempty hreceive
  have hnotifying : p.1.world.notifying = 0 := if_pos hreceive
  have hcalling : p.1.world.calling = 0 := if_neg hstep
  rw [hnotifying, hcalling, hempty, List.length_nil] at hbalance
  omega

def bounced : List StartupAction :=
  [.construct true, .switchTask true .ok, .switchTask true .ok, .switchTask true .ok,
    .switchTask true .ok, .construct true, .construct true, .construct true,
    .edge, .edge, .edge, .gpioHandler, .gpioHandler, .switchTask true .ok, .switchTask true .ok,
    .gpioHandler, .switchTask true .ok, .switchTask true .ok, .switchTask true .ok,
    .coapTask, .coapTask]

theorem changes_accounted_bounced :
    ∃ p, (history 0 0).Reachable p ∧ p.1.world.interrupts = 3 ∧ p.2.changes = 1 ∧
      p.2.deliveries + p.2.dropped = p.2.changes := by
  have hp : (history 0 0).Reachable _ := ⟨(powerOn, {}), bounced, ⟨powerOn_initial, rfl⟩, rfl⟩
  exact ⟨_, hp, rfl, rfl, (changes_accounted 0 0 _ hp).2.2.2 (by decide) rfl rfl⟩

end SwitchStartup

end IoTNode.SwitchResource
