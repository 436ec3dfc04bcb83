import IoTNode.Foundations.Systems

set_option autoImplicit false

namespace IoTNode

open Foundations

/-- The clock of the CoAP library: `_timerHandle`, `_seconds` and the timer behind them. -/
structure RtcCounter where
  timerHandle : Bool := false
  -- ghost: how many timers were created
  timers : ℕ := 0
  -- start commands that the timer task has not processed
  starts : ℕ := 0
  active : Bool := false
  seconds : UInt64 := 0
deriving DecidableEq, Repr

inductive RtcAction
  | read (memory accepted : Bool)
  | timerTask
  | expire
deriving DecidableEq, Repr

def RtcAction.isExpire : RtcAction → Bool
  | .expire => true
  | _ => false

namespace RtcCounter

variable (s : RtcCounter)

def createTimer : RtcCounter :=
  if s.timerHandle then s else { s with timerHandle := true, timers := s.timers + 1 }

def startTimer (accepted : Bool) : RtcCounter :=
  -- what `xTimerStart` returns is dropped; the next read tries again
  if s.active = false ∧ accepted = true then { s with starts := s.starts + 1 } else s

def halRtc1HzCnt (memory accepted : Bool) : Option (RtcCounter × UInt32) :=
  if s.timerHandle = false ∧ memory = false then none
  else some (s.createTimer.startTimer accepted, s.seconds.toUInt32)

def timerHandleCallback : RtcCounter := { s with seconds := s.seconds + 1 }

def system : System RtcCounter RtcAction where
  init s := s = {}
  step s
    | .read memory accepted => (s.halRtc1HzCnt memory accepted).map Prod.fst
    | .timerTask =>
      if 0 < s.starts then some { s with starts := s.starts - 1, active := true } else none
    | .expire => if s.active then some s.timerHandleCallback else none

def elapsed (actions : List RtcAction) : ℕ := actions.countP RtcAction.isExpire

structure Ordered : Prop where
  created : s.timerHandle = true → s.timers = 1
  uncreated : s.timerHandle = false → s.timers = 0 ∧ s.starts = 0 ∧ s.active = false

section Steps

variable {s} {t : RtcCounter}

theorem halRtc1HzCnt_some {memory accepted : Bool} {value : UInt32}
    (h : s.halRtc1HzCnt memory accepted = some (t, value)) :
    t = s.createTimer.startTimer accepted ∧ value = s.seconds.toUInt32 := by
  unfold halRtc1HzCnt at h
  split_ifs at h
  obtain ⟨rfl, rfl⟩ := Prod.mk.inj (Option.some.inj h)
  exact ⟨rfl, rfl⟩

theorem createTimer_created (h : s.Ordered) :
    s.createTimer.timerHandle = true ∧ s.createTimer.timers = 1 ∧
      s.createTimer.seconds = s.seconds := by
  unfold createTimer
  cases hhandle : s.timerHandle with
  | true => exact ⟨hhandle, h.created hhandle, rfl⟩
  | false =>
    refine ⟨rfl, ?_, rfl⟩
    change s.timers + 1 = 1
    rw [(h.uncreated hhandle).1]

theorem startTimer_kept (s : RtcCounter) (accepted : Bool) :
    (s.startTimer accepted).timerHandle = s.timerHandle ∧
      (s.startTimer accepted).timers = s.timers ∧ (s.startTimer accepted).seconds = s.seconds := by
  unfold startTimer
  split_ifs <;> exact ⟨rfl, rfl, rfl⟩

theorem read_created {memory accepted : Bool} {value : UInt32} (h : s.Ordered)
    (ht : s.halRtc1HzCnt memory accepted = some (t, value)) :
    t.timerHandle = true ∧ t.timers = 1 ∧ t.seconds = s.seconds := by
  obtain ⟨rfl, _⟩ := halRtc1HzCnt_some ht
  obtain ⟨hhandle, htimers, hseconds⟩ := startTimer_kept s.createTimer accepted
  obtain ⟨hcreated, hone, hsame⟩ := createTimer_created h
  exact ⟨hhandle.trans hcreated, htimers.trans hone, hseconds.trans hsame⟩

theorem ordered_step (s : RtcCounter) (a : RtcAction) (t : RtcCounter) (h : s.Ordered)
    (ht : system.step s a = some t) :
    t.Ordered ∧ (s.timerHandle = true → t.timerHandle = true) ∧
      t.seconds = s.seconds + UInt64.ofNat (if RtcAction.isExpire a then 1 else 0) := by
  cases a with
  | read memory accepted =>
    obtain ⟨⟨u, value⟩, hu, rfl⟩ := Option.map_eq_some_iff.mp ht
    obtain ⟨hhandle, htimers, hseconds⟩ := read_created h hu
    refine ⟨⟨fun _ => htimers, fun hn => ?_⟩, fun _ => hhandle, ?_⟩
    · exact absurd (hhandle.symm.trans hn) (by decide)
    · exact hseconds.trans (UInt64.add_zero _).symm
  | timerTask =>
    obtain ⟨hstarts, ht⟩ := Option.ite_none_right_eq_some.mp ht
    obtain rfl := Option.some.inj ht
    refine ⟨⟨h.created, fun hn => ?_⟩, id, (UInt64.add_zero _).symm⟩
    have hnone := (h.uncreated hn).2.1
    omega
  | expire =>
    obtain ⟨hactive, ht⟩ := Option.ite_none_right_eq_some.mp ht
    obtain rfl := Option.some.inj ht
    refine ⟨⟨h.created, fun hn => ?_⟩, id, rfl⟩
    have hidle := (h.uncreated hn).2.2
    exact absurd (hactive.symm.trans hidle) (by decide)

theorem reachable_ordered (h : system.Reachable s) : s.Ordered := by
  refine system.reachable_invariant ?_ (fun s a t hs ht => (ordered_step s a t hs ht).1) h
  rintro s rfl
  exact ⟨fun hn => (by cases hn), fun _ => ⟨rfl, rfl, rfl⟩⟩

theorem run_seconds {actions : List RtcAction} (h : s.Ordered)
    (ht : system.run s actions = some t) :
    t.Ordered ∧ (s.timerHandle = true → t.timerHandle = true) ∧
      t.seconds = s.seconds + UInt64.ofNat (elapsed actions) := by
  induction actions generalizing s with
  | nil =>
    obtain rfl := Option.some.inj ht
    exact ⟨h, id, (UInt64.add_zero _).symm⟩
  | cons a actions ih =>
    obtain ⟨u, hu, ht⟩ := system.run_cons_some.mp ht
    obtain ⟨hordered, hhandle, hseconds⟩ := ordered_step s a u h hu
    obtain ⟨hlast, hkept, hsum⟩ := ih hordered ht
    refine ⟨hlast, fun hs => hkept (hhandle hs), ?_⟩
    unfold elapsed at hsum ⊢
    rw [hsum, hseconds, UInt64.add_assoc, ← UInt64.ofNat_add, List.countP_cons, Nat.add_comm]

end Steps

/-- Two reads of the clock are as many seconds apart as the timer expired between them, however
often `_seconds` exceeded 32 bits; there is one timer, and no later read can fail to create it. -/
theorem clock_elapsed (s u t v : RtcCounter) (between : List RtcAction) (hs : system.Reachable s)
    (memory accepted memory' accepted' : Bool) (first last : UInt32)
    (hfirst : s.halRtc1HzCnt memory accepted = some (u, first))
    (hrun : system.run u between = some t)
    (hlast : t.halRtc1HzCnt memory' accepted' = some (v, last)) :
    last - first = UInt32.ofNat (elapsed between) ∧ v.timers = 1 ∧
      ∀ memory accepted, t.halRtc1HzCnt memory accepted ≠ none := by
  have hu : system.Reachable u :=
    hs.step _ (a := .read memory accepted) (Option.map_eq_some_iff.mpr ⟨_, hfirst, rfl⟩)
  obtain ⟨hhandle, _, hsame⟩ := read_created (reachable_ordered hs) hfirst
  obtain ⟨hordered, hkept, hseconds⟩ := run_seconds (reachable_ordered hu) hrun
  refine ⟨?_, (read_created hordered hlast).2.1, ?_⟩
  · obtain ⟨_, rfl⟩ := halRtc1HzCnt_some hfirst
    obtain ⟨_, rfl⟩ := halRtc1HzCnt_some hlast
    rw [hseconds, hsame, UInt64.toUInt32_add, UInt64.toUInt32_ofNat', UInt32.add_comm,
      UInt32.add_sub_cancel]
  · intro memory accepted
    unfold halRtc1HzCnt
    rw [if_neg (by simp [hkept hhandle])]
    exact Option.some_ne_none _

theorem clock_elapsed_two :
    ∃ (s u t v : RtcCounter) (first last : UInt32), s.halRtc1HzCnt true true = some (u, first) ∧
      system.run u [.timerTask, .expire, .read false false, .expire] = some t ∧
      t.halRtc1HzCnt false false = some (v, last) ∧ last - first = UInt32.ofNat 2 := by
  have hs : system.Reachable {} := ⟨{}, [], rfl, rfl⟩
  have helapsed := clock_elapsed {} _ _ _ [.timerTask, .expire, .read false false, .expire] hs true
    true false false _ _ rfl rfl rfl
  exact ⟨{}, _, _, _, _, _, rfl, rfl, rfl, helapsed.1⟩

end RtcCounter

end IoTNode
