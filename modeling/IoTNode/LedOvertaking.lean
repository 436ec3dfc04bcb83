import IoTNode.LedTasks
import IoTNode.NodeReports

set_option autoImplicit false

namespace IoTNode

open Foundations LEDResource LedRefinement

theorem ledCalls_makes {s : MainLoop} {connected : Bool} {call : LedCall}
    (h : call ∈ s.ledCalls connected) : LedTask.main.makes call = true := by
  unfold MainLoop.ledCalls at h
  cases connected with
  | false =>
    rcases List.mem_cons.mp h with rfl | h
    · rfl
    · obtain rfl := List.mem_singleton.mp h
      rfl
  | true =>
    by_cases hlast : s.lastConnectedState = true
    · obtain rfl : call = .setMode .user := by simpa [hlast] using h
      rfl
    · obtain rfl : call = .setStatusColor 0 15 0 250 := by simpa [hlast] using h
      rfl

theorem memberCalls_makes {color : Option Rgb} {mode : Option Mode} {call : LedCall}
    (h : call ∈ memberCalls color mode) : LedTask.coap.makes call = true := by
  unfold memberCalls at h
  rcases List.mem_append.mp h with h | h
  · obtain ⟨c, _, rfl⟩ := Option.map_eq_some_iff.mp (Option.mem_toList.mp h)
    rfl
  · obtain ⟨m, _, rfl⟩ := Option.map_eq_some_iff.mp (Option.mem_toList.mp h)
    rfl

namespace LedTasks

/-- Some steps of both tasks lead from `s` to `t`, and these are the calls begun on the way. -/
def Leads (s : LedTasks) (made : List LedCall) (t : LedTasks) : Prop :=
  ∃ actions, calls actions = made ∧ system.run s actions = some t

section Schedules

variable {s t u : LedTasks} {task : LedTask} {led led' : LEDResource} {p : LedPoint}
  {made later : List LedCall}

@[simp] theorem point_moved : (s.moved led p task).point task = p := by
  cases task <;> rfl

@[simp] theorem led_moved : (s.moved led p task).led = led := by
  cases task <;> rfl

@[simp] theorem moved_moved {q : LedPoint} :
    (s.moved led p task).moved led' q task = s.moved led' q task := by
  cases task <;> rfl

theorem Leads.trans (h : Leads s made t) (h' : Leads t later u) : Leads s (made ++ later) u := by
  obtain ⟨actions, rfl, hr⟩ := h
  obtain ⟨actions', rfl, hr'⟩ := h'
  exact ⟨actions ++ actions', List.filterMap_append, system.run_append_some.mpr ⟨t, hr, hr'⟩⟩

theorem leads_call (task : LedTask) (call : LedCall) (hp : s.point task = .outside)
    (hm : task.makes call = true) :
    Leads s [call] (s.moved s.led (.enter call) task) := by
  refine ⟨[.call task call], rfl, ?_⟩
  apply system.run_cons_some.mpr
  refine ⟨_, ?_, rfl⟩
  change step s (.call task call) = _
  simp only [step, hp, hm, if_true]

theorem Leads.step (h : Leads s made (t.moved led p task))
    {led' : LEDResource} {q : LedPoint} (ha : led.advance p = some (led', q)) :
    Leads s made (t.moved led' q task) := by
  rw [← List.append_nil made]
  apply h.trans
  refine ⟨[.step task], rfl, system.run_cons_some.mpr ⟨t.moved led' q task, ?_, rfl⟩⟩
  change ((t.moved led p task).led.advance ((t.moved led p task).point task)).map _ = _
  rw [led_moved, point_moved, ha]
  simp

theorem Leads.fades (t : LedTasks) (task : LedTask) {duties : Duties} {fadeTime : ℤ}
    (h : Leads s made (t.moved led (.arguments duties fadeTime .red) task)) :
    Leads s made (t.moved (led.startFades (duties.duty led .red) (duties.duty led .green)
      (duties.duty led .blue) fadeTime) .outside task) := by
  have hend := (((((h.step rfl).step rfl).step rfl).step rfl).step rfl).step rfl
  have hfades : ((led.startFade .red (duties.duty led .red) fadeTime).startFade .green
      (duties.duty led .green) fadeTime).startFade .blue (duties.duty led .blue) fadeTime =
      led.startFades (duties.duty led .red) (duties.duty led .green) (duties.duty led .blue)
        fadeTime := by
    unfold LEDResource.startFade LEDResource.startFades
    simp [Primary.config]
  rw [← hfades]
  cases duties <;> exact hend

/-- A call that no step of the other task interrupts does what the function does. -/
theorem leads_apply (task : LedTask) (call : LedCall) (hp : s.point task = .outside)
    (hm : task.makes call = true) :
    Leads s [call] (s.moved (call.apply s.led) .outside task) := by
  have henter := leads_call task call hp hm
  cases call with
  | setColor red green blue =>
    have hwritten := ((henter.step rfl).step rfl).step rfl
    simp only [LedCall.apply, LEDResource.setColor]
    by_cases hu : s.led.mode = .user
    · rw [if_neg (not_not.mpr hu)]
      exact (hwritten.step (if_neg (not_not.mpr hu))).fades _ _
    · rw [if_pos hu]
      exact hwritten.step (if_pos hu)
  | setMode mode =>
    simp only [LedCall.apply, LEDResource.setMode]
    by_cases hsame : s.led.mode = mode
    · rw [if_pos hsame]
      exact henter.step (if_pos hsame)
    · rw [if_neg hsame]
      have hwritten := (henter.step (if_neg hsame)).step rfl
      cases mode with
      | showStatus => exact (hwritten.step rfl).fades _ _
      | user => exact (hwritten.step rfl).fades _ _
  | setStatusColor red green blue fadeTime =>
    simp only [LedCall.apply, LEDResource.setStatusColor]
    by_cases hs : s.led.mode = .showStatus
    · rw [if_neg (not_not.mpr hs)]
      exact (henter.step (if_neg (not_not.mpr hs))).fades _ _
    · rw [if_pos hs]
      exact henter.step (if_pos hs)

theorem leads_calls {task : LedTask} {calls : List LedCall}
    (h : ∀ call ∈ calls, task.makes call = true) (led : LEDResource) :
    Leads ⟨led, .outside, .outside⟩ calls
      ⟨calls.foldl LedCall.apply led, .outside, .outside⟩ := by
  induction calls generalizing led with
  | nil => exact ⟨[], rfl, rfl⟩
  | cons call calls ih =>
    have hcall : Leads ⟨led, .outside, .outside⟩ [call] ⟨call.apply led, .outside, .outside⟩ := by
      have hmakes := h call List.mem_cons_self
      cases task with
      | main => exact leads_apply .main call rfl hmakes
      | coap => exact leads_apply .coap call rfl hmakes
    exact hcall.trans (ih (fun c hc => h c (List.mem_cons_of_mem call hc)) (call.apply led))

theorem leads_iteration (s : MainLoop) (connected : Bool) :
    Leads ⟨s.statusLED, .outside, .outside⟩ (s.ledCalls connected)
      ⟨(s.iteration connected).statusLED, .outside, .outside⟩ := by
  rw [MainLoop.iteration_calls]
  exact leads_calls (fun _ => ledCalls_makes) s.statusLED

theorem leads_applyMembers (led : LEDResource) (color : Option Rgb) (mode : Option Mode) :
    Leads ⟨led, .outside, .outside⟩ (memberCalls color mode)
      ⟨led.applyMembers color mode, .outside, .outside⟩ := by
  rw [applyMembers_calls]
  exact leads_calls (fun _ => memberCalls_makes) led

theorem setMode_channels {mode : Mode} (h : led.ChannelsDistinct) :
    (led.setMode mode).ChannelsDistinct := by
  simp only [LEDResource.setMode]
  split_ifs <;> exact h

theorem setColor_channels {red green blue : UInt8} (h : led.ChannelsDistinct) :
    (led.setColor red green blue).ChannelsDistinct := by
  simp only [LEDResource.setColor]
  split_ifs <;> exact h

theorem startFades_shows {c : Rgb} {fadeTime : ℤ} (h : led.ChannelsDistinct) :
    Shows (led.startFades (level c.red) (level c.green) (level c.blue) fadeTime) c := by
  obtain ⟨hr, hg, hb⟩ := duties_startFades led (level c.red) (level c.green) (level c.blue)
    fadeTime h
  apply shows_of_lights
  intro color
  cases color with
  | red => exact hr
  | green => exact hg
  | blue => exact hb

theorem shows_lights {c : Rgb} (h : Shows led c) (color : Primary) :
    led.duty (color.config led) = level (color.component c) := by
  obtain ⟨hr, hg, hb⟩ := h
  apply UInt32.toNat_inj.mp
  unfold level
  rw [shiftLeft_two_toNat]
  cases color with
  | red => exact hr
  | green => exact hg
  | blue => exact hb

theorem shows_unique {c d : Rgb} (hc : Shows led c) (hd : Shows led d) : c = d := by
  obtain ⟨hr, hg, hb⟩ := hc
  obtain ⟨hr', hg', hb'⟩ := hd
  obtain ⟨red, green, blue⟩ := c
  obtain ⟨red', green', blue'⟩ := d
  rw [Rgb.mk.injEq, ← UInt8.toNat_inj, ← UInt8.toNat_inj, ← UInt8.toNat_inj]
  dsimp only at hr hg hb hr' hg' hb'
  omega

theorem leads_status (red green blue : UInt8) (fadeTime : ℤ) (h : led.mode = .showStatus) :
    Leads ⟨led, .outside, .outside⟩ [.setStatusColor red green blue fadeTime]
      ⟨led, .arguments (.given (level red) (level green) (level blue)) fadeTime .red, .outside⟩ :=
  (leads_call .main (.setStatusColor red green blue fadeTime) rfl rfl).step
    (if_neg (not_not.mpr h))

theorem leads_mode (task : LedTask) (mode : Mode) (h : led.mode ≠ mode) :
    Leads ⟨led, .outside, .outside⟩ [.setMode mode]
      (LedTasks.moved ⟨led, .outside, .outside⟩ { led with mode := mode } (.modeFades mode)
        task) := by
  have hcall : Leads ⟨led, .outside, .outside⟩ [.setMode mode]
      (LedTasks.moved ⟨led, .outside, .outside⟩ led (.modeCheck mode) task) := by
    cases task <;> exact leads_call _ (.setMode mode) rfl rfl
  exact (hcall.step (if_neg h)).step rfl

/-- The CoAP task makes the mode user between the check of `SetStatusColor` and its fades. -/
theorem status_overtaken (red green blue : UInt8) (fadeTime : ℤ) (hc : led.ChannelsDistinct)
    (hs : led.mode = .showStatus) :
    ∃ led', Leads ⟨led, .outside, .outside⟩
        [.setStatusColor red green blue fadeTime, .setMode .user] ⟨led', .outside, .outside⟩ ∧
      led'.mode = .user ∧ led'.getColor = led.getColor ∧ Shows led' ⟨red, green, blue⟩ := by
  have hovertaken := (leads_status red green blue fadeTime hs).trans
    (leads_apply .coap (.setMode .user) rfl rfl)
  refine ⟨_, hovertaken.fades ⟨led, .outside, .outside⟩ .main, ?_, ?_, ?_⟩
  · exact setMode_mode led .user
  · exact setMode_getColor led .user
  · exact startFades_shows (c := ⟨red, green, blue⟩) (setMode_channels hc)

/-- The main task makes the mode user between the check of `SetMode(ShowStatus)` and its fades. -/
theorem mode_overtaken (hc : led.ChannelsDistinct) (hu : led.mode = .user) :
    ∃ led', Leads ⟨led, .outside, .outside⟩ [.setMode .showStatus, .setMode .user]
        ⟨led', .outside, .outside⟩ ∧
      led'.mode = .user ∧ led'.getColor = led.getColor ∧ Shows led' black := by
  let dark : LEDResource := { led with mode := .showStatus }
  have hwaiting : Leads ⟨led, .outside, .outside⟩ [.setMode .showStatus]
      ⟨dark, .outside, .arguments (.given 0 0 0) kFadeTime .red⟩ := by
    apply Leads.step (t := ⟨led, .outside, .outside⟩) (leads_mode .coap .showStatus _)
    · rfl
    · rw [hu]
      decide
  have hovertaken := hwaiting.trans (leads_apply .main (.setMode .user) rfl rfl)
  refine ⟨_, hovertaken.fades ⟨led, .outside, .outside⟩ .coap, ?_, ?_, ?_⟩
  · exact setMode_mode dark .user
  · exact setMode_getColor dark .user
  · exact startFades_shows (c := black) (setMode_channels hc)

theorem Leads.reading (t : LedTasks) (task : LedTask) (color : Primary) {fadeTime : ℤ}
    (h : Leads s made (t.moved led (.arguments .values fadeTime .red) task)) :
    ∃ fades, Leads s made (t.moved { led with fades := fades }
      (.fade .values fadeTime color (color.value led)) task) := by
  cases color with
  | red => exact ⟨_, h.step rfl⟩
  | green => exact ⟨_, ((h.step rfl).step rfl).step rfl⟩
  | blue => exact ⟨_, ((((h.step rfl).step rfl).step rfl).step rfl).step rfl⟩

theorem Leads.writing (t : LedTasks) (task : LedTask) {color : Primary} {fadeTime : ℤ}
    {duty : UInt32} (hc : led.ChannelsDistinct)
    (h : Leads s made (t.moved led (.fade .values fadeTime color duty) task)) :
    ∃ fades, Leads s made (t.moved { led with fades := fades } .outside task) ∧
      LEDResource.duty { led with fades := fades } (color.config led) = duty := by
  have hfaded := h.step rfl
  have hfirst : (led.startFade color duty fadeTime).duty (color.config led) = duty := by
    rw [startFade_duty, if_pos (sameOutput_self _)]
  have hlater : ∀ (faded : LEDResource) (other : Primary) (next : UInt32),
      (∀ c : Primary, c.config faded = c.config led) → other ≠ color →
      faded.duty (color.config led) = duty →
      (faded.startFade other next fadeTime).duty (color.config led) = duty := by
    intro faded other next hconfig hne hduty
    rw [startFade_duty, hconfig other, if_neg (mt (sameOutput_iff hc).mp hne), hduty]
  cases color with
  | red =>
    refine ⟨_, (((hfaded.step rfl).step rfl).step rfl).step rfl, ?_⟩
    exact hlater _ .blue _ (fun c => by cases c <;> rfl) (by decide)
      (hlater _ .green _ (fun c => by cases c <;> rfl) (by decide) hfirst)
  | green =>
    refine ⟨_, (hfaded.step rfl).step rfl, ?_⟩
    exact hlater _ .blue _ (fun c => by cases c <;> rfl) (by decide) hfirst
  | blue => exact ⟨_, hfaded, hfirst⟩

/-- The CoAP task sets the colour between the reading of a field by `SetMode(User)` and its fade. -/
theorem color_overtaken (red green blue : UInt8) (color : Primary) (hc : led.ChannelsDistinct)
    (hs : led.mode = .showStatus) :
    ∃ led', Leads ⟨led, .outside, .outside⟩ [.setMode .user, .setColor red green blue]
        ⟨led', .outside, .outside⟩ ∧
      led'.mode = .user ∧ led'.getColor = ⟨red, green, blue⟩ ∧
      led'.duty (color.config led') = color.value led := by
  let lit : LEDResource := { led with mode := .user }
  have hwaiting : Leads ⟨led, .outside, .outside⟩ [.setMode .user]
      ⟨lit, .arguments .values kFadeTime .red, .outside⟩ := by
    apply Leads.step (t := ⟨led, .outside, .outside⟩) (leads_mode .main .user _)
    · rfl
    · rw [hs]
      decide
  obtain ⟨fades, hread⟩ := hwaiting.reading ⟨led, .outside, .outside⟩ .main color
  have hovertaken := hread.trans (leads_apply .coap (.setColor red green blue) rfl rfl)
  let colored : LEDResource := { lit with fades := fades }.setColor red green blue
  have hcolored : colored.ChannelsDistinct := setColor_channels hc
  obtain ⟨fades', hend, hduty⟩ := Leads.writing ⟨led, .outside, .outside⟩ .main hcolored hovertaken
  refine ⟨{ colored with fades := fades' }, hend, ?_, ?_, ?_⟩
  · exact setColor_mode { lit with fades := fades } red green blue
  · exact setColor_getColor { lit with fades := fades } red green blue
  · cases color <;> exact hduty

end Schedules

theorem user_kept {led : LEDResource} {actions : List LedAction} {t : LedTasks}
    (hu : led.mode = .user)
    (ha : ∀ action ∈ actions, action = .call .main (.setMode .user) ∨ action = .step .main)
    (hr : system.run ⟨led, .outside, .outside⟩ actions = some t) : t.led = led := by
  let Kept : LedTasks → Prop := fun s =>
    s.led = led ∧ (s.main = .outside ∨ s.main = .modeCheck .user)
  have hkept : Kept t := by
    refine system.run_invariant (P := fun _ action =>
      action = .call .main (.setMode .user) ∨ action = .step .main) ?_ ⟨rfl, Or.inl rfl⟩ ?_ hr
    · rintro s action t ⟨hled, hpoint⟩ (rfl | rfl) ht
      · obtain ⟨_, _, rfl⟩ := step_call ht
        exact ⟨hled, Or.inr rfl⟩
      · obtain ⟨led', point, hadvance, rfl⟩ := step_task ht
        have hadvance : s.led.advance s.main = some (led', point) := hadvance
        rcases hpoint with hpoint | hpoint
        · rw [hpoint] at hadvance
          cases hadvance
        · rw [hpoint, hled] at hadvance
          have hchecked : led.advance (.modeCheck .user) = some (led, .outside) := if_pos hu
          obtain ⟨rfl, rfl⟩ := Prod.mk.inj (Option.some.inj (hchecked.symm.trans hadvance))
          exact ⟨rfl, Or.inl rfl⟩
    · intro before action after t he _
      exact ha action (by simp [he])
  exact hkept.1

end LedTasks

end IoTNode
