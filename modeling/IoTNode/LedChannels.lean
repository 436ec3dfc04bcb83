import IoTNode.NodeReports

set_option autoImplicit false

namespace IoTNode

open Coap Foundations Lobaro Startup LedRefinement

namespace LEDResource

def channels (led : LEDResource) : List LedcChannelConfig :=
  [led.ledcRedChannel, led.ledcGreenChannel, led.ledcBlueChannel]

def Targets (configs : List LedcChannelConfig) (f : LedcFade) : Prop :=
  ∃ c ∈ configs, f.speedMode = c.speedMode ∧ f.channel = c.channel

/-- The fades asked for so far name the channels of the LED, and the mode `user` was not entered
without asking for any. -/
structure Drives (configs : List LedcChannelConfig) (led : LEDResource) : Prop where
  own : led.channels = configs
  targets : ∀ f ∈ led.fades, Targets configs f
  lit : led.mode = .user → led.fades ≠ []

theorem startFades_ne_nil (led : LEDResource) (red green blue : UInt32) (fadeTime : ℤ) :
    (led.startFades red green blue fadeTime).fades ≠ [] := by
  simp [startFades]

theorem startFades_drives {configs : List LedcChannelConfig} (led : LEDResource)
    (hc : led.channels = configs) (ht : ∀ f ∈ led.fades, Targets configs f)
    (red green blue : UInt32) (fadeTime : ℤ) :
    Drives configs (led.startFades red green blue fadeTime) where
  own := hc
  targets f hf := by
    rcases List.mem_append.mp hf with hf | hf
    · exact ht f hf
    · subst hc
      simp only [List.mem_cons, List.not_mem_nil, or_false] at hf
      rcases hf with rfl | rfl | rfl <;> exact ⟨_, by simp [channels], rfl, rfl⟩
  lit _ := startFades_ne_nil led red green blue fadeTime

section Calls

variable {configs : List LedcChannelConfig} {led : LEDResource}

theorem Drives.apply (h : Drives configs led) (call : LedCall) :
    Drives configs (call.apply led) := by
  cases call with
  | setStatusColor red green blue fadeTime =>
    dsimp only [LedCall.apply, setStatusColor]
    split_ifs
    · exact h
    · exact startFades_drives led h.own h.targets _ _ _ _
  | setMode mode =>
    dsimp only [LedCall.apply, setMode]
    split_ifs with hsame hstatus huser
    · exact h
    · exact startFades_drives { led with mode := mode } h.own h.targets _ _ _ _
    · exact startFades_drives { led with mode := mode } h.own h.targets _ _ _ _
    · cases mode <;> contradiction
  | setColor red green blue =>
    dsimp only [LedCall.apply, setColor]
    split_ifs with hmode
    · exact ⟨h.own, h.targets, h.lit⟩
    · let colored : LEDResource := { led with
        redValue := red.toUInt32 <<< 2
        greenValue := green.toUInt32 <<< 2
        blueValue := blue.toUInt32 <<< 2 }
      exact startFades_drives colored h.own h.targets _ _ _ _

theorem Drives.calls (h : Drives configs led) (calls : List LedCall) :
    Drives configs (calls.foldl LedCall.apply led) := by
  induction calls generalizing led with
  | nil => exact h
  | cons call calls ih => exact ih (h.apply call)

theorem apply_fades (call : LedCall) (hf : led.fades ≠ []) : (call.apply led).fades ≠ [] := by
  cases call with
  | setStatusColor red green blue fadeTime =>
    dsimp only [LedCall.apply, setStatusColor]
    split_ifs
    · exact hf
    · exact startFades_ne_nil _ _ _ _ _
  | setMode mode =>
    dsimp only [LedCall.apply, setMode]
    split_ifs
    · exact hf
    · exact startFades_ne_nil _ _ _ _ _
    · exact startFades_ne_nil _ _ _ _ _
    · exact hf
  | setColor red green blue =>
    dsimp only [LedCall.apply, setColor]
    split_ifs
    · exact hf
    · exact startFades_ne_nil _ _ _ _ _

theorem calls_fades (calls : List LedCall) (hf : led.fades ≠ []) :
    (calls.foldl LedCall.apply led).fades ≠ [] := by
  induction calls generalizing led with
  | nil => exact hf
  | cons call calls ih => exact ih (apply_fades call hf)

end Calls

end LEDResource

namespace Node

open LEDResource

variable (storage : Storage) (memory : LedMemory)

def channels : List LedcChannelConfig :=
  (Startup.statusLED memory (storage.handle .led).isSome).channels

section Runs

variable {storage memory} {json : JsonLibrary} {bits : ResOpt} {s t : Node}

theorem initial_drives (h : Initial bits storage memory s) :
    Drives (channels storage memory) s.loop.statusLED ∧ s.loop.statusLED.fades = [] := by
  have hled : s.loop.statusLED = Startup.statusLED memory (storage.handle .led).isSome := by
    rw [h.boots.2.2]
  have hfades : s.loop.statusLED.fades = [] := by
    rw [hled]
    cases (storage.handle .led).isSome <;> rfl
  have hmode : s.loop.statusLED.mode = .showStatus := by
    rw [hled]
    cases (storage.handle .led).isSome <;> rfl
  refine ⟨⟨congrArg LEDResource.channels hled, ?_, ?_⟩, hfades⟩
  · intro f hf
    rw [hfades] at hf
    cases hf
  · intro huser
    rw [hmode] at huser
    cases huser

theorem setStatusColor_fades {led : LEDResource} {configs : List LedcChannelConfig}
    (h : Drives configs led) (red green blue : UInt8) (fadeTime : ℤ) :
    (led.setStatusColor red green blue fadeTime).fades ≠ [] := by
  unfold setStatusColor
  split_ifs with hmode
  · apply h.lit
    cases hm : led.mode with
    | showStatus => exact absurd hm hmode
    | user => rfl
  · exact startFades_ne_nil _ _ _ _ _

theorem setUser_fades {led : LEDResource} {configs : List LedcChannelConfig}
    (h : Drives configs led) : (led.setMode .user).fades ≠ [] :=
  (h.apply (.setMode .user)).lit (setMode_mode led .user)

theorem iteration_fades {loop : MainLoop} {configs : List LedcChannelConfig}
    (h : Drives configs loop.statusLED) (connected : Bool) :
    (loop.iteration connected).statusLED.fades ≠ [] := by
  cases connected with
  | false => exact setStatusColor_fades (h.apply (.setMode .showStatus)) _ 0 0 100
  | true =>
    unfold MainLoop.iteration
    rw [if_pos rfl]
    split_ifs
    · exact setStatusColor_fades h 0 15 0 250
    · exact setUser_fades h

structure Faded (storage : Storage) (memory : LedMemory) (actions : List NodeAction) (s : Node) :
    Prop where
  drives : Drives (channels storage memory) s.loop.statusLED
  iterated : ∀ connected, .iterate connected ∈ actions → s.loop.statusLED.fades ≠ []
  absent : storage.handle .led = none → (∀ connected, .iterate connected ∉ actions) →
    s.loop.statusLED.fades = []

theorem Faded.quiet {actions : List NodeAction} (h : Faded storage memory actions s)
    {a : NodeAction} (hi : ∀ connected, a ≠ .iterate connected) (hl : t.loop = s.loop) :
    Faded storage memory (actions ++ [a]) t := by
  have hmem : ∀ connected, .iterate connected ∈ actions ++ [a] ↔ .iterate connected ∈ actions := by
    intro connected
    rw [List.mem_append, List.mem_singleton]
    exact or_iff_left (fun he => hi connected he.symm)
  refine ⟨hl ▸ h.drives, ?_, ?_⟩
  · intro connected hc
    rw [hl]
    exact h.iterated connected ((hmem connected).mp hc)
  · intro hnone hc
    rw [hl]
    exact h.absent hnone (fun connected hm => hc connected ((hmem connected).mpr hm))

theorem Faded.step {actions : List NodeAction} (h : Faded storage memory actions s)
    (hd : Dispatches storage s.registry) {a : NodeAction}
    (ht : (system json bits storage memory).step s a = some t) :
    Faded storage memory (actions ++ [a]) t := by
  cases a with
  | iterate connected =>
    obtain rfl := Option.some.inj ht
    have hfades := iteration_fades h.drives connected
    refine ⟨?_, fun _ _ => hfades, fun _ hc => absurd (by simp) (hc connected)⟩
    change Drives _ (s.loop.iteration connected).statusLED
    rw [MainLoop.iteration_calls]
    exact h.drives.calls _
  | switchTask state =>
    obtain rfl := Option.some.inj ht
    exact h.quiet (fun _ he => (by cases he)) rfl
  | address ipInfo =>
    obtain rfl := Option.some.inj ht
    exact h.quiet (fun _ he => (by cases he)) rfl
  | request lib req response =>
    dsimp only [system] at ht
    by_cases ho : storage.owner req.pResource = some .led
    · rw [serve_led hd ho] at ht
      cases hr : LEDResource.handleRequest lib json s.loop.statusLED { message := req }
          { message := response } with
      | error abort => rw [hr] at ht; cases ht
      | ok outcome =>
        rw [hr] at ht
        obtain rfl := Option.some.inj ht
        have hled : (s.withLED outcome.1).loop.statusLED = _ := handleRequest_members hr
        rw [applyMembers_calls] at hled
        refine ⟨hled ▸ h.drives.calls _, ?_, fun hnone => absurd hnone (led_of_owner ho)⟩
        intro connected hc
        have hmem : .iterate connected ∈ actions := by simpa using hc
        rw [hled]
        exact calls_fades _ (h.iterated connected hmem)
    · obtain ⟨dispatch, hs⟩ : ∃ d, s.serve json lib req response = .ok (s, d) :=
        serve_other hd ho
      rw [hs] at ht
      obtain rfl := Option.some.inj ht
      exact h.quiet (fun _ he => (by cases he)) rfl

theorem faded_run {actions : List NodeAction} (hs : Initial bits storage memory s)
    (ht : (system json bits storage memory).run s actions = some t) :
    Faded storage memory actions t := by
  induction actions using List.reverseRecOn generalizing t with
  | nil =>
    obtain rfl := Option.some.inj ht
    obtain ⟨hdrives, hfades⟩ := initial_drives hs
    exact ⟨hdrives, fun _ hc => absurd hc List.not_mem_nil, fun _ _ => hfades⟩
  | append_singleton actions a ih =>
    obtain ⟨u, hu, ht⟩ := (system json bits storage memory).run_snoc_some.mp ht
    have htracks : Tracks json storage actions u := tracks_run hs hu
    exact (ih hu).step htracks.dispatches ht

/-- Where the library refused the resource `led`, nothing sets up the timer or the fade service, and
yet the loop asks for fades from its first iteration on, of channels that nobody wrote. -/
theorem fades_of_refused_led (json : JsonLibrary) (bits : ResOpt)
    (hrefused : storage.handle .led = none) (s t : Node) (actions : List NodeAction)
    (hs : Initial bits storage memory s)
    (ht : (system json bits storage memory).run s actions = some t) :
    (∀ library ret started, Startup.taskHandle bits storage library memory ret = .ok started →
      started.ledConfigured = false) ∧
      (∀ f ∈ t.loop.statusLED.fades, Targets [memory.red, memory.green, memory.blue] f) ∧
      (t.loop.statusLED.fades ≠ [] ↔ ∃ connected, .iterate connected ∈ actions) := by
  have hfaded : Faded storage memory actions t := faded_run hs ht
  have hchannels : channels storage memory = [memory.red, memory.green, memory.blue] := by
    unfold channels
    rw [hrefused]
    rfl
  refine ⟨?_, hchannels ▸ hfaded.drives.targets, ?_, ?_⟩
  · intro library ret started hstarted
    rw [(boots_of_taskHandle hstarted).ledConfigured, hrefused]
    rfl
  · intro hne
    by_contra hn
    exact hne (hfaded.absent hrefused (fun connected hc => hn ⟨connected, hc⟩))
  · rintro ⟨connected, hc⟩
    exact hfaded.iterated connected hc

def refusedStorage : Storage :=
  { twoResources with
    createResource := fun _ => none
    fresh := fun h => by cases h }

def staleMemory : LedMemory :=
  ⟨⟨0x3ffb5f10, 7, 3⟩, ⟨1, 0xffffffff, 9⟩, ⟨.highSpeed, 4, 0⟩⟩

theorem fades_of_refused_led_stale :
    ∃ s t, Initial ⟨1, 2, 4, 8⟩ refusedStorage staleMemory s ∧
      (system (referenceJson []) ⟨1, 2, 4, 8⟩ refusedStorage staleMemory).run s [.iterate true] =
        some t ∧
      (∀ f ∈ t.loop.statusLED.fades,
        Targets [staleMemory.red, staleMemory.green, staleMemory.blue] f) ∧
      t.loop.statusLED.fades ≠ [] := by
  have hs : Initial ⟨1, 2, 4, 8⟩ refusedStorage staleMemory ⟨_, _, .idle, none⟩ :=
    ⟨fun _ => ⟨15, true, none⟩, 1, _, rfl, rfl, rfl⟩
  refine ⟨_, _, hs, rfl, ?_⟩
  obtain ⟨_, htargets, hfades⟩ := fades_of_refused_led (referenceJson []) ⟨1, 2, 4, 8⟩ rfl _ _
    [.iterate true] hs rfl
  exact ⟨htargets, hfades.mpr ⟨true, List.mem_singleton_self _⟩⟩

end Runs

end Node

end IoTNode
