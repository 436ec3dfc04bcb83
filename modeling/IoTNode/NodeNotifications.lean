import IoTNode.NodeReports

set_option autoImplicit false

namespace IoTNode

open Coap Foundations Lobaro Startup

def NodeAction.switchState? : NodeAction → Option SwitchResource.State
  | .switchTask state => some state
  | _ => none

namespace Node

variable (json : JsonLibrary) (lib : LobaroLibrary) (s : Node) {storage : Storage}

def handleNotify : App → LobaroCoapObserver → LobaroCoapMessage →
    Except Abort (LobaroCoapMessage × CoapResult)
  | .switch => SwitchResource.handleNotify lib json s.switchState
  -- the other two inherit the one of `IApplicationResource`
  | _ => fun _ response => .ok (response, .error)

/-- What the library gets when it asks `ResourceNotifier` for the notification of an observer. -/
def notify (memory : ObserverMemory storage.history) (fuel : ℕ) (observer : ObserverAddr)
    (response : CoAPMessage) : Option (Except Abort (Dispatch App)) :=
  (s.registry.withLibrary memory.library).resourceNotifier (s.handleNotify json lib)
    memory.observers memory.next fuel observer response

def lastSwitchState (actions : List NodeAction) : SwitchResource.State :=
  latest NodeAction.switchState? s.switchState actions

def switchAnswer (optionsList : List CoAPOption) (response : CoAPMessage) : Dispatch App :=
  Registry.dispatched .switch (respondWith lib (·.setOption lib)
    (SwitchResource.encode json s.switchState) (negotiated lib optionsList .applicationJson) .content
    { message := response })

section Run

variable {json lib s} {bits : ResOpt} {memory : LedMemory} {t : Node} {actions : List NodeAction}

theorem handled_kept (s : Node) (request response : LobaroCoapMessage) (app : App) :
    (s.handled json lib request response app).registry = s.registry ∧
      (s.handled json lib request response app).switchState = s.switchState := by
  cases app with
  | led =>
    unfold handled
    dsimp only
    split <;> exact ⟨rfl, rfl⟩
  | _ => exact ⟨rfl, rfl⟩

theorem serve_kept {request response : CoAPMessage} {dispatch : Dispatch App}
    (h : s.serve json lib request response = .ok (t, dispatch)) :
    t.registry = s.registry ∧ t.switchState = s.switchState := by
  unfold serve at h
  cases hr : s.registry.resourceHandler (s.handleRequest json lib) request response with
  | error abort =>
    rw [hr] at h
    cases h
  | ok called =>
    rw [hr] at h
    obtain ⟨rfl, _⟩ := Prod.mk.inj (Except.ok.inj h)
    apply List.foldlRecOn called.called _
      (motive := fun u : Node => u.registry = s.registry ∧ u.switchState = s.switchState)
    · exact ⟨rfl, rfl⟩
    · rintro u ⟨hregistry, hstate⟩ app _
      obtain ⟨hkept, hsame⟩ := handled_kept u { message := request } { message := response } app
      exact ⟨hkept.trans hregistry, hsame.trans hstate⟩

theorem switch_run (ht : (system json bits storage memory).run s actions = some t) :
    t.registry = s.registry ∧ t.switchState = s.lastSwitchState actions := by
  induction actions using List.reverseRecOn generalizing t with
  | nil =>
    obtain rfl := Option.some.inj ht
    exact ⟨rfl, rfl⟩
  | append_singleton actions a ih =>
    obtain ⟨u, hu, ht⟩ := (system json bits storage memory).run_snoc_some.mp ht
    obtain ⟨hregistry, hstate⟩ := ih hu
    unfold lastSwitchState at hstate ⊢
    rw [latest_snoc, ← hregistry, ← hstate]
    cases a with
    | request lib req response =>
      dsimp only [system] at ht
      cases hr : u.serve json lib req response with
      | error abort => rw [hr] at ht; cases ht
      | ok outcome =>
        rw [hr] at ht
        obtain rfl := Option.some.inj ht
        exact serve_kept hr
    | _ =>
      obtain rfl := Option.some.inj ht
      exact ⟨rfl, rfl⟩

theorem serve_switch (h : Dispatches storage s.registry) {request response : CoAPMessage}
    (ho : storage.owner request.pResource = some .switch) :
    s.serve json lib request response =
      .ok (s, s.switchAnswer json lib request.pOptionsList response) := by
  unfold serve
  rw [h.owned _ _ _ _ ho]
  dsimp only [handleRequest]
  rw [SwitchResource.handleRequest_eq]
  rfl

end Run

/-- For a supported Accept the answer is 2.05 with the encoding of this state, else it is 4.02. -/
structure Notifies (json : JsonLibrary) (lib : LobaroLibrary) (state : SwitchResource.State)
    (format : CoapContentType) (response : CoAPMessage) (dispatch : Dispatch App) : Prop where
  called : dispatch.called = [.switch]
  returned : dispatch.returned = .ok
  conveys : LEDResource.Supported format → RemovesOptions lib →
    Conveys lib (·.setOption lib) { message := response } format
      (MainLoop.body json format (SwitchResource.output state)) .content
      { message := dispatch.response }
  refused : ¬ LEDResource.Supported format →
    dispatch.response = { response with code := .badOption }

theorem switchAnswer_notifies (optionsList : List CoAPOption) (response : CoAPMessage) :
    Notifies json lib s.switchState (negotiated lib optionsList .applicationJson) response
      (s.switchAnswer json lib optionsList response) := by
  unfold switchAnswer respondWith
  generalize negotiated lib optionsList .applicationJson = format
  by_cases hs : LEDResource.Supported format
  · have hencoded : SwitchResource.encode json s.switchState format =
        some (MainLoop.body json format (SwitchResource.output s.switchState)) := by
      rcases hs with rfl | rfl <;> rfl
    rw [hencoded]
    refine ⟨rfl, rfl, fun _ hr => ?_, fun hn => absurd hs hn⟩
    obtain ⟨hcode, hlabelled, hpayload⟩ : Conveys lib (·.setOption lib) { message := response }
      format (MainLoop.body json format (SwitchResource.output s.switchState)) .content _ :=
      answer_conveys_set hr
    exact ⟨hcode, hlabelled, hpayload⟩
  · have hrefused : SwitchResource.encode json s.switchState format = none := by
      unfold SwitchResource.encode
      rw [if_neg (fun he => hs (Or.inl he)), if_neg (fun he => hs (Or.inr he))]
    rw [hrefused]
    exact ⟨rfl, rfl, fun h => absurd h hs, fun _ => rfl⟩

/-- However the node came here: a notification of the switch is what a GET with the options of the
observer is answered, and for a supported Accept carries the state that the task of the switch wrote
last. An observer of another resource gets an error. -/
theorem node_notifies (bits : ResOpt) (memory : LedMemory) (s t : Node) (actions : List NodeAction)
    (hs : Initial bits storage memory s)
    (ht : (system json bits storage memory).run s actions = some t)
    (observers : ObserverMemory storage.history) :
    ∃ bound, ∀ fuel, bound ≤ fuel → ∀ app handle observer response,
      storage.handle app = some handle → observer ∈ observers.lists handle →
      (app = .switch → ∃ dispatch,
        t.notify json lib observers fuel observer response = some (.ok dispatch) ∧
        (∀ request : CoAPMessage, request.pResource = some handle →
          request.pOptionsList = (observers.observers observer).pOptList →
          t.serve json lib request response = .ok (t, dispatch)) ∧
        Notifies json lib (s.lastSwitchState actions)
          (negotiated lib (observers.observers observer).pOptList .applicationJson) response
          dispatch ∧
        dispatch = Registry.dispatched .switch (respondWith lib (·.setOption lib)
          (SwitchResource.encode json (s.lastSwitchState actions))
          (negotiated lib (observers.observers observer).pOptList .applicationJson) .content
          { message := response })) ∧
      (app ≠ .switch → t.notify json lib observers fuel observer response =
        some (.ok ⟨[app], response, .error⟩)) := by
  obtain ⟨hregistry, hstate⟩ := switch_run ht
  obtain ⟨hholds, hdispatches, _⟩ := hs.boots
  rw [← hregistry] at hholds hdispatches
  have hlibrary : Registry.Holds (t.registry.withLibrary observers.library)
      storage.history.creations := ⟨hholds.objects, hholds.resources⟩
  obtain ⟨bound, hbound⟩ := Registry.enough_exists observers
  refine ⟨bound, fun fuel hfuel app handle observer response happ hobserver => ?_⟩
  have hmem : storage.creation app ∈ storage.history.creations := by
    apply List.mem_map_of_mem
    cases app <;> decide
  have hnotify : t.notify json lib observers fuel observer response =
      some ((t.handleNotify json lib app { observer := observers.observers observer }
        { message := response }).map (Registry.dispatched app)) :=
    Registry.resourceNotifier_owner (t.handleNotify json lib) observers hlibrary rfl
      (hbound fuel hfuel) hmem happ hobserver response
  rw [hnotify]
  constructor
  · rintro rfl
    rw [← hstate]
    refine ⟨t.switchAnswer json lib (observers.observers observer).pOptList response, ?_, ?_,
      switchAnswer_notifies json lib t _ response, rfl⟩
    · dsimp only [handleNotify]
      rw [SwitchResource.handleNotify_eq]
      rfl
    · intro request hr hoptions
      rw [serve_switch hdispatches (Storage.owner_iff.mpr ⟨handle, happ, hr⟩), hoptions]
  · intro hne
    cases app with
    | switch => exact absurd rfl hne
    | _ => rfl

def oneObserver : ObserverMemory twoResources.history where
  library handle := ⟨1, true, if handle = 8 then some 1 else none⟩
  observers _ := {}
  next _ := none
  lists handle := if handle = 8 then [1] else []
  chain c _ handle _ := by
    by_cases h : handle = 8
    · subst h
      exact Chain.cons Chain.nil
    · rw [if_neg h, if_neg h]
      exact Chain.nil
  disjoint c _ d _ g h _ _ hne := by
    by_cases hg : g = 8
    · have hh : h ≠ 8 := fun he => hne (hg.trans he.symm)
      simp [hh]
    · simp [hg]

theorem pushed_dumped : redJson.dump (SwitchResource.output .pushed) ≠ [] ∧
    (redJson.dump (SwitchResource.output .pushed)).length ≤ 65535 := by decide +kernel

theorem node_notifies_pushed :
    ∃ s t fuel dispatch, Initial ⟨1, 2, 4, 8⟩ twoResources plainMemory s ∧
      (system redJson ⟨1, 2, 4, 8⟩ twoResources plainMemory).run s
        [.iterate false, .switchTask .pushed, .iterate true] = some t ∧
      t.notify redJson referenceLibrary oneObserver fuel 1 {} = some (.ok dispatch) ∧
      dispatch.called = [.switch] ∧ dispatch.response.code = .content ∧
      LobaroCoapMessage.getPayload { message := dispatch.response } =
        (.ok, some (redJson.dump (SwitchResource.output .pushed))) := by
  have hs : Initial ⟨1, 2, 4, 8⟩ twoResources plainMemory ⟨_, _, .idle, none⟩ :=
    ⟨fun _ => ⟨15, true, none⟩, 1, _, rfl, rfl, rfl⟩
  obtain ⟨bound, hbound⟩ := node_notifies redJson referenceLibrary ⟨1, 2, 4, 8⟩ plainMemory _ _
    [.iterate false, .switchTask .pushed, .iterate true] hs rfl oneObserver
  obtain ⟨dispatch, hnotify, _, hnotifies, _⟩ :=
    (hbound bound (Nat.le_refl bound) .switch 8 1 {} rfl (by decide)).1 rfl
  have hconveys := hnotifies.conveys (Or.inl rfl) reference_removesOptions
  obtain ⟨hnonempty, hshort⟩ := pushed_dumped
  exact ⟨_, _, bound, dispatch, hs, rfl, hnotify, hnotifies.called, hconveys.code,
    hconveys.payload ⟨reference_copiesPayloads, hnonempty, hshort, rfl⟩⟩

end Node

end IoTNode
