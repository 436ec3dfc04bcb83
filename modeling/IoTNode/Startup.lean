import IoTNode.Dispatch
import IoTNode.FailedResources
import IoTNode.Led

set_option autoImplicit false

namespace IoTNode

open Coap Lobaro

inductive App
  | wifi
  | led
  | switch
deriving DecidableEq, Repr

namespace App

def all : List App := [.wifi, .led, .switch]

def uri : App → String
  | .wifi => "wifi"
  | .led => "led"
  | .switch => "switch"

def methods : App → List CoapMessageCode
  | .led => [.get, .post]
  | _ => [.get]

theorem uri_inj {app other : App} (h : app.uri = other.uri) : app = other := by
  cases app <;> cases other <;> first | rfl | exact absurd h (by decide)

end App

namespace Startup

-- the result of `LobaroCoap::Start` from what `xTaskCreate` returned: 1, or -1 without memory
def start (ret : ℤ) : CoapResult := if ret ≠ 0 then .ok else .error

section Constructors

variable (bits : ResOpt) (createResource : String → Option CoAPRes)

def callAt (addr : ResourceAddr) (s : ResourceWorld App) (call : ResourceCall) :
    Except Abort (ResourceWorld App) :=
  match s.registry.objects addr with
  | none => .error .danglingPointer
  | some this => (s.call bits addr this call).map Prod.fst

/-- What the constructors of the resources have in common. It tells whether the constructor went
on to the peripherals, or returned after `CreateResource failed.` -/
def construct (app : App) (uri : String) (calls : List ResourceCall) (s : ResourceWorld App)
    (addr : ResourceAddr) : Except Abort (ResourceWorld App × Bool) := do
  let created := createResource uri
  let result := (s.registry.createResource bits addr app created).2
  let s := s.create bits addr app created
  if result ≠ .ok then return (s, false)
  let s ← calls.foldlM (callAt bits addr) s
  return (s, true)

def wifiResource : ResourceWorld App → ResourceAddr → Except Abort (ResourceWorld App × Bool) :=
  construct bits createResource .wifi "wifi" [.registerHandler .get]

def ledResource : ResourceWorld App → ResourceAddr → Except Abort (ResourceWorld App × Bool) :=
  construct bits createResource .led "led" [.registerHandler .get, .registerHandler .post]

def switchResource : ResourceWorld App → ResourceAddr → Except Abort (ResourceWorld App × Bool) :=
  construct bits createResource .switch "switch" [.registerHandler .get, .registerAsObservable]

end Constructors

/-- What the storage of `statusLED` holds before the constructor runs, with any bits in it. -/
structure LedMemory where
  red : LedcChannelConfig
  green : LedcChannelConfig
  blue : LedcChannelConfig
deriving DecidableEq, Repr

def statusLED (memory : LedMemory) (configured : Bool) : LEDResource :=
  if configured then {}
  else { ledcRedChannel := memory.red, ledcGreenChannel := memory.green,
         ledcBlueChannel := memory.blue }

structure Started where
  world : ResourceWorld App
  -- ghost: the CoAP task exists
  coapTask : Bool
  statusLED : LEDResource
  -- ghost: the constructor configured the timer and the channels of the LED, and installed the fade
  -- service; otherwise it returned before all three
  ledConfigured : Bool
  -- ghost: the constructor of the switch went on to its task and its interrupt handler
  switchHooked : Bool

/-- Storage for the three resources of the main task, and the handles that the library gives out. -/
structure Storage where
  addr : App → ResourceAddr
  separate : Function.Injective addr
  createResource : String → Option CoAPRes
  fresh : ∀ {uri other handle}, createResource uri = some handle →
    createResource other = some handle → uri = other

variable (bits : ResOpt) (storage : Storage)

def construction (library : CoAPRes → CoAPResData) (memory : LedMemory) (ret : ℤ) :
    Except Abort Started := do
  let s := ResourceWorld.start library
  let (s, _) ← wifiResource bits storage.createResource s (storage.addr .wifi)
  let (s, led) ← ledResource bits storage.createResource s (storage.addr .led)
  let (s, switch) ← switchResource bits storage.createResource s (storage.addr .switch)
  return ⟨s, decide (ret = 1), statusLED memory led, led, switch⟩

-- the main task up to its loop
def taskHandle (library : CoAPRes → CoAPResData) (memory : LedMemory) (ret : ℤ) :
    Except Abort Started :=
  if start ret = .ok then construction bits storage library memory ret else .error .assertion

section Calls

variable {bits : ResOpt} {s : ResourceWorld App} {addr : ResourceAddr} {app : App}
  {handle : CoAPRes}

def registers (bits : ResOpt) (data : CoAPResData) : ResourceCall → CoAPResData
  | .registerHandler requestType =>
    { data with
      allowedMethods := data.allowedMethods ||| (Registry.methodBit bits requestType).getD 0 }
  | .registerAsObservable => { data with notifier := true }
  | .notifyObservers _ => data

def withData (s : ResourceWorld App) (handle : CoAPRes) (data : CoAPResData) : ResourceWorld App :=
  s.withRegistry (s.registry.setData handle data)

theorem withData_twice (first second : CoAPResData) :
    withData (withData s handle first) handle second = withData s handle second := by
  simp [withData, ResourceWorld.withRegistry, Registry.setData]

theorem callAt_eq {call : ResourceCall} (hr : call.Registers)
    (h : s.registry.objects addr = some ⟨app, some handle⟩) :
    callAt bits addr s call =
      .ok (withData s handle (registers bits (s.registry.library handle) call)) := by
  unfold callAt
  rw [h]
  cases call with
  | registerHandler requestType =>
    dsimp only
    rw [ResourceWorld.call_registerHandler]
    unfold Registry.registerHandler withData registers
    dsimp only
    cases hb : Registry.methodBit bits requestType with
    | none =>
      rw [Option.getD_none, UInt16.or_zero, Registry.setData_self]
      rfl
    | some bit => rfl
  | registerAsObservable => rfl
  | notifyObservers prior => exact hr.elim

theorem calls_eq {calls : List ResourceCall} (hr : ∀ call ∈ calls, call.Registers)
    (h : s.registry.objects addr = some ⟨app, some handle⟩) :
    calls.foldlM (callAt bits addr) s =
      .ok (withData s handle (calls.foldl (registers bits) (s.registry.library handle))) := by
  induction calls generalizing s with
  | nil =>
    rw [List.foldlM_nil, List.foldl_nil, withData, Registry.setData_self]
    rfl
  | cons call calls ih =>
    obtain ⟨hcall, hcalls⟩ := List.forall_mem_cons.mp hr
    let t := withData s handle (registers bits (s.registry.library handle) call)
    have ht : t.registry.objects addr = some ⟨app, some handle⟩ := h
    have hdata : t.registry.library handle = registers bits (s.registry.library handle) call :=
      s.registry.setData_library handle _
    rw [List.foldlM_cons, callAt_eq hcall h]
    change calls.foldlM (callAt bits addr) t = _
    rw [ih hcalls ht, withData_twice, hdata, List.foldl_cons]

end Calls

/-- What a constructor leaves: its object, its place in the registry, and the data of its handle. -/
structure Constructed (bits : ResOpt) (app : App) (calls : List ResourceCall)
    (created : Option CoAPRes) (addr : ResourceAddr) (s t : ResourceWorld App) : Prop where
  objects : t.registry.objects = Function.update s.registry.objects addr (some ⟨app, created⟩)
  resources : t.registry.resources =
    s.registry.resources ++ if created.isSome then [addr] else []
  library : ∀ handle, t.registry.library handle =
    if created = some handle then calls.foldl (registers bits) ⟨0, false, none⟩
    else s.registry.library handle

theorem construct_ok {bits : ResOpt} {createResource : String → Option CoAPRes} {app : App}
    {uri : String} {calls : List ResourceCall} (hr : ∀ call ∈ calls, call.Registers)
    (s : ResourceWorld App) (addr : ResourceAddr) :
    ∃ t, construct bits createResource app uri calls s addr =
        .ok (t, (createResource uri).isSome) ∧
      Constructed bits app calls (createResource uri) addr s t := by
  unfold construct
  cases hc : createResource uri with
  | none =>
    refine ⟨s.create bits addr app none, rfl, ?_, ?_, fun handle => ?_⟩
    · exact s.registry.createResource_objects bits addr app none
    · exact (List.append_nil _).symm
    · exact Registry.createResource_library bits
  | some handle =>
    let fresh := s.create bits addr app (some handle)
    have hobjects : fresh.registry.objects =
        Function.update s.registry.objects addr (some ⟨app, some handle⟩) :=
      s.registry.createResource_objects bits addr app (some handle)
    have hthis : fresh.registry.objects addr = some ⟨app, some handle⟩ := by
      rw [hobjects, Function.update_self]
    have hdata : fresh.registry.library handle = ⟨0, false, none⟩ :=
      (Registry.createResource_library bits).trans (if_pos rfl)
    have hcalls : calls.foldlM (callAt bits addr) fresh = _ := calls_eq hr hthis
    refine ⟨withData fresh handle (calls.foldl (registers bits) ⟨0, false, none⟩), ?_, hobjects,
      rfl, fun other => ?_⟩
    · rw [hdata] at hcalls
      change (calls.foldlM (callAt bits addr) fresh).bind _ = _
      rw [hcalls]
      rfl
    · by_cases he : handle = other
      · subst he
        rw [if_pos rfl]
        exact fresh.registry.setData_library handle _
      · have hne : ¬ some handle = some other := fun h => he (Option.some.inj h)
        have hother : fresh.registry.library other = s.registry.library other :=
          (Registry.createResource_library bits).trans (if_neg hne)
        rw [if_neg hne, ← hother]
        exact Function.update_of_ne (Ne.symm he) _ _

namespace Storage

variable (storage : Storage)

def handle (app : App) : Option CoAPRes := storage.createResource app.uri

def creation (app : App) : Creation App := ⟨storage.addr app, app, storage.handle app⟩

theorem separate_creation {app other : App} (h : app ≠ other) :
    (storage.creation app).Separate (storage.creation other) := by
  refine ⟨fun he => h (storage.separate he), ?_⟩
  intro handle happ hother
  exact h (App.uri_inj (storage.fresh happ hother))

def history : CreationHistory App where
  creations := App.all.map storage.creation
  separate := List.Pairwise.map storage.creation (fun _ _ => storage.separate_creation)
    (show App.all.Pairwise (· ≠ ·) by decide)

end Storage

section Boot

variable {bits : ResOpt} {storage : Storage} {library : CoAPRes → CoAPResData} {memory : LedMemory}
  {ret : ℤ}

/-- The node when the main task enters its loop. -/
structure Boots (bits : ResOpt) (storage : Storage) (memory : LedMemory) (ret : ℤ) (t : Started) :
    Prop where
  holds : Registry.Holds t.world.registry storage.history.creations
  data : ∀ app handle, storage.handle app = some handle →
    t.world.registry.library handle =
      ⟨ResourceWorld.granted bits app.methods, decide (app = .switch), none⟩
  coapTask : t.coapTask = decide (ret = 1)
  statusLED : t.statusLED = statusLED memory t.ledConfigured
  ledConfigured : t.ledConfigured = (storage.handle .led).isSome
  switchHooked : t.switchHooked = (storage.handle .switch).isSome

theorem data_unchanged {app : App} {calls : List ResourceCall} {created : Option CoAPRes}
    {addr : ResourceAddr} {s t : ResourceWorld App}
    (h : Constructed bits app calls created addr s t) {handle : CoAPRes}
    (hc : created ≠ some handle) : t.registry.library handle = s.registry.library handle := by
  rw [h.library, if_neg hc]

theorem wifiResource_ok (bits : ResOpt) (storage : Storage) (s : ResourceWorld App) :
    ∃ t, wifiResource bits storage.createResource s (storage.addr .wifi) =
        .ok (t, (storage.handle .wifi).isSome) ∧
      Constructed bits .wifi [.registerHandler .get] (storage.handle .wifi) (storage.addr .wifi)
        s t :=
  construct_ok (by simp [ResourceCall.Registers]) s (storage.addr .wifi)

theorem ledResource_ok (bits : ResOpt) (storage : Storage) (s : ResourceWorld App) :
    ∃ t, ledResource bits storage.createResource s (storage.addr .led) =
        .ok (t, (storage.handle .led).isSome) ∧
      Constructed bits .led [.registerHandler .get, .registerHandler .post] (storage.handle .led)
        (storage.addr .led) s t :=
  construct_ok (by simp [ResourceCall.Registers]) s (storage.addr .led)

theorem switchResource_ok (bits : ResOpt) (storage : Storage) (s : ResourceWorld App) :
    ∃ t, switchResource bits storage.createResource s (storage.addr .switch) =
        .ok (t, (storage.handle .switch).isSome) ∧
      Constructed bits .switch [.registerHandler .get, .registerAsObservable]
        (storage.handle .switch) (storage.addr .switch) s t :=
  construct_ok (by simp [ResourceCall.Registers]) s (storage.addr .switch)

theorem construction_boots :
    ∃ t, construction bits storage library memory ret = .ok t ∧ Boots bits storage memory ret t := by
  obtain ⟨s₁, hs₁, hwifi⟩ := wifiResource_ok bits storage (ResourceWorld.start library)
  obtain ⟨s₂, hs₂, hled⟩ := ledResource_ok bits storage s₁
  obtain ⟨s₃, hs₃, hswitch⟩ := switchResource_ok bits storage s₂
  have hapart : ∀ {app other : App}, app ≠ other → storage.addr app ≠ storage.addr other :=
    fun h he => h (storage.separate he)
  have hother : ∀ {app other : App} {handle : CoAPRes}, app ≠ other →
      storage.handle app = some handle → storage.handle other ≠ some handle :=
    fun h happ hh => h (App.uri_inj (storage.fresh happ hh))
  refine ⟨⟨s₃, decide (ret = 1), Startup.statusLED memory _, _, _⟩, ?_, ⟨?_, ?_⟩, ?_, rfl, rfl, rfl,
    rfl⟩
  · unfold construction
    simp only [hs₁, hs₂, hs₃, bind, Except.bind]
    rfl
  · have hlast : s₃.registry.objects = _ := hswitch.objects
    rw [hled.objects, hwifi.objects] at hlast
    intro c hc
    obtain ⟨app, _, rfl⟩ := List.mem_map.mp hc
    change s₃.registry.objects (storage.addr app) = some ⟨app, storage.handle app⟩
    rw [hlast]
    cases app with
    | wifi =>
      rw [Function.update_of_ne (hapart (by decide)), Function.update_of_ne (hapart (by decide)),
        Function.update_self]
    | led => rw [Function.update_of_ne (hapart (by decide)), Function.update_self]
    | switch => rw [Function.update_self]
  · have hlast : s₃.registry.resources = _ := hswitch.resources
    rw [hled.resources, hwifi.resources] at hlast
    change s₃.registry.resources = _
    rw [hlast]
    change [] ++ (if (storage.handle .wifi).isSome then _ else _) ++
      (if (storage.handle .led).isSome then _ else _) ++
      (if (storage.handle .switch).isSome then _ else _) =
        (succeeded [storage.creation .wifi, storage.creation .led, storage.creation .switch]).map _
    unfold succeeded Storage.creation
    cases hw : storage.handle .wifi <;> cases hl : storage.handle .led <;>
      cases hs : storage.handle .switch <;> simp
  · intro app handle happ
    change s₃.registry.library handle = _
    cases app with
    | wifi =>
      have hlast := hother (show App.wifi ≠ .switch by decide) happ
      have hnext := hother (show App.wifi ≠ .led by decide) happ
      rw [data_unchanged hswitch hlast, data_unchanged hled hnext, hwifi.library, if_pos happ]
      simp [registers, App.methods, ResourceWorld.granted_singleton]
    | led =>
      have hlast := hother (show App.led ≠ .switch by decide) happ
      rw [data_unchanged hswitch hlast, hled.library, if_pos happ]
      have hmethods : ResourceWorld.granted bits App.led.methods =
          (Registry.methodBit bits .get).getD 0 ||| (Registry.methodBit bits .post).getD 0 := by
        rw [← ResourceWorld.granted_singleton, ← ResourceWorld.granted_singleton,
          ← ResourceWorld.granted_append]
        rfl
      rw [hmethods]
      simp [registers]
    | switch =>
      rw [hswitch.library, if_pos happ]
      simp [registers, App.methods, ResourceWorld.granted_singleton]

theorem taskHandle_boots (h : ret ≠ 0) :
    ∃ t, taskHandle bits storage library memory ret = .ok t ∧ Boots bits storage memory ret t := by
  unfold taskHandle start
  rw [if_pos (if_pos h)]
  exact construction_boots

theorem boots_of_taskHandle {t : Started}
    (h : taskHandle bits storage library memory ret = .ok t) : Boots bits storage memory ret t := by
  have hne : ret ≠ 0 := by
    rintro rfl
    cases h
  obtain ⟨started, hs, hboots⟩ : ∃ t, taskHandle bits storage library memory ret = .ok t ∧
    Boots bits storage memory ret t := taskHandle_boots hne
  obtain rfl := Except.ok.inj (h.symm.trans hs)
  exact hboots

/-- `pdPASS`, or `errCOULD_NOT_ALLOCATE_REQUIRED_MEMORY`. -/
def Documented (ret : ℤ) : Prop := ret = 1 ∨ ret = -1

theorem Boots.allows {t : Started} (h : Boots bits storage memory ret t) (hd : bits.Disjoint)
    {app : App} {handle : CoAPRes} (happ : storage.handle app = some handle)
    {requestType : CoapMessageCode} {bit : UInt16}
    (hb : Registry.methodBit bits requestType = some bit) :
    (t.world.registry.library handle).allowedMethods &&& bit ≠ 0 ↔ requestType ∈ app.methods := by
  rw [h.data app handle happ]
  exact ResourceWorld.granted_allows hd hb

theorem Boots.reaches {t : Started} (h : Boots bits storage memory ret t)
    (handleRequest : App → LobaroCoapMessage → LobaroCoapMessage →
      Except Abort (LobaroCoapMessage × CoapResult)) {app : App} {handle : CoAPRes}
    (happ : storage.handle app = some handle) {request : CoAPMessage}
    (hr : request.pResource = some handle) (response : CoAPMessage) :
    t.world.registry.resourceHandler handleRequest request response =
      (handleRequest app { message := request } { message := response }).map
        (Registry.dispatched app) := by
  have hmem : storage.creation app ∈ storage.history.creations := by
    apply List.mem_map_of_mem
    cases app <;> decide
  exact Registry.resourceHandler_owner handleRequest h.holds storage.history.separate hmem happ hr
    response

theorem Boots.unmapped {t : Started} (h : Boots bits storage memory ret t)
    (handleRequest : App → LobaroCoapMessage → LobaroCoapMessage →
      Except Abort (LobaroCoapMessage × CoapResult)) {request : CoAPMessage}
    (hr : ∀ app handle, storage.handle app = some handle → request.pResource ≠ some handle)
    (response : CoAPMessage) :
    t.world.registry.resourceHandler handleRequest request response =
      .ok (Registry.notMapped response) := by
  apply Registry.resourceHandler_notMapped handleRequest h.holds
  intro c hc handle happ
  obtain ⟨app, _, rfl⟩ := List.mem_map.mp hc
  exact hr app handle happ

end Boot

/-- Whatever the library and `xTaskCreate` answer, the main task reaches its loop, and each resource
that was created answers its own requests: the assert does not see a task that was not created. -/
theorem node_starts (bits : ResOpt) (hd : bits.Disjoint) (storage : Storage)
    (library : CoAPRes → CoAPResData) (memory : LedMemory) (ret : ℤ) (hret : Documented ret)
    (handleRequest : App → LobaroCoapMessage → LobaroCoapMessage →
      Except Abort (LobaroCoapMessage × CoapResult)) :
    ∃ t, taskHandle bits storage library memory ret = .ok t ∧
      (∀ app handle, storage.handle app = some handle →
        (∀ requestType bit, Registry.methodBit bits requestType = some bit →
          ((t.world.registry.library handle).allowedMethods &&& bit ≠ 0 ↔
            requestType ∈ app.methods)) ∧
        ((t.world.registry.library handle).notifier = true ↔ app = .switch) ∧
        ∀ request response, request.pResource = some handle →
          (∀ answered result,
            handleRequest app { message := request } { message := response } =
              .ok (answered, result) →
            ∃ dispatch, t.world.registry.resourceHandler handleRequest request response =
              .ok dispatch ∧ Registry.Answered app answered result dispatch) ∧
          ∀ abort, handleRequest app { message := request } { message := response } =
              .error abort →
            t.world.registry.resourceHandler handleRequest request response = .error abort) ∧
      (∀ request response,
        (∀ app handle, storage.handle app = some handle → request.pResource ≠ some handle) →
        t.world.registry.resourceHandler handleRequest request response =
          .ok ⟨[], { response with code := .internalServerError }, .error⟩) ∧
      (t.coapTask = true ↔ ret = 1) ∧ (t.ledConfigured = true ↔ storage.handle .led ≠ none) ∧
      (t.switchHooked = true ↔ storage.handle .switch ≠ none) := by
  have hne : ret ≠ 0 := by
    rcases hret with rfl | rfl <;> decide
  obtain ⟨t, ht, h⟩ : ∃ t, taskHandle bits storage library memory ret = .ok t ∧
    Boots bits storage memory ret t := taskHandle_boots hne
  refine ⟨t, ht, fun app handle happ => ⟨?_, ?_, ?_⟩, ?_, ?_, ?_, ?_⟩
  · intro requestType bit hb
    exact h.allows hd happ hb
  · rw [h.data app handle happ]
    exact decide_eq_true_iff
  · intro request response hr
    have hreaches := h.reaches handleRequest happ hr response
    constructor
    · intro answered result hanswered
      rw [hanswered] at hreaches
      exact ⟨_, hreaches, Registry.dispatched_answered app (answered, result)⟩
    · intro abort habort
      rw [habort] at hreaches
      exact hreaches
  · intro request response hr
    exact h.unmapped handleRequest hr response
  · rw [h.coapTask]
    exact decide_eq_true_iff
  · rw [h.ledConfigured, Option.isSome_iff_ne_none]
  · rw [h.switchHooked, Option.isSome_iff_ne_none]

/-- Storage in which the creation of `wifi` fails. -/
def twoResources : Storage where
  addr
    | .wifi => 0
    | .led => 1
    | .switch => 2
  separate := by
    intro app other h
    cases app <;> cases other <;> first | rfl | exact absurd h (by decide)
  createResource uri := if uri = "led" then some 5 else if uri = "switch" then some 8 else none
  fresh := by
    intro uri other handle huri hother
    split_ifs at huri hother with hled hled' hswitch' hswitch hled' hswitch'
    · exact hled.trans hled'.symm
    · cases huri
      cases hother
    · cases huri
      cases hother
    · exact hswitch.trans hswitch'.symm

theorem node_starts_alone :
    ∃ t, taskHandle ⟨1, 2, 4, 8⟩ twoResources (fun _ => ⟨15, true, none⟩)
        ⟨⟨.highSpeed, .channel0, 0⟩, ⟨.highSpeed, .channel1, 0⟩, ⟨.highSpeed, .channel2, 0⟩⟩ (-1) =
          .ok t ∧ (t.world.registry.library 5).allowedMethods &&& 2 ≠ 0 ∧ t.coapTask ≠ true := by
  have hd : ResOpt.Disjoint ⟨1, 2, 4, 8⟩ :=
    { nonzero := by simp [ResOpt.masks]
      apart := by
        simp [ResOpt.masks]
        exact ⟨⟨rfl, rfl, rfl⟩, ⟨rfl, rfl⟩, rfl⟩ }
  obtain ⟨t, ht, hcreated, _, hcoap, _⟩ := node_starts ⟨1, 2, 4, 8⟩ hd twoResources
    (fun _ => ⟨15, true, none⟩)
    ⟨⟨.highSpeed, .channel0, 0⟩, ⟨.highSpeed, .channel1, 0⟩, ⟨.highSpeed, .channel2, 0⟩⟩ (-1)
    (Or.inr rfl) (fun _ _ response => .ok (response, .ok))
  refine ⟨t, ht, ?_, fun hc => absurd (hcoap.mp hc) (by decide)⟩
  exact ((hcreated .led 5 rfl).1 .post 2 rfl).mpr (by decide)

end Startup

end IoTNode
