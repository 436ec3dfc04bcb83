import IoTNode.NotifyLifetimes
import Mathlib.Data.List.Induction

set_option autoImplicit false

namespace IoTNode.Lobaro

open Coap Foundations

namespace Registry

variable {α : Type} (s : Registry α) (this : LobaroCoapResource α)

def setData (handle : CoAPRes) (data : CoAPResData) : Registry α :=
  { s with library := Function.update s.library handle data }

theorem setData_library (handle : CoAPRes) (data : CoAPResData) :
    (s.setData handle data).library handle = data := Function.update_self _ _ _

theorem setData_self {handle : CoAPRes} : s.setData handle (s.library handle) = s := by
  unfold setData
  rw [Function.update_eq_self]

def methodBit (bits : ResOpt) (requestType : CoapMessageCode) : Option UInt16 :=
  if requestType = .get then some bits.get
  else if requestType = .post then some bits.post
  else if requestType = .put then some bits.put
  else if requestType = .delete then some bits.delete
  else none

theorem methodBit_other {bits : ResOpt} {requestType : CoapMessageCode}
    (h : requestType ∉ [CoapMessageCode.get, .post, .put, .delete]) :
    methodBit bits requestType = none := by
  simp only [List.mem_cons, List.not_mem_nil, or_false, not_or] at h
  obtain ⟨hget, hpost, hput, hdelete⟩ := h
  unfold methodBit
  rw [if_neg hget, if_neg hpost, if_neg hput, if_neg hdelete]

def registerHandler (bits : ResOpt) (requestType : CoapMessageCode) : Registry α × CoapResult :=
  match this.resource with
  | none => (s, .error)
  | some handle =>
    let data := s.library handle
    match methodBit bits requestType with
    | none => (s, .error)
    | some bit =>
      (s.setData handle { data with allowedMethods := data.allowedMethods ||| bit }, .ok)

-- unlike `RegisterHandler`, it writes through the handle without looking at it
def registerAsObservable : Except Abort (Registry α × CoapResult) :=
  match this.resource with
  | none => .error .danglingPointer
  | some handle => .ok (s.setData handle { s.library handle with notifier := true }, .ok)

def handleAt (addr : ResourceAddr) : Option CoAPRes :=
  (s.objects addr).bind LobaroCoapResource.resource

def handles : List CoAPRes := s.resources.filterMap s.handleAt

theorem handleAt_of_objects {s : Registry α} {addr : ResourceAddr} {this : LobaroCoapResource α}
    (h : s.objects addr = some this) : s.handleAt addr = this.resource := by
  unfold handleAt
  rw [h, Option.bind_some]

structure Owned (s : Registry α) : Prop where
  listed : ∀ {addr handle}, s.handleAt addr = some handle → addr ∈ s.resources
  separate : ∀ {addr other handle}, s.handleAt addr = some handle →
    s.handleAt other = some handle → addr = other

section Creation

variable {s} {addr other : ResourceAddr} {handle : CoAPRes} {app : α} {created : Option CoAPRes}

theorem Owned.not_created (h : s.Owned) (hf : ∀ fresh ∈ created, fresh ∉ s.handles)
    (ha : s.handleAt other = some handle) : created ≠ some handle := by
  intro hc
  exact hf handle hc (List.mem_filterMap.mpr ⟨other, h.listed ha, ha⟩)

theorem createResource_handleAt (bits : ResOpt) :
    (s.createResource bits addr app created).1.handleAt other =
      if other = addr then created else s.handleAt other := by
  unfold handleAt
  rw [createResource_objects, Function.update_apply]
  split_ifs <;> rfl

theorem createResource_library (bits : ResOpt) :
    (s.createResource bits addr app created).1.library handle =
      if created = some handle then ⟨0, false, none⟩ else s.library handle := by
  unfold createResource
  cases created with
  | none => rfl
  | some fresh =>
    dsimp only
    rw [Function.update_apply]
    exact if_congr (by rw [Option.some.injEq, eq_comm]) rfl rfl

theorem createResource_mem (bits : ResOpt) (h : other ∈ s.resources) :
    other ∈ (s.createResource bits addr app created).1.resources := by
  unfold createResource
  cases created with
  | none => exact h
  | some fresh => exact List.mem_append_left [addr] h

theorem Owned.create (h : s.Owned) (bits : ResOpt) (hf : ∀ fresh ∈ created, fresh ∉ s.handles) :
    (s.createResource bits addr app created).1.Owned := by
  constructor
  · intro a handle ha
    rw [createResource_handleAt] at ha
    split_ifs at ha with hnew
    · subst hnew ha
      exact List.mem_append_right s.resources List.mem_cons_self
    · exact createResource_mem bits (h.listed ha)
  · intro a b handle ha hb
    rw [createResource_handleAt] at ha hb
    split_ifs at ha hb with hna hnb hnb
    · exact hna.trans hnb.symm
    · exact absurd ha (h.not_created hf hb)
    · exact absurd hb (h.not_created hf ha)
    · exact h.separate ha hb

end Creation

end Registry

inductive ResourceCall
  | registerHandler (requestType : CoapMessageCode)
  | registerAsObservable
  | notifyObservers (prior : CoapResult)
deriving DecidableEq, Repr

inductive SetupAction (α : Type)
  | create (addr : ResourceAddr) (app : α) (created : Option CoAPRes)
  | call (addr : ResourceAddr) (call : ResourceCall)
  | coapTask

def ResOpt.masks (bits : ResOpt) : List UInt16 := [bits.get, bits.post, bits.put, bits.delete]

structure ResOpt.Disjoint (bits : ResOpt) : Prop where
  nonzero : ∀ bit ∈ bits.masks, bit ≠ 0
  apart : bits.masks.Pairwise (fun a b => a &&& b = 0)

namespace ResourceWorld

variable {α : Type} (bits : ResOpt) (s : ResourceWorld α)

def withRegistry (registry : Registry α) : ResourceWorld α := { s with registry := registry }

def call (addr : ResourceAddr) (this : LobaroCoapResource α) :
    ResourceCall → Except Abort (ResourceWorld α × CoapResult)
  | .registerHandler requestType =>
    let (registry, result) := s.registry.registerHandler this bits requestType
    .ok (s.withRegistry registry, result)
  | .registerAsObservable => do
    let (registry, result) ← s.registry.registerAsObservable this
    return (s.withRegistry registry, result)
  | .notifyObservers prior =>
    .ok (s.notify addr prior,
      (notifyObservers s.notifyQueue (⟨addr, s.births addr⟩ : ResourcePtr) prior).2)

def Fresh (created : Option CoAPRes) : Prop := ∀ handle ∈ created, handle ∉ s.registry.handles

instance (created : Option CoAPRes) : Decidable (s.Fresh created) :=
  inferInstanceAs (Decidable (∀ handle ∈ created, handle ∉ s.registry.handles))

/-- Creations in storage of their own, each with a handle of its own if it succeeds, calls on the
resources, and the CoAP task. -/
def setup : System (ResourceWorld α) (SetupAction α) where
  init s := ∃ library, s = start library
  step s
    | .create addr app created =>
      if (s.registry.objects addr).isNone ∧ s.Fresh created then
        some (s.create bits addr app created)
      else none
    | .call addr call =>
      match s.registry.objects addr with
      | none => none
      | some this =>
        match s.call bits addr this call with
        | .error _ => none
        | .ok (t, _) => some t
    | .coapTask => s.coapTask

def granted (codes : List CoapMessageCode) : UInt16 :=
  (if .get ∈ codes then bits.get else 0) ||| (if .post ∈ codes then bits.post else 0) |||
    (if .put ∈ codes then bits.put else 0) ||| (if .delete ∈ codes then bits.delete else 0)

end ResourceWorld

def ResourceCall.registered : ResourceCall → List CoapMessageCode
  | .registerHandler requestType => [requestType]
  | _ => []

def SetupAction.registered {α : Type} (addr : ResourceAddr) : SetupAction α → List CoapMessageCode
  | .call other made => if other = addr then made.registered else []
  | _ => []

namespace ResourceWorld

variable {α : Type} {bits : ResOpt} {s t : ResourceWorld α}

def registered (addr : ResourceAddr) (actions : List (SetupAction α)) : List CoapMessageCode :=
  actions.flatMap (SetupAction.registered addr)

theorem registered_snoc (addr : ResourceAddr) (actions : List (SetupAction α)) (a : SetupAction α) :
    registered addr (actions ++ [a]) = registered addr actions ++ a.registered addr := by
  unfold registered
  rw [List.flatMap_append, List.flatMap_singleton]

theorem registered_quiet {a : SetupAction α} (h : ∀ addr, a.registered addr = [])
    (actions : List (SetupAction α)) (addr : ResourceAddr) :
    registered addr (actions ++ [a]) = registered addr actions := by
  rw [registered_snoc, h, List.append_nil]

theorem ite_or_eq (p q : Prop) [Decidable p] [Decidable q] (bit : UInt16) :
    (if p ∨ q then bit else 0) = (if p then bit else 0) ||| (if q then bit else 0) := by
  by_cases hp : p <;> by_cases hq : q <;> simp [hp, hq]

theorem granted_nil : granted bits [] = 0 := by simp [granted]

theorem granted_append (past recent : List CoapMessageCode) :
    granted bits (past ++ recent) = granted bits past ||| granted bits recent := by
  unfold granted
  simp only [List.mem_append, ite_or_eq]
  ac_rfl

theorem granted_singleton (code : CoapMessageCode) :
    granted bits [code] = (Registry.methodBit bits code).getD 0 := by
  unfold granted Registry.methodBit
  simp only [List.mem_singleton]
  by_cases hget : code = .get
  · subst hget
    simp +decide
  by_cases hpost : code = .post
  · subst hpost
    simp +decide
  by_cases hput : code = .put
  · subst hput
    simp +decide
  by_cases hdelete : code = .delete
  · subst hdelete
    simp +decide
  simp [hget, hpost, hput, hdelete, eq_comm]

theorem or_and_ne_zero (a b c : UInt16) :
    (a ||| b) &&& c ≠ 0 ↔ a &&& c ≠ 0 ∨ b &&& c ≠ 0 := by
  have hdistrib : (a ||| b) &&& c = (a &&& c) ||| (b &&& c) :=
    UInt16.toBitVec_inj.mp BitVec.and_or_distrib_right
  rw [hdistrib, ne_eq, UInt16.or_eq_zero_iff, not_and_or]

theorem ite_and_ne_zero (p : Prop) [Decidable p] (a c : UInt16) :
    (if p then a else 0) &&& c ≠ 0 ↔ p ∧ a &&& c ≠ 0 := by
  split_ifs with h <;> simp [h]

theorem granted_allows (hd : bits.Disjoint) {codes : List CoapMessageCode} {code : CoapMessageCode}
    {bit : UInt16} (hb : Registry.methodBit bits code = some bit) :
    granted bits codes &&& bit ≠ 0 ↔ code ∈ codes := by
  unfold granted
  simp only [or_and_ne_zero, ite_and_ne_zero]
  unfold Registry.methodBit at hb
  obtain ⟨hnonzero, hpairs⟩ := hd
  split_ifs at hb with hget hpost hput hdelete <;> cases hb
  all_goals
    subst code
    simp_all [ResOpt.masks, UInt16.and_comm]

theorem setup_create {addr : ResourceAddr} {app : α} {created : Option CoAPRes} :
    (setup bits).step s (.create addr app created) = some t ↔
      (s.registry.objects addr = none ∧ s.Fresh created) ∧ s.create bits addr app created = t := by
  unfold setup
  rw [Option.ite_none_right_eq_some, Option.some.injEq, Option.isNone_iff_eq_none]

theorem setup_call {addr : ResourceAddr} {call : ResourceCall} :
    (setup bits).step s (.call addr call) = some t ↔
      ∃ this result, s.registry.objects addr = some this ∧
        s.call bits addr this call = .ok (t, result) := by
  unfold setup
  dsimp only
  cases ha : s.registry.objects addr with
  | none => simp
  | some this =>
    cases hc : s.call bits addr this call with
    | error abort => simp [hc]
    | ok outcome => simp [hc, Prod.ext_iff]

theorem call_registerHandler (addr : ResourceAddr) (this : LobaroCoapResource α)
    (requestType : CoapMessageCode) :
    s.call bits addr this (.registerHandler requestType) =
      .ok (s.withRegistry (s.registry.registerHandler this bits requestType).1,
        (s.registry.registerHandler this bits requestType).2) := rfl

theorem call_registerAsObservable (addr : ResourceAddr) (this : LobaroCoapResource α) :
    s.call bits addr this .registerAsObservable =
      match this.resource with
      | none => .error .danglingPointer
      | some handle =>
        .ok (s.withRegistry (s.registry.setData handle
          { s.registry.library handle with notifier := true }), .ok) := by
  unfold ResourceWorld.call Registry.registerAsObservable
  cases this.resource <;> rfl

theorem coapTask_registry (ht : s.coapTask = some t) : t.registry = s.registry := by
  obtain ⟨_, _, _, rfl⟩ | ⟨_, _, _, _, rfl⟩ | ⟨_, _, _, _, rfl⟩ | ⟨_, _, _, rfl⟩ :=
    coapTask_cases ht <;> rfl

theorem call_cases {addr : ResourceAddr} {this : LobaroCoapResource α} {call : ResourceCall}
    {result : CoapResult} (h : s.call bits addr this call = .ok (t, result)) :
    (this.resource = none ∧ t.registry = s.registry) ∨
      ∃ handle data, this.resource = some handle ∧ t.registry = s.registry.setData handle data ∧
        data.allowedMethods =
          (s.registry.library handle).allowedMethods ||| granted bits call.registered := by
  cases call with
  | registerHandler requestType =>
    rw [call_registerHandler] at h
    obtain ⟨rfl, _⟩ := Prod.mk.inj (Except.ok.inj h)
    rw [ResourceCall.registered, granted_singleton]
    unfold Registry.registerHandler withRegistry
    cases hr : this.resource with
    | none => exact .inl ⟨rfl, rfl⟩
    | some handle =>
      refine .inr ⟨handle, ?_⟩
      cases hb : Registry.methodBit bits requestType with
      | none => exact ⟨_, rfl, s.registry.setData_self.symm, by simp⟩
      | some bit => exact ⟨_, rfl, rfl, rfl⟩
  | registerAsObservable =>
    rw [call_registerAsObservable] at h
    cases hr : this.resource with
    | none => simp [hr] at h
    | some handle =>
      rw [hr] at h
      obtain ⟨rfl, _⟩ := Prod.mk.inj (Except.ok.inj h)
      exact .inr ⟨handle, _, rfl, rfl, by simp [ResourceCall.registered, granted_nil]⟩
  | notifyObservers prior =>
    obtain ⟨rfl, _⟩ := Prod.mk.inj (Except.ok.inj h)
    cases hr : this.resource with
    | none => exact .inl ⟨rfl, rfl⟩
    | some handle =>
      exact .inr ⟨handle, _, rfl, s.registry.setData_self.symm,
        by simp [ResourceCall.registered, granted_nil]⟩

section Calls

variable {addr : ResourceAddr} {this : LobaroCoapResource α} {call : ResourceCall}
  {result : CoapResult}

theorem call_objects (h : s.call bits addr this call = .ok (t, result)) :
    t.registry.objects = s.registry.objects := by
  obtain ⟨_, ht⟩ | ⟨handle, data, _, ht, _⟩ := call_cases h <;> rw [ht]
  rfl

theorem call_handleAt (h : s.call bits addr this call = .ok (t, result)) (other : ResourceAddr) :
    t.registry.handleAt other = s.registry.handleAt other := by
  unfold Registry.handleAt
  rw [call_objects h]

theorem call_library_other (h : s.call bits addr this call = .ok (t, result)) {handle : CoAPRes}
    (hne : this.resource ≠ some handle) :
    t.registry.library handle = s.registry.library handle := by
  obtain ⟨_, ht⟩ | ⟨own, data, hown, ht, _⟩ := call_cases h
  · rw [ht]
  · rw [ht]
    apply Function.update_of_ne
    rintro rfl
    exact hne hown

theorem call_allowedMethods (h : s.call bits addr this call = .ok (t, result)) {handle : CoAPRes}
    (hown : this.resource = some handle) :
    (t.registry.library handle).allowedMethods =
      (s.registry.library handle).allowedMethods ||| granted bits call.registered := by
  obtain ⟨hnone, _⟩ | ⟨own, data, hsome, ht, hdata⟩ := call_cases h
  · rw [hnone] at hown
    cases hown
  · obtain rfl : own = handle := Option.some.inj (hsome.symm.trans hown)
    rw [ht, ← hdata]
    exact congrArg CoAPResData.allowedMethods (s.registry.setData_library own data)

theorem call_owned (h : s.call bits addr this call = .ok (t, result)) (ho : s.registry.Owned) :
    t.registry.Owned := by
  have hresources : t.registry.resources = s.registry.resources := by
    obtain ⟨_, ht⟩ | ⟨handle, data, _, ht, _⟩ := call_cases h <;> rw [ht]
    rfl
  constructor
  · intro other handle ha
    rw [call_handleAt h] at ha
    exact hresources ▸ ho.listed ha
  · intro a b handle ha hb
    rw [call_handleAt h] at ha hb
    exact ho.separate ha hb

end Calls

theorem owned_start (library : CoAPRes → CoAPResData) : (start (α := α) library).registry.Owned :=
  ⟨fun h => (by cases h), fun h => (by cases h)⟩

/-- What the actions of a run leave in the registry. -/
structure Registered (bits : ResOpt) (s : ResourceWorld α) (actions : List (SetupAction α)) :
    Prop where
  owned : s.registry.Owned
  unborn : ∀ {addr}, s.registry.objects addr = none → registered addr actions = []
  methods : ∀ {addr handle}, s.registry.handleAt addr = some handle →
    (s.registry.library handle).allowedMethods = granted bits (registered addr actions)

theorem registered_start (library : CoAPRes → CoAPResData) :
    Registered bits (start (α := α) library) [] :=
  ⟨owned_start library, fun _ => rfl, fun h => by cases h⟩

theorem Registered.create {actions : List (SetupAction α)} (h : Registered bits s actions)
    {addr : ResourceAddr} {app : α} {created : Option CoAPRes}
    (hnew : s.registry.objects addr = none) (hf : s.Fresh created) :
    Registered bits (s.create bits addr app created) (actions ++ [.create addr app created]) := by
  have hsame := registered_quiet (a := .create addr app created) (fun _ => rfl) actions
  refine ⟨h.owned.create bits hf, ?_, ?_⟩
  · intro other ho
    rw [hsame]
    apply h.unborn
    by_cases he : other = addr
    · rw [he, hnew]
    · simpa [ResourceWorld.create, Registry.createResource_objects, Function.update_of_ne he]
        using ho
  · intro other handle ha
    change (s.registry.createResource bits addr app created).1.handleAt other = some handle at ha
    change ((s.registry.createResource bits addr app created).1.library handle).allowedMethods = _
    rw [hsame]
    rw [Registry.createResource_handleAt] at ha
    rw [Registry.createResource_library]
    split_ifs at ha with he
    · rw [if_pos ha, he, h.unborn hnew, granted_nil]
    · rw [if_neg (h.owned.not_created hf ha), h.methods ha]

theorem Registered.call {actions : List (SetupAction α)} (h : Registered bits s actions)
    {addr : ResourceAddr} {this : LobaroCoapResource α} {call : ResourceCall} {result : CoapResult}
    (ha : s.registry.objects addr = some this)
    (hc : s.call bits addr this call = .ok (t, result)) :
    Registered bits t (actions ++ [.call addr call]) := by
  refine ⟨call_owned hc h.owned, ?_, ?_⟩
  · intro other ho
    rw [call_objects hc] at ho
    rw [registered_snoc, h.unborn ho]
    apply if_neg
    rintro rfl
    rw [ha] at ho
    cases ho
  · intro other handle ho
    rw [call_handleAt hc] at ho
    have hthis := Registry.handleAt_of_objects ha
    rw [registered_snoc, granted_append, ← h.methods ho]
    by_cases he : addr = other
    · subst he
      rw [call_allowedMethods hc (hthis.symm.trans ho)]
      exact congrArg _ (congrArg (granted bits) (if_pos rfl).symm)
    · have hne : this.resource ≠ some handle := by
        intro hown
        exact he (h.owned.separate (hthis.trans hown) ho)
      rw [call_library_other hc hne, SetupAction.registered, if_neg he, granted_nil,
        UInt16.or_zero]

theorem Registered.coapTask {actions : List (SetupAction α)} (h : Registered bits s actions)
    (ht : s.coapTask = some t) : Registered bits t (actions ++ [.coapTask]) := by
  have hsame := registered_quiet (a := .coapTask) (fun _ => rfl) actions
  have hregistry := coapTask_registry ht
  refine ⟨hregistry ▸ h.owned, ?_, ?_⟩
  · intro addr ha
    rw [hsame]
    exact h.unborn (hregistry ▸ ha)
  · intro addr handle ha
    rw [hsame, hregistry]
    exact h.methods (hregistry ▸ ha)

theorem run_registered {library : CoAPRes → CoAPResData} {actions : List (SetupAction α)}
    (hr : (setup bits).run (start library) actions = some t) : Registered bits t actions := by
  induction actions using List.reverseRecOn generalizing t with
  | nil =>
    obtain rfl := Option.some.inj hr
    exact registered_start library
  | append_singleton actions a ih =>
    obtain ⟨s, hs, ht⟩ := (setup bits).run_snoc_some.mp hr
    have h := ih hs
    cases a with
    | create addr app created =>
      obtain ⟨⟨hnew, hf⟩, rfl⟩ := setup_create.mp ht
      exact h.create hnew hf
    | call addr call =>
      obtain ⟨this, result, ha, hc⟩ := setup_call.mp ht
      exact h.call ha hc
    | coapTask => exact h.coapTask ht

theorem allowedMethods_registered (bits : ResOpt) (library : CoAPRes → CoAPResData)
    (actions : List (SetupAction α)) (t : ResourceWorld α)
    (hr : (setup bits).run (start library) actions = some t) (addr : ResourceAddr)
    (this : LobaroCoapResource α) (ha : t.registry.objects addr = some this) :
    (∀ handle, this.resource = some handle →
      (t.registry.library handle).allowedMethods = granted bits (registered addr actions) ∧
      (bits.Disjoint → ∀ requestType bit, Registry.methodBit bits requestType = some bit →
        ((t.registry.library handle).allowedMethods &&& bit ≠ 0 ↔
          requestType ∈ registered addr actions))) ∧
    ∀ requestType ∉ [CoapMessageCode.get, .post, .put, .delete],
      t.call bits addr this (.registerHandler requestType) = .ok (t, .error) := by
  constructor
  · intro handle hown
    have hmethods : (t.registry.library handle).allowedMethods =
        granted bits (registered addr actions) := by
      apply (run_registered hr).methods
      rw [Registry.handleAt_of_objects ha, hown]
    refine ⟨hmethods, fun hd requestType bit hb => ?_⟩
    rw [hmethods]
    exact granted_allows hd hb
  · intro requestType hother
    have hhandler : t.registry.registerHandler this bits requestType = (t.registry, .error) := by
      unfold Registry.registerHandler
      rw [Registry.methodBit_other hother]
      cases this.resource <;> rfl
    rw [call_registerHandler, hhandler]
    rfl

theorem allowedMethods_registered_interleaved :
    ∃ t : ResourceWorld Unit, t.registry.library 8 = ⟨9, false, none⟩ ∧
      t.registry.objects 1 = some ⟨(), some 8⟩ ∧
      (t.registry.library 8).allowedMethods = granted ⟨1, 2, 4, 8⟩ [.delete, 20, .get] ∧
      t.call ⟨1, 2, 4, 8⟩ 1 ⟨(), some 8⟩ (.registerHandler 20) = .ok (t, .error) := by
  let actions : List (SetupAction Unit) :=
    [.create 0 () (some 5), .create 1 () (some 8), .call 1 (.registerHandler .delete),
      .call 0 (.registerHandler .put), .call 1 (.registerHandler 20),
      .call 1 (.registerHandler .get)]
  have h := allowedMethods_registered ⟨1, 2, 4, 8⟩ (fun _ => ⟨15, true, none⟩) actions _ rfl 1
    ⟨(), some 8⟩ rfl
  exact ⟨_, rfl, rfl, (h.1 8 rfl).1, h.2 20 (by decide)⟩

end ResourceWorld

end IoTNode.Lobaro
