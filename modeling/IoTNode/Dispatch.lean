import IoTNode.Resources
import Mathlib.Data.List.Induction
import Mathlib.Data.List.Pairwise
import Mathlib.Algebra.Order.BigOperators.Group.List
import Mathlib.Algebra.Order.Group.Nat

set_option autoImplicit false

namespace IoTNode.Lobaro

open Coap Foundations

structure Creation (α : Type) where
  addr : ResourceAddr
  app : α
  created : Option CoAPRes
deriving DecidableEq, Repr

namespace Creation

variable {α : Type}

def object (c : Creation α) : LobaroCoapResource α := ⟨c.app, c.created⟩

def Separate (c d : Creation α) : Prop :=
  c.addr ≠ d.addr ∧ ∀ handle, c.created = some handle → d.created ≠ some handle

instance : Std.Symm (Separate (α := α)) where
  symm _ _ h := ⟨h.1.symm, fun handle hd hc => h.2 handle hc hd⟩

end Creation

structure CreationHistory (α : Type) where
  creations : List (Creation α)
  separate : creations.Pairwise Creation.Separate

def succeeded {α : Type} (cs : List (Creation α)) : List (Creation α) :=
  cs.filter (fun c => c.created.isSome)

namespace Registry

variable {α : Type}

def start (library : CoAPRes → CoAPResData) : Registry α := ⟨fun _ => none, [], library⟩

def withLibrary (s : Registry α) (library : CoAPRes → CoAPResData) : Registry α :=
  { s with library := library }

def create (bits : ResOpt) (s : Registry α) (c : Creation α) : Registry α :=
  (s.createResource bits c.addr c.app c.created).1

def run (bits : ResOpt) (library : CoAPRes → CoAPResData) (cs : List (Creation α)) : Registry α :=
  cs.foldl (create bits) (start library)

structure Holds (s : Registry α) (cs : List (Creation α)) : Prop where
  objects : ∀ c ∈ cs, s.objects c.addr = some c.object
  resources : s.resources = (succeeded cs).map Creation.addr

theorem create_objects (bits : ResOpt) (s : Registry α) (c : Creation α) :
    (s.create bits c).objects = Function.update s.objects c.addr (some c.object) :=
  s.createResource_objects bits c.addr c.app c.created

theorem create_resources (bits : ResOpt) (s : Registry α) (c : Creation α) :
    (s.create bits c).resources = s.resources ++ (succeeded [c]).map Creation.addr := by
  unfold create createResource
  cases h : c.created <;> simp [succeeded, h]

theorem holds_run (bits : ResOpt) (library : CoAPRes → CoAPResData) (cs : List (Creation α))
    (hs : cs.Pairwise Creation.Separate) : Holds (run bits library cs) cs := by
  induction cs using List.reverseRecOn with
  | nil => exact ⟨fun _ hc => absurd hc List.not_mem_nil, rfl⟩
  | append_singleton cs c ih =>
    obtain ⟨hcs, _, hsep⟩ := List.pairwise_append.mp hs
    have h := ih hcs
    have hrun : run bits library (cs ++ [c]) = (run bits library cs).create bits c := by
      simp [run]
    rw [hrun]
    constructor
    · intro d hd
      rw [create_objects]
      rcases List.mem_append.mp hd with hd | hd
      · have hne : d.addr ≠ c.addr := (hsep d hd c (List.mem_singleton_self c)).1
        rw [Function.update_of_ne hne]
        exact h.objects d hd
      · rw [List.mem_singleton.mp hd, Function.update_self]
    · rw [create_resources, h.resources, ← List.map_append]
      simp [succeeded]

section Search

variable {s : Registry α}

theorem findResource_eq (pResource : Option CoAPRes) (cs : List (Creation α))
    (h : ∀ c ∈ cs, s.objects c.addr = some c.object) :
    s.findResource pResource (cs.map Creation.addr) =
      .ok ((cs.find? (fun c => c.created == pResource)).map Creation.object) := by
  induction cs with
  | nil => rfl
  | cons c cs ih =>
    rw [List.map_cons, findResource, h c List.mem_cons_self]
    dsimp only
    by_cases hc : c.created = pResource
    · rw [List.find?_cons_of_pos (by simp [hc])]
      exact if_pos hc
    · rw [List.find?_cons_of_neg (by simp [hc]), ← ih (fun d hd => h d (List.mem_cons_of_mem c hd))]
      exact if_neg hc

def Observes (lists : CoAPRes → List ObserverAddr) (observer : ObserverAddr) (c : Creation α) :
    Bool :=
  match c.created with
  | none => false
  | some handle => decide (observer ∈ lists handle)

theorem findObserved_eq {next : ObserverAddr → Option ObserverAddr} {observer : ObserverAddr}
    {lists : CoAPRes → List ObserverAddr} {fuel : ℕ} (cs : List (Creation α))
    (h : ∀ c ∈ cs, s.objects c.addr = some c.object)
    (hl : ∀ c ∈ cs, ∀ handle, c.created = some handle →
      Chain next (s.library handle).pListObservers (lists handle) ∧ (lists handle).length ≤ fuel) :
    s.findObserved next observer fuel (cs.map Creation.addr) =
      some (.ok ((cs.find? (Observes lists observer)).map Creation.object)) := by
  induction cs with
  | nil => rfl
  | cons c cs ih =>
    have ih := ih (fun d hd => h d (List.mem_cons_of_mem c hd))
      (fun d hd => hl d (List.mem_cons_of_mem c hd))
    rw [List.map_cons, findObserved, h c List.mem_cons_self]
    dsimp only [Creation.object]
    cases hc : c.created with
    | none =>
      rw [List.find?_cons_of_neg (by simp [Observes, hc])]
      exact ih
    | some handle =>
      obtain ⟨hchain, hfuel⟩ := hl c List.mem_cons_self handle hc
      dsimp only
      rw [search_chain hchain hfuel]
      by_cases ho : observer ∈ lists handle
      · rw [List.find?_cons_of_pos (by simp [Observes, hc, ho])]
        simp [ho, Creation.object, hc]
      · rw [List.find?_cons_of_neg (by simp [Observes, hc, ho])]
        simp only [ho, decide_false]
        exact ih

end Search

end Registry

theorem find?_eq_of_unique {β : Type} {p : β → Bool} {l : List β} {a : β} (ha : a ∈ l)
    (hp : p a = true) (hu : ∀ b ∈ l, p b = true → b = a) : l.find? p = some a := by
  cases h : l.find? p with
  | none => exact absurd hp (by simpa using List.find?_eq_none.mp h a ha)
  | some b => rw [hu b (List.mem_of_find?_eq_some h) (List.find?_some h)]

theorem creation_eq_of_handle {α : Type} {cs : List (Creation α)}
    (hs : cs.Pairwise Creation.Separate) {c d : Creation α} (hc : c ∈ cs) (hd : d ∈ cs)
    {handle : CoAPRes} (hch : c.created = some handle) (hdh : d.created = some handle) : c = d := by
  by_contra hne
  exact (hs.forall hc hd hne).2 handle hch hdh

/-- The library's memory at the time of a notification: every registered handle has a finite list
of observers, and no two lists share one. -/
structure ObserverMemory {α : Type} (history : CreationHistory α) where
  library : CoAPRes → CoAPResData
  observers : ObserverAddr → CoAPObserver
  next : ObserverAddr → Option ObserverAddr
  lists : CoAPRes → List ObserverAddr
  chain : ∀ c ∈ history.creations, ∀ handle, c.created = some handle →
    Chain next (library handle).pListObservers (lists handle)
  disjoint : ∀ c ∈ history.creations, ∀ d ∈ history.creations, ∀ g h, c.created = some g →
    d.created = some h → g ≠ h → (lists g).Disjoint (lists h)

namespace Registry

variable {α : Type}

theorem mem_succeeded {cs : List (Creation α)} {c : Creation α} :
    c ∈ succeeded cs ↔ c ∈ cs ∧ c.created.isSome := by simp [succeeded]

theorem Holds.succeeded_objects {s : Registry α} {cs : List (Creation α)} (h : Holds s cs) :
    ∀ c ∈ succeeded cs, s.objects c.addr = some c.object :=
  fun c hc => h.objects c (mem_succeeded.mp hc).1

section Handler

variable {s : Registry α} {cs : List (Creation α)}
  (handleRequest : α → LobaroCoapMessage → LobaroCoapMessage →
    Except Abort (LobaroCoapMessage × CoapResult))

theorem resourceHandler_owner (h : Holds s cs) (hs : cs.Pairwise Creation.Separate)
    {c : Creation α} (hc : c ∈ cs) {handle : CoAPRes} (hch : c.created = some handle)
    {request : CoAPMessage} (hr : request.pResource = some handle) (response : CoAPMessage) :
    s.resourceHandler handleRequest request response =
      (handleRequest c.app { message := request } { message := response }).map
        (dispatched c.app) := by
  have hfind : (succeeded cs).find? (fun d => d.created == request.pResource) = some c := by
    apply find?_eq_of_unique (mem_succeeded.mpr ⟨hc, by rw [hch]; rfl⟩)
    · rw [hch, hr]
      exact beq_self_eq_true _
    · intro d hd hdr
      rw [hr] at hdr
      exact creation_eq_of_handle hs (mem_succeeded.mp hd).1 hc (beq_iff_eq.mp hdr) hch
  unfold resourceHandler
  rw [h.resources, findResource_eq _ _ h.succeeded_objects, hfind]
  simp only [Option.map_some, bind, Except.bind, Creation.object, hch]
  cases handleRequest c.app { message := request } { message := response } <;> rfl

theorem resourceHandler_notMapped (h : Holds s cs) {request : CoAPMessage}
    (hr : ∀ c ∈ cs, ∀ handle, c.created = some handle → request.pResource ≠ some handle)
    (response : CoAPMessage) :
    s.resourceHandler handleRequest request response = .ok (notMapped response) := by
  have hfind : (succeeded cs).find? (fun d => d.created == request.pResource) = none := by
    apply List.find?_eq_none.mpr
    intro d hd he
    obtain ⟨hd, hsome⟩ := mem_succeeded.mp hd
    obtain ⟨handle, hh⟩ := Option.isSome_iff_exists.mp hsome
    exact hr d hd handle hh ((beq_iff_eq.mp he).symm.trans hh)
  unfold resourceHandler
  rw [h.resources, findResource_eq _ _ h.succeeded_objects, hfind]
  rfl

end Handler

section Notifier

variable {s : Registry α} {history : CreationHistory α}
  (handleNotify : α → LobaroCoapObserver → LobaroCoapMessage →
    Except Abort (LobaroCoapMessage × CoapResult))
  (memory : ObserverMemory history) {fuel : ℕ}

def Enough (fuel : ℕ) : Prop :=
  ∀ c ∈ history.creations, ∀ handle, c.created = some handle →
    (memory.lists handle).length ≤ fuel

theorem enough_exists : ∃ bound, ∀ fuel, bound ≤ fuel → Enough memory fuel := by
  let size (c : Creation α) : ℕ := (c.created.map (fun h => (memory.lists h).length)).getD 0
  refine ⟨(history.creations.map size).sum, fun fuel hb c hc handle hch => ?_⟩
  have hsize : size c = (memory.lists handle).length := by simp [size, hch]
  rw [← hsize]
  exact (List.le_sum_of_mem (List.mem_map.mpr ⟨c, hc, rfl⟩)).trans hb

theorem findObserved_registered (h : Holds s history.creations)
    (hm : s.library = memory.library) (hf : Enough memory fuel) (observer : ObserverAddr) :
    s.findObserved memory.next observer fuel s.resources =
      some (.ok (((succeeded history.creations).find? (Observes memory.lists observer)).map
        Creation.object)) := by
  rw [h.resources]
  apply findObserved_eq _ h.succeeded_objects
  intro c hc handle hch
  have hc := (mem_succeeded.mp hc).1
  rw [hm]
  exact ⟨memory.chain c hc handle hch, hf c hc handle hch⟩

theorem resourceNotifier_owner (h : Holds s history.creations)
    (hm : s.library = memory.library) (hf : Enough memory fuel)
    {c : Creation α} (hc : c ∈ history.creations) {handle : CoAPRes}
    (hch : c.created = some handle) {observer : ObserverAddr}
    (ho : observer ∈ memory.lists handle) (response : CoAPMessage) :
    s.resourceNotifier handleNotify memory.observers memory.next fuel observer response =
      some ((handleNotify c.app { observer := memory.observers observer }
        { message := response }).map (dispatched c.app)) := by
  have hfind : (succeeded history.creations).find? (Observes memory.lists observer) = some c := by
    apply find?_eq_of_unique (mem_succeeded.mpr ⟨hc, by rw [hch]; rfl⟩)
    · simp [Observes, hch, ho]
    · intro d hd hdo
      obtain ⟨hd, hsome⟩ := mem_succeeded.mp hd
      obtain ⟨g, hdg⟩ := Option.isSome_iff_exists.mp hsome
      simp only [Observes, hdg, decide_eq_true_eq] at hdo
      by_cases hg : g = handle
      · exact creation_eq_of_handle history.separate hd hc (hg ▸ hdg) hch
      · exact absurd ho (memory.disjoint d hd c hc g handle hdg hch hg hdo)
  unfold resourceNotifier
  rw [findObserved_registered memory h hm hf, hfind]
  simp only [Option.map_some, bind, Option.bind, Except.bind, Creation.object]
  cases handleNotify c.app { observer := memory.observers observer } { message := response } <;> rfl

theorem resourceNotifier_notMapped (h : Holds s history.creations)
    (hm : s.library = memory.library) (hf : Enough memory fuel) {observer : ObserverAddr}
    (ho : ∀ c ∈ history.creations, ∀ handle, c.created = some handle →
      observer ∉ memory.lists handle) (response : CoAPMessage) :
    s.resourceNotifier handleNotify memory.observers memory.next fuel observer response =
      some (.ok (notMapped response)) := by
  have hfind : (succeeded history.creations).find? (Observes memory.lists observer) = none := by
    apply List.find?_eq_none.mpr
    intro d hd hdo
    obtain ⟨hd, hsome⟩ := mem_succeeded.mp hd
    obtain ⟨g, hdg⟩ := Option.isSome_iff_exists.mp hsome
    simp only [Observes, hdg, decide_eq_true_eq] at hdo
    exact ho d hd g hdg hdo
  unfold resourceNotifier
  rw [findObserved_registered memory h hm hf, hfind]
  rfl

end Notifier

theorem map_dispatched (app : α) (outcome : Except Abort (LobaroCoapMessage × CoapResult)) :
    outcome.map (dispatched app) =
      match outcome with
      | .ok (answered, .ok) => .ok ⟨[app], answered.message, .ok⟩
      | .ok (answered, .postpone) => .ok ⟨[app], answered.message, .postpone⟩
      | .ok (answered, .error) => .ok ⟨[app], answered.message, .error⟩
      | .error abort => .error abort := by
  rcases outcome with abort | ⟨answered, result⟩
  · rfl
  · cases result <;> rfl

/-- The handler of `app` was called, alone, and left `answered` and `result`. -/
structure Answered (app : α) (answered : LobaroCoapMessage) (result : CoapResult)
    (dispatch : Dispatch α) : Prop where
  called : dispatch.called = [app]
  response : dispatch.response = answered.message
  ok : dispatch.returned = .ok ↔ result = .ok
  postpone : dispatch.returned = .postpone ↔ result = .postpone
  error : dispatch.returned = .error ↔ result = .error

theorem dispatched_answered (app : α) (outcome : LobaroCoapMessage × CoapResult) :
    Answered app outcome.1 outcome.2 (dispatched app outcome) := by
  obtain ⟨answered, result⟩ := outcome
  refine ⟨rfl, rfl, ?_, ?_, ?_⟩ <;> cases result <;> simp [dispatched, toHandlerResult]

theorem dispatch_reaches_owner (bits : ResOpt) (library : CoAPRes → CoAPResData)
    (history : CreationHistory α)
    (handleRequest : α → LobaroCoapMessage → LobaroCoapMessage →
      Except Abort (LobaroCoapMessage × CoapResult))
    (handleNotify : α → LobaroCoapObserver → LobaroCoapMessage →
      Except Abort (LobaroCoapMessage × CoapResult)) :
    let s := run bits library history.creations
    (∀ c ∈ history.creations, ∀ handle, c.created = some handle →
      ∀ request response, request.pResource = some handle →
        s.resourceHandler handleRequest request response =
          match handleRequest c.app { message := request } { message := response } with
          | .ok (answered, .ok) => .ok ⟨[c.app], answered.message, .ok⟩
          | .ok (answered, .postpone) => .ok ⟨[c.app], answered.message, .postpone⟩
          | .ok (answered, .error) => .ok ⟨[c.app], answered.message, .error⟩
          | .error abort => .error abort) ∧
    (∀ request response,
      (∀ c ∈ history.creations, ∀ handle, c.created = some handle →
        request.pResource ≠ some handle) →
      s.resourceHandler handleRequest request response =
        .ok ⟨[], { response with code := .internalServerError }, .error⟩) ∧
    (∀ memory : ObserverMemory history, ∃ bound, ∀ fuel, bound ≤ fuel →
      ∀ observer response,
      (∀ c ∈ history.creations, ∀ handle, c.created = some handle →
        observer ∈ memory.lists handle →
        (s.withLibrary memory.library).resourceNotifier handleNotify memory.observers
            memory.next fuel observer response = some (
          match handleNotify c.app { observer := memory.observers observer }
            { message := response } with
          | .ok (answered, .ok) => .ok ⟨[c.app], answered.message, .ok⟩
          | .ok (answered, .postpone) => .ok ⟨[c.app], answered.message, .postpone⟩
          | .ok (answered, .error) => .ok ⟨[c.app], answered.message, .error⟩
          | .error abort => .error abort)) ∧
      ((∀ c ∈ history.creations, ∀ handle, c.created = some handle →
          observer ∉ memory.lists handle) →
        (s.withLibrary memory.library).resourceNotifier handleNotify memory.observers
          memory.next fuel observer response =
            some (.ok ⟨[], { response with code := .internalServerError }, .error⟩))) ∧
    ∀ addr ∈ s.resources, ∃ app handle, s.objects addr = some ⟨app, some handle⟩ := by
  intro s
  have h : Holds s history.creations := holds_run bits library _ history.separate
  refine ⟨?_, ?_, ?_, ?_⟩
  · intro c hc handle hch request response hr
    rw [← map_dispatched]
    exact resourceHandler_owner handleRequest h history.separate hc hch hr response
  · intro request response hr
    exact resourceHandler_notMapped handleRequest h hr response
  · intro memory
    obtain ⟨bound, hb⟩ := enough_exists memory
    have hl : Holds (s.withLibrary memory.library) history.creations := ⟨h.objects, h.resources⟩
    refine ⟨bound, fun fuel hf observer response => ⟨?_, ?_⟩⟩
    · intro c hc handle hch ho
      rw [← map_dispatched]
      exact resourceNotifier_owner handleNotify memory hl rfl (hb fuel hf) hc hch ho response
    · intro ho
      exact resourceNotifier_notMapped handleNotify memory hl rfl (hb fuel hf) ho response
  · intro addr ha
    rw [h.resources] at ha
    obtain ⟨c, hc, rfl⟩ := List.mem_map.mp ha
    obtain ⟨hc, hsome⟩ := mem_succeeded.mp hc
    obtain ⟨handle, hch⟩ := Option.isSome_iff_exists.mp hsome
    exact ⟨c.app, handle, by rw [h.objects c hc, Creation.object, hch]⟩

/-- Of the three creations the second fails. -/
def threeCreations : CreationHistory ℕ where
  creations := [⟨0, 10, some 5⟩, ⟨1, 20, none⟩, ⟨2, 30, some 8⟩]
  separate := by simp [Creation.Separate]

def twoLists : ObserverMemory threeCreations where
  library handle := ⟨1, true, if handle = 8 then some 3 else if handle = 5 then some 1 else none⟩
  observers _ := {}
  next observer := if observer = 3 then some 4 else none
  lists handle := if handle = 8 then [3, 4] else if handle = 5 then [1] else []
  chain c _ handle _ := by
    by_cases h8 : handle = 8
    · subst h8
      exact Chain.cons (Chain.cons Chain.nil)
    · by_cases h5 : handle = 5
      · subst h5
        exact Chain.cons Chain.nil
      · simp only [h8, h5, if_false]
        exact Chain.nil
  disjoint c _ d _ g h _ _ hne := by
    by_cases hg : g = 8 <;> by_cases hh : h = 8 <;> by_cases hg5 : g = 5 <;> by_cases hh5 : h = 5
    all_goals simp_all

/-- Answers 2.05, and `Postpone` where the application resource is 30. -/
def postpones (app : ℕ) (response : LobaroCoapMessage) :
    Except Abort (LobaroCoapMessage × CoapResult) :=
  .ok ((response.setCode .content).1, if app = 30 then .postpone else .ok)

theorem dispatch_reaches_owner_three :
    let s := run ⟨1, 2, 4, 8⟩ (fun _ => ⟨0, false, none⟩) threeCreations.creations
    s.resourceHandler (fun app _ => postpones app) { pResource := some 5 } {} =
        .ok ⟨[10], { code := .content }, .ok⟩ ∧
      s.resourceHandler (fun app _ => postpones app) { pResource := none } {} =
        .ok ⟨[], { code := .internalServerError }, .error⟩ ∧
      ∃ fuel, (s.withLibrary twoLists.library).resourceNotifier (fun app _ => postpones app)
          twoLists.observers twoLists.next fuel 4 {} =
            some (.ok ⟨[30], { code := .content }, .postpone⟩) := by
  obtain ⟨howned, hforeign, hobserved, _⟩ := dispatch_reaches_owner ⟨1, 2, 4, 8⟩
    (fun _ => ⟨0, false, none⟩) threeCreations (fun app _ => postpones app)
    (fun app _ => postpones app)
  obtain ⟨bound, hbound⟩ := hobserved twoLists
  refine ⟨?_, ?_, bound, ?_⟩
  · exact howned ⟨0, 10, some 5⟩ (by decide) 5 rfl { pResource := some 5 } {} rfl
  · exact hforeign { pResource := none } {} (fun _ _ _ _ he => (by cases he))
  · exact (hbound bound (Nat.le_refl bound) 4 {}).1 ⟨2, 30, some 8⟩ (by decide) 8 rfl (by decide)

end Registry

end IoTNode.Lobaro
