import IoTNode.Foundations.Lists
import IoTNode.LobaroMessages

set_option autoImplicit false

namespace IoTNode.Lobaro

open Coap Foundations

abbrev ResourceAddr := ℕ

abbrev ObserverAddr := ℕ

structure ResOpt where
  get : UInt16
  post : UInt16
  put : UInt16
  delete : UInt16
deriving DecidableEq, Repr

structure CoAPResData where
  allowedMethods : UInt16
  notifier : Bool
  pListObservers : Option ObserverAddr
deriving DecidableEq, Repr

structure LobaroCoapResource (α : Type) where
  applicationResource : α
  resource : Option CoAPRes
deriving DecidableEq, Repr

structure Registry (α : Type) where
  objects : ResourceAddr → Option (LobaroCoapResource α)
  resources : List ResourceAddr
  library : CoAPRes → CoAPResData

inductive CoAPHandlerResult
  | ok
  | postpone
  | error
deriving DecidableEq, Repr

def toHandlerResult : CoapResult → CoAPHandlerResult
  | .ok => .ok
  | .postpone => .postpone
  | .error => .error

structure Dispatch (α : Type) where
  -- ghost: the application handlers called
  called : List α
  response : CoAPMessage
  returned : CoAPHandlerResult
deriving DecidableEq, Repr

namespace Registry

variable {α : Type} (s : Registry α)

def createResource (bits : ResOpt) (addr : ResourceAddr) (applicationResource : α)
    (created : Option CoAPRes) : Registry α × CoapResult :=
  let objects := Function.update s.objects addr (some ⟨applicationResource, created⟩)
  match created with
  | none => ({ s with objects := objects }, .error)
  | some handle =>
    let fresh : CoAPResData := ⟨bits.get ||| bits.put ||| bits.post ||| bits.delete, false, none⟩
    ({ objects := objects
       resources := s.resources ++ [addr]
       library := Function.update s.library handle { fresh with allowedMethods := 0 } }, .ok)

-- the search loop of `ResourceHandler`
def findResource (pResource : Option CoAPRes) :
    List ResourceAddr → Except Abort (Option (LobaroCoapResource α))
  | [] => .ok none
  | it :: rest =>
    match s.objects it with
    | none => .error .danglingPointer
    | some r => if r.resource = pResource then .ok (some r) else findResource pResource rest

/-- The nested search of `ResourceNotifier`; `none` when the inner loop is still running after
`fuel` steps. -/
def findObserved (next : ObserverAddr → Option ObserverAddr) (observer : ObserverAddr)
    (fuel : ℕ) : List ResourceAddr → Option (Except Abort (Option (LobaroCoapResource α)))
  | [] => some (.ok none)
  | it :: rest =>
    match s.objects it with
    | none => some (.error .danglingPointer)
    | some r =>
      match r.resource with
      | none => findObserved next observer fuel rest
      | some handle =>
        match search next observer fuel (s.library handle).pListObservers with
        | none => none
        | some true => some (.ok (some r))
        | some false => findObserved next observer fuel rest

def notMapped (response : CoAPMessage) : Dispatch α :=
  ⟨[], { response with code := .internalServerError }, .error⟩

def dispatched (app : α) (outcome : LobaroCoapMessage × CoapResult) : Dispatch α :=
  ⟨[app], outcome.1.message, toHandlerResult outcome.2⟩

def resourceHandler
    (handleRequest : α → LobaroCoapMessage → LobaroCoapMessage →
      Except Abort (LobaroCoapMessage × CoapResult))
    (request response : CoAPMessage) : Except Abort (Dispatch α) := do
  match ← s.findResource request.pResource s.resources with
  | none => return notMapped response
  | some r =>
    match r.resource with
    | none => return notMapped response
    | some _ =>
      let outcome ← handleRequest r.applicationResource { message := request } { message := response }
      return dispatched r.applicationResource outcome

def resourceNotifier
    (handleNotify : α → LobaroCoapObserver → LobaroCoapMessage →
      Except Abort (LobaroCoapMessage × CoapResult))
    (observers : ObserverAddr → CoAPObserver) (next : ObserverAddr → Option ObserverAddr)
    (fuel : ℕ) (observer : ObserverAddr) (response : CoAPMessage) :
    Option (Except Abort (Dispatch α)) := do
  let found ← s.findObserved next observer fuel s.resources
  return do
    match ← found with
    | none => return notMapped response
    | some r =>
      let outcome ← handleNotify r.applicationResource { observer := observers observer }
        { message := response }
      return dispatched r.applicationResource outcome

theorem createResource_objects (bits : ResOpt) (addr : ResourceAddr) (applicationResource : α)
    (created : Option CoAPRes) :
    (s.createResource bits addr applicationResource created).1.objects =
      Function.update s.objects addr (some ⟨applicationResource, created⟩) := by
  unfold createResource
  cases created <;> rfl

end Registry

end IoTNode.Lobaro
