import KubeZoo.Proxy.Model

/-! # Writes -/

namespace KubeZoo

variable {β : Type}

/-- The guards of the writing verbs. Each refuses an object or lets it pass; those that compare
with the stored object get it too, and get none on a create. `refuseForeignClusterIP` puts
upstream's own address back into a Service. -/
structure Guards (β : Type) where
  refuseInlineCSIVolume : Object β → Except GoError Unit
  refuseUnpublishedSnapshotClass : Object β → Except GoError Unit
  refusePreProvisionedSnapshot : Object β → Except GoError Unit
  refuseUnpublishedStorageClass : Object β → Except GoError Unit
  refuseUnpublishedVolumeAttributesClass : Object β → Option (Object β) → Except GoError Unit
  refuseTenantChosenNode : Object β → Except GoError Unit
  refuseTenantBinding : Object β → Except GoError Unit
  refuseTooManyNamespaces : RequestContext → Object β → String → Except GoError Unit
  refuseTooManyCRDs : RequestContext → Object β → String → Except GoError Unit
  refuseExternalNameService : Object β → Except GoError Unit
  refuseForgedEndpointAddress : RequestContext → Object β → Except GoError Unit
  refuseUnpublishedEphemeralClasses : Object β → Option (Object β) → Except GoError Unit
  refuseTenantWrittenPodAddresses : Object β → Option (Object β) → Except GoError Unit
  refuseProbeHost : Object β → Except GoError Unit
  refuseNewExternalIPs : Object β → Option (Object β) → Except GoError Unit
  refuseNodePorts : Object β → Option (Object β) → Except GoError Unit
  refuseForeignClusterIP : Object β → Option (Object β) → Except GoError (Object β)
  refuseUnpublishedDeviceClass : Object β → Except GoError Unit
  refusePlatformQuotaWrite : Object β → Except GoError Unit

def Guards.permissive : Guards β where
  refuseInlineCSIVolume _ := .ok ()
  refuseUnpublishedSnapshotClass _ := .ok ()
  refusePreProvisionedSnapshot _ := .ok ()
  refuseUnpublishedStorageClass _ := .ok ()
  refuseUnpublishedVolumeAttributesClass _ _ := .ok ()
  refuseTenantChosenNode _ := .ok ()
  refuseTenantBinding _ := .ok ()
  refuseTooManyNamespaces _ _ _ := .ok ()
  refuseTooManyCRDs _ _ _ := .ok ()
  refuseExternalNameService _ := .ok ()
  refuseForgedEndpointAddress _ _ := .ok ()
  refuseUnpublishedEphemeralClasses _ _ := .ok ()
  refuseTenantWrittenPodAddresses _ _ := .ok ()
  refuseProbeHost _ := .ok ()
  refuseNewExternalIPs _ _ := .ok ()
  refuseNodePorts _ _ := .ok ()
  refuseForeignClusterIP o _ := .ok o
  refuseUnpublishedDeviceClass _ := .ok ()
  refusePlatformQuotaWrite _ := .ok ()

structure WriteOptions where
  dryRun : List String := []
  fieldManager : String := ""
deriving DecidableEq

/-- The options of a delete. `propagation` is the finalizer a propagation policy puts on the object:
one for `Foreground`, one for `Orphan`, none for `Background`. -/
structure DeleteOptions where
  dryRun : List String := []
  propagation : Option String := none
deriving DecidableEq

/-- A request carries `dryRun=All`. -/
def WriteOptions.isDryRun (o : WriteOptions) : Bool := o.dryRun != []

def DeleteOptions.isDryRun (o : DeleteOptions) : Bool := o.dryRun != []

/-- Upstream's side of a write. `forwardApply` answers nothing if it leaves the write to the verb
that called it. -/
structure WriteClient (β : Type) where
  get : String → String → String → Except GoError (Object β)
  create : String → Object β → WriteOptions → Except GoError (Object β)
  createSubresource : String → String → Object β → WriteOptions → String → Except GoError (Object β)
  update : String → Object β → WriteOptions → String → Except GoError (Object β × Bool)
  forwardApply : RequestContext → Object β → Option (Object β) → String → WriteOptions →
    Except GoError (Option (Object β))

inductive Utd (β : Type)
  | alias
  | copy (utd : Object β)

/-- What it holds when the request's object is `obj`. -/
def Utd.read (u : Utd β) (obj : Object β) : Object β :=
  match u with
  | .alias => obj
  | .copy utd => utd

namespace TenantProxy

variable (tp : TenantProxy β)

/-- `convertInternalObjectToUnstructuredObject`, as what it returns. -/
def toUtd (obj : Object β) : Except GoError (Utd β) :=
  if tp.unstructured then .ok .alias
  else (tp.convertInternalObjectToUnstructuredObject obj).map .copy

def snapshot (ctx : RequestContext) (obj : Object β) : Except GoError (Option (Object β)) :=
  if tp.subresource = "" ∧ ctx.isApplyPatch then
    (tp.convertInternalObjectToUnstructuredObject obj).map some
  else .ok none

def finishWrite (ctx : RequestContext) (tid : String) (got : Object β) :
    Except GoError (Object β) := do
  let output ← tp.convertUnstructuredToOutput got
  tp.convertUpstreamObjectToTenantObject output tid (tp.requestNamespace ctx)

end TenantProxy

end KubeZoo
