import KubeZoo.Proxy.Create

/-! # Update and patch -/

namespace KubeZoo

variable {β : Type}

structure Preconditions where
  uid : Option String := none
  resourceVersion : Option String := none
deriving DecidableEq

/-- `rest.UpdatedObjectInfo`: a patch is a function of the object it is handed. -/
structure UpdatedObjectInfo (β : Type) where
  preconditions : Option Preconditions := none
  updatedObject : Object β → Except GoError (Object β)

structure Upstream (β : Type) extends WriteClient β where
  getNamespace : String → Except GoError Unit

def optimisticLockErrorMsg : String :=
  "the object has been modified; please apply your changes to the latest version and try again"

def GoError.isLockConflict (e : GoError) : Bool :=
  e.isConflict && containsText e.error optimisticLockErrorMsg

def checkPreconditions (preconditions : Option Preconditions) (obj : Object β) :
    Except GoError Unit :=
  match preconditions with
  | none => .ok ()
  | some p =>
    let uid := obj.metadata.uid
    let resourceVersion := obj.metadata.resourceVersion
    if p.uid.any (· != uid) then
      .error (.plain ("precondition failed: UID in precondition: " ++ p.uid.getD "" ++
        ", UID in object meta: " ++ uid))
    else if p.resourceVersion.any (· != resourceVersion) then
      .error (.plain ("Precondition failed: ResourceVersion in precondition: " ++
        p.resourceVersion.getD "" ++ ", ResourceVersion in object meta: " ++ resourceVersion))
    else .ok ()

structure PatchRequest (β : Type) where
  name : String
  objInfo : UpdatedObjectInfo β
  forceAllowCreate : Bool := false
  options : WriteOptions := {}

inductive Round (β : Type)
  | again
  | done (result : Except GoError (Object β × Bool))

namespace TenantProxy

variable (tp : TenantProxy β)

/-- `shapeError`: who may not look into a namespace that does not exist is told so. -/
def shapeError (client : Upstream β) (ctx : RequestContext) (e : GoError) (tid : String) :
    GoError :=
  let trimmed := tp.contract.trimTenantIDFromError e tid
  if !e.isForbidden || !tp.namespaceScoped then trimmed
  else
    match ctx.requestInfo with
    | none => trimmed
    | some info =>
      if info.namespace = "" then trimmed
      else
        match client.getNamespace (tp.contract.upstreamNamespace tid info.namespace) with
        | .ok _ => trimmed
        | .error nsErr =>
          if !nsErr.isNotFound then trimmed
          else .status (newNotFound tp.kind.group tp.resource info.name)

def upstreamName (name tid : String) : String :=
  if tp.namespaceScoped then name
  else tp.contract.convertTenantObjectNameToUpstream name tid tp.kind

def get (client : Upstream β) (ctx : RequestContext) (name : String) :
    Except GoError (Object β) :=
  if tp.hideProjected && tp.contract.isManagedBindingName name then
    .error (.status (newNotFound tp.kind.group tp.resource name))
  else if !tp.newFunc then .error (.plain "newFunc is nil")
  else
    match ctx.tenantID with
    | none => .error (.plain "tanentID doesn't exist in context")
    | some tid => do
      let ns ← tp.getClient ctx
      let utd ← (client.get ns (tp.upstreamName name tid) tp.subresource).mapError
        fun e => tp.shapeError client ctx e tid
      tp.finishWrite ctx tid utd

/-- `forUpdate`: the proxy a write reads through has the stored view, and that of the parent. -/
def forUpdate : TenantProxy β := { tp with storageView := true, subresource := "" }

def readForUpdate (client : Upstream β) (ctx : RequestContext) (name : String) :
    Except GoError (Object β) :=
  tp.forUpdate.get client ctx name

variable (g : Guards β) (pods : PodSteps β)

/-- The guards of an update and of a patch, in their order, with `Restore` among them. -/
def guardUpdate (ctx : RequestContext) (obj original : Object β) : Except GoError (Object β) := do
  g.refuseUnpublishedVolumeAttributesClass obj original
  g.refuseExternalNameService obj
  g.refuseForgedEndpointAddress ctx obj
  g.refuseUnpublishedEphemeralClasses obj original
  g.refuseTenantWrittenPodAddresses obj original
  g.refuseProbeHost obj
  g.refuseNewExternalIPs obj original
  let obj ← g.refuseForeignClusterIP obj original
  g.refuseTenantBinding obj
  let obj := HiddenMetadata.restore tp.hiddenMetadata obj (some original)
  g.refuseNodePorts obj original
  g.refuseUnpublishedDeviceClass obj
  g.refusePlatformQuotaWrite obj
  return obj

/-- What `update` sends: the namespace it is for, the object as it stood before conversion, and the
converted one. -/
structure Outgoing (β : Type) where
  tenantID : String
  ns : String
  tenantForm : Option (Object β)
  utd : Object β

/-- `update` up to the point where something is sent. -/
def prepareUpdate (ctx : RequestContext) (obj : Object β) : Except GoError (Outgoing β) :=
  match ctx.tenantID with
  | none => .error (.plain "missing tenantID in context")
  | some tid => do
    g.refuseInlineCSIVolume obj
    let tenantForm ← tp.snapshot ctx obj
    let obj ← tp.convertTenantObjectToUpstreamObject obj tid
    let utd ← tp.convertInternalObjectToUnstructuredObject obj
    let ns ← tp.getClient ctx
    tp.refuseReservedName tid utd.metadata.name
    tp.refuseProjectedName utd.metadata.name
    tp.refuseProjectedLabel utd
    return { tenantID := tid, ns := ns, tenantForm := tenantForm, utd := utd }

def callApply (client : Upstream β) (ctx : RequestContext) (options : WriteOptions)
    (out : Outgoing β) : Except GoError (Option (Object β)) :=
  if tp.subresource = "" then
    client.forwardApply ctx out.utd out.tenantForm options.fieldManager options
  else .ok none

def callUpdate (client : Upstream β) (options : WriteOptions) (out : Outgoing β) :
    Except GoError (Object β × Bool) :=
  (client.update out.ns out.utd options tp.subresource).map fun (got, created) =>
    (got, created && tp.subresource != "status")

def callWrite (client : Upstream β) (ctx : RequestContext) (options : WriteOptions)
    (out : Outgoing β) : Except GoError (Object β × Bool) := do
  match ← tp.callApply client ctx options out with
  | some applied => return (applied, false)
  | none => tp.callUpdate client options out

/-- `update` from there on. -/
def sendUpdate (client : Upstream β) (ctx : RequestContext) (options : WriteOptions)
    (out : Outgoing β) : Except GoError (Object β × Bool) := do
  let (got, created) ← (tp.callWrite client ctx options out).mapError
    fun e => tp.contract.trimTenantIDFromError e out.tenantID
  return (← tp.finishWrite ctx out.tenantID got, created)

def update (client : Upstream β) (ctx : RequestContext) (obj : Object β) (options : WriteOptions) :
    Except GoError (Object β × Bool) := do
  tp.sendUpdate client ctx options (← tp.prepareUpdate g ctx obj)

def patched (objInfo : UpdatedObjectInfo β) (original : Object β) : Except GoError (Object β) := do
  checkPreconditions objInfo.preconditions original
  objInfo.updatedObject original

variable (new : Object β)

def roundFound (client : Upstream β) (ctx : RequestContext) (req : PatchRequest β)
    (original : Object β) : Round β :=
  match patched req.objInfo original >>= fun obj => tp.guardUpdate g ctx obj original with
  | .error e => .done (.error e)
  | .ok updated =>
    match tp.update g client ctx updated req.options with
    | .error e => if e.isLockConflict then .again else .done (.error e)
    | .ok result => .done (.ok result)

def roundMissing (client : Upstream β) (ctx : RequestContext) (req : PatchRequest β) : Round β :=
  match patched req.objInfo new with
  | .error e => .done (.error e)
  | .ok updated =>
    match (tp.create g pods client.toWriteClient ctx updated req.options).2 with
    | .error e => if e.isAlreadyExists then .again else .done (.error e)
    | .ok created => .done (.ok (created, true))

def round (client : Upstream β) (ctx : RequestContext) (req : PatchRequest β)
    (read : Except GoError (Object β)) : Round β :=
  match read with
  | .ok original => tp.roundFound g client ctx req original
  | .error e =>
    if !e.isNotFound || !req.forceAllowCreate then .done (.error e)
    else tp.roundMissing g pods new client ctx req

/-- `guaranteedUpdate`, for a number of rounds. `history` has upstream as each round's read and as
its write find it. None if the loop has not returned by then. -/
def guaranteedUpdate (ctx : RequestContext) (req : PatchRequest β) :
    (history : ℕ → Upstream β × Upstream β) → (rounds : ℕ) →
      Option (Except GoError (Object β × Bool))
  | _, 0 => none
  | history, rounds + 1 =>
    match tp.round g pods new (history 0).2 ctx req
        (tp.readForUpdate (history 0).1 ctx req.name) with
    | .again => guaranteedUpdate ctx req (fun n => history (n + 1)) rounds
    | .done result => some result

/-- `tenantProxy.Update`: a patch is served by `guaranteedUpdate`, anything else in one round whose
conflict is the answer. -/
def updateRequest (ctx : RequestContext) (req : PatchRequest β)
    (history : ℕ → Upstream β × Upstream β) (rounds : ℕ) :
    Option (Except GoError (Object β × Bool)) :=
  if !tp.newFunc then some (.error (.plain "newFunc is nil"))
  else
    match ctx.requestInfo with
    | none => some (.error (.plain "missing requestInfo"))
    | some info =>
      if info.verb = "patch" then tp.guaranteedUpdate g pods new ctx req history rounds
      else some do
        let original ←
          match tp.readForUpdate (history 0).1 ctx req.name with
          | .ok original => .ok original
          | .error e => if !e.isNotFound || !req.forceAllowCreate then .error e else .ok new
        let obj ← req.objInfo.updatedObject original
        let obj ← tp.guardUpdate g ctx obj original
        tp.update g (history 0).2 ctx obj req.options

variable {tp g pods new}

variable {ctx : RequestContext}

variable {obj original : Object β} {req : PatchRequest β} {name : String} {client : Upstream β}
  {history : ℕ → Upstream β × Upstream β}

lemma guardUpdate_ok {guarded : Object β} (h : tp.guardUpdate g ctx obj original = .ok guarded) :
    ∃ obj', g.refuseForeignClusterIP obj original = .ok obj' ∧
      guarded = HiddenMetadata.restore tp.hiddenMetadata obj' (some original) := by
  simp only [guardUpdate, Except.bind_eq_ok_iff] at h
  obtain ⟨-, -, -, -, -, -, -, -, -, -, -, -, -, -, obj', hobj', -, -, -, -, -, -, -, -, h⟩ := h
  exact ⟨obj', hobj', (Except.ok.inj h).symm⟩

lemma prepareUpdate_ok {out : Outgoing β} (h : tp.prepareUpdate g ctx obj = .ok out) :
    ∃ up, ctx.tenantID = some out.tenantID ∧
      tp.convertTenantObjectToUpstreamObject obj out.tenantID = .ok up ∧
      tp.convertInternalObjectToUnstructuredObject up = .ok out.utd ∧
      tp.snapshot ctx obj = .ok out.tenantForm ∧ tp.getClient ctx = .ok out.ns := by
  unfold prepareUpdate at h
  split at h
  · cases h
  · next tid htenant =>
    simp only [Except.bind_eq_ok_iff] at h
    obtain ⟨-, -, form, hform, up, hup, utd, hutd, ns, hns, -, -, -, -, -, -, h⟩ := h
    rw [← Except.ok.inj h]
    exact ⟨up, htenant, hup, hutd, hform, hns⟩

lemma readForUpdate_ok (h : tp.readForUpdate client ctx name = .ok original) :
    ∃ tid ns o, ctx.tenantID = some tid ∧ tp.getClient ctx = .ok ns ∧
      client.get ns (tp.upstreamName name tid) "" = .ok o ∧
      tp.forUpdate.finishWrite ctx tid o = .ok original := by
  rw [readForUpdate, get] at h
  split_ifs at h with hhidden hnew
  cases htenant : ctx.tenantID with
  | none => simp [htenant] at h
  | some tid =>
    simp only [htenant] at h
    obtain ⟨ns, hns, h⟩ := Except.bind_eq_ok_iff.mp h
    obtain ⟨o, ho, h⟩ := Except.bind_eq_ok_iff.mp h
    exact ⟨tid, ns, o, rfl, hns, mapError_eq_ok_iff.mp ho, h⟩

lemma readForUpdate_notFound (hhide : tp.hideProjected = false) {e : GoError}
    (hown : ∀ tid o, tp.forUpdate.finishWrite ctx tid o = .error e → e.isNotFound = false)
    (h : tp.readForUpdate client ctx name = .error e) (he : e.isNotFound = true) :
    ∃ tid ns e', ctx.tenantID = some tid ∧ tp.getClient ctx = .ok ns ∧
      client.get ns (tp.upstreamName name tid) "" = .error e' := by
  rw [readForUpdate, get, if_neg (by simp [forUpdate, hhide])] at h
  split_ifs at h with hnew
  · rw [← Except.error.inj h] at he
    cases he
  cases htenant : ctx.tenantID with
  | none =>
    simp only [htenant] at h
    rw [← Except.error.inj h] at he
    cases he
  | some tid =>
    simp only [htenant] at h
    cases hclient : tp.forUpdate.getClient ctx with
    | error e' =>
      simp only [hclient] at h
      obtain rfl : e' = e := Except.error.inj h
      rw [getClient, htenant] at hclient
      cases hinfo : ctx.requestInfo with
      | none =>
        rw [hinfo] at hclient
        rw [← Except.error.inj hclient] at he
        cases he
      | some info =>
        rw [hinfo] at hclient
        simp only at hclient
        split_ifs at hclient
    | ok ns =>
      cases hget : client.get ns (tp.forUpdate.upstreamName name tid) tp.forUpdate.subresource with
      | error e' => exact ⟨tid, ns, e', rfl, hclient, hget⟩
      | ok o =>
        simp only [hclient, bind, Except.bind, hget, Except.mapError] at h
        rw [hown tid o h] at he
        cases he

lemma guaranteedUpdate_succ_done {result : Except GoError (Object β × Bool)}
    (hround : tp.round g pods new (history 0).2 ctx req
      (tp.readForUpdate (history 0).1 ctx req.name) = .done result) (rounds : ℕ) :
    tp.guaranteedUpdate g pods new ctx req history (rounds + 1) = some result := by
  rw [guaranteedUpdate, hround]

lemma guaranteedUpdate_succ_again (hround : tp.round g pods new (history 0).2 ctx req
      (tp.readForUpdate (history 0).1 ctx req.name) = .again) (rounds : ℕ) :
    tp.guaranteedUpdate g pods new ctx req history (rounds + 1) =
      tp.guaranteedUpdate g pods new ctx req (fun n => history (n + 1)) rounds := by
  rw [guaranteedUpdate, hround]

end TenantProxy

end KubeZoo
