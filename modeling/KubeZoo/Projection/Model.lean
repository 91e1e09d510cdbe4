import KubeZoo.Projection.Upstream

/-! # ClusterRoleBindings as RoleBindings -/

namespace KubeZoo

open Calls (Program)

abbrev UpstreamProgram := Program Call Call.Reply

def Call.ask (c : Call) : UpstreamProgram c.Reply := Program.ask c

@[simp] lemma Call.run_ask {serve : Calls.Server Cluster Call Call.Reply} {S : Cluster} (c : Call) :
    c.ask.run serve S = serve S c := rfl

lemma Call.run_ask_bind {srv : Apiserver} (hsrv : srv.Permits) {S : Cluster} {α : Type} (c : Call)
    (f : c.Reply → UpstreamProgram α) : (c.ask >>= f).run (Cluster.serve srv) S =
      (f (S.answer srv c).2).run (Cluster.serve srv) (S.answer srv c).1 := by
  rw [Program.run_bind, Call.run_ask, Cluster.serve_of_permits hsrv]

def canonicalNamespace : String := "kube-system"

/-- `asRoleBinding`: the record of a ClusterRoleBinding. -/
def asRoleBinding (c : Contract) (crb : Binding) : Except GoError Binding := do
  match crb.body.subjects.findIdx? fun s => s.kind == "ServiceAccount" && s.namespace == "" with
  | some i =>
    throw (.status (newInvalid "rbac.authorization.k8s.io" "ClusterRoleBinding" crb.metadata.name
      (fieldRequired ("subjects[" ++ toString i ++ "].namespace")
        "a ServiceAccount subject of a ClusterRoleBinding must name its namespace")))
  | none =>
    let record := { crb.metadata with
      «namespace» := canonicalNamespace
      labels := crb.metadata.labels.insert c.projectedClusterRoleBindingLabelKey "true" }
    if crb.metadata.name ≠ "" then
      return { crb with metadata := { record with
        name := c.projectedBindingName crb.metadata.name, generateName := "" } }
    else if crb.metadata.generateName ≠ "" then
      return { crb with metadata := { record with
        name := "", generateName := c.projectedBindingName crb.metadata.generateName } }
    else
      throw (.status (newBadRequest "a ClusterRoleBinding needs a name or a generateName"))

/-- `asClusterRoleBinding`: what the tenant wrote. -/
def asClusterRoleBinding (c : Contract) (record : Binding) : Binding :=
  { record with
    metadata := { record.metadata with
      name := c.trimProjectedBindingName record.metadata.name
      generateName := if record.metadata.generateName ≠ "" then
        c.trimProjectedBindingName record.metadata.generateName else ""
      «namespace» := ""
      labels := record.metadata.labels.erase c.projectedClusterRoleBindingLabelKey } }

def asClusterRoleBindingError (c : Contract) (e : GoError) (name : String) : GoError :=
  match e with
  | .plain message => .plain message
  | .status s =>
    .status { s with
      message := (s.message.replace (c.projectedBindingName name) name).replace
        "rolebindings.rbac.authorization.k8s.io" "clusterrolebindings.rbac.authorization.k8s.io" }

/-- `projectedUpdatedObject`: the tenant's update, as one of the record. -/
def projectedUpdatedObject (c : Contract) (objInfo : UpdatedObjectInfo BindingBody) :
    UpdatedObjectInfo BindingBody where
  preconditions := objInfo.preconditions
  updatedObject old := do asRoleBinding c (← objInfo.updatedObject (asClusterRoleBinding c old))

structure RecordProxy where
  ns : String
  goesAsApply : Binding → Bool := fun _ => false
  new : Binding := { body := {} }
  readView : Binding → Except GoError Binding
  readError : GoError → GoError
  beforeCreate : Binding → Except GoError Binding
  beforeUpdate : Binding → Binding → Except GoError Binding
  beforeDelete : String → Except GoError Unit
  writeError : GoError → GoError
  answer : Binding → Except GoError Binding
  answerList : List Binding → Except GoError (List Binding)

/-- The proxy of RoleBindings, for a request in the tenant's `kube-system`. `client` is who is asked
about the namespace when a read is refused. -/
def TenantProxy.records (tp : TenantProxy BindingBody) (g : Guards BindingBody)
    (pods : PodSteps BindingBody) (client : Upstream BindingBody) (goesAsApply : Binding → Bool)
    (tid verb name : String) : RecordProxy :=
  let ctx : RequestContext := {
    tenantID := some tid
    requestInfo := some { verb := verb, «namespace» := canonicalNamespace, name := name } }
  { ns := tp.contract.upstreamNamespace tid canonicalNamespace
    goesAsApply := goesAsApply
    readView := tp.forUpdate.finishWrite ctx tid
    readError := fun e => tp.shapeError client ctx e tid
    beforeCreate := fun obj => (tp.prepareCreate g pods ctx obj).map fun x => x.2.2
    beforeUpdate := fun obj original => do
      let obj ← tp.guardUpdate g ctx obj original
      (tp.prepareUpdate g ctx obj).map fun out => out.utd
    beforeDelete := fun name => do
      tp.refuseProjectedName name
      tp.refuseReservedName tid name
    writeError := fun e => tp.contract.trimTenantIDFromError e tid
    answer := tp.finishWrite ctx tid
    answerList := fun l => do
      (← tp.listFromVersioned l).mapM fun b =>
        tp.convertUpstreamObjectToTenantObject b tid canonicalNamespace }

namespace RecordProxy

variable (r : RecordProxy) (isPatch : Bool)

def callCreate (utd : Binding) (options : WriteOptions) : UpstreamProgram (Except GoError Binding) :=
  if isPatch ∧ r.goesAsApply utd ∧ options.fieldManager ≠ "" then (Call.apply r.ns utd options).ask
  else (Call.create r.ns utd options).ask

def create (obj : Binding) (options : WriteOptions) : UpstreamProgram (Except GoError Binding) :=
  match r.beforeCreate obj with
  | .error e => pure (.error e)
  | .ok utd => do
    let got ← r.callCreate isPatch utd options
    return (got.mapError r.writeError).bind r.answer

def updated (req : PatchRequest BindingBody) (original : Binding) : Except GoError Binding :=
  if isPatch then TenantProxy.patched req.objInfo original else req.objInfo.updatedObject original

def outgoing (req : PatchRequest BindingBody) (original : Binding) : Except GoError Binding := do
  r.beforeUpdate (← updated isPatch req original) original

def callUpdate (utd : Binding) (options : WriteOptions) :
    UpstreamProgram (Except GoError (Binding × Bool)) :=
  if isPatch ∧ r.goesAsApply utd then do
    let got : Except GoError Binding ← (Call.apply r.ns utd options).ask
    return got.map (·, false)
  else (Call.update r.ns utd options).ask

def written (got : Except GoError (Binding × Bool)) : Option (Except GoError (Binding × Bool)) :=
  match (got.mapError r.writeError).bind fun x => (r.answer x.1).map (·, x.2) with
  | .error e => if isPatch && e.isLockConflict then none else some (.error e)
  | .ok result => some (.ok result)

def roundFound (req : PatchRequest BindingBody) (original : Binding) :
    UpstreamProgram (Option (Except GoError (Binding × Bool))) :=
  match r.outgoing isPatch req original with
  | .error e => pure (some (.error e))
  | .ok utd => do
    let got ← r.callUpdate isPatch utd req.options
    return r.written isPatch got

def roundMissing (req : PatchRequest BindingBody) :
    UpstreamProgram (Option (Except GoError (Binding × Bool))) :=
  match TenantProxy.patched req.objInfo r.new with
  | .error e => pure (some (.error e))
  | .ok updated => do
    match ← r.create true updated req.options with
    | .error e => return if e.isAlreadyExists then none else some (.error e)
    | .ok created => return some (.ok (created, true))

def afterRead (req : PatchRequest BindingBody) (read : Except GoError Binding) :
    UpstreamProgram (Option (Except GoError (Binding × Bool))) :=
  match (read.mapError r.readError).bind r.readView with
  | .ok original => r.roundFound isPatch req original
  | .error e =>
    if !e.isNotFound || !req.forceAllowCreate then pure (some (.error e))
    else if isPatch then r.roundMissing req
    else r.roundFound isPatch req r.new

/-- `tenantProxy.Update`, for a number of rounds. -/
def update (req : PatchRequest BindingBody) :
    ℕ → UpstreamProgram (Option (Except GoError (Binding × Bool)))
  | 0 => pure none
  | rounds + 1 => do
    let read ← (Call.get r.ns req.name).ask
    match ← r.afterRead isPatch req read with
    | none => update req rounds
    | some result => return some result

def delete (name : String) (options : DeleteOptions) :
    UpstreamProgram (Except GoError (Option Binding)) :=
  match r.beforeDelete name with
  | .error e => pure (.error e)
  | .ok _ => do
    let got ← (Call.delete r.ns name options).ask
    return (got.mapError r.writeError).bind fun
      | none => .ok none
      | some b => (r.answer b).map some

def list (options : ListOptions) : UpstreamProgram (Except GoError (List Binding)) := do
  let got ← (Call.list r.ns options).ask
  return (got.mapError r.readError).bind r.answerList

end RecordProxy

/-- `clusterRoleBindingProjection`, for a tenant's request. `limit` is that of the tenant, and
`fieldSelector` how `Transform` rewrites a field selector. -/
structure Projection where
  contract : Contract
  tenantID : String
  records : RecordProxy
  limit : Int := 0
  fieldSelector : String → Except GoError String := .ok

inductive BindingRequest
  | create (crb : Binding) (options : WriteOptions)
  | update (isPatch : Bool) (req : PatchRequest BindingBody) (rounds : ℕ)
  | delete (name : String) (options : DeleteOptions)
  | deleteCollection (options : DeleteOptions) (listOptions : ListOptions)

namespace Projection

variable (p : Projection)

/-- `upstreamRecord`: the namespace of the records upstream. -/
def upstreamRecord : String := p.contract.addTenantIDPrefix p.tenantID canonicalNamespace

/-- `tenantNamespaces`, of what upstream answers. -/
def namespacesOf (reply : Except GoError (List String)) : Except GoError (List String) :=
  let client : DynamicClient Unit :=
    { listNamespaces := fun _ => reply.map (·, ""), list := fun _ _ => .ok {} }
  (tenantNamespaces client p.tenantID "").map Prod.fst

def copied (record : Binding) (ns resourceVersion : String) : Binding :=
  { record with
    metadata := { record.metadata with
      «namespace» := ns, resourceVersion := resourceVersion, uid := "" }
    body := { record.body with creationTimestamp := "", managedFields := [] } }

def copyInto (record : Binding) (recordName ns : String) : UpstreamProgram Unit :=
  if ns = p.upstreamRecord then pure ()
  else do
    match ← (Call.create ns (copied record ns "") {}).ask with
    | .ok _ => return ()
    | .error _ =>
      match ← (Call.get ns recordName).ask with
      | .error _ => return ()
      | .ok existing =>
        let _ ← (Call.update ns (copied record ns existing.metadata.resourceVersion) {}).ask

def project (recordName : String) : UpstreamProgram Unit := do
  match p.namespacesOf (← Call.listNamespaces.ask) with
  | .error _ => return ()
  | .ok namespaces =>
    match ← (Call.get p.upstreamRecord recordName).ask with
    | .error _ => return ()
    | .ok record => forM namespaces (p.copyInto record recordName)

def removeFrom (recordName ns : String) : UpstreamProgram Unit := do
  let _ ← (Call.delete ns recordName {}).ask

def unproject (recordName : String) : UpstreamProgram Unit := do
  match p.namespacesOf (← Call.listNamespaces.ask) with
  | .error _ => return ()
  | .ok namespaces => forM namespaces (removeFrom recordName)

def withProjectedSelector (options : ListOptions) : Except GoError ListOptions := do
  let own := p.contract.projectedClusterRoleBindingLabelKey ++ "=true"
  let options := { options with
    labelSelector := if options.labelSelector = "" then own else own ++ "," ++ options.labelSelector }
  if options.fieldSelector = "" then return options
  else
    let transformed ← (p.fieldSelector options.fieldSelector).mapError
      fun e => .status (newBadRequest e.error)
    return { options with fieldSelector := transformed }

def list (options : ListOptions) : UpstreamProgram (Except GoError (List Binding)) :=
  match p.withProjectedSelector options with
  | .error e => pure (.error e)
  | .ok narrowed => do
    return (← p.records.list narrowed).map (List.map (asClusterRoleBinding p.contract))

def refuseTooManyBindings : UpstreamProgram (Except GoError Unit) :=
  if p.limit ≤ 0 then pure (.ok ())
  else
    match p.withProjectedSelector {} with
    | .error e => pure (.error e)
    | .ok narrowed => do
      match ← p.records.list narrowed with
      | .error _ => return .ok ()
      | .ok records =>
        if (records.length : Int) < p.limit then return .ok ()
        else return .error (.status (newForbidden "rbac.authorization.k8s.io" "clusterrolebindings" ""
          ("this tenant already owns " ++ toString records.length ++
            " cluster role bindings and the limit is " ++ toString p.limit ++
            "; each one is stored in every namespace you own, so they cost bindings times namespaces. Delete one you no longer need, or ask the platform to raise the limit")))

/-- `Create`, once the cap is met. -/
def createRecord (name : String) (record : Binding) (options : WriteOptions) :
    UpstreamProgram (Except GoError Binding) := do
  match ← p.records.create false record options with
  | .error e => return .error (asClusterRoleBindingError p.contract e name)
  | .ok created =>
    p.project created.metadata.name
    return .ok (asClusterRoleBinding p.contract created)

def create (crb : Binding) (options : WriteOptions) : UpstreamProgram (Except GoError Binding) :=
  match asRoleBinding p.contract crb with
  | .error e => pure (.error e)
  | .ok record => do
    match ← p.refuseTooManyBindings with
    | .error e => return .error e
    | .ok _ => p.createRecord crb.metadata.name record options

def recordRequest (req : PatchRequest BindingBody) : PatchRequest BindingBody :=
  { req with
    name := p.contract.projectedBindingName req.name
    objInfo := projectedUpdatedObject p.contract req.objInfo }

/-- `Update`, for a number of rounds. -/
def update (isPatch : Bool) (req : PatchRequest BindingBody) (rounds : ℕ) :
    UpstreamProgram (Option (Except GoError (Binding × Bool))) := do
  match ← p.records.update isPatch (p.recordRequest req) rounds with
  | none => return none
  | some (.error e) => return some (.error (asClusterRoleBindingError p.contract e req.name))
  | some (.ok (updated, created)) =>
    p.project (p.contract.projectedBindingName req.name)
    return some (.ok (asClusterRoleBinding p.contract updated, created))

/-- `Delete`. -/
def delete (name : String) (options : DeleteOptions) :
    UpstreamProgram (Except GoError (Option Binding)) := do
  match ← p.records.delete (p.contract.projectedBindingName name) options with
  | .error e => return .error (asClusterRoleBindingError p.contract e name)
  | .ok deleted =>
    p.unproject (p.contract.projectedBindingName name)
    return .ok (deleted.map (asClusterRoleBinding p.contract))

/-- The loop of `DeleteCollection`. -/
def deleteAll (options : DeleteOptions) : List String → UpstreamProgram (Except GoError Unit)
  | [] => pure (.ok ())
  | name :: names => do
    match ← p.delete name options with
    | .error e => return .error e
    | .ok _ => deleteAll options names

def deleteCollection (options : DeleteOptions) (listOptions : ListOptions) :
    UpstreamProgram (Except GoError (List Binding)) := do
  match ← p.list listOptions with
  | .error e => return .error e
  | .ok crbs => return (← p.deleteAll options (crbs.map fun crb => crb.metadata.name)).map fun _ => crbs

def perform : BindingRequest → UpstreamProgram (Option (Except GoError Unit))
  | .create crb options => do return some ((← p.create crb options).map fun _ => ())
  | .update isPatch req rounds => do return (← p.update isPatch req rounds).map (·.map fun _ => ())
  | .delete name options => do return some ((← p.delete name options).map fun _ => ())
  | .deleteCollection options listOptions => do
    return some ((← p.deleteCollection options listOptions).map fun _ => ())

end Projection

end KubeZoo
