import KubeZoo.Proxy.Model

/-! # Lists -/

namespace KubeZoo

structure ClusterScopedContinue where
  apiVersion : String := ""
  upstream : String := ""
deriving DecidableEq

def clusterScopedContinueVersion : String := "kubezoo.io/cluster-scoped-v1"

def ClusterScopedContinue.fields (c : ClusterScopedContinue) : List Json.Field :=
  [.ofString "v" c.apiVersion, .ofString "u" c.upstream]

def ClusterScopedContinue.set (name : String) (v : Json.Value) (c : ClusterScopedContinue) :
    Option ClusterScopedContinue :=
  match name with
  | "v" => (Json.asString c.apiVersion v).map fun s => { c with apiVersion := s }
  | "u" => (Json.asString c.upstream v).map fun s => { c with upstream := s }
  | _ => some c

def encodeClusterScopedContinue (upstreamToken : String) : String :=
  Json.token (ClusterScopedContinue.fields
    { apiVersion := clusterScopedContinueVersion, upstream := upstreamToken })

def decodeClusterScopedContinue (token : String) : Except GoError String :=
  match (Json.ofToken token).bind (Json.unmarshal ClusterScopedContinue.set {}) with
  | none => .error notIssued
  | some c => if c.apiVersion ≠ clusterScopedContinueVersion then .error notIssued else .ok c.upstream

lemma ClusterScopedContinue.ofToken_fields (c : ClusterScopedContinue) :
    (Json.ofToken (Json.token c.fields)).bind (Json.unmarshal ClusterScopedContinue.set {}) =
      some c := by
  have hne : c.fields ≠ [] := nofun
  have hv : Json.foldName "v" = "v" := by decide
  have hu : Json.foldName "u" = "u" := by decide
  rw [Json.ofToken_token _ hne, Option.bind_some, Json.unmarshal]
  simp only [ClusterScopedContinue.fields, Json.Field.ofString, Json.Field.read, List.map_cons,
    List.map_nil, List.foldlM_cons, List.foldlM_nil, hv, hu, ClusterScopedContinue.set,
    Json.asString, Option.map_some, Option.bind_eq_bind, Option.bind_some, Option.pure_def]

theorem decode_encodeClusterScopedContinue (upstreamToken : String) :
    decodeClusterScopedContinue (encodeClusterScopedContinue upstreamToken) = .ok upstreamToken := by
  rw [decodeClusterScopedContinue, encodeClusterScopedContinue,
    ClusterScopedContinue.ofToken_fields]
  exact if_neg fun h => h rfl

lemma encodeClusterScopedContinue_injective :
    Function.Injective encodeClusterScopedContinue := by
  intro a b hab
  have ha := decode_encodeClusterScopedContinue a
  rw [hab, decode_encodeClusterScopedContinue] at ha
  exact (Except.ok.inj ha).symm

lemma encodeClusterScopedContinue_ne (token : String) : encodeClusterScopedContinue token ≠ "" :=
  Json.token_ne_empty _

variable {α β : Type}

def hideUpstreamListCursor (list : UnstructuredList α) : UnstructuredList α :=
  let list := { list with
    object := list.object.map fun o => { o with remainingItemCount := none } }
  let token := list.getContinue
  if token = "" then list else list.setContinue (encodeClusterScopedContinue token)

namespace TenantProxy

variable (tp : TenantProxy β)

def filterUnstructuredList (list : UnstructuredList (Object β)) (tid : String) :
    UnstructuredList (Object β) :=
  { list with
    items := list.items.filter fun o => tp.contract.keeps tid tp.namespaceScoped o.metadata }

def hideProjections (list : UnstructuredList (Object β)) : UnstructuredList (Object β) :=
  if !tp.hideProjected then list
  else
    { list with
      items := list.items.filter fun o => !tp.contract.isManagedBindingName o.metadata.name }

def convertItem (ctx : RequestContext) (tid : String) (utd : Object β) :
    Except GoError (Object β) := do
  let obj ← tp.convertUnstructuredToOutput utd
  let obj ← tp.convertUpstreamObjectToTenantObject obj tid (tp.requestNamespace ctx)
  tp.convertInternalObjectToUnstructuredObject obj

/-- `convertUnstructuredListToOutput`. -/
def convertUnstructuredListToOutput (list : UnstructuredList (Object β)) :
    Except GoError (UnstructuredList (Object β)) :=
  if tp.unstructured then .ok list
  else (tp.listFromVersioned list.items).map fun items => { list with items := items }

/-- `GetAPIVersion` and `SetAPIVersion`, for the prefix of a custom resource's group. -/
def trimAPIVersion (list : UnstructuredList (Object β)) (tid : String) :
    UnstructuredList (Object β) :=
  if !tp.isCustomResource then list
  else
    let object := list.object.getD {}
    let apiVersion := tp.contract.trimTenantIDPrefix tid object.apiVersion
    { list with object := some { object with apiVersion := apiVersion } }

def finishList (ctx : RequestContext) (tid : String) (list : UnstructuredList (Object β)) :
    Except GoError (UnstructuredList (Object β)) := do
  let list := tp.hideProjections list
  let items ← list.items.mapM (tp.convertItem ctx tid)
  tp.convertUnstructuredListToOutput (tp.trimAPIVersion { list with items := items } tid)

def listOptions (ctx : RequestContext) (options : ListOptions) :
    Except GoError (String × ListOptions) := do
  if !tp.newListFunc then
    throw (.plain "newListFunc is nil")
  match ctx.tenantID with
  | none => throw (.plain "tanentID doesn't exist in context")
  | some tid =>
    let proxyOptions ← tp.contract.convertInternalListOptions options tid tp.namespaceScoped tp.kind
    return (tid, proxyOptions)

def scopedRead (ctx : RequestContext) (proxyOptions : ListOptions) :
    Except GoError (String × ListOptions) := do
  let ns ← tp.getClient ctx
  if !tp.namespaceScoped && proxyOptions.continue != "" then
    let upstreamToken ← decodeClusterScopedContinue proxyOptions.continue
    return (ns, { proxyOptions with «continue» := upstreamToken })
  else return (ns, proxyOptions)

def list (client : DynamicClient (Object β)) (ctx : RequestContext) (options : ListOptions) :
    Except GoError (UnstructuredList (Object β)) := do
  let (tid, proxyOptions) ← tp.listOptions ctx options
  let trim := fun e => tp.contract.trimTenantIDFromError e tid
  if tp.shouldFanOut ctx then
    let utdList ← (listAcrossNamespaces client proxyOptions tid).mapError trim
    tp.finishList ctx tid utdList
  else
    let (ns, proxyOptions) ← tp.scopedRead ctx proxyOptions
    let utdList ← (client.list ns proxyOptions).mapError trim
    let utdList := tp.filterUnstructuredList utdList tid
    let utdList := if !tp.namespaceScoped then hideUpstreamListCursor utdList else utdList
    tp.finishList ctx tid utdList

end TenantProxy

end KubeZoo
