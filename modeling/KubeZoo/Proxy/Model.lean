import KubeZoo.Convert.HiddenMeta
import KubeZoo.Fanout.List

/-! # The tenant proxy -/

namespace KubeZoo

structure GroupVersionKind where
  group : String := ""
  version : String := ""
  kind : String := ""
deriving DecidableEq

structure RequestInfo where
  verb : String := ""
  «namespace» : String := ""
  name : String := ""
deriving DecidableEq

structure RequestContext where
  tenantID : Option String
  requestInfo : Option RequestInfo
  isApplyPatch : Bool := false

/-- The functions of `kubezoo-contract` the proxy calls. -/
structure Contract where
  upstreamNamespace : String → String → String
  trimTenantIDPrefix : String → String → String
  trimTenantIDFromError : GoError → String → GoError
  convertTenantObjectNameToUpstream : String → String → GroupVersionKind → String
  convertInternalListOptions :
    ListOptions → String → Bool → GroupVersionKind → Except GoError ListOptions
  /-- What `FilterUnstructuredList` keeps of a list. -/
  keeps : String → Bool → ObjectMeta → Bool
  isManagedBindingName : String → Bool
  isReservedClusterName : String → String → Bool
  projectedClusterRoleBindingLabelKey : String
  namespaceNameForTenant : String → String → Except GoError Unit
  podSecurityEnforceLabelKey : String
  podSecurityLevel : String
  podSecurityEnforceVersionLabelKey : String
  podSecurityVersion : String
  addTenantIDPrefix : String → String → String
  convertCRDNameToUpstream : String → String → String
  projectedBindingName : String → String
  trimProjectedBindingName : String → String

def dashContract : Contract where
  upstreamNamespace tid ns :=
    if ns = "" ∨ (tid ++ "-").toList.isPrefixOf ns.toList then ns else tid ++ "-" ++ ns
  trimTenantIDPrefix tid name :=
    if (tid ++ "-").toList.isPrefixOf name.toList then
      String.ofList (name.toList.drop (tid.length + 1)) else name
  trimTenantIDFromError e _ := e
  convertTenantObjectNameToUpstream name tid _ := tid ++ "-" ++ name
  convertInternalListOptions o _ _ _ := .ok o
  keeps tid _ m := (tid ++ "-").toList.isPrefixOf m.name.toList
  isManagedBindingName _ := false
  isReservedClusterName _ _ := false
  projectedClusterRoleBindingLabelKey := "kubezoo.io/projected"
  namespaceNameForTenant tid name :=
    if (tid ++ "-").toList.isPrefixOf name.toList then
      .error (.plain "the name starts with the tenant's own prefix") else .ok ()
  podSecurityEnforceLabelKey := "pod-security.kubernetes.io/enforce"
  podSecurityLevel := "restricted"
  podSecurityEnforceVersionLabelKey := "pod-security.kubernetes.io/enforce-version"
  podSecurityVersion := "latest"
  addTenantIDPrefix tid name := tid ++ "-" ++ name
  convertCRDNameToUpstream name tid :=
    match cut name '.' with
    | some (plural, group) => plural ++ "." ++ tid ++ "-" ++ group
    | none => name
  projectedBindingName name := "kubezoo:clusterrolebinding:" ++ name
  trimProjectedBindingName name :=
    if startsWith name "kubezoo:clusterrolebinding:" then
      String.ofList (name.toList.drop 27) else name

/-- `convert.ObjectConvertor`. -/
structure Convertor (β : Type) where
  convertTenantObjectToUpstreamObject : Object β → String → Bool → Except GoError (Object β)
  convertUpstreamObjectToTenantObject : Object β → String → Bool → Except GoError (Object β)

/-- `tenantProxy`. `unstructured` says that `newFunc` makes an `unstructured.Unstructured`, as it
does for custom resources. The conversions between the internal and the versioned form of a type
copy the metadata and change the body only. -/
structure TenantProxy (β : Type) where
  kind : GroupVersionKind
  resource : String
  subresource : String := ""
  namespaceScoped : Bool
  isCustomResource : Bool := false
  hideProjected : Bool := false
  unstructured : Bool := false
  newFunc : Bool := true
  newListFunc : Bool := true
  storageView : Bool := false
  hiddenMetadata : Option HiddenMetadata := none
  contract : Contract
  convertor : Convertor β := ⟨fun o _ _ => .ok o, fun o _ _ => .ok o⟩
  toVersioned : Object β → Except GoError β := fun o => .ok o.body
  fromVersioned : Object β → Except GoError β := fun o => .ok o.body
  listFromVersioned : List (Object β) → Except GoError (List (Object β)) := .ok
  /-- `showTenantClusterIP`: the identity on everything but a Service with an address of its own. -/
  showTenantClusterIP : Object β → Object β := id

namespace TenantProxy

variable {β : Type} (tp : TenantProxy β)

/-- `getClient`: the namespace the client is for. -/
def getClient (ctx : RequestContext) : Except GoError String :=
  match ctx.tenantID, ctx.requestInfo with
  | none, _ => .error (.plain "tanentID doesn't exist in context")
  | some _, none => .error (.plain "missing requestInfo")
  | some tid, some info =>
    if tp.namespaceScoped ∧ info.namespace ≠ "" then
      .ok (tp.contract.upstreamNamespace tid info.namespace)
    else .ok ""

def requestNamespace (ctx : RequestContext) : String :=
  if !tp.namespaceScoped then ""
  else
    match ctx.requestInfo with
    | none => ""
    | some info => info.namespace

def shouldFanOut (ctx : RequestContext) : Bool :=
  if !tp.namespaceScoped then false
  else
    match ctx.requestInfo with
    | none => false
    | some info => info.namespace == ""

def convertUnstructuredToOutput (utd : Object β) : Except GoError (Object β) :=
  if tp.unstructured then .ok utd
  else (tp.fromVersioned utd).map fun body => { utd with body := body }

def convertInternalObjectToUnstructuredObject (obj : Object β) : Except GoError (Object β) :=
  if tp.unstructured then .ok obj
  else (tp.toVersioned obj).map fun body => { obj with body := body }

def applyTenantViews (obj : Object β) : Object β :=
  if tp.storageView then obj
  else HiddenMetadata.strip tp.hiddenMetadata (tp.showTenantClusterIP obj)

def echoRequestNamespace (obj : Object β) (tid requestNamespace : String) : Object β :=
  let current := obj.metadata.namespace
  if requestNamespace = "" then obj
  else if current = requestNamespace then obj
  else if tp.contract.upstreamNamespace tid current ≠
      tp.contract.upstreamNamespace tid requestNamespace then obj
  else { obj with metadata := { obj.metadata with «namespace» := requestNamespace } }

lemma echoRequestNamespace_eq (obj : Object β) (tid requestNamespace : String) :
    ∃ ns, tp.echoRequestNamespace obj tid requestNamespace =
      { obj with metadata := { obj.metadata with «namespace» := ns } } := by
  unfold echoRequestNamespace
  simp only
  split_ifs
  · exact ⟨_, rfl⟩
  · exact ⟨_, rfl⟩
  · exact ⟨_, rfl⟩
  · exact ⟨_, rfl⟩

def convertUpstreamObjectToTenantObject (obj : Object β) (tid requestNamespace : String) :
    Except GoError (Object β) := do
  let obj ← tp.convertor.convertUpstreamObjectToTenantObject obj tid tp.namespaceScoped
  return tp.echoRequestNamespace (tp.applyTenantViews obj) tid requestNamespace

def convertTenantObjectToUpstreamObject (obj : Object β) (tid : String) :
    Except GoError (Object β) :=
  tp.convertor.convertTenantObjectToUpstreamObject obj tid tp.namespaceScoped

def refuseProjectedName (name : String) : Except GoError Unit :=
  if !tp.hideProjected || !tp.contract.isManagedBindingName name then .ok ()
  else .error (.status (newForbidden tp.kind.group tp.resource name
    "this name belongs to a binding kubezoo keeps for your tenant; write the ClusterRoleBinding itself, or choose another name"))

def refuseProjectedLabel (obj : Object β) : Except GoError Unit :=
  let key := tp.contract.projectedClusterRoleBindingLabelKey
  if !tp.hideProjected then .ok ()
  else if obj.metadata.labels[key]? = none then .ok ()
  else .error (.status (newForbidden tp.kind.group tp.resource obj.metadata.name
    ("the label " ++ key ++ " belongs to kubezoo; write the ClusterRoleBinding itself")))

def refuseReservedName (tid upstreamName : String) : Except GoError Unit :=
  if tp.namespaceScoped ∨ tp.kind.group ≠ "rbac.authorization.k8s.io" then .ok ()
  else if !tp.contract.isReservedClusterName tid upstreamName then .ok ()
  else .error (.status (newForbidden tp.kind.group tp.resource
    (tp.contract.trimTenantIDPrefix tid upstreamName)
    "this name is managed by the platform for your tenant and cannot be written directly; choose another name"))

end TenantProxy

end KubeZoo
