import KubeZoo.Convert.Role

/-! # Discovery -/

namespace KubeZoo

structure GroupVersionForDiscovery where
  groupVersion : String
  version : String
deriving DecidableEq

structure APIGroup where
  name : String
  versions : List GroupVersionForDiscovery := []
  preferredVersion : Option GroupVersionForDiscovery := none
deriving DecidableEq

structure APIGroupList where
  kind : String := ""
  apiVersion : String := ""
  groups : List APIGroup
deriving DecidableEq

structure APIResource where
  name : String
  group : String := ""
deriving DecidableEq

structure APIResourceList where
  groupVersion : String
  apiResources : List APIResource := []
deriving DecidableEq

/-- `discovery.DiscoveryClient`. -/
structure DiscoveryClient where
  serverGroups : Except GoError (Option APIGroupList)
  getGroup : String → Except GoError APIGroup
  serverResourcesForGroupVersion : String → Except GoError APIResourceList

/-- `HasGroupVersion` of a `CustomGroupResourcesMap`. -/
def hasGroupVersion (crds : List CustomResourceDefinition) (group version : String) : Bool :=
  crds.any fun crd => crd.group == group && crd.versions.contains version

/-- `discoveryProxy`, with what the lister has, the test for the definitions of a tenant, and the
conversions of `kubezoo-contract`. -/
structure DiscoveryProxy where
  discoveryClient : DiscoveryClient
  crdLister : Except GoError (List CustomResourceDefinition)
  upstreamObjectBelongsToTenant : String → CustomResourceDefinition → Bool
  contract : Contract
  convertUpstreamApiGroupToTenant : String → APIGroup → APIGroup
  convertUpstreamResourceListToTenant : String → APIResourceList → APIResourceList
  servedGroups : List String
  servedResources : List (String × List String)
  sharedResources : List (String × List String)

namespace DiscoveryProxy

variable (dp : DiscoveryProxy)

def listCRDsForTenant (tid : String) : Except GoError (List CustomResourceDefinition) :=
  dp.crdLister.map fun crds => crds.filter (dp.upstreamObjectBelongsToTenant tid)

def resourcesOf (m : List (String × List String)) (group : String) : List String :=
  (m.lookup group).getD []

def provides (group : String) : Bool :=
  dp.servedGroups.contains group || decide (0 < (resourcesOf dp.sharedResources group).length)

/-- The loop body of `filterAPIGroupList`: how a group of upstream is listed, if it is. -/
def shows (crds : List CustomResourceDefinition) (tid : String) (group : APIGroup) :
    Option APIGroup :=
  if group.name = "" then none
  else if dp.servedGroups.contains group.name then some group
  else if 0 < (resourcesOf dp.sharedResources group.name).length then some group
  else if hasGroup crds group.name then some (dp.convertUpstreamApiGroupToTenant tid group)
  else none

def filterAPIGroupList (apiGroupList : Option APIGroupList) (crds : List CustomResourceDefinition)
    (tid : String) : Option APIGroupList :=
  apiGroupList.map fun l =>
    { kind := "APIGroupList", apiVersion := "v1", groups := l.groups.filterMap (dp.shows crds tid) }

def serverGroups (tid : String) : Except GoError (Option APIGroupList) := do
  let crds ← dp.listCRDsForTenant tid
  let groupList ← dp.discoveryClient.serverGroups
  return dp.filterAPIGroupList groupList crds tid

def notATenantsGroup (group : String) : GoError := .status (newNotFound group "apigroup" group)

def upstreamGroupFor (own : Bool) (tid group : String) : Except GoError String :=
  if own then .ok (dp.contract.addTenantIDPrefix tid group)
  else if dp.servedGroups.contains group then .ok group
  else if 0 < (resourcesOf dp.sharedResources group).length then .ok group
  else .error (notATenantsGroup group)

/-- The group of upstream in which `ServerVersionsForGroup` looks. -/
def versionsGroup (tid group : String) : Except GoError String := do
  let crds ← dp.listCRDsForTenant tid
  dp.upstreamGroupFor (hasGroup crds (dp.contract.addTenantIDPrefix tid group)) tid group

def serverVersionsForGroup (tid group : String) : Except GoError APIGroup := do
  let group ← dp.versionsGroup tid group
  let g ← dp.discoveryClient.getGroup group
  return dp.convertUpstreamApiGroupToTenant tid g

/-- The group of upstream in which `ServerResourcesForGroupVersion` looks. -/
def resourcesGroup (tid group version : String) : Except GoError String := do
  let crds ← dp.listCRDsForTenant tid
  dp.upstreamGroupFor
    (hasGroupVersion crds (dp.contract.addTenantIDPrefix tid group) version) tid group

def allowedResources (group : String) : List String :=
  if (resourcesOf dp.sharedResources group).length = 0 then resourcesOf dp.servedResources group
  else resourcesOf dp.sharedResources group

/-- A subresource is written `parent/sub` and lives or dies with its parent. -/
def parentOf (name : String) : String :=
  match cut name '/' with
  | some (parent, _) => parent
  | none => name

def serverResourcesForGroupVersion (tid group version : String) :
    Except GoError APIResourceList := do
  let group ← dp.resourcesGroup tid group version
  let resourceList ← dp.discoveryClient.serverResourcesForGroupVersion (group ++ "/" ++ version)
  let resourceList := dp.convertUpstreamResourceListToTenant tid resourceList
  let allowed := dp.allowedResources group
  return if 0 < allowed.length then
    { resourceList with
      apiResources := resourceList.apiResources.filter fun r => allowed.contains (parentOf r.name) }
  else resourceList

variable {dp} {crds : List CustomResourceDefinition} {tid : String}

lemma shows_eq_some_iff {group entry : APIGroup} :
    dp.shows crds tid group = some entry ↔ group.name ≠ "" ∧
      (dp.provides group.name = true ∧ entry = group ∨
        dp.provides group.name = false ∧ hasGroup crds group.name = true ∧
          entry = dp.convertUpstreamApiGroupToTenant tid group) := by
  have hshows : dp.shows crds tid group =
      if group.name = "" then none
      else if dp.provides group.name then some group
      else if hasGroup crds group.name then some (dp.convertUpstreamApiGroupToTenant tid group)
      else none := by
    unfold shows provides
    by_cases hserved : group.name ∈ dp.servedGroups
    · simp [hserved]
    · simp [hserved]
  rw [hshows]
  split_ifs with hname hprovides hown
  · simp [hname]
  · simp [hname, hprovides, eq_comm (a := group)]
  · simp [hname, hprovides, hown, eq_comm (b := entry)]
  · simp [hname, hprovides, hown]

lemma upstreamGroupFor_eq (own : Bool) (group : String) :
    dp.upstreamGroupFor own tid group =
      if own then .ok (dp.contract.addTenantIDPrefix tid group)
      else if dp.provides group then .ok group else .error (notATenantsGroup group) := by
  unfold upstreamGroupFor provides
  by_cases hserved : group ∈ dp.servedGroups
  · simp [hserved]
  · simp [hserved]

lemma versionsGroup_eq (hcrds : dp.listCRDsForTenant tid = .ok crds) (group : String) :
    dp.versionsGroup tid group = dp.upstreamGroupFor
      (hasGroup crds (dp.contract.addTenantIDPrefix tid group)) tid group := by
  rw [versionsGroup, hcrds]
  rfl

lemma resourcesGroup_eq (hcrds : dp.listCRDsForTenant tid = .ok crds) (group version : String) :
    dp.resourcesGroup tid group version = dp.upstreamGroupFor
      (hasGroupVersion crds (dp.contract.addTenantIDPrefix tid group) version) tid
      group := by
  rw [resourcesGroup, hcrds]
  rfl

end DiscoveryProxy

end KubeZoo
