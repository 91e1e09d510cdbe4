import KubeZoo.Discovery.Model

/-! # What the three endpoints say of a group -/

namespace KubeZoo

open Tag

/-- The client lists these groups, and finds each of them and no other. -/
structure DiscoveryClient.Serves (client : DiscoveryClient) (groups : List APIGroup) : Prop where
  names : (groups.map fun g => g.name).Nodup
  list : ∃ l, client.serverGroups = .ok (some l) ∧ l.groups = groups
  get : ∀ g ∈ groups, g.name ≠ "" → client.getGroup g.name = .ok g
  missing : ∀ group, group ≠ "" → (∀ g ∈ groups, g.name ≠ group) →
    ∃ e, client.getGroup group = .error e ∧ e.isNotFound = true

structure DiscoveryProxy.ConvertsGroups (dp : DiscoveryProxy) : Prop where
  name : ∀ tid g, (dp.convertUpstreamApiGroupToTenant tid g).name = trim (tenantPrefix tid) g.name
  versions : ∀ tid g, (dp.convertUpstreamApiGroupToTenant tid g).versions.map
    (fun v => v.version) = g.versions.map fun v => v.version

structure DiscoveryProxy.OwnGroups (dp : DiscoveryProxy) (tid : String)
    (crds : List CustomResourceDefinition) (groups : List APIGroup) : Prop where
  list : dp.listCRDsForTenant tid = .ok crds
  own : ∀ crd ∈ crds, ∃ group, group ≠ "" ∧ crd.group = dp.contract.addTenantIDPrefix tid group
  listed : ∀ crd ∈ crds, ∃ g ∈ groups, g.name = crd.group

namespace DiscoveryProxy

def listedNames (dp : DiscoveryProxy) (tid : String) : List String :=
  match dp.serverGroups tid with
  | .ok (some l) => l.groups.map fun g => g.name
  | _ => []

def AnswersNotFound {α : Type} (answer : Except GoError α) : Prop :=
  ∃ e, answer = .error e ∧ e.isNotFound = true

structure Agrees (dp : DiscoveryProxy) (tid : String) (crds : List CustomResourceDefinition)
    (groups : List APIGroup) : Prop where
  nodup : (dp.listedNames tid).Nodup
  listed : ∀ group, group ≠ "" →
    (group ∈ dp.listedNames tid ↔ ¬ AnswersNotFound (dp.serverVersionsForGroup tid group))
  versions : ∀ up ∈ groups, ∀ entry, dp.shows crds tid up = some entry →
    dp.versionsGroup tid entry.name = .ok up.name
  resources : ∀ up ∈ groups, ∀ entry, dp.shows crds tid up = some entry →
    ∀ v ∈ entry.versions, dp.resourcesGroup tid entry.name v.version = .ok up.name

variable {dp : DiscoveryProxy} {tid : String} {crds : List CustomResourceDefinition}
  {groups : List APIGroup}

lemma listedNames_eq (hserves : dp.discoveryClient.Serves groups)
    (hcrds : dp.listCRDsForTenant tid = .ok crds) :
    dp.listedNames tid = (groups.filterMap (dp.shows crds tid)).map fun g => g.name := by
  obtain ⟨l, hl, rfl⟩ := hserves.list
  simp only [listedNames, serverGroups, hcrds, hl, bind, Except.bind, pure, Except.pure,
    filterAPIGroupList, Option.map_some]

lemma hasGroup_iff {group : String} :
    hasGroup crds group = true ↔ ∃ crd ∈ crds, crd.group = group := by
  simp [hasGroup]

lemma name_of_own (hc : dp.contract.Dashes) (hconvert : dp.ConvertsGroups) {up : APIGroup}
    {group : String} (hup : up.name = dp.contract.addTenantIDPrefix tid group) :
    (dp.convertUpstreamApiGroupToTenant tid up).name = group := by
  rw [hconvert.name, hup, hc.add, trim_append]

def Separate (dp : DiscoveryProxy) (tid : String) (crds : List CustomResourceDefinition)
    (groups : List APIGroup) : Prop :=
  ∀ group, hasGroup crds (dp.contract.addTenantIDPrefix tid group) = true →
    (∀ up ∈ groups, up.name = group → dp.provides group = false) ∧
    dp.provides (dp.contract.addTenantIDPrefix tid group) = false ∧
    ∀ up ∈ groups, up.name = dp.contract.addTenantIDPrefix tid group → ∀ v ∈ up.versions,
        hasGroupVersion crds (dp.contract.addTenantIDPrefix tid group) v.version = true

section

variable (hc : dp.contract.Dashes) (hconvert : dp.ConvertsGroups)
  (hserves : dp.discoveryClient.Serves groups) (hown : dp.OwnGroups tid crds groups)
  (hsep : dp.Separate tid crds groups)

include hc in
lemma addTenantIDPrefix_ne (group : String) :
    dp.contract.addTenantIDPrefix tid group ≠ group := by
  rw [hc.add]
  exact append_ne (tenantPrefix_ne tid) group

include hown in
lemma own_of_hasGroup {name : String} (h : hasGroup crds name = true) :
    ∃ group, group ≠ "" ∧ name = dp.contract.addTenantIDPrefix tid group := by
  obtain ⟨crd, hcrd, rfl⟩ := hasGroup_iff.mp h
  exact hown.own crd hcrd

variable {entry up : APIGroup} {group : String}

include hown in
lemma versionsGroup_of_own (h : hasGroup crds (dp.contract.addTenantIDPrefix tid group) = true) :
    dp.versionsGroup tid group = .ok (dp.contract.addTenantIDPrefix tid group) := by
  rw [versionsGroup_eq hown.list, upstreamGroupFor, if_pos h]

include hown in
lemma versionsGroup_of_provided
    (h : hasGroup crds (dp.contract.addTenantIDPrefix tid group) = false)
    (hprovides : dp.provides group = true) : dp.versionsGroup tid group = .ok group := by
  rw [versionsGroup_eq hown.list, upstreamGroupFor_eq, if_neg (by simp [h]), if_pos hprovides]

include hc hconvert hown hsep

lemma versionsGroup_of_shows (hup : up ∈ groups) (h : dp.shows crds tid up = some entry) :
    dp.versionsGroup tid entry.name = .ok up.name := by
  obtain ⟨hname, ⟨hprovides, rfl⟩ | ⟨-, hhas, rfl⟩⟩ := shows_eq_some_iff.mp h
  · refine versionsGroup_of_provided hown ?_ hprovides
    by_contra hhas
    have hnot := (hsep entry.name (by simpa using hhas)).1 entry hup rfl
    rw [hprovides] at hnot
    cases hnot
  · obtain ⟨group, -, hgroup⟩ := own_of_hasGroup hown hhas
    rw [name_of_own hc hconvert hgroup, hgroup]
    exact versionsGroup_of_own hown (hgroup ▸ hhas)

lemma resourcesGroup_of_shows (hup : up ∈ groups) (h : dp.shows crds tid up = some entry)
    {v : GroupVersionForDiscovery}
    (hv : v ∈ entry.versions) : dp.resourcesGroup tid entry.name v.version = .ok up.name := by
  rw [resourcesGroup_eq hown.list, upstreamGroupFor_eq]
  obtain ⟨hname, ⟨hprovides, rfl⟩ | ⟨-, hhas, rfl⟩⟩ := shows_eq_some_iff.mp h
  · rw [if_neg, if_pos hprovides]
    intro hversion
    have hhas : hasGroup crds (dp.contract.addTenantIDPrefix tid entry.name) = true := by
      rw [hasGroup_iff]
      simp only [hasGroupVersion, List.any_eq_true, Bool.and_eq_true, beq_iff_eq] at hversion
      obtain ⟨crd, hcrd, hgroup, -⟩ := hversion
      exact ⟨crd, hcrd, hgroup⟩
    have hnot := (hsep entry.name hhas).1 entry hup rfl
    rw [hprovides] at hnot
    cases hnot
  · obtain ⟨group, -, hgroup⟩ := own_of_hasGroup hown hhas
    have hversion : v.version ∈ up.versions.map fun v => v.version := by
      rw [← hconvert.versions tid]
      exact List.mem_map_of_mem hv
    obtain ⟨v', hv', heq⟩ := List.mem_map.mp hversion
    rw [name_of_own hc hconvert hgroup, ← heq,
      if_pos ((hsep group (hgroup ▸ hhas)).2.2 up hup hgroup v' hv'), hgroup]

include hserves

lemma nodup_listedNames : (dp.listedNames tid).Nodup := by
  rw [listedNames_eq hserves hown.list, List.Nodup, List.pairwise_map, List.pairwise_filterMap]
  refine (List.pairwise_map.mp hserves.names).imp_of_mem ?_
  intro up up' hup hup' hne entry hentry entry' hentry' heq
  have hlookup := versionsGroup_of_shows hc hconvert hown hsep hup hentry
  have hlookup' := versionsGroup_of_shows hc hconvert hown hsep hup' hentry'
  rw [heq, hlookup', Except.ok.injEq] at hlookup
  exact hne hlookup.symm

lemma mem_listedNames_iff (hgroup : group ≠ "") :
    group ∈ dp.listedNames tid ↔ ¬ AnswersNotFound (dp.serverVersionsForGroup tid group) := by
  rw [listedNames_eq hserves hown.list]
  constructor
  · intro hmem
    obtain ⟨entry, hentry, rfl⟩ := List.mem_map.mp hmem
    obtain ⟨up, hup, hshows⟩ := List.mem_filterMap.mp hentry
    intro ⟨e, he, _⟩
    simp only [serverVersionsForGroup, versionsGroup_of_shows hc hconvert hown hsep hup hshows, bind,
      Except.bind, hserves.get up hup (shows_eq_some_iff.mp hshows).1, pure, Except.pure,
      reduceCtorEq] at he
  · intro hanswers
    cases hhas : hasGroup crds (dp.contract.addTenantIDPrefix tid group) with
    | true =>
      obtain ⟨crd, hcrd, hname⟩ := hasGroup_iff.mp hhas
      obtain ⟨up, hup, hlisted⟩ := hown.listed crd hcrd
      rw [hname] at hlisted
      refine List.mem_map.mpr ⟨_, List.mem_filterMap.mpr ⟨up, hup, shows_eq_some_iff.mpr
        ⟨?_, .inr ⟨?_, ?_, rfl⟩⟩⟩, name_of_own hc hconvert hlisted⟩
      · rw [hlisted, hc.add]
        exact append_ne_empty (tenantPrefix_ne tid) group
      · rw [hlisted]
        exact (hsep group hhas).2.1
      · rw [hlisted]
        exact hhas
    | false =>
      cases hprovides : dp.provides group with
      | true =>
        by_contra hmem
        obtain ⟨e, he, hnotFound⟩ := hserves.missing group hgroup fun up hup heq =>
          hmem (List.mem_map.mpr ⟨up, List.mem_filterMap.mpr ⟨up, hup, shows_eq_some_iff.mpr
            ⟨heq ▸ hgroup, .inl ⟨heq ▸ hprovides, rfl⟩⟩⟩, heq⟩)
        refine hanswers ⟨e, ?_, hnotFound⟩
        simp only [serverVersionsForGroup, versionsGroup_of_provided hown hhas hprovides, bind,
          Except.bind, he]
      | false =>
        refine absurd ⟨notATenantsGroup group, ?_, rfl⟩ hanswers
        simp only [serverVersionsForGroup, versionsGroup_eq hown.list, upstreamGroupFor_eq, hhas,
          hprovides, Bool.false_eq_true, if_false, bind, Except.bind]

omit hsep in
lemma separate_of_agrees (h : dp.Agrees tid crds groups) :
    dp.Separate tid crds groups := by
  intro group hhas
  obtain ⟨crd, hcrd, hname⟩ := hasGroup_iff.mp hhas
  obtain ⟨up, hup, hlisted⟩ := hown.listed crd hcrd
  rw [hname] at hlisted
  have hgroup : group ≠ "" := by
    obtain ⟨group', hgroup', heq⟩ := hown.own crd hcrd
    rw [hname, hc.add, hc.add, String.append_right_inj] at heq
    rw [heq]
    exact hgroup'
  have hne : up.name ≠ "" := by
    rw [hlisted, hc.add]
    exact append_ne_empty (tenantPrefix_ne tid) group
  have hlookup := versionsGroup_of_own hown hhas
  -- A group that is provided is listed as it is, and the name without the prefix looked up elsewhere.
  have hnot : dp.provides (dp.contract.addTenantIDPrefix tid group) = false := by
    by_contra hprovides
    rw [Bool.not_eq_false] at hprovides
    have hfound : ¬ AnswersNotFound (dp.serverVersionsForGroup tid group) := by
      intro ⟨e, he, _⟩
      simp only [serverVersionsForGroup, hlookup, bind, Except.bind, ← hlisted,
        hserves.get up hup hne, pure, Except.pure, reduceCtorEq] at he
    have hmem := (h.listed group hgroup).mpr hfound
    rw [listedNames_eq hserves hown.list] at hmem
    obtain ⟨entry, hentry, heq⟩ := List.mem_map.mp hmem
    obtain ⟨up', hup', hshows⟩ := List.mem_filterMap.mp hentry
    have hversions := h.versions up' hup' entry hshows
    rw [heq, hlookup, Except.ok.injEq] at hversions
    obtain ⟨-, ⟨-, rfl⟩ | ⟨hnone, -, -⟩⟩ := shows_eq_some_iff.mp hshows
    · exact addTenantIDPrefix_ne hc group (hversions.trans heq)
    · rw [← hversions, hprovides] at hnone
      cases hnone
  refine ⟨?_, hnot, ?_⟩
  · intro up' hup' heq
    by_contra hprovides
    have hshows : dp.shows crds tid up' = some up' :=
      shows_eq_some_iff.mpr ⟨heq ▸ hgroup, .inl ⟨by rw [heq]; simpa using hprovides, rfl⟩⟩
    have hversions := h.versions up' hup' up' hshows
    rw [heq, hlookup, Except.ok.injEq] at hversions
    exact addTenantIDPrefix_ne hc group hversions
  · intro up' hup' heq v hv
    have hshows : dp.shows crds tid up' = some (dp.convertUpstreamApiGroupToTenant tid up') :=
      shows_eq_some_iff.mpr ⟨by rw [heq, ← hlisted]; exact hne, .inr ⟨heq ▸ hnot, heq ▸ hhas, rfl⟩⟩
    have hversion : v.version ∈
        (dp.convertUpstreamApiGroupToTenant tid up').versions.map fun v => v.version := by
      rw [hconvert.versions]
      exact List.mem_map_of_mem hv
    obtain ⟨v', hv', hveq⟩ := List.mem_map.mp hversion
    have hresources := h.resources up' hup' _ hshows v' hv'
    rw [name_of_own hc hconvert heq, heq, hveq, resourcesGroup_eq hown.list, upstreamGroupFor_eq]
      at hresources
    by_contra hnone
    rw [if_neg hnone] at hresources
    split_ifs at hresources
    exact addTenantIDPrefix_ne hc group (Except.ok.inj hresources).symm

end

end DiscoveryProxy

/-- The three endpoints agree exactly if the groups of the tenant's definitions are apart from those
the gateway provides, with the prefix and without, and upstream lists no versions of them but those of
the definitions. -/
theorem discovery_agrees_iff (dp : DiscoveryProxy) (hc : dp.contract.Dashes)
    (hconvert : dp.ConvertsGroups) (groups : List APIGroup)
    (hserves : dp.discoveryClient.Serves groups) (tid : String)
    (crds : List CustomResourceDefinition) (hown : dp.OwnGroups tid crds groups) :
    dp.Agrees tid crds groups ↔ dp.Separate tid crds groups := by
  constructor
  · intro h
    exact DiscoveryProxy.separate_of_agrees hc hconvert hserves hown h
  · intro h
    exact
      { nodup := DiscoveryProxy.nodup_listedNames hc hconvert hserves hown h
        listed := fun group hgroup =>
          DiscoveryProxy.mem_listedNames_iff hc hconvert hserves hown h hgroup
        versions := fun up hup entry hshows =>
          DiscoveryProxy.versionsGroup_of_shows hc hconvert hown h hup hshows
        resources := fun up hup entry hshows v hv =>
          DiscoveryProxy.resourcesGroup_of_shows hc hconvert hown h hup hshows hv }

def listingClient (groups : List APIGroup) : DiscoveryClient where
  serverGroups := .ok (some { groups := groups })
  getGroup group :=
    match groups.find? fun g => g.name == group with
    | some g => .ok g
    | none => .error (.status (newNotFound "" "" group))
  serverResourcesForGroupVersion groupVersion := .ok { groupVersion := groupVersion }

lemma serves_listingClient {groups : List APIGroup}
    (hnames : (groups.map fun g => g.name).Nodup) : (listingClient groups).Serves groups where
  names := hnames
  list := ⟨_, rfl, rfl⟩
  get g hg _ := by
    have hfind : groups.find? (fun g' => g'.name == g.name) = some g := by
      obtain ⟨g', hg'⟩ := Option.isSome_iff_exists.mp
        ((List.find?_isSome (p := fun g' => g'.name == g.name)).mpr
          ⟨g, hg, beq_self_eq_true g.name⟩)
      have hmem := List.mem_of_find?_eq_some hg'
      have hname : g'.name = g.name := by simpa using List.find?_some hg'
      rw [hg', List.inj_on_of_nodup_map hnames hmem hg hname]
    simp only [listingClient, hfind]
  missing group _ hnone := by
    have hfind : groups.find? (fun g' => g'.name == group) = none :=
      List.find?_eq_none.mpr fun g hg => by simpa using hnone g hg
    exact ⟨.status (newNotFound "" "" group), by simp only [listingClient, hfind], rfl⟩

def storageDiscovery (group : String) : DiscoveryProxy where
  discoveryClient := listingClient
    [{ name := "storage.k8s.io", versions := [⟨"storage.k8s.io/v1", "v1"⟩] },
      { name := "111111-" ++ group, versions := [⟨"111111-" ++ group ++ "/v1", "v1"⟩] }]
  crdLister := .ok [{ name := "disks.111111-" ++ group, group := "111111-" ++ group,
                      plural := "disks", versions := ["v1"] }]
  upstreamObjectBelongsToTenant tid crd := startsWith crd.group (tenantPrefix tid)
  contract := dashContract
  convertUpstreamApiGroupToTenant tid g :=
    { name := trim (tenantPrefix tid) g.name
      versions := g.versions.map fun v =>
        { v with groupVersion := trim (tenantPrefix tid) v.groupVersion }
      preferredVersion := g.preferredVersion.map fun v =>
        { v with groupVersion := trim (tenantPrefix tid) v.groupVersion } }
  convertUpstreamResourceListToTenant tid l :=
    { groupVersion := trim (tenantPrefix tid) l.groupVersion
      apiResources := l.apiResources.map fun r =>
        { r with group := trim (tenantPrefix tid) r.group } }
  servedGroups := ["storage.k8s.io"]
  servedResources := [("storage.k8s.io", ["storageclasses"])]
  sharedResources := sharedCRDResources

lemma convertsGroups_storageDiscovery (group : String) :
    (storageDiscovery group).ConvertsGroups where
  name _ _ := rfl
  versions tid g := by simp [storageDiscovery]

theorem discovery_agrees_acme :
    (storageDiscovery "acme.io").listedNames "111111" = ["storage.k8s.io", "acme.io"] ∧
    (storageDiscovery "acme.io").Agrees "111111"
      [{ name := "disks.111111-acme.io", group := "111111-acme.io", plural := "disks",
         versions := ["v1"] }]
      [{ name := "storage.k8s.io", versions := [⟨"storage.k8s.io/v1", "v1"⟩] },
        { name := "111111-acme.io", versions := [⟨"111111-acme.io/v1", "v1"⟩] }] := by
  refine ⟨by decide +kernel, (discovery_agrees_iff (storageDiscovery "acme.io") dashes_dashContract
    (convertsGroups_storageDiscovery "acme.io") _ (serves_listingClient (by decide +kernel)) "111111"
    _ ⟨by rfl, ?_, ?_⟩).mpr ?_⟩
  · simp only [List.mem_singleton, forall_eq]
    exact ⟨"acme.io", by decide, by decide⟩
  · simp only [List.mem_singleton, forall_eq]
    exact ⟨_, List.mem_cons_of_mem _ (List.mem_singleton_self _), rfl⟩
  · intro group hhas
    obtain rfl : "acme.io" = group := by
      have heq : "111111-acme.io" = "111111-" ++ group := by
        simpa [hasGroup, storageDiscovery, dashContract, tenantPrefix] using hhas
      rwa [show "111111-acme.io" = "111111-" ++ "acme.io" from rfl, String.append_right_inj] at heq
    decide +kernel

theorem native_name_listed_twice :
    (storageDiscovery "storage.k8s.io").listedNames "111111" =
      ["storage.k8s.io", "storage.k8s.io"] ∧
    (storageDiscovery "storage.k8s.io").versionsGroup "111111" "storage.k8s.io" =
      .ok "111111-storage.k8s.io" := by
  decide +kernel

end KubeZoo
