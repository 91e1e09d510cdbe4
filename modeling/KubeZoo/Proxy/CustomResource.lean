import KubeZoo.Proxy.Create

/-! # Custom resources -/

namespace KubeZoo

structure WebhookClientConfig where
  url : Option String := none
  serviceNamespace : Option String := none
deriving DecidableEq

structure CustomResourceDefinition where
  name : String
  group : String
  plural : String
  conversion : Option WebhookClientConfig := none
  ownerReferences : List OwnerReference := []
  versions : List String := []
  uid : String := ""
  acceptedNames : List String := []
deriving DecidableEq

def sharedCRDResources : List (String × List String) :=
  [("snapshot.storage.k8s.io", ["volumesnapshots", "volumesnapshotclasses"])]

def sharedResourcesOf (group : String) : List String :=
  (sharedCRDResources.lookup group).getD []

def sharedCRD (crdName : String) : Bool :=
  match cut crdName '.' with
  | none => false
  | some (plural, group) => (sharedResourcesOf group).contains plural

def sharedCRDGroup (group : String) : Bool := decide (0 < (sharedResourcesOf group).length)

def forwardCRDConversionWebhook (c : Contract) (crd : CustomResourceDefinition) (tid : String) :
    Except GoError CustomResourceDefinition :=
  match crd.conversion with
  | none => .ok crd
  | some config =>
    if config.url ≠ none then
      .error (.plain ("crd " ++ crd.name ++ ": spec.conversion.webhook.clientConfig.url is not available to tenants, because a URL cannot be confined to the tenant; use service to name a service in one of your namespaces"))
    else
      let rename := fun ns => if ns = "" then ns else c.addTenantIDPrefix tid ns
      let config := { config with serviceNamespace := config.serviceNamespace.map rename }
      .ok { crd with conversion := some config }

/-- `CRDConvertor.ConvertTenantObjectToUpstreamObject`. -/
def crdForward (c : Contract) (checkGroupKind : CheckGroupKind) (crd : CustomResourceDefinition)
    (tid : String) : Except GoError CustomResourceDefinition :=
  if crd.name ≠ crd.plural ++ "." ++ crd.group then
    .error (.plain ("The CustomResourceDefinition " ++ quoted crd.name ++
      " is invalid: metadata.name: Invalid value: " ++ quoted crd.name ++
      ": must be spec.names.plural+\".\"+spec.group"))
  else do
    let group := c.addTenantIDPrefix tid crd.group
    let crd ← forwardCRDConversionWebhook c
      { crd with group := group, name := crd.plural ++ "." ++ group } tid
    let owners ← crd.ownerReferences.mapM (ownerReferenceForward c checkGroupKind tid)
    return { crd with ownerReferences := owners }

def backwardCRDConversionWebhook (c : Contract) (crd : CustomResourceDefinition)
    (tid : String) : CustomResourceDefinition :=
  let rename := fun ns => if ns = "" then ns else trimIfAttributable c ns tid
  { crd with
    conversion := crd.conversion.map fun config =>
      { config with serviceNamespace := config.serviceNamespace.map rename } }

/-- `CRDConvertor.ConvertUpstreamObjectToTenantObject`. -/
def crdBackward (c : Contract) (checkGroupKind : CheckGroupKind) (crd : CustomResourceDefinition)
    (tid : String) : Except GoError CustomResourceDefinition :=
  if !startsWith crd.group tid then
    .error (.plain ("invalid spec.group " ++ crd.group ++ " for crd " ++ crd.name ++
      ", tenant id is " ++ tid))
  else do
    let group := c.trimTenantIDPrefix tid crd.group
    let crd := backwardCRDConversionWebhook c
      { crd with group := group, name := crd.plural ++ "." ++ group } tid
    let owners ← crd.ownerReferences.mapM (ownerReferenceBackward c checkGroupKind tid)
    return { crd with ownerReferences := owners }

/-- `crdLister.Get`. -/
def crdGet (crds : List CustomResourceDefinition) (name : String) :
    Except GoError CustomResourceDefinition :=
  match crds.find? (·.name == name) with
  | some crd => .ok crd
  | none =>
    .error (.status (newNotFound "apiextensions.k8s.io" "customresourcedefinitions" name))

def crdKey (c : Contract) (tid name : String) : String :=
  if sharedCRD name then name else c.convertCRDNameToUpstream name tid

def getTenantCRD (c : Contract) (crds : List CustomResourceDefinition) (ctx : RequestContext)
    (name : String) : Except GoError CustomResourceDefinition :=
  match ctx.tenantID with
  | none => .error (.plain "tenantID doesn't exist in context")
  | some tid => do
    let crd ← crdGet crds (crdKey c tid name)
    if sharedCRD name then return crd
    else if !startsWith crd.group tid then
      throw (.plain ("invalid spec.group: " ++ crd.group ++ " for crd: " ++ crd.name ++
        ", must have tenantID prefix: " ++ tid))
    else
      let group := c.trimTenantIDPrefix tid crd.group
      return { crd with group := group, name := crd.plural ++ "." ++ group }

/-- `upstreamGroupVersion`: the group a request goes to. -/
def TenantProxy.upstreamGroup {β : Type} (tp : TenantProxy β)
    (isSharedGroup : Option (String → Bool)) (tid : String) : String :=
  if !tp.isCustomResource then tp.kind.group
  else if isSharedGroup.any (· tp.kind.group) then tp.kind.group
  else tp.contract.addTenantIDPrefix tid tp.kind.group

lemma cut_append {p : List Char} {sep : Char} (hp : sep ∉ p) (rest : List Char) :
    cut (String.ofList (p ++ sep :: rest)) sep = some (String.ofList p, String.ofList rest) := by
  have hspan : (p ++ sep :: rest).span (· ≠ sep) = (p, sep :: rest) := by
    rw [List.span_eq_takeWhile_dropWhile]
    rw [List.takeWhile_append_of_pos (by simpa using fun a ha => ne_of_mem_of_not_mem ha hp),
      List.dropWhile_append_of_pos (by simpa using fun a ha => ne_of_mem_of_not_mem ha hp)]
    simp
  rw [cut, String.toList_ofList, hspan]

/-- A definition has the name that validation demands. -/
def CustomResourceDefinition.Named (crd : CustomResourceDefinition) : Prop :=
  crd.name = crd.plural ++ "." ++ crd.group ∧ '.' ∉ crd.plural.toList

lemma cut_dot {plural : String} (h : '.' ∉ plural.toList) (group : String) :
    cut (plural ++ "." ++ group) '.' = some (plural, group) := by
  have hname : plural ++ "." ++ group = String.ofList (plural.toList ++ '.' :: group.toList) := by
    apply String.toList_injective
    simp
  rw [hname, cut_append h, String.ofList_toList, String.ofList_toList]

lemma named_unique {plural plural' group group' : String} (h : '.' ∉ plural.toList)
    (h' : '.' ∉ plural'.toList) (heq : plural ++ "." ++ group = plural' ++ "." ++ group') :
    plural = plural' ∧ group = group' := by
  have hcut := cut_dot h group
  rw [heq, cut_dot h' group', Option.some.injEq, Prod.mk.injEq] at hcut
  exact ⟨hcut.1.symm, hcut.2.symm⟩

lemma cut_isSome {s : String} {sep : Char} (h : sep ∈ s.toList) : (cut s sep).isSome := by
  rw [cut, List.span_eq_takeWhile_dropWhile]
  cases hrest : s.toList.dropWhile (· ≠ sep) with
  | nil =>
    have hall := List.takeWhile_append_dropWhile (p := (· ≠ sep)) (l := s.toList)
    rw [hrest, List.append_nil] at hall
    rw [← hall] at h
    simpa using List.all_eq_true.mp List.all_takeWhile sep h
  | cons c rest => rfl

lemma named_of_cut {name plural group : String} (h : cut name '.' = some (plural, group)) :
    name = plural ++ "." ++ group ∧ '.' ∉ plural.toList := by
  have hsplit := List.takeWhile_append_dropWhile (p := (· ≠ '.')) (l := name.toList)
  rw [cut, List.span_eq_takeWhile_dropWhile] at h
  cases hrest : name.toList.dropWhile (· ≠ '.') with
  | nil =>
    rw [hrest] at h
    cases h
  | cons c rest =>
    have hc : c = '.' := by
      have := List.head?_dropWhile_not (fun x : Char => x ≠ '.') name.toList
      rw [hrest] at this
      simpa using this
    simp only [hrest, Option.some.injEq, Prod.mk.injEq] at h
    obtain ⟨rfl, rfl⟩ := h
    refine ⟨?_, ?_⟩
    · apply String.toList_injective
      refine hsplit.symm.trans ?_
      rw [hrest, hc]
      simp
    · rw [String.toList_ofList]
      intro hmem
      simpa using List.all_eq_true.mp List.all_takeWhile '.' hmem

/-- What the lookup of definitions uses of the conversion of names. -/
structure PrefixLaws (c : Contract) (tid : String) : Prop where
  trim_add : ∀ name, c.trimTenantIDPrefix tid (c.addTenantIDPrefix tid name) = name
  add_ne : ∀ name, c.addTenantIDPrefix tid name ≠ name
  crdName : ∀ plural group, '.' ∉ plural.toList →
    c.convertCRDNameToUpstream (plural ++ "." ++ group) tid =
      plural ++ "." ++ c.addTenantIDPrefix tid group

def upstreamCRDs (c : Contract) (checkGroupKind : CheckGroupKind) (tid : String)
    (others created : List CustomResourceDefinition) : List CustomResourceDefinition :=
  others ++ created.filterMap fun crd => (crdForward c checkGroupKind crd tid).toOption

section

variable {c : Contract} {checkGroupKind : CheckGroupKind} {tid : String}

variable {crd : CustomResourceDefinition}

lemma named_crdForward {up : CustomResourceDefinition} (hplural : '.' ∉ crd.plural.toList)
    (h : crdForward c checkGroupKind crd tid = .ok up) : up.Named := by
  rw [crdForward] at h
  split_ifs at h
  simp only [Except.bind_eq_ok_iff] at h
  obtain ⟨hooked, hwebhook, owners, -, h⟩ := h
  rw [← Except.ok.inj h]
  have hkeeps : hooked.name = crd.plural ++ "." ++ c.addTenantIDPrefix tid crd.group ∧
      hooked.plural = crd.plural ∧ hooked.group = c.addTenantIDPrefix tid crd.group := by
    rw [forwardCRDConversionWebhook] at hwebhook
    cases hconversion : crd.conversion with
    | none =>
      simp only [hconversion] at hwebhook
      rw [← Except.ok.inj hwebhook]
      exact ⟨rfl, rfl, rfl⟩
    | some config =>
      simp only [hconversion] at hwebhook
      split_ifs at hwebhook
      rw [← Except.ok.inj hwebhook]
      exact ⟨rfl, rfl, rfl⟩
  refine ⟨?_, ?_⟩
  · show hooked.name = hooked.plural ++ "." ++ hooked.group
    rw [hkeeps.1, hkeeps.2.1, hkeeps.2.2]
  · show '.' ∉ hooked.plural.toList
    rw [hkeeps.2.1]
    exact hplural

lemma named_upstreamCRDs {others created : List CustomResourceDefinition}
    (hothers : ∀ crd ∈ others, crd.Named) (hcreated : ∀ crd ∈ created, '.' ∉ crd.plural.toList)
    (h : crd ∈ upstreamCRDs c checkGroupKind tid others created) : crd.Named := by
  rcases List.mem_append.mp h with h | h
  · exact hothers crd h
  · obtain ⟨form, hform, hforward⟩ := List.mem_filterMap.mp h
    exact named_crdForward (hcreated form hform) (Except.toOption_eq_some_iff.mp hforward)

lemma crdGet_ok {crds : List CustomResourceDefinition} {name : String}
    (h : crdGet crds name = .ok crd) : crd ∈ crds ∧ crd.name = name := by
  rw [crdGet] at h
  cases hfind : crds.find? (·.name == name) with
  | none =>
    rw [hfind] at h
    cases h
  | some found =>
    rw [hfind] at h
    obtain rfl : found = crd := Except.ok.inj h
    exact ⟨List.mem_of_find?_eq_some hfind, by simpa using List.find?_some hfind⟩

lemma sharedCRDGroup_of_named (hnamed : crd.Named) (h : sharedCRD crd.name = true) :
    sharedCRDGroup crd.group = true := by
  rw [sharedCRD, hnamed.1, cut_dot hnamed.2] at h
  exact decide_eq_true (List.length_pos_of_mem (List.contains_iff_mem.mp h))

lemma group_of_crdKey (hlaws : PrefixLaws c tid) (hnamed : crd.Named) {name : String}
    (hshared : sharedCRD name = false) (hname : crd.name = crdKey c tid name)
    (hcut : (cut name '.').isSome) : ∃ group, crd.group = c.addTenantIDPrefix tid group := by
  obtain ⟨⟨plural, group⟩, hcut⟩ := Option.isSome_iff_exists.mp hcut
  obtain ⟨rfl, hplural⟩ := named_of_cut hcut
  rw [crdKey, if_neg (by simp [hshared]), hlaws.crdName plural group hplural, hnamed.1] at hname
  exact ⟨group, (named_unique hnamed.2 hplural hname).2⟩

end

/-- A request for a custom resource goes to the group its definition is stored under, if and only if
the resource itself is shared, or no resource of its group is. -/
theorem crd_upstream_group_iff {β : Type} (tp : TenantProxy β) (checkGroupKind : CheckGroupKind)
    (tid : String) (hlaws : PrefixLaws tp.contract tid)
    (others created : List CustomResourceDefinition) (hothers : ∀ crd ∈ others, crd.Named)
    (hcreated : ∀ crd ∈ created, '.' ∉ crd.plural.toList) (ctx : RequestContext)
    (hctx : ctx.tenantID = some tid) (plural group : String)
    (crd stored : CustomResourceDefinition)
    (hget : getTenantCRD tp.contract
      (upstreamCRDs tp.contract checkGroupKind tid others created) ctx
      (plural ++ "." ++ group) = .ok crd)
    (hstored : crdGet (upstreamCRDs tp.contract checkGroupKind tid others created)
      (crdKey tp.contract tid (plural ++ "." ++ group)) = .ok stored)
    (hcustom : tp.isCustomResource = true) (hkind : tp.kind.group = crd.group) :
    tp.upstreamGroup (some sharedCRDGroup) tid = stored.group ↔
      sharedCRD (plural ++ "." ++ group) = true ∨ sharedCRDGroup crd.group = false := by
  obtain ⟨hmem, hname⟩ := crdGet_ok hstored
  have hnamed := named_upstreamCRDs hothers hcreated hmem
  simp only [getTenantCRD, hctx, hstored, bind, Except.bind] at hget
  simp only [TenantProxy.upstreamGroup, hcustom, hkind]
  by_cases hshared : sharedCRD (plural ++ "." ++ group) = true
  · -- The definition is the platform's, and so is the group.
    rw [if_pos hshared] at hget
    obtain rfl : stored = crd := Except.ok.inj hget
    rw [crdKey, if_pos hshared] at hname
    have hgroup := sharedCRDGroup_of_named hnamed (hname ▸ hshared)
    simp [hgroup, hshared]
  · rw [if_neg hshared] at hget
    split_ifs at hget
    have hcut : (cut (plural ++ "." ++ group) '.').isSome := cut_isSome (by simp)
    obtain ⟨g, hg⟩ := group_of_crdKey hlaws hnamed (by simpa using hshared) hname hcut
    have hcrd : crd.group = g := by
      rw [← Except.ok.inj hget, hg]
      exact hlaws.trim_add g
    rw [hcrd, hg]
    by_cases hgroup : sharedCRDGroup g = true
    · simp [hshared, (hlaws.add_ne g).symm]
    · simp [hgroup]

lemma prefixLaws_dashContract (tid : String) : PrefixLaws dashContract tid where
  trim_add name := by
    have hprefix : (tid ++ "-").toList.isPrefixOf (tid ++ "-" ++ name).toList = true := by
      rw [List.isPrefixOf_iff_prefix]
      exact ⟨name.toList, String.toList_append.symm⟩
    show (if (tid ++ "-").toList.isPrefixOf (tid ++ "-" ++ name).toList then
      String.ofList ((tid ++ "-" ++ name).toList.drop (tid.length + 1)) else _) = name
    rw [if_pos hprefix]
    have hdrop : (tid ++ "-" ++ name).toList.drop (tid.length + 1) = name.toList := by
      rw [String.toList_append]
      exact List.drop_left' (by simp [String.length_toList])
    rw [hdrop, String.ofList_toList]
  add_ne name := by
    intro h
    have hlength := congrArg String.length h
    simp only [dashContract, String.length_append] at hlength
    have hdash : "-".length = 1 := rfl
    omega
  crdName plural group hplural := by
    unfold dashContract
    dsimp only
    rw [cut_dot hplural]
    simp only [String.append_assoc]

def customResources (crd : CustomResourceDefinition) : TenantProxy Unit :=
  { plainConfigMaps with
    kind := { group := crd.group, version := "v1", kind := "Foo" }
    resource := crd.plural
    isCustomResource := true
    unstructured := true }

def tenantCRD (plural group : String) : CustomResourceDefinition :=
  { name := plural ++ "." ++ group, group := group, plural := plural }

def noKinds : CheckGroupKind := fun _ _ _ _ => .error (.plain "no such kind")

theorem crd_upstream_group_crontabs :
    (customResources (tenantCRD "crontabs" "stable.example.com")).upstreamGroup
        (some sharedCRDGroup) "111111" = "111111-stable.example.com" :=
  (crd_upstream_group_iff (customResources (tenantCRD "crontabs" "stable.example.com")) noKinds
    "111111" (prefixLaws_dashContract "111111") [] [tenantCRD "crontabs" "stable.example.com"]
    (by simp) (by simp [tenantCRD]) webContext rfl "crontabs" "stable.example.com"
    (tenantCRD "crontabs" "stable.example.com") (tenantCRD "crontabs" "111111-stable.example.com")
    (by decide +kernel) (by decide +kernel) rfl rfl).mpr (Or.inr (by decide +kernel))

theorem crd_request_leaves_prefix :
    let crd := tenantCRD "foos" "snapshot.storage.k8s.io"
    let crds := upstreamCRDs dashContract noKinds "111111" [] [crd]
    sharedCRD crd.name = false ∧
    getTenantCRD dashContract crds webContext crd.name = .ok crd ∧
    (crdGet crds (crdKey dashContract "111111" crd.name)).toOption.map (·.group) =
      some "111111-snapshot.storage.k8s.io" ∧
    (customResources crd).upstreamGroup (some sharedCRDGroup) "111111" =
      "snapshot.storage.k8s.io" := by
  decide +kernel

end KubeZoo
