import KubeZoo.Proxy.NetworkReach

/-! # The resolver of a tenant -/

namespace KubeZoo

structure ResolverService where
  labels : StringMap := ∅
  annotations : StringMap := ∅
  clusterIP : String := ""

structure ResolverEndpoint where
  ready : Option Bool := none
  addresses : List String := []

structure EndpointSlice where
  «namespace» : String
  labels : StringMap := ∅
  endpoints : List ResolverEndpoint := []

def resolverName : String := "kube-dns"

def tenantLabelKey : String := "kubezoo.io/tenant"

def labelServiceName : String := "kubernetes.io/service-name"

def resolverNamespace (tenantID : String) : String := tenantID ++ "-kube-system"

/-- `Resolver`. The store is what `GetByKey` answers; what can be nil is an `Option`, and an indexer
without the index is none. -/
structure Resolver where
  store : Option (String → Option ResolverService)
  synced : Option Bool := some true
  endpoints : Option (List EndpointSlice)
  endpointsSyn : Option Bool := some true
  clusterDomain : String := "cluster.local"

def indexBySliceServiceName (slice : EndpointSlice) : List String :=
  let name := (slice.labels[labelServiceName]?).getD ""
  if name = "" then [] else [name]

/-- `ByIndex` of `ServiceNameIndex`. -/
def byServiceName (slices : List EndpointSlice) (name : String) : List EndpointSlice :=
  slices.filter fun slice => name ∈ indexBySliceServiceName slice

def ResolverEndpoint.serves (e : ResolverEndpoint) : Bool := e.ready.getD true && !e.addresses.isEmpty

namespace Resolver

def serving (r : Resolver) (tenantID : String) : Bool :=
  match r.endpoints with
  | none => false
  | some slices => (byServiceName slices resolverName).any fun slice =>
      slice.namespace = resolverNamespace tenantID && slice.endpoints.any ResolverEndpoint.serves

def nameserverFor (isIP : String → Bool) (svc : ResolverService) : String :=
  match tenantClusterIPFrom isIP svc.annotations svc.clusterIP with
  | some address => address
  | none => svc.clusterIP

/-- `Resolver.For`, of a resolver that may be nil. -/
def answerFor (isIP : String → Bool) (resolver : Option Resolver) (tenantID : String) :
    Option TenantDNS := do
  let r ← resolver
  let store ← r.store
  if tenantID = "" then none
  else if r.endpointsSyn = some false then none
  else if r.synced = some false then none
  else
    let svc ← store (resolverNamespace tenantID ++ "/" ++ resolverName)
    if (svc.labels[tenantLabelKey]?).getD "" ≠ tenantID then none
    else if svc.clusterIP = "" ∨ svc.clusterIP = "None" then none
    else if !r.serving tenantID then none
    else return { nameserver := nameserverFor isIP svc, clusterDomain := r.clusterDomain }

variable {isIP : String → Bool} {r : Resolver} {tenantID : String} {dns : TenantDNS}

lemma serving_iff {slices : List EndpointSlice} (h : r.endpoints = some slices) :
    r.serving tenantID = true ↔ ∃ slice ∈ slices, slice.namespace = resolverNamespace tenantID ∧
      resolverName ∈ indexBySliceServiceName slice ∧
      ∃ e ∈ slice.endpoints, e.ready ≠ some false ∧ e.addresses ≠ [] := by
  have hserves : ∀ e : ResolverEndpoint,
      e.serves = true ↔ e.ready ≠ some false ∧ e.addresses ≠ [] := by
    intro e
    rcases hready : e.ready with _ | _ | _ <;> simp [ResolverEndpoint.serves, hready]
  simp only [serving, byServiceName]
  grind

lemma answerFor_eq_some (h : answerFor isIP (some r) tenantID = some dns) :
    ∃ store svc, r.store = some store ∧
      store (resolverNamespace tenantID ++ "/" ++ resolverName) = some svc ∧
      (svc.labels[tenantLabelKey]?).getD "" = tenantID ∧ svc.clusterIP ≠ "" ∧
      svc.clusterIP ≠ "None" ∧ r.serving tenantID = true ∧ dns.nameserver = nameserverFor isIP svc := by
  obtain ⟨store, hstore, h⟩ := Option.bind_eq_some_iff.mp h
  iterate 3 (split at h; · cases h)
  obtain ⟨svc, hsvc, h⟩ := Option.bind_eq_some_iff.mp h
  split_ifs at h with hlabel hip hserving
  obtain ⟨hempty, hnone⟩ := not_or.mp hip
  refine ⟨store, svc, hstore, hsvc, not_not.mp hlabel, hempty, hnone, by simpa using hserving, ?_⟩
  rw [← Option.some.inj h]

lemma nameserverFor_cases (svc : ResolverService) :
    nameserverFor isIP svc = svc.clusterIP ∨
      svc.annotations[clusterIPAnnotationKey]? = some (nameserverFor isIP svc) ∧
        nameserverFor isIP svc ≠ "" ∧ isIP (nameserverFor isIP svc) = true := by
  unfold nameserverFor tenantClusterIPFrom
  cases haddress : svc.annotations[clusterIPAnnotationKey]? with
  | none => simp
  | some address => grind

/-- What other tenants have, in the store or in the index, changes nothing about the answer. -/
theorem answerFor_isolated_and_sound (isIP : String → Bool) (tenantID : String) (r : Resolver) :
    (∀ (store store' : String → Option ResolverService) (slices slices' : List EndpointSlice),
      (∀ name, store (resolverNamespace tenantID ++ "/" ++ name)
        = store' (resolverNamespace tenantID ++ "/" ++ name)) →
      (∀ slice, slice.namespace = resolverNamespace tenantID → (slice ∈ slices ↔ slice ∈ slices')) →
      answerFor isIP (some { r with store := some store, endpoints := some slices }) tenantID
        = answerFor isIP (some { r with store := some store', endpoints := some slices' }) tenantID) ∧
    ∀ dns, answerFor isIP (some r) tenantID = some dns →
      ∃ store slices svc, r.store = some store ∧ r.endpoints = some slices ∧
        store (resolverNamespace tenantID ++ "/" ++ resolverName) = some svc ∧
        (∃ slice ∈ slices, slice.namespace = resolverNamespace tenantID ∧
          resolverName ∈ indexBySliceServiceName slice ∧
          ∃ e ∈ slice.endpoints, e.ready ≠ some false ∧ e.addresses ≠ []) ∧
        svc.clusterIP ≠ "" ∧ svc.clusterIP ≠ "None" ∧
        (dns.nameserver = svc.clusterIP ∨
          svc.annotations[clusterIPAnnotationKey]? = some dns.nameserver ∧ dns.nameserver ≠ "" ∧
            isIP dns.nameserver = true) := by
  constructor
  · intro store store' slices slices' hstore hslices
    have hserving : serving { r with store := some store, endpoints := some slices } tenantID
        = serving { r with store := some store', endpoints := some slices' } tenantID := by
      rw [Bool.eq_iff_iff, serving_iff rfl, serving_iff rfl]
      exact exists_congr fun slice => and_congr_left fun hrest => hslices slice hrest.1
    simp only [answerFor, hserving, hstore, Option.bind_eq_bind, Option.bind_some]
  · intro dns h
    obtain ⟨store, svc, hstore, hsvc, -, hempty, hnone, hserving, hname⟩ := answerFor_eq_some h
    cases hslices : r.endpoints with
    | none => simp [serving, hslices] at hserving
    | some slices =>
      refine ⟨store, slices, svc, hstore, rfl, hsvc, (serving_iff hslices).mp hserving, hempty,
        hnone, ?_⟩
      rw [hname]
      exact nameserverFor_cases svc

def acmeResolver : Resolver where
  store := some fun key =>
    if key = "111111-kube-system/kube-dns" then
      some { labels := .ofList [(tenantLabelKey, "111111")]
             annotations := .ofList [(clusterIPAnnotationKey, "10.8.0.10")]
             clusterIP := "172.16.0.10" }
    else none
  endpoints := some [{ «namespace» := "111111-kube-system"
                       labels := .ofList [(labelServiceName, resolverName)]
                       endpoints := [{ addresses := ["10.8.1.4"] }] }]

theorem answerFor_isolated_and_sound_acme :
    answerFor (fun _ => true) (some acmeResolver) "111111" =
        some { nameserver := "10.8.0.10", clusterDomain := "cluster.local" } ∧
      ∃ slices, acmeResolver.endpoints = some slices ∧ ∃ slice ∈ slices,
        slice.namespace = "111111-kube-system" ∧ ∃ e ∈ slice.endpoints, e.addresses ≠ [] := by
  have hanswer : answerFor (fun _ => true) (some acmeResolver) "111111" =
      some { nameserver := "10.8.0.10", clusterDomain := "cluster.local" } := by decide +kernel
  obtain ⟨-, slices, -, -, hslices, -, ⟨slice, hslice, hns, -, e, he, -, haddresses⟩, -⟩ :=
    (answerFor_isolated_and_sound (fun _ => true) "111111" acmeResolver).2 _ hanswer
  exact ⟨hanswer, slices, hslices, slice, hslice, hns, e, he, haddresses⟩

end Resolver

end KubeZoo
