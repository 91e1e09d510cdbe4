import KubeZoo.Convert.Default

/-! # Services and what carries pods -/

namespace KubeZoo

/-- `core.ProbeHandler` and `core.LifecycleHandler`: the hosts of their actions. -/
structure Handler where
  httpGet : Option String := none
  tcpSocket : Option String := none
deriving DecidableEq

structure Lifecycle where
  postStart : Option Handler := none
  preStop : Option Handler := none
deriving DecidableEq

structure Container where
  name : String := ""
  livenessProbe : Option Handler := none
  readinessProbe : Option Handler := none
  startupProbe : Option Handler := none
  lifecycle : Option Lifecycle := none
deriving DecidableEq

/-- `core.DownwardAPIVolumeFile`, with its field selector as API version and path. -/
structure DownwardAPIFile where
  path : String
  fieldRef : Option (String × String) := none
deriving DecidableEq

structure VolumeProjection where
  serviceAccountToken : Option (String × Int) := none
  configMap : Option (String × List (String × String)) := none
  downwardAPI : Option (List DownwardAPIFile) := none
deriving DecidableEq

/-- `core.Volume`: its CSI driver, if it names one, and what is projected into it. -/
structure PodVolume where
  name : String := ""
  csi : Option String := none
  projected : Option (List VolumeProjection) := none
deriving DecidableEq

structure Toleration where
  key : String := ""
  operator : String := ""
  value : String := ""
  effect : String := ""
  tolerationSeconds : Option Int := none
deriving DecidableEq

structure PodDNSConfig where
  nameservers : List String := []
  searches : List String := []
  options : List (String × Option String) := []
deriving DecidableEq

/-- `core.PodSpec`. An affinity and a topology constraint are what their texts say. -/
structure PodSpec where
  containers : List Container := []
  initContainers : List Container := []
  volumes : List PodVolume := []
  nodeSelector : StringMap := ∅
  tolerations : List Toleration := []
  schedulerName : String := ""
  affinity : Option String := none
  topologySpreadConstraints : List String := []
  nodeName : String := ""
  automountServiceAccountToken : Option Bool := none
  dnsPolicy : String := ""
  dnsConfig : Option PodDNSConfig := none
deriving DecidableEq

inductive ServiceType
  | clusterIP
  | nodePort
  | loadBalancer
  | externalName
deriving DecidableEq

/-- `core.ServicePort`. -/
structure ServicePort where
  port : Int := 0
  nodePort : Int := 0
deriving DecidableEq

structure ServiceSpec where
  type : ServiceType := .clusterIP
  clusterIP : String := ""
  clusterIPs : List String := []
  externalIPs : List String := []
  ports : List ServicePort := []
  healthCheckNodePort : Int := 0
  allocateLoadBalancerNodePorts : Option Bool := none
deriving DecidableEq

inductive Workload
  | service (spec : ServiceSpec)
  | pod (spec : PodSpec)
  | podTemplate (template : PodSpec)
  | replicationController (template : Option PodSpec)
  | deployment (template : PodSpec)
  | statefulSet (template : PodSpec)
  | daemonSet (template : PodSpec)
  | replicaSet (template : PodSpec)
  | job (template : PodSpec)
  | cronJob (template : PodSpec)
  | binding
  | eviction
  | scale
deriving DecidableEq

namespace Workload

def isPod : Workload → Bool
  | pod _ => true
  | _ => false

/-- `podSpecOf`, and `PodSpecOf`. The metadata that `podTemplateOf` returns beside it is a field of
every object. -/
def podSpecOf : Workload → Except GoError (Option PodSpec)
  | pod spec => .ok (some spec)
  | podTemplate template => .ok (some template)
  | replicationController template => .ok template
  | deployment template => .ok (some template)
  | statefulSet template => .ok (some template)
  | daemonSet template => .ok (some template)
  | replicaSet template => .ok (some template)
  | job template => .ok (some template)
  | cronJob template => .ok (some template)
  | binding => .ok none
  | eviction => .ok none
  | scale => .ok none
  | service _ =>
    .error (.plain "placement was asked to handle *core.Service, which carries no pod template; either it should not be registered in InitConvertors or podTemplateOf is missing a case")

def mapPodSpec (f : PodSpec → PodSpec) : Workload → Workload
  | pod spec => pod (f spec)
  | podTemplate template => podTemplate (f template)
  | replicationController template => replicationController (template.map f)
  | deployment template => deployment (f template)
  | statefulSet template => statefulSet (f template)
  | daemonSet template => daemonSet (f template)
  | replicaSet template => replicaSet (f template)
  | job template => job (f template)
  | cronJob template => cronJob (f template)
  | binding => binding
  | eviction => eviction
  | scale => scale
  | service spec => service spec

@[simp] lemma podSpecOf_mapPodSpec (f : PodSpec → PodSpec) (w : Workload) :
    (w.mapPodSpec f).podSpecOf = w.podSpecOf.map (Option.map f) := by
  cases w <;> rfl

@[simp] lemma isPod_mapPodSpec (f : PodSpec → PodSpec) (w : Workload) :
    (w.mapPodSpec f).isPod = w.isPod := by
  cases w <;> rfl

end Workload

def Object.onPodSpec (o onPod onTemplate : Object (Owned Workload)) :
    Except GoError (Object (Owned Workload)) :=
  match o.body.spec.podSpecOf with
  | .error e => .error e
  | .ok none => .ok o
  | .ok (some _) => .ok (if o.body.spec.isPod then onPod else onTemplate)

/-- What `kubezoo-contract` says about the node pools of tenants. -/
structure NodePools where
  nodePoolFor : String → String
  nodePoolLabelKey : String
  unreachableTolerationSeconds : Int
  tenantSchedulerName : String

/-- The tolerations that `place` writes. -/
def poolTolerations (pools : NodePools) (pool : String) : List Toleration :=
  [{ key := pools.nodePoolLabelKey, operator := "Equal", value := pool, effect := "NoSchedule" },
   { key := "node.kubernetes.io/not-ready", operator := "Exists", effect := "NoExecute"
     tolerationSeconds := some pools.unreachableTolerationSeconds },
   { key := "node.kubernetes.io/unreachable", operator := "Exists", effect := "NoExecute"
     tolerationSeconds := some pools.unreachableTolerationSeconds }]

def place (pools : NodePools) (tid : String) (spec : PodSpec) : PodSpec :=
  let pool := pools.nodePoolFor tid
  { spec with
    nodeSelector := (∅ : StringMap).insert pools.nodePoolLabelKey pool
    tolerations := poolTolerations pools pool
    schedulerName := pools.tenantSchedulerName
    affinity := none
    topologySpreadConstraints := [] }

def placementTransformer (pools : NodePools) : ObjectTransformer (Owned Workload) where
  forward o tid := o.onPodSpec o (o.withSpec (o.body.spec.mapPodSpec fun spec =>
      { place pools tid spec with nodeName := "" }))
  backward o _ := .ok o

def upstreamSAVolumePrefix : String := "kube-api-access"

def kubezooSAVolumeName : String := upstreamSAVolumePrefix ++ "-kubezoo"

/-- `TenantNamespaceAnnotation`. -/
def tenantNamespaceAnnotationKey : String := "kubezoo.io/tenant-namespace"

/-- `tenantNamespaceFieldRef`, as API version and path. -/
def tenantNamespaceFieldRef : String × String :=
  ("v1", "metadata.annotations['" ++ tenantNamespaceAnnotationKey ++ "']")

def tenantNamespaceTokenVolume : List VolumeProjection :=
  [{ serviceAccountToken := some ("token", 3607) },
   { configMap := some ("kube-root-ca.crt", [("ca.crt", "ca.crt")]) },
   { downwardAPI := some [{ path := "namespace", fieldRef := some tenantNamespaceFieldRef }] }]

def retargetNamespaceSource (v : PodVolume) : PodVolume :=
  { v with projected := v.projected.map fun sources =>
      sources.map fun source => { source with
        downwardAPI := source.downwardAPI.map fun items =>
          items.map fun item =>
            if item.path = "namespace" then
              { item with fieldRef := some tenantNamespaceFieldRef } else item } }

def isSAVolume (v : PodVolume) : Bool := startsWith v.name (upstreamSAVolumePrefix ++ "-")

/-- `saVolume`, with what is done to the volume it finds: the first one that upstream would take. -/
def retargetFirst : List PodVolume → List PodVolume
  | [] => []
  | v :: vs => if isSAVolume v then retargetNamespaceSource v :: vs else v :: retargetFirst vs

/-- `project`, for the volumes of a pod that has a namespace. -/
def projectVolumes (spec : PodSpec) : PodSpec :=
  if spec.automountServiceAccountToken = some false then spec
  else if spec.volumes.any isSAVolume then { spec with volumes := retargetFirst spec.volumes }
  else
    { spec with volumes := spec.volumes ++
        [{ name := kubezooSAVolumeName, projected := some tenantNamespaceTokenVolume }] }

/-- `project`, for the volumes. -/
def projectIn (tenantNamespace : String) (spec : PodSpec) : PodSpec :=
  if tenantNamespace = "" then spec else projectVolumes spec

def stampTenantNamespace (tenantNamespace : String) (annotations : StringMap) : StringMap :=
  if tenantNamespace = "" then annotations
  else annotations.insert tenantNamespaceAnnotationKey tenantNamespace

def PodTemplate.mapAnnotations (f : StringMap → StringMap) : PodTemplate → PodTemplate
  | .nested labels annotations => .nested labels (f annotations)
  | t => t

def saTokenNamespaceTransformer (c : Contract) : ObjectTransformer (Owned Workload) where
  forward o tid :=
    let tenantNamespace := c.trimTenantIDPrefix tid o.metadata.namespace
    o.onPodSpec
      { o with metadata := { o.metadata with
          annotations := stampTenantNamespace tenantNamespace o.metadata.annotations } }
      { o.withSpec (o.body.spec.mapPodSpec (projectIn tenantNamespace)) with
        template := o.template.mapAnnotations (stampTenantNamespace tenantNamespace) }
  backward o _ := o.onPodSpec
      { o with metadata := { o.metadata with
          annotations := o.metadata.annotations.erase tenantNamespaceAnnotationKey } }
      { o with template := o.template.mapAnnotations (·.erase tenantNamespaceAnnotationKey) }

structure TenantDNS where
  nameserver : String
  clusterDomain : String
deriving DecidableEq

/-- `TenantDNSFunc`, which may be nil. -/
abbrev TenantDNSFunc := Option (String → Option TenantDNS)

def setTenantDNS (dnsFor : TenantDNSFunc) (tenantNamespace tid : String) (spec : PodSpec) :
    PodSpec :=
  match dnsFor.bind fun f => f tid with
  | none => spec
  | some dns =>
    if tenantNamespace = "" ∨ dns.nameserver = "" ∨ dns.clusterDomain = "" then spec
    else
      { spec with
        dnsPolicy := "None"
        dnsConfig := some
          { nameservers := [dns.nameserver]
            searches := [tenantNamespace ++ ".svc." ++ dns.clusterDomain,
              "svc." ++ dns.clusterDomain, dns.clusterDomain]
            options := [("ndots", some "5")] } }

def dnsConfigTransformer (c : Contract) (dnsFor : TenantDNSFunc) :
    ObjectTransformer (Owned Workload) where
  forward o tid := o.onPodSpec o (o.withSpec (o.body.spec.mapPodSpec
      (setTenantDNS dnsFor (c.trimTenantIDPrefix tid o.metadata.namespace) tid)))
  backward o _ := .ok o

def podTransformer (c : Contract) (pools : NodePools) (dnsFor : TenantDNSFunc) :
    ObjectTransformer (Owned Workload) :=
  chainTransformers [placementTransformer pools, saTokenNamespaceTransformer c,
    dnsConfigTransformer c dnsFor]

def preparedSpec (c : Contract) (pools : NodePools) (dnsFor : TenantDNSFunc)
    (tid ns : String) (spec : PodSpec) : PodSpec :=
  let tenantNamespace := c.trimTenantIDPrefix tid ns
  setTenantDNS dnsFor tenantNamespace tid
    (projectIn tenantNamespace { place pools tid spec with nodeName := "" })

namespace Workload

lemma mapPodSpec_mapPodSpec (f g : PodSpec → PodSpec) (w : Workload) :
    (w.mapPodSpec f).mapPodSpec g = w.mapPodSpec fun spec => g (f spec) := by
  cases w with
  | replicationController template => cases template <;> rfl
  | _ => rfl

lemma mapPodSpec_of_none {w : Workload} (h : w.podSpecOf = .ok none) (f : PodSpec → PodSpec) :
    w.mapPodSpec f = w := by
  cases w with
  | replicationController template =>
    cases template with
    | none => rfl
    | some spec => cases h
  | binding => rfl
  | eviction => rfl
  | scale => rfl
  | _ => cases h

end Workload

section

variable {c : Contract} {pools : NodePools} {dnsFor : TenantDNSFunc} {tid : String}
  {o o' : Object (Owned Workload)}

variable {onPod onTemplate : Object (Owned Workload)}

lemma onPodSpec_ok (h : o.onPodSpec onPod onTemplate = .ok o') :
    o' = o ∧ o.body.spec.podSpecOf = .ok none ∨
      o' = if o.body.spec.isPod then onPod else onTemplate := by
  unfold Object.onPodSpec at h
  cases hspec : o.body.spec.podSpecOf with
  | error e => simp [hspec] at h
  | ok spec =>
    cases spec with
    | none =>
      simp only [hspec, Except.ok.injEq] at h
      exact .inl ⟨h.symm, rfl⟩
    | some spec =>
      simp only [hspec, Except.ok.injEq] at h
      exact .inr h.symm

lemma spec_of_onPodSpec {f : PodSpec → PodSpec} (h : o.onPodSpec onPod onTemplate = .ok o')
    (hpod : onPod.body.spec = o.body.spec)
    (htemplate : onTemplate.body.spec = o.body.spec.mapPodSpec f) :
    o'.body.spec = if o.body.spec.isPod then o.body.spec else o.body.spec.mapPodSpec f := by
  obtain ⟨rfl, hnone⟩ | rfl := onPodSpec_ok h
  · rw [Workload.mapPodSpec_of_none hnone, ite_self]
  · split_ifs
    · exact hpod
    · exact htemplate

lemma namespace_of_onPodSpec (h : o.onPodSpec onPod onTemplate = .ok o')
    (hpod : onPod.metadata.namespace = o.metadata.namespace)
    (htemplate : onTemplate.metadata.namespace = o.metadata.namespace) :
    o'.metadata.namespace = o.metadata.namespace := by
  obtain ⟨rfl, -⟩ | rfl := onPodSpec_ok h
  · rfl
  · split_ifs
    · exact hpod
    · exact htemplate

lemma podTransformer_forward_ok (h : (podTransformer c pools dnsFor).forward o tid = .ok o') :
    o'.body.spec = if o.body.spec.isPod then o.body.spec else
      o.body.spec.mapPodSpec (preparedSpec c pools dnsFor tid o.metadata.namespace) := by
  simp only [podTransformer, chainTransformers, List.foldlM_cons, Except.bind_eq_ok_iff] at h
  obtain ⟨o₁, h₁, o₂, h₂, o₃, h₃, hlast⟩ := h
  obtain rfl := Except.ok.inj hlast
  have hspec₁ := spec_of_onPodSpec h₁ rfl rfl
  have hspec₂ := spec_of_onPodSpec h₂ rfl rfl
  have hspec₃ := spec_of_onPodSpec h₃ rfl rfl
  have hns₁ := namespace_of_onPodSpec h₁ rfl rfl
  have hns₂ := namespace_of_onPodSpec h₂ rfl rfl
  rw [hspec₃, hspec₂, hspec₁, hns₂, hns₁]
  by_cases hpod : o.body.spec.isPod = true
  · simp [hpod]
  · simp only [hpod, Bool.false_eq_true, if_false, Workload.isPod_mapPodSpec,
      Workload.mapPodSpec_mapPodSpec]
    rfl

lemma podTransformer_backward_ok (h : (podTransformer c pools dnsFor).backward o tid = .ok o') :
    o'.body = o.body := by
  simp only [podTransformer, chainTransformers, List.reverse_cons, List.reverse_nil,
    List.nil_append, List.cons_append, List.foldlM_cons, Except.bind_eq_ok_iff] at h
  obtain ⟨o₁, h₁, o₂, h₂, o₃, h₃, hlast⟩ := h
  obtain rfl := Except.ok.inj h₁
  obtain rfl := Except.ok.inj hlast
  obtain rfl := Except.ok.inj h₃
  obtain ⟨rfl, -⟩ | rfl := onPodSpec_ok h₂
  · rfl
  · split_ifs
    · rfl
    · rfl

end

end KubeZoo
