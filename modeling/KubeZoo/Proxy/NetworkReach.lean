import KubeZoo.Proxy.EndpointAddress
import KubeZoo.Proxy.Requests

/-! # What tenants reach through Services and pods -/

namespace KubeZoo

open Except TenantProxy

open Transition (System)

namespace Workload

def serviceOf : Workload → Option ServiceSpec
  | service spec => some spec
  | _ => none

def podSpec (w : Workload) : Option PodSpec :=
  match w.podSpecOf with
  | .ok spec => spec
  | .error _ => none

end Workload

def externalIPsAreNew (svc : ServiceSpec) (old : Option ServiceSpec) : Bool :=
  svc.externalIPs.any fun ip => !(old.elim [] fun old => old.externalIPs).contains ip

def nodePortsAreNew (svc : ServiceSpec) (old : Option ServiceSpec) : Bool :=
  let stored := (old.elim [] fun old => old.ports).map fun p => p.nodePort
  svc.ports.any (fun p => p.nodePort != 0 && !stored.contains p.nodePort) ||
    (svc.healthCheckNodePort != 0 &&
      old.all fun old => old.healthCheckNodePort != svc.healthCheckNodePort)

def refuseExternalNameService (obj : Object (Owned Workload)) : Except GoError Unit :=
  match obj.body.spec.serviceOf with
  | none => .ok ()
  | some svc =>
    if svc.type ≠ .externalName then .ok ()
    else .error (.status (newInvalid "" "Service" obj.metadata.name (fieldForbidden "spec.type"
      "an ExternalName service is a URL the control plane will follow: an admission webhook naming it makes the apiserver connect to that host from its own network, which is the reason clientConfig.url is refused. Point your workloads at the external name directly instead.")))

def refuseNewExternalIPs (obj : Object (Owned Workload)) (old : Option (Object (Owned Workload))) :
    Except GoError Unit :=
  match obj.body.spec.serviceOf with
  | none => .ok ()
  | some svc =>
    if !externalIPsAreNew svc (old.bind fun old => old.body.spec.serviceOf) then .ok ()
    else .error (.status (newInvalid "" "Service" obj.metadata.name (fieldForbidden "spec.externalIPs"
      "claiming an external IP is not available to tenants: every node would intercept traffic to that address and deliver it here, whoever the address actually belongs to. Use a Service of type LoadBalancer, or ask the platform to route the address to you.")))

def refuseNodePorts (obj : Object (Owned Workload)) (old : Option (Object (Owned Workload))) :
    Except GoError Unit :=
  match obj.body.spec.serviceOf with
  | none => .ok ()
  | some svc =>
    if svc.type = .nodePort then
      .error (.status (newInvalid "" "Service" obj.metadata.name (fieldForbidden "spec.type"
        "a Service of type NodePort is not available to tenants: it opens a port on every node of the platform, and a node is not something you own or can address. Use type LoadBalancer to publish a Service, or type ClusterIP behind an Ingress.")))
    else if !nodePortsAreNew svc (old.bind fun old => old.body.spec.serviceOf) then .ok ()
    else .error (.status (newInvalid "" "Service" obj.metadata.name
      (fieldForbidden "spec.ports.nodePort"
        "naming a node port is not available to tenants: the port is opened on every node of the platform, and the range is shared with every other tenant on a first-come-first-served basis. Nothing in this platform's data plane reaches your pods through it.")))

/-- `ClusterIPAnnotation`. -/
def clusterIPAnnotationKey : String := "kubezoo.io/cluster-ip"

/-- `TenantClusterIPFrom`. `isIP` says of a text whether `net.ParseIP` reads it. -/
def tenantClusterIPFrom (isIP : String → Bool) (annotations : StringMap) (clusterIP : String) :
    Option String :=
  let address := (annotations[clusterIPAnnotationKey]?).getD ""
  if clusterIP = "None" ∨ clusterIP = "" then none
  else if address = "" ∨ isIP address = false then none
  else if address = clusterIP then none
  else some address

/-- `RestoreUpstreamClusterIP`; none if the address is neither the shown one nor the stored one. -/
def restoreUpstreamClusterIP (isIP : String → Bool) (svc old : ServiceSpec)
    (oldAnnotations : StringMap) : Option ServiceSpec :=
  if svc.clusterIP = "" ∨ svc.clusterIP = "None" then
    if svc.clusterIP = old.clusterIP then some svc else none
  else if svc.clusterIP = old.clusterIP then some svc
  else if tenantClusterIPFrom isIP oldAnnotations old.clusterIP ≠ some svc.clusterIP then none
  else some { svc with clusterIP := old.clusterIP, clusterIPs := svc.clusterIPs.set 0 old.clusterIP }

def refuseForeignClusterIP (isIP : String → Bool) (obj : Object (Owned Workload))
    (old : Option (Object (Owned Workload))) : Except GoError (Object (Owned Workload)) :=
  match obj.body.spec, old with
  | .service svc, some old =>
    match old.body.spec.serviceOf with
    | none => .ok obj
    | some oldSvc =>
      match restoreUpstreamClusterIP isIP svc oldSvc old.metadata.annotations with
      | some svc => .ok (obj.withSpec (.service svc))
      | none =>
        .error (.status (newInvalid "" "Service" obj.metadata.name
          (fieldInvalid "spec.clusterIP" svc.clusterIP
            "a Service's address is allocated for you and cannot be chosen or changed. Leave the field unset to be given one, or set it to None for a headless Service.")))
  | _, _ => .ok obj

def probeHostDetail : String :=
  "a probe or lifecycle handler is dialled BY THE KUBELET, from the node's network and not from your pod's, so an address here reaches whatever the platform's nodes can reach. Leave it unset and the kubelet uses the pod's own address, which is what a health check is for"

/-- `probeHandler` and `lifecycleHandler`: the hosts of a handler, each with the action it is of. -/
def handlerHosts : Option Handler → List (String × String)
  | none => []
  | some h => [("httpGet", h.httpGet.getD ""), ("tcpSocket", h.tcpSocket.getD "")]

/-- `refuseHandlerHost`. The kind of an internal object is not set. -/
def refuseHandlerHost (name base : String) (h : Option Handler) : Except GoError Unit :=
  forM (handlerHosts h) fun (child, host) =>
    if host = "" then .ok ()
    else .error (.status (newInvalid "" "" name
      (fieldForbidden (base ++ "." ++ child ++ ".host") probeHostDetail)))

def containerHandlers (base : String) (c : Container) : List (String × Option Handler) :=
  [(base ++ ".livenessProbe", c.livenessProbe), (base ++ ".readinessProbe", c.readinessProbe),
    (base ++ ".startupProbe", c.startupProbe),
    (base ++ ".lifecycle.postStart", c.lifecycle.bind fun l => l.postStart),
    (base ++ ".lifecycle.preStop", c.lifecycle.bind fun l => l.preStop)]

def containersHandlers (list : String) (cs : List Container) : List (String × Option Handler) :=
  cs.zipIdx.flatMap fun (c, i) => containerHandlers (EndpointsBody.index ("spec." ++ list) i) c

def podHandlers (spec : PodSpec) : List (String × Option Handler) :=
  containersHandlers "containers" spec.containers ++
    containersHandlers "initContainers" spec.initContainers

def refuseProbeHost (obj : Object (Owned Workload)) : Except GoError Unit :=
  match obj.body.spec.podSpec with
  | none => .ok ()
  | some spec => forM (podHandlers spec) fun (base, h) => refuseHandlerHost obj.metadata.name base h

def inlineCSIError (spec : PodSpec) : Except GoError Unit :=
  forM spec.volumes.zipIdx fun (v, i) =>
    if v.csi = none then .ok ()
    else .error (.status (newInvalid "" "Pod" "" (fieldForbidden
      (EndpointsBody.index "spec.volumes" i ++ ".csi")
      "a volume provided directly by a CSI driver is the platform's to offer: it names a driver rather than a storage class, so nothing decides whether this tenant was sold it. Use a PersistentVolumeClaim on a published storage class")))

/-- `refuseInlineCSIVolume`: a live pod is looked at elsewhere. -/
def refuseInlineCSIVolume (obj : Object (Owned Workload)) : Except GoError Unit :=
  if obj.body.spec.isPod then .ok ()
  else
    match obj.body.spec.podSpec with
    | none => .ok ()
    | some spec => inlineCSIError spec

def refusePodInlineCSIVolume (obj : Object (Owned Workload)) : Except GoError Unit :=
  match obj.body.spec.podSpec with
  | none => .ok ()
  | some spec => inlineCSIError spec

/-- The guards that a Service or a pod passes; the others are `g`'s. -/
def workloadGuards (isIP : String → Bool) (g : Guards (Owned Workload)) : Guards (Owned Workload) :=
  { g with
    refuseInlineCSIVolume := refuseInlineCSIVolume
    refuseExternalNameService := refuseExternalNameService
    refuseProbeHost := refuseProbeHost
    refuseNewExternalIPs := refuseNewExternalIPs
    refuseNodePorts := refuseNodePorts
    refuseForeignClusterIP := refuseForeignClusterIP isIP }

/-- What `Create` does to a live pod. -/
def workloadPods (c : Contract) (pools : NodePools) (dnsFor : TenantDNSFunc) :
    PodSteps (Owned Workload) where
  isPod b := b.spec.isPod
  place b tid := { b with spec := b.spec.mapPodSpec (place pools tid) }
  projectVolume b := { b with spec := b.spec.mapPodSpec projectVolumes }
  setDNS o tid :=
    let tenantNamespace := c.trimTenantIDPrefix tid o.metadata.namespace
    { o.body with spec := o.body.spec.mapPodSpec (setTenantDNS dnsFor tenantNamespace tid) }
  refuseInlineCSIVolume := refusePodInlineCSIVolume

def workloadConvertor (c : Contract) (checkGroupKind : CheckGroupKind) (pools : NodePools)
    (dnsFor : TenantDNSFunc) (carrier : Bool) : Convertor (Owned Workload) :=
  if carrier then kindConvertor c checkGroupKind (podTransformer c pools dnsFor)
  else defaultConvertor c checkGroupKind

def PodSpec.hosts (spec : PodSpec) : List String :=
  (podHandlers spec).flatMap fun h => ((handlerHosts h.2).map Prod.snd).filter (· ≠ "")

def PodSpec.inlineCSI (spec : PodSpec) : List String := spec.volumes.filterMap fun v => v.csi

inductive Reach
  | externalIP (address : String)
  | externalName
  | host (host : String)
  | inlineCSI (driver : String)
deriving DecidableEq

namespace Workload

def inlineCSI (w : Workload) : List String := w.podSpec.elim [] PodSpec.inlineCSI

def reaches (w : Workload) : List Reach :=
  w.serviceOf.elim [] (fun svc => svc.externalIPs.map .externalIP ++
    if svc.type = .externalName then [.externalName] else []) ++
  w.podSpec.elim [] (fun spec => spec.hosts.map .host) ++
  if w.isPod then [] else w.inlineCSI.map .inlineCSI

end Workload

lemma refuseHandlerHost_ok_iff {name base : String} {h : Option Handler} :
    refuseHandlerHost name base h = .ok () ↔
      ((handlerHosts h).map Prod.snd).filter (· ≠ "") = [] := by
  rw [refuseHandlerHost, forM_eq_ok_iff, List.filter_eq_nil_iff, List.forall_mem_map]
  refine forall₂_congr fun a _ => ?_
  by_cases ha : a.2 = "" <;> simp [ha]

variable {obj : Object (Owned Workload)} {old : Option (Object (Owned Workload))}

lemma refuseProbeHost_ok_iff :
    refuseProbeHost obj = .ok () ↔ obj.body.spec.podSpec.elim [] PodSpec.hosts = [] := by
  rw [refuseProbeHost]
  cases obj.body.spec.podSpec with
  | none => simp
  | some spec =>
    simp only [forM_eq_ok_iff, refuseHandlerHost_ok_iff]
    show _ ↔ spec.hosts = []
    rw [PodSpec.hosts, List.flatMap_eq_nil_iff]

lemma inlineCSIError_ok_iff {spec : PodSpec} :
    inlineCSIError spec = .ok () ↔ spec.inlineCSI = [] := by
  have hvolumes : spec.inlineCSI = spec.volumes.zipIdx.filterMap fun a => a.1.csi := by
    conv_lhs => rw [PodSpec.inlineCSI, ← List.zipIdx_map_fst 0 spec.volumes]
    exact List.filterMap_map
  rw [inlineCSIError, forM_eq_ok_iff, hvolumes, List.filterMap_eq_nil_iff]
  refine forall₂_congr fun a _ => ?_
  by_cases ha : a.1.csi = none <;> simp [ha]

lemma refusePodInlineCSIVolume_ok_iff :
    refusePodInlineCSIVolume obj = .ok () ↔ obj.body.spec.inlineCSI = [] := by
  rw [refusePodInlineCSIVolume, Workload.inlineCSI]
  cases obj.body.spec.podSpec with
  | none => simp
  | some spec => exact inlineCSIError_ok_iff

lemma refuseInlineCSIVolume_ok_iff :
    refuseInlineCSIVolume obj = .ok () ↔
      (obj.body.spec.isPod = false → obj.body.spec.inlineCSI = []) := by
  rw [refuseInlineCSIVolume]
  split_ifs with hpod
  · simp [hpod]
  · rw [← refusePodInlineCSIVolume_ok_iff, refusePodInlineCSIVolume]
    simp [Bool.eq_false_iff.mpr hpod]

lemma refuseExternalNameService_ok_iff :
    refuseExternalNameService obj = .ok () ↔
      ∀ svc, obj.body.spec.serviceOf = some svc → svc.type ≠ .externalName := by
  rw [refuseExternalNameService]
  cases obj.body.spec.serviceOf with
  | none => simp
  | some svc => by_cases htype : svc.type = .externalName <;> simp [htype]

lemma refuseNewExternalIPs_ok_iff :
    refuseNewExternalIPs obj old = .ok () ↔
      ∀ svc, obj.body.spec.serviceOf = some svc → ∀ ip ∈ svc.externalIPs,
        ip ∈ (old.bind fun old => old.body.spec.serviceOf).elim [] fun old => old.externalIPs := by
  rw [refuseNewExternalIPs]
  cases obj.body.spec.serviceOf with
  | none => simp
  | some svc =>
    by_cases hnew : externalIPsAreNew svc (old.bind fun old => old.body.spec.serviceOf) = true
    · simp only [hnew]
      simpa [externalIPsAreNew] using hnew
    · simp only [hnew]
      simpa [externalIPsAreNew] using hnew

namespace Workload

lemma reaches_eq_nil_iff {w : Workload} :
    w.reaches = [] ↔
      (∀ svc, w.serviceOf = some svc → svc.externalIPs = [] ∧ svc.type ≠ .externalName) ∧
      w.podSpec.elim [] PodSpec.hosts = [] ∧ (w.isPod = false → w.inlineCSI = []) := by
  have hservice : w.serviceOf.elim [] (fun svc => svc.externalIPs.map Reach.externalIP ++
      if svc.type = .externalName then [.externalName] else []) = [] ↔
        ∀ svc, w.serviceOf = some svc → svc.externalIPs = [] ∧ svc.type ≠ .externalName := by
    cases w.serviceOf with
    | none => simp
    | some svc => simp
  have hhosts : w.podSpec.elim [] (fun spec => spec.hosts.map Reach.host) = [] ↔
      w.podSpec.elim [] PodSpec.hosts = [] := by
    cases w.podSpec with
    | none => simp
    | some spec => simp
  rw [reaches, List.append_eq_nil_iff, List.append_eq_nil_iff, hservice, hhosts, and_assoc]
  cases w.isPod <;> simp

end Workload

structure KeepsReach (f : PodSpec → PodSpec) : Prop where
  hosts : ∀ spec, (f spec).hosts = spec.hosts
  inlineCSI : ∀ spec, (f spec).inlineCSI = spec.inlineCSI

namespace KeepsReach

variable {f g : PodSpec → PodSpec}

lemma comp (hg : KeepsReach g) (hf : KeepsReach f) : KeepsReach fun spec => g (f spec) where
  hosts spec := (hg.hosts _).trans (hf.hosts spec)
  inlineCSI spec := (hg.inlineCSI _).trans (hf.inlineCSI spec)

lemma refl : KeepsReach fun spec => spec := ⟨fun _ => rfl, fun _ => rfl⟩

lemma setTenantDNS (dnsFor : TenantDNSFunc) (tenantNamespace tid : String) :
    KeepsReach (KubeZoo.setTenantDNS dnsFor tenantNamespace tid) := by
  constructor
  · intro spec
    unfold KubeZoo.setTenantDNS
    split
    · rfl
    · split_ifs
      · rfl
      · rfl
  · intro spec
    unfold KubeZoo.setTenantDNS
    split
    · rfl
    · split_ifs
      · rfl
      · rfl

lemma csi_retargetFirst (volumes : List PodVolume) :
    (retargetFirst volumes).filterMap (fun v => v.csi) = volumes.filterMap fun v => v.csi := by
  induction volumes with
  | nil => rfl
  | cons v vs ih =>
    rw [retargetFirst]
    split_ifs with hv
    · rfl
    · rw [List.filterMap_cons, List.filterMap_cons, ih]

lemma projectVolumes : KeepsReach KubeZoo.projectVolumes := by
  constructor
  · intro spec
    unfold KubeZoo.projectVolumes
    split_ifs
    · rfl
    · rfl
    · rfl
  · intro spec
    unfold KubeZoo.projectVolumes PodSpec.inlineCSI
    split_ifs
    · rfl
    · exact csi_retargetFirst spec.volumes
    · simp

lemma preparedSpec (c : Contract) (pools : NodePools) (dnsFor : TenantDNSFunc)
    (tid ns : String) : KeepsReach (KubeZoo.preparedSpec c pools dnsFor tid ns) := by
  have hplaced : KeepsReach fun spec =>
      { KubeZoo.place pools tid spec with nodeName := "" } := ⟨fun _ => rfl, fun _ => rfl⟩
  have hprojected : KeepsReach (projectIn (c.trimTenantIDPrefix tid ns)) := by
    unfold projectIn
    split_ifs
    · exact refl
    · exact projectVolumes
  exact (setTenantDNS dnsFor _ tid).comp (hprojected.comp hplaced)

end KeepsReach

namespace Workload

@[simp] lemma serviceOf_mapPodSpec (f : PodSpec → PodSpec) (w : Workload) :
    (w.mapPodSpec f).serviceOf = w.serviceOf := by
  cases w <;> rfl

@[simp] lemma podSpec_mapPodSpec (f : PodSpec → PodSpec) (w : Workload) :
    (w.mapPodSpec f).podSpec = w.podSpec.map f := by
  cases w <;> rfl

@[simp] lemma mapPodSpec_self (w : Workload) : (w.mapPodSpec fun spec => spec) = w := by
  cases w with
  | replicationController template => cases template <;> rfl
  | _ => rfl

lemma inlineCSI_mapPodSpec {f : PodSpec → PodSpec} (hf : KeepsReach f) (w : Workload) :
    (w.mapPodSpec f).inlineCSI = w.inlineCSI := by
  rw [inlineCSI, inlineCSI, podSpec_mapPodSpec]
  cases w.podSpec with
  | none => rfl
  | some spec => exact hf.inlineCSI spec

lemma reaches_mapPodSpec {f : PodSpec → PodSpec} (hf : KeepsReach f) (w : Workload) :
    (w.mapPodSpec f).reaches = w.reaches := by
  unfold reaches
  rw [inlineCSI_mapPodSpec hf, serviceOf_mapPodSpec, isPod_mapPodSpec, podSpec_mapPodSpec]
  cases w.podSpec with
  | none => rfl
  | some spec =>
    show _ ++ (f spec).hosts.map Reach.host ++ _ = _ ++ spec.hosts.map Reach.host ++ _
    rw [hf.hosts]

end Workload

/-- The proxy of Services, or of one of the kinds that carry a pod. -/
structure ServesWorkloads (pools : NodePools) (dnsFor : TenantDNSFunc)
    (tp : TenantProxy (Owned Workload)) : Prop where
  subresource : tp.subresource = ""
  typed : tp.unstructured = false
  toVersioned : ∀ o b, tp.toVersioned o = .ok b → b.spec = o.body.spec
  fromVersioned : ∀ o b, tp.fromVersioned o = .ok b → b.spec = o.body.spec
  convertor : ∃ checkGroupKind carrier,
    tp.convertor = workloadConvertor tp.contract checkGroupKind pools dnsFor carrier

section

variable {pools : NodePools} {dnsFor : TenantDNSFunc} {tp : TenantProxy (Owned Workload)}
  {isIP : String → Bool} {g : Guards (Owned Workload)} {ctx : RequestContext} {tid : String}
  {obj' original guarded utd up o shown : Object (Owned Workload)}

namespace ServesWorkloads

variable (h : ServesWorkloads pools dnsFor tp)

include h

lemma forward (hup : tp.convertTenantObjectToUpstreamObject obj tid = .ok up) :
    ∃ f, KeepsReach f ∧ up.body.spec = obj.body.spec.mapPodSpec f := by
  obtain ⟨checkGroupKind, carrier, hconvertor⟩ := h.convertor
  rw [convertTenantObjectToUpstreamObject, hconvertor] at hup
  cases carrier with
  | true =>
    obtain ⟨owners, -, hforward⟩ := kindConvertor_forward_ok.mp hup
    have hspec := podTransformer_forward_ok hforward
    split_ifs at hspec with hpod
    · exact ⟨_, .refl, hspec.trans (Workload.mapPodSpec_self _).symm⟩
    · exact ⟨_, .preparedSpec tp.contract pools dnsFor tid _, hspec⟩
  | false =>
    obtain ⟨owners, -, hup⟩ := bind_eq_ok_iff.mp hup
    rw [← Except.ok.inj hup]
    exact ⟨_, .refl, (Workload.mapPodSpec_self _).symm⟩

lemma backward {scope : Bool}
    (hshown : tp.convertor.convertUpstreamObjectToTenantObject o tid scope = .ok shown) :
    shown.body.spec = o.body.spec := by
  obtain ⟨checkGroupKind, carrier, hconvertor⟩ := h.convertor
  rw [hconvertor] at hshown
  cases carrier with
  | true =>
    obtain ⟨owners, -, hbackward⟩ := kindConvertor_backward_ok.mp hshown
    rw [podTransformer_backward_ok hbackward]
  | false =>
    obtain ⟨owners, -, hshown⟩ := bind_eq_ok_iff.mp hshown
    rw [← Except.ok.inj hshown]

lemma spec_read (hread : tp.forUpdate.finishWrite ctx tid o = .ok original) :
    original.body.spec = o.body.spec := by
  obtain ⟨output, houtput, hread⟩ := bind_eq_ok_iff.mp hread
  obtain ⟨shown, hshown, hread⟩ := bind_eq_ok_iff.mp hread
  have hshown := h.backward hshown
  have houtput : output.body.spec = o.body.spec := by
    rw [convertUnstructuredToOutput, if_neg (by simp [forUpdate, h.typed])]
      at houtput
    obtain ⟨b, hb, rfl⟩ := map_eq_ok_iff.mp houtput
    exact h.fromVersioned o b hb
  obtain ⟨ns, hecho⟩ := echoRequestNamespace_eq tp.forUpdate
    (tp.forUpdate.applyTenantViews shown) tid (tp.forUpdate.requestNamespace ctx)
  rw [← Except.ok.inj hread, hecho]
  show (tp.forUpdate.applyTenantViews shown).body.spec = o.body.spec
  rw [applyTenantViews, if_pos (show tp.forUpdate.storageView = true from rfl), hshown,
    houtput]

lemma spec_versioned (hutd : tp.convertInternalObjectToUnstructuredObject obj = .ok utd) :
    utd.body.spec = obj.body.spec := by
  rw [convertInternalObjectToUnstructuredObject, if_neg (by simp [h.typed])] at hutd
  obtain ⟨b, hb, rfl⟩ := map_eq_ok_iff.mp hutd
  exact h.toVersioned obj b hb

lemma spec_toUtd {u : Utd (Owned Workload)} (hu : tp.toUtd up = .ok u) :
    (u.read guarded).body.spec = up.body.spec := by
  rw [toUtd, if_neg (by simp [h.typed])] at hu
  obtain ⟨copy, hcopy, rfl⟩ := map_eq_ok_iff.mp hu
  exact h.spec_versioned hcopy

end ServesWorkloads

lemma spec_restore (hidden : Option HiddenMetadata) (obj : Object (Owned Workload))
    (old : Option (Object (Owned Workload))) :
    (HiddenMetadata.restore hidden obj old).body = obj.body := by
  cases hidden <;> rfl

lemma refuseForeignClusterIP_ok (h : refuseForeignClusterIP isIP obj old = .ok obj') :
    obj'.body.spec = obj.body.spec ∨ ∃ svc ip ips, obj.body.spec = .service svc ∧
      obj'.body.spec = .service { svc with clusterIP := ip, clusterIPs := ips } := by
  unfold refuseForeignClusterIP at h
  split at h
  · next svc old hsvc =>
    split at h
    · exact .inl (by rw [← Except.ok.inj h])
    · split at h
      · next svc' hrestore =>
        right
        refine ⟨svc, svc'.clusterIP, svc'.clusterIPs, hsvc, ?_⟩
        rw [← Except.ok.inj h]
        show Workload.service svc' = _
        unfold restoreUpstreamClusterIP at hrestore
        split_ifs at hrestore <;> cases hrestore <;> rfl
      · cases h
  · exact .inl (by rw [← Except.ok.inj h])

lemma reaches_of_foreign (h : refuseForeignClusterIP isIP obj old = .ok obj') :
    obj'.body.spec.reaches = obj.body.spec.reaches := by
  obtain hsame | ⟨svc, ip, ips, hobj, hobj'⟩ := refuseForeignClusterIP_ok h
  · rw [hsame]
  · rw [hobj, hobj']
    rfl

lemma reaches_of_prepareCreate (h : ServesWorkloads pools dnsFor tp)
    {form : Option (Object (Owned Workload))}
    (hprep : tp.prepareCreate (workloadGuards isIP g) (workloadPods tp.contract pools dnsFor) ctx obj
      = .ok (tid, form, utd)) :
    utd.body.spec.reaches = [] ∧ utd.body.spec.inlineCSI = [] := by
  obtain ⟨-, -, -, up, u, guarded, hup, hu, hguard, rfl⟩ :=
    prepareCreate_eq_ok_iff.mp hprep
  -- The copy is made before the guards run, and says what they look at.
  rw [h.spec_toUtd hu]
  simp only [guardCreate, workloadGuards, bind_eq_ok_iff] at hguard
  obtain ⟨-, -, -, -, -, -, _, hcsi, -, -, -, -, -, -, -, -, -, -, -, -, -, -, -, -, _, hname, -, -,
    -, -, _, hhost, _, hips, -⟩ := hguard
  rw [refuseInlineCSIVolume_ok_iff] at hcsi
  rw [refuseExternalNameService_ok_iff, spec_restore] at hname
  rw [refuseProbeHost_ok_iff, spec_restore] at hhost
  rw [refuseNewExternalIPs_ok_iff, spec_restore] at hips
  have hreaches : up.body.spec.reaches = [] := Workload.reaches_eq_nil_iff.mpr
    ⟨fun svc hsvc => ⟨List.eq_nil_iff_forall_not_mem.mpr fun ip hip => by
      simpa using hips svc hsvc ip hip, hname svc hsvc⟩, hhost, hcsi⟩
  refine ⟨hreaches, ?_⟩
  cases hpod : up.body.spec.isPod with
  | false => exact hcsi hpod
  | true =>
    rw [upstreamForm, bind_eq_ok_iff] at hup
    obtain ⟨converted, -, hup⟩ := hup
    split_ifs at hup with hlive
    · obtain ⟨_, hrefuse, hup⟩ := bind_eq_ok_iff.mp hup
      rw [← Except.ok.inj hup]
      exact refusePodInlineCSIVolume_ok_iff.mp hrefuse
    · exact absurd ⟨by rw [← Except.ok.inj hup] at hpod; exact hpod, h.subresource⟩ hlive

lemma reaches_of_update (h : ServesWorkloads pools dnsFor tp)
    {out : TenantProxy.Outgoing (Owned Workload)}
    (horiginal : original.body.spec.reaches = [])
    (hguard : tp.guardUpdate (workloadGuards isIP g) ctx obj original = .ok guarded)
    (hout : tp.prepareUpdate (workloadGuards isIP g) ctx guarded = .ok out) :
    out.utd.body.spec.reaches = [] := by
  simp only [guardUpdate, workloadGuards, bind_eq_ok_iff] at hguard
  obtain ⟨-, -, _, hname, -, -, -, -, -, -, _, hhost, _, hips, obj', hforeign, -, -, -, -, -, -, -,
    -, hguarded⟩ := hguard
  have hcsi : refuseInlineCSIVolume guarded = .ok () := by
    rw [prepareUpdate] at hout
    split at hout
    · cases hout
    · obtain ⟨_, hcsi, -⟩ := bind_eq_ok_iff.mp hout
      exact hcsi
  obtain ⟨up, -, hup, hutd, -, -⟩ := prepareUpdate_ok hout
  obtain ⟨f, hf, hspec⟩ := h.forward hup
  have hguarded : guarded.body = obj'.body := by
    rw [← Except.ok.inj hguarded, spec_restore]
  have hsent : out.utd.body.spec.reaches = obj.body.spec.reaches := by
    rw [h.spec_versioned hutd, hspec, Workload.reaches_mapPodSpec hf, hguarded,
      reaches_of_foreign hforeign]
  rw [refuseInlineCSIVolume_ok_iff, hguarded] at hcsi
  rw [refuseExternalNameService_ok_iff] at hname
  rw [refuseProbeHost_ok_iff] at hhost
  rw [refuseNewExternalIPs_ok_iff] at hips
  rw [hsent, Workload.reaches_eq_nil_iff]
  refine ⟨fun svc hsvc => ⟨List.eq_nil_iff_forall_not_mem.mpr fun ip hip => ?_, hname svc hsvc⟩,
    hhost, ?_⟩
  · have hold := hips svc hsvc ip hip
    cases hservice : original.body.spec.serviceOf with
    | none => simp [hservice] at hold
    | some old =>
      have hnone := ((Workload.reaches_eq_nil_iff.mp horiginal).1 old hservice).1
      simp [hservice, hnone] at hold
  · obtain hsame | ⟨svc, ip, ips, hobj, -⟩ := refuseForeignClusterIP_ok hforeign
    · rw [← hsame]
      exact hcsi
    · rw [hobj]
      exact fun _ => rfl

end

structure StoresSent (tp : TenantProxy (Owned Workload)) (srv : Server (Owned Workload)) : Prop where
  get : ∀ S ns name o, (srv.upstream S).get ns name "" = .ok o → S ns name = some o
  stored : ∀ S ctx options s o, tp.storedFor (srv.upstream S) ctx options s = .ok o →
    (∀ x ∈ o.body.spec.reaches, x ∈ s.utd.body.spec.reaches ∨
      ∃ old, S s.ns s.utd.metadata.name = some old ∧ x ∈ old.body.spec.reaches) ∧
    ∀ driver ∈ o.body.spec.inlineCSI, driver ∈ s.utd.body.spec.inlineCSI ∨
      ∃ old, S s.ns s.utd.metadata.name = some old ∧ driver ∈ old.body.spec.inlineCSI
  delete : ∀ S ns name options o, srv.delete S ns name options = .ok (some o) →
    ∃ old, S ns name = some old ∧ o.body.spec = old.body.spec

/-- An update gives a pod no volumes that are not stored. -/
def KeepsPodVolumes (tp : TenantProxy (Owned Workload)) (srv : Server (Owned Workload)) : Prop :=
  ∀ S ctx options s o, s.creates = false → tp.storedFor (srv.upstream S) ctx options s = .ok o →
    o.body.spec.isPod = true → ∀ driver ∈ o.body.spec.inlineCSI,
      ∃ ns name old, S ns name = some old ∧ driver ∈ old.body.spec.inlineCSI

section

variable {ι : Type} (pools : NodePools) (dnsFor : TenantDNSFunc)
  (isIP : String → Bool) (tp : ι → TenantProxy (Owned Workload)) (g : ι → Guards (Owned Workload))
  (new : ι → Object (Owned Workload)) (srv : ι → Server (Owned Workload))

def shipped (i : ι) (S : Store (Owned Workload)) (ctx : RequestContext)
    (r : TenantRequest (Owned Workload)) :
    Except GoError (TenantProxy.Shipment (Owned Workload)) :=
  (tp i).ship (workloadGuards isIP (g i)) (workloadPods (tp i).contract pools dnsFor) (new i)
    ((srv i).upstream S) ctx r

def workloadRequests [DecidableEq ι] :
    System (ι → Store (Owned Workload)) (ι × RequestContext × TenantRequest (Owned Workload)) :=
  Transition.ofStep
    (fun S a => some (Function.update S a.1 ((tp a.1).after (workloadGuards isIP (g a.1))
      (workloadPods (tp a.1).contract pools dnsFor) (new a.1) (srv a.1) (S a.1) a.2.1 a.2.2)))
    fun S => ∀ i, (S i).All fun o => o.body.spec.reaches = [] ∧ o.body.spec.inlineCSI = []

variable {pools dnsFor isIP tp g new srv}

variable {ctx : RequestContext} {S : Store (Owned Workload)}
  {s : TenantProxy.Shipment (Owned Workload)} {r : TenantRequest (Owned Workload)} {i : ι}

variable (htp : ServesWorkloads pools dnsFor (tp i))
  (hnew : (new i).body.spec.reaches = []) (hsrv : StoresSent (tp i) (srv i))
  (hS : S.All fun o => o.body.spec.reaches = [])

include htp hnew hsrv hS in
lemma reaches_of_shipped (h : shipped pools dnsFor isIP tp g new srv i S ctx r = .ok s) :
    s.utd.body.spec.reaches = [] ∧ (s.creates = true → s.utd.body.spec.inlineCSI = []) := by
  cases ships_of_ship h with
  | creates obj hcreates hns hprep =>
    obtain ⟨hreaches, hcsi⟩ := reaches_of_prepareCreate htp hprep
    exact ⟨hreaches, fun _ => hcsi⟩
  | updates obj original guarded hcreates hread hguard hout =>
    have horiginal : original.body.spec.reaches = [] := by
      obtain ⟨ns, name, o, tid, hget, hfinish⟩ | rfl := hread
      · rw [htp.spec_read hfinish]
        exact hS ns name o (hsrv.get S ns name o hget)
      · exact hnew
    refine ⟨reaches_of_update htp horiginal hguard hout, fun htrue => ?_⟩
    rw [hcreates] at htrue
    cases htrue

variable {o : Object (Owned Workload)} {options : WriteOptions}

include htp hnew hsrv hS in
lemma reaches_of_stored (hship : shipped pools dnsFor isIP tp g new srv i S ctx r = .ok s)
    (hstored : (tp i).storedFor ((srv i).upstream S) ctx options s = .ok o) :
    o.body.spec.reaches = [] := by
  refine List.eq_nil_iff_forall_not_mem.mpr fun x hx => ?_
  obtain hsent | ⟨old, hold, hx⟩ := (hsrv.stored S ctx options s o hstored).1 x hx
  · rw [(reaches_of_shipped htp hnew hsrv hS hship).1] at hsent
    cases hsent
  · rw [hS _ _ old hold] at hx
    cases hx

include htp hnew hsrv hS in
lemma inlineCSI_of_created (hship : shipped pools dnsFor isIP tp g new srv i S ctx r = .ok s)
    (hcreates : s.creates = true)
    (hold : ∀ old, S s.ns s.utd.metadata.name = some old → old.body.spec.inlineCSI = [])
    (hstored : (tp i).storedFor ((srv i).upstream S) ctx options s = .ok o) :
    o.body.spec.inlineCSI = [] := by
  refine List.eq_nil_iff_forall_not_mem.mpr fun driver hdriver => ?_
  obtain hsent | ⟨old, hstored, hdriver⟩ := (hsrv.stored S ctx options s o hstored).2 driver hdriver
  · rw [(reaches_of_shipped htp hnew hsrv hS hship).2 hcreates] at hsent
    cases hsent
  · rw [hold old hstored] at hdriver
    cases hdriver

include htp hnew hsrv hS in
lemma reaches_after (ctx : RequestContext) (r : TenantRequest (Owned Workload)) :
    ((tp i).after (workloadGuards isIP (g i)) (workloadPods (tp i).contract pools dnsFor) (new i)
      (srv i) S ctx r).All fun o => o.body.spec.reaches = [] := by
  have hleft := Server.deleteKeeps_of_eq hsrv.delete fun spec => spec.reaches = []
  refine after_all hS hleft fun s o hship hstored => ?_
  exact reaches_of_stored htp hnew hsrv hS hship hstored

include htp hnew hsrv in
lemma inlineCSI_after (hvolumes : KeepsPodVolumes (tp i) (srv i))
    (hreaches : S.All fun o => o.body.spec.reaches = [])
    (hS : S.All fun o => o.body.spec.inlineCSI = []) (ctx : RequestContext)
    (r : TenantRequest (Owned Workload)) :
    ((tp i).after (workloadGuards isIP (g i)) (workloadPods (tp i).contract pools dnsFor) (new i)
      (srv i) S ctx r).All fun o => o.body.spec.inlineCSI = [] := by
  have hleft := Server.deleteKeeps_of_eq hsrv.delete fun spec => spec.inlineCSI = []
  refine after_all hS hleft fun s o hship hstored => ?_
  cases hcreates : s.creates with
  | true =>
    exact inlineCSI_of_created htp hnew hsrv hreaches hship hcreates (hS _ _) hstored
  | false =>
    cases hpod : o.body.spec.isPod with
    | false =>
      -- The volumes of a template are among what it reaches through.
      have hnone := reaches_of_stored htp hnew hsrv hreaches hship hstored
      exact (Workload.reaches_eq_nil_iff.mp hnone).2.2 hpod
    | true =>
      refine List.eq_nil_iff_forall_not_mem.mpr fun driver hdriver => ?_
      obtain ⟨ns, name, old, hold, hdriver⟩ :=
        hvolumes S ctx r.options s o hcreates hstored hpod driver hdriver
      rw [hS ns name old hold] at hdriver
      cases hdriver

lemma stores_invariant [DecidableEq ι] {P : Store (Owned Workload) → Prop}
    (h0 : ∀ S : Store (Owned Workload),
      S.All (fun o => o.body.spec.reaches = [] ∧ o.body.spec.inlineCSI = []) → P S)
    (hstep : ∀ i S ctx r, P S → P ((tp i).after (workloadGuards isIP (g i))
      (workloadPods (tp i).contract pools dnsFor) (new i) (srv i) S ctx r))
    {S : ι → Store (Owned Workload)}
    (h : (workloadRequests pools dnsFor isIP tp g new srv).Reachable S) (i : ι) : P (S i) := by
  refine h.invariant (P := fun S => ∀ i, P (S i)) ?_ ?_ i
  · intro S hS i
    exact h0 (S i) (hS i)
  intro S a S' _ hS hS' i
  rw [← Option.some.inj hS']
  by_cases hi : i = a.1
  · subst hi
    rw [Function.update_self]
    exact hstep a.1 (S a.1) a.2.1 a.2.2 (hS a.1)
  · rw [Function.update_of_ne hi]
    exact hS i

end

/-- Whatever tenants write and read, in whatever order and on however many resources: nothing that
is stored reaches outside, neither a Service nor a template nor a probe of a live pod. -/
theorem network_reach_invariant {ι : Type} [DecidableEq ι] (pools : NodePools)
    (dnsFor : TenantDNSFunc) (isIP : String → Bool) (tp : ι → TenantProxy (Owned Workload))
    (g : ι → Guards (Owned Workload)) (new : ι → Object (Owned Workload))
    (srv : ι → Server (Owned Workload)) (htp : ∀ i, ServesWorkloads pools dnsFor (tp i))
    (hnew : ∀ i, (new i).body.spec.reaches = []) (hsrv : ∀ i, StoresSent (tp i) (srv i))
    (S : ι → Store (Owned Workload))
    (h : (workloadRequests pools dnsFor isIP tp g new srv).Reachable S) :
    (∀ i, (S i).All fun o => o.body.spec.reaches = []) ∧
    (∀ i ctx r s options o, shipped pools dnsFor isIP tp g new srv i (S i) ctx r = .ok s →
      s.creates = true → S i s.ns s.utd.metadata.name = none →
      (tp i).storedFor ((srv i).upstream (S i)) ctx options s = .ok o →
      o.body.spec.inlineCSI = []) ∧
    ((∀ i, KeepsPodVolumes (tp i) (srv i)) →
      ∀ i, (S i).All fun o => o.body.spec.inlineCSI = []) := by
  have hreaches : ∀ i, (S i).All fun o => o.body.spec.reaches = [] :=
    stores_invariant (fun S hS ns name o ho => (hS ns name o ho).1)
      (fun i S ctx r hS => reaches_after (htp i) (hnew i) (hsrv i) hS ctx r) h
  refine ⟨hreaches, ?_, fun hvolumes i => ?_⟩
  · intro i ctx r s options o hship hcreates hnone hstored
    refine inlineCSI_of_created (htp i) (hnew i) (hsrv i) (hreaches i) hship hcreates ?_ hstored
    intro old hold
    rw [hnone] at hold
    cases hold
  · refine (stores_invariant (P := fun S => S.All (fun o => o.body.spec.reaches = []) ∧
      S.All fun o => o.body.spec.inlineCSI = []) ?_ ?_ h i).2
    · intro S hS
      exact ⟨fun ns name o ho => (hS ns name o ho).1, fun ns name o ho => (hS ns name o ho).2⟩
    · intro i S ctx r ⟨hS, hcsi⟩
      exact ⟨reaches_after (htp i) (hnew i) (hsrv i) hS ctx r,
        inlineCSI_after (htp i) (hnew i) (hsrv i) (hvolumes i) hS hcsi ctx r⟩

def namedPools : NodePools where
  nodePoolFor tid := "pool-" ++ tid
  nodePoolLabelKey := "node.example/pool"
  unreachableTolerationSeconds := 300
  tenantSchedulerName := "tenants"

def allNamespaced : CheckGroupKind := fun _ _ _ _ => .ok (true, false)

def plainWorkloads (resource : String) (carrier : Bool) : TenantProxy (Owned Workload) where
  kind := { version := "v1" }
  resource := resource
  namespaceScoped := true
  hiddenMetadata := some platformHidden
  contract := dashContract
  convertor := workloadConvertor dashContract allNamespaced namedPools none carrier

lemma servesWorkloads_plainWorkloads (resource : String) (carrier : Bool) :
    ServesWorkloads namedPools none (plainWorkloads resource carrier) where
  subresource := rfl
  typed := rfl
  toVersioned o b h := by rw [← Except.ok.inj h]
  fromVersioned o b h := by rw [← Except.ok.inj h]
  convertor := ⟨allNamespaced, carrier, rfl⟩

lemma storesSent_storingServer {tp : TenantProxy (Owned Workload)} (hsub : tp.subresource = "") :
    StoresSent tp storingServer where
  get S ns name o h := get_storingServer h
  stored S ctx options s o h := by
    rw [storedFor_storingServer hsub h]
    exact ⟨fun x hx => .inl hx, fun driver hdriver => .inl hdriver⟩
  delete S ns name options o h := by cases delete_storingServer h

def appPod (csi : Option String) : Object (Owned Workload) :=
  { metadata := { name := "app", «namespace» := "web" }
    template := .own
    body := ⟨[], .pod
      { containers := [{ name := "app", livenessProbe := some { httpGet := some "" } }]
        volumes := [{ name := "data", csi := csi }] }⟩ }

def podRequests :
    System (Unit → Store (Owned Workload)) (Unit × RequestContext × TenantRequest (Owned Workload)) :=
  workloadRequests namedPools none (fun _ => true) (fun _ => plainWorkloads "pods" true)
    (fun _ => .permissive) (fun _ => { body := { spec := .pod {} } }) fun _ => storingServer

theorem network_reach_created_pod :
    ∃ S, podRequests.Reachable S ∧ (S () "111111-web" "app").isSome = true ∧
      ∀ i, (S i).All fun o => o.body.spec.reaches = [] := by
  have hrun : (Transition.exec (fun (S : Unit → Store (Owned Workload)) a => some (Function.update S
      a.1 ((plainWorkloads "pods" true).after (workloadGuards (fun _ => true) .permissive)
        (workloadPods dashContract namedPools none) { body := { spec := .pod {} } } storingServer
        (S a.1) a.2.1 a.2.2))) (fun _ => .empty)
      [((), webVerb "create", .create (appPod none) {})]).map
        (fun S => (S () "111111-web" "app").isSome) = some true := by
    decide +kernel
  obtain ⟨S, hS, hstored⟩ := Option.map_eq_some_iff.mp hrun
  have hreachable : podRequests.Reachable S :=
    Transition.reachable_of_exec (.init fun _ => Store.All.empty _) hS
  exact ⟨S, hreachable, hstored, (network_reach_invariant namedPools none (fun _ => true)
    (fun _ => plainWorkloads "pods" true) (fun _ => .permissive)
    (fun _ => { body := { spec := .pod {} } }) (fun _ => storingServer)
    (fun _ => servesWorkloads_plainWorkloads "pods" true) (fun _ => rfl)
    (fun _ => storesSent_storingServer rfl) S hreachable).1⟩

theorem updated_pod_has_inline_volume :
    ∃ S, podRequests.Reachable S ∧
      (S () "111111-web" "app").map (·.body.spec.inlineCSI) = some ["csi.example"] := by
  have hrun : (Transition.exec (fun (S : Unit → Store (Owned Workload)) a => some (Function.update S
      a.1 ((plainWorkloads "pods" true).after (workloadGuards (fun _ => true) .permissive)
        (workloadPods dashContract namedPools none) { body := { spec := .pod {} } } storingServer
        (S a.1) a.2.1 a.2.2))) (fun _ => .empty)
      [((), webVerb "create", .create (appPod none) {}),
        ((), webVerb "update", .update { name := "app", objInfo :=
          { updatedObject := fun _ => .ok (appPod (some "csi.example")) } })]).map
        (fun S => (S () "111111-web" "app").map (·.body.spec.inlineCSI)) =
          some (some ["csi.example"]) := by
    decide +kernel
  obtain ⟨S, hS, hstored⟩ := Option.map_eq_some_iff.mp hrun
  exact ⟨S, Transition.reachable_of_exec (.init fun _ => Store.All.empty _) hS, hstored⟩

end KubeZoo
