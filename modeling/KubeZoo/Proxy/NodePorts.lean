import KubeZoo.Proxy.NetworkReach

/-! # Node ports -/

namespace KubeZoo

open Workload TenantProxy

open Transition (System)

def ServiceSpec.allocates (svc : ServiceSpec) : Bool :=
  svc.type = .nodePort ||
    (svc.type = .loadBalancer && svc.allocateLoadBalancerNodePorts != some false)

/-- What upstream makes of a Service. -/
def ServiceSpec.allocated (pick : ServicePort → Int) (svc : ServiceSpec) : ServiceSpec :=
  if svc.allocates then
    { svc with ports := svc.ports.map fun p =>
        if p.nodePort = 0 then { p with nodePort := pick p } else p }
  else svc

def Workload.allocated (pick : ServicePort → Int) : Workload → Workload
  | service svc => service (svc.allocated pick)
  | w => w

def ServiceSpec.nodePorts (svc : ServiceSpec) : List Int :=
  ((svc.ports.map fun p => p.nodePort) ++ [svc.healthCheckNodePort]).filter (· ≠ 0)

def Workload.nodePorts (w : Workload) : List Int := w.serviceOf.elim [] ServiceSpec.nodePorts

def Workload.balancerPorts (w : Workload) : Bool :=
  w.serviceOf.any fun svc =>
    svc.type = .loadBalancer && svc.allocateLoadBalancerNodePorts != some false

structure AllocatesPorts (tp : TenantProxy (Owned Workload)) (srv : Server (Owned Workload)) :
    Prop where
  get : ∀ S ns name o, (srv.upstream S).get ns name "" = .ok o → S ns name = some o
  stored : ∀ S ctx options s o svc, tp.storedFor (srv.upstream S) ctx options s = .ok o →
    o.body.spec.serviceOf = some svc →
    ∃ (sent merged : ServiceSpec) (pick : ServicePort → Int),
      s.utd.body.spec.serviceOf = some sent ∧ svc = merged.allocated pick ∧ (∀ p, pick p ≠ 0) ∧
      merged.type = sent.type ∧
      merged.allocateLoadBalancerNodePorts = sent.allocateLoadBalancerNodePorts ∧
      ∀ port ∈ merged.nodePorts, port ∈ sent.nodePorts ∨
        ∃ old, S s.ns s.utd.metadata.name = some old ∧ port ∈ old.body.spec.nodePorts
  delete : ∀ S ns name options o, srv.delete S ns name options = .ok (some o) →
    ∃ old, S ns name = some old ∧ o.body.spec = old.body.spec

lemma Workload.serviceOf_allocated (pick : ServicePort → Int) (w : Workload) :
    (w.allocated pick).serviceOf = w.serviceOf.map (ServiceSpec.allocated pick) := by
  cases w <;> rfl

variable {old : Option ServiceSpec} {svc sent : ServiceSpec} {obj : Object (Owned Workload)}

lemma ServiceSpec.nodePorts_eq_nil_iff :
    svc.nodePorts = [] ↔ (∀ p ∈ svc.ports, p.nodePort = 0) ∧ svc.healthCheckNodePort = 0 := by
  rw [nodePorts]
  simp

lemma ServiceSpec.nodePorts_allocated {pick : ServicePort → Int} (hpick : ∀ p, pick p ≠ 0)
    (hnone : svc.nodePorts = []) :
    (svc.allocated pick).nodePorts = [] ↔
      (svc.allocates = true → (svc.allocated pick).ports = []) := by
  cases halloc : svc.allocates with
  | false => simp [allocated, halloc, hnone]
  | true =>
    obtain ⟨hports, hcheck⟩ := nodePorts_eq_nil_iff.mp hnone
    simp only [nodePorts_eq_nil_iff, allocated, halloc, if_true, forall_const, hcheck, and_true,
      List.map_eq_nil_iff, List.forall_mem_map]
    constructor
    · intro h
      refine List.eq_nil_iff_forall_not_mem.mpr fun p hp => ?_
      have hzero := h p hp
      rw [if_pos (hports p hp)] at hzero
      exact hpick p hzero
    · intro h p hp
      rw [h] at hp
      cases hp

lemma nodePortsAreNew_eq_false_iff :
    nodePortsAreNew svc old = false ↔ (∀ p ∈ svc.ports, p.nodePort ≠ 0 →
        p.nodePort ∈ (old.elim [] fun old => old.ports).map fun p => p.nodePort) ∧
      (svc.healthCheckNodePort ≠ 0 →
        ∃ stored ∈ old, stored.healthCheckNodePort = svc.healthCheckNodePort) := by
  cases old with
  | none => simp [nodePortsAreNew]
  | some old => simp [nodePortsAreNew]

lemma nodePorts_of_not_new (hold : ∀ stored ∈ old, stored.nodePorts = [])
    (h : nodePortsAreNew svc old = false) : svc.nodePorts = [] := by
  obtain ⟨hports, hcheck⟩ := nodePortsAreNew_eq_false_iff.mp h
  rw [ServiceSpec.nodePorts_eq_nil_iff]
  constructor
  · intro p hp
    by_contra hne
    obtain ⟨q, hq, heq⟩ := List.mem_map.mp (hports p hp hne)
    cases old with
    | none => cases hq
    | some old =>
      have hzero := (ServiceSpec.nodePorts_eq_nil_iff.mp (hold old rfl)).1 q hq
      exact hne (heq.symm.trans hzero)
  · by_contra hne
    obtain ⟨stored, hstored, heq⟩ := hcheck hne
    exact hne (heq.symm.trans (ServiceSpec.nodePorts_eq_nil_iff.mp (hold stored hstored)).2)

lemma refuseNodePorts_ok_iff {old : Option (Object (Owned Workload))} :
    refuseNodePorts obj old = .ok () ↔ ∀ svc, obj.body.spec.serviceOf = some svc →
      svc.type ≠ .nodePort ∧
        nodePortsAreNew svc (old.bind fun old => old.body.spec.serviceOf) = false := by
  rw [refuseNodePorts]
  cases obj.body.spec.serviceOf with
  | none => simp
  | some svc =>
    by_cases htype : svc.type = .nodePort
    · simp [htype]
    · by_cases hnew : nodePortsAreNew svc (old.bind fun old => old.body.spec.serviceOf) = true
      · simp [htype]
      · simp [htype]

def SentAs (sent svc : ServiceSpec) : Prop :=
  sent.type = svc.type ∧ sent.allocateLoadBalancerNodePorts = svc.allocateLoadBalancerNodePorts

section

variable {pools : NodePools} {dnsFor : TenantDNSFunc} {tp : TenantProxy (Owned Workload)}
  {isIP : String → Bool} {g : Guards (Owned Workload)} {ctx : RequestContext} {tid : String}

lemma serviceOf_projectPodNamespace (c : Contract) (o : Object (Owned Workload)) :
    (tp.projectPodNamespace (workloadPods c pools dnsFor) o tid).body.spec.serviceOf =
      o.body.spec.serviceOf := by
  rw [projectPodNamespace]
  split_ifs
  · rfl
  · exact serviceOf_mapPodSpec _ _

lemma serviceOf_upstreamForm (h : ServesWorkloads pools dnsFor tp) {up : Object (Owned Workload)}
    (hup : tp.upstreamForm (workloadPods tp.contract pools dnsFor) obj tid = .ok up) :
    up.body.spec.serviceOf = obj.body.spec.serviceOf := by
  obtain ⟨converted, hconverted, hup⟩ := Except.bind_eq_ok_iff.mp hup
  obtain ⟨f, -, hspec⟩ := h.forward hconverted
  have hservice : converted.body.spec.serviceOf = obj.body.spec.serviceOf := by
    rw [hspec, serviceOf_mapPodSpec]
  rw [← hservice]
  split_ifs at hup with hpod
  · obtain ⟨_, -, hup⟩ := Except.bind_eq_ok_iff.mp hup
    rw [← Except.ok.inj hup]
    show (mapPodSpec _ _).serviceOf = _
    rw [serviceOf_mapPodSpec, serviceOf_projectPodNamespace]
    exact serviceOf_mapPodSpec _ _
  · rw [← Except.ok.inj hup]

lemma nodePorts_of_prepareCreate (h : ServesWorkloads pools dnsFor tp)
    {utd : Object (Owned Workload)} {form : Option (Object (Owned Workload))}
    (hprep : tp.prepareCreate (workloadGuards isIP g) (workloadPods tp.contract pools dnsFor) ctx obj
      = .ok (tid, form, utd))
    (hsent : utd.body.spec.serviceOf = some sent) :
    sent.type ≠ .nodePort ∧ sent.nodePorts = [] ∧
      ∃ svc, obj.body.spec.serviceOf = some svc ∧ SentAs sent svc := by
  obtain ⟨-, -, -, up, u, guarded, hup, hu, hguard, rfl⟩ :=
    prepareCreate_eq_ok_iff.mp hprep
  rw [h.spec_toUtd hu] at hsent
  simp only [guardCreate, workloadGuards, Except.bind_eq_ok_iff] at hguard
  obtain ⟨-, -, -, -, -, -, -, -, -, -, -, -, -, -, -, -, -, -, -, -, -, -, -, -, -, -, -, -, -, -,
    -, -, -, -, _, hports, -⟩ := hguard
  rw [refuseNodePorts_ok_iff, spec_restore] at hports
  obtain ⟨htype, hnew⟩ := hports sent hsent
  refine ⟨htype, nodePorts_of_not_new (by simp) hnew, sent, ?_, rfl, rfl⟩
  rw [← serviceOf_upstreamForm h hup, hsent]

lemma nodePorts_of_update (h : ServesWorkloads pools dnsFor tp)
    {original guarded : Object (Owned Workload)} {out : TenantProxy.Outgoing (Owned Workload)}
    (horiginal : original.body.spec.nodePorts = [])
    (hguard : tp.guardUpdate (workloadGuards isIP g) ctx obj original = .ok guarded)
    (hout : tp.prepareUpdate (workloadGuards isIP g) ctx guarded = .ok out)
    (hsent : out.utd.body.spec.serviceOf = some sent) :
    sent.type ≠ .nodePort ∧ sent.nodePorts = [] ∧
      ∃ svc, obj.body.spec.serviceOf = some svc ∧ SentAs sent svc := by
  simp only [guardUpdate, workloadGuards, Except.bind_eq_ok_iff] at hguard
  obtain ⟨-, -, -, -, -, -, -, -, -, -, -, -, -, -, obj', hforeign, -, -, _, hports, -, -, -, -,
    hguarded⟩ := hguard
  obtain ⟨up, -, hup, hutd, -, -⟩ := prepareUpdate_ok hout
  obtain ⟨f, -, hspec⟩ := h.forward hup
  have hbody : guarded.body = obj'.body := by
    rw [← Except.ok.inj hguarded, spec_restore]
  have hservice : obj'.body.spec.serviceOf = some sent := by
    rw [← hsent, h.spec_versioned hutd, hspec, serviceOf_mapPodSpec, hbody]
  rw [refuseNodePorts_ok_iff, spec_restore] at hports
  obtain ⟨htype, hnew⟩ := hports sent hservice
  refine ⟨htype, nodePorts_of_not_new ?_ hnew, ?_⟩
  · intro stored hstored
    have hstored : original.body.spec.serviceOf = some stored := hstored
    simpa [nodePorts, hstored] using horiginal
  · obtain hsame | ⟨svc, ip, ips, hobj, hobj'⟩ := refuseForeignClusterIP_ok hforeign
    · exact ⟨sent, hsame ▸ hservice, rfl, rfl⟩
    · refine ⟨svc, by rw [hobj]; rfl, ?_⟩
      rw [hobj'] at hservice
      rw [← Option.some.inj hservice]
      exact ⟨rfl, rfl⟩

def allocationOff (tp : TenantProxy (Owned Workload)) (new : Object (Owned Workload))
    (srv : Server (Owned Workload)) (S : Store (Owned Workload))
    (a : RequestContext × TenantRequest (Owned Workload)) : Bool :=
  match tp.submitted new (srv.upstream S) a.1 a.2 with
  | .ok obj => !obj.body.spec.balancerPorts
  | .error _ => true

variable {new : Object (Owned Workload)} {srv : Server (Owned Workload)}
  {S : Store (Owned Workload)} {r : TenantRequest (Owned Workload)}
  {s : TenantProxy.Shipment (Owned Workload)} (htp : ServesWorkloads pools dnsFor tp)
  (hnew : new.body.spec.nodePorts = []) (hsrv : AllocatesPorts tp srv)
  (hS : S.All fun o => o.body.spec.nodePorts = [])

include htp hnew hsrv hS

lemma nodePorts_of_ship
    (h : tp.ship (workloadGuards isIP g) (workloadPods tp.contract pools dnsFor) new
      (srv.upstream S) ctx r = .ok s) :
    ∃ obj, tp.submitted new (srv.upstream S) ctx r = .ok obj ∧
      ∀ sent, s.utd.body.spec.serviceOf = some sent → sent.type ≠ .nodePort ∧ sent.nodePorts = [] ∧
        ∃ svc, obj.body.spec.serviceOf = some svc ∧ SentAs sent svc := by
  obtain ⟨obj, hobj, ⟨-, h⟩ | ⟨-, h⟩⟩ := ship_eq_ok_iff.mp h
  · obtain ⟨-, -, hprep⟩ := shipNew_eq_ok_iff.mp h
    exact ⟨obj, hobj, fun sent hsent => nodePorts_of_prepareCreate htp hprep hsent⟩
  · obtain ⟨-, guarded, hguard, hout⟩ := shipFound_eq_ok_iff.mp h
    refine ⟨obj, hobj, fun sent hsent => nodePorts_of_update htp ?_ hguard hout hsent⟩
    have hread : tp.ReadAs (srv.upstream S) ctx (tp.originalOf new (srv.upstream S) ctx r) ∨
        tp.originalOf new (srv.upstream S) ctx r = new := readAs_originalOf _ _ _
    obtain ⟨ns, name, o, tid, hget, hfinish⟩ | hzero := hread
    · rw [htp.spec_read hfinish]
      exact hS ns name o (hsrv.get S ns name o hget)
    · rw [hzero]
      exact hnew

lemma nodePorts_of_stored {options : WriteOptions} {o : Object (Owned Workload)}
    (hship : tp.ship (workloadGuards isIP g) (workloadPods tp.contract pools dnsFor) new
      (srv.upstream S) ctx r = .ok s)
    (hstored : tp.storedFor (srv.upstream S) ctx options s = .ok o) :
    ∃ obj, tp.submitted new (srv.upstream S) ctx r = .ok obj ∧
      (o.body.spec.nodePorts = [] ↔ (obj.body.spec.balancerPorts = true →
        ∀ svc, o.body.spec.serviceOf = some svc → svc.ports = [])) := by
  obtain ⟨obj, hobj, hsends⟩ := nodePorts_of_ship htp hnew hsrv hS hship
  refine ⟨obj, hobj, ?_⟩
  cases hservice : o.body.spec.serviceOf with
  | none => simp [nodePorts, hservice]
  | some svc =>
    obtain ⟨sent, merged, pick, hsent, rfl, hpick, htype, hswitch, hports⟩ :=
      hsrv.stored S ctx options s o svc hstored hservice
    obtain ⟨hnot, hnone, svc, hsvc, hsame, hswitched⟩ := hsends sent hsent
    have hmerged : merged.nodePorts = [] := by
      refine List.eq_nil_iff_forall_not_mem.mpr fun port hport => ?_
      obtain hin | ⟨old, hold, hin⟩ := hports port hport
      · rw [hnone] at hin
        cases hin
      · rw [hS _ _ old hold] at hin
        cases hin
    -- With type NodePort refused, upstream allocates to a LoadBalancer only.
    have halloc : merged.allocates = obj.body.spec.balancerPorts := by
      simp [ServiceSpec.allocates, balancerPorts, hsvc, htype, hswitch, hnot, ← hsame,
        ← hswitched]
    simpa [nodePorts, hservice, halloc] using ServiceSpec.nodePorts_allocated hpick hmerged

end

/-- From no Services, and whatever tenants ask for as long as none of them submits a Service of type
LoadBalancer with the allocation of node ports left on: no stored Service has a node port. -/
theorem node_ports_closed (pools : NodePools) (dnsFor : TenantDNSFunc) (isIP : String → Bool)
    (tp : TenantProxy (Owned Workload)) (g : Guards (Owned Workload))
    (new : Object (Owned Workload)) (srv : Server (Owned Workload))
    (htp : ServesWorkloads pools dnsFor tp) (hnew : new.body.spec.nodePorts = [])
    (hsrv : AllocatesPorts tp srv) (S : Store (Owned Workload))
    (h : ((tp.requests (workloadGuards isIP g) (workloadPods tp.contract pools dnsFor) new
      srv).restrict fun S a => allocationOff tp new srv S a = true).Reachable S) :
    (S.All fun o => o.body.spec.nodePorts = []) ∧
    ∀ ctx r s options o, tp.ship (workloadGuards isIP g) (workloadPods tp.contract pools dnsFor) new
        (srv.upstream S) ctx r = .ok s → tp.storedFor (srv.upstream S) ctx options s = .ok o →
      ∃ obj, tp.submitted new (srv.upstream S) ctx r = .ok obj ∧
        (o.body.spec.nodePorts = [] ↔ (obj.body.spec.balancerPorts = true →
          ∀ svc, o.body.spec.serviceOf = some svc → svc.ports = [])) := by
  have hS : S.All fun o => o.body.spec.nodePorts = [] := by
    refine all_of_reachable h fun S ctx r hS hoff => ?_
    have hleft := Server.deleteKeeps_of_eq hsrv.delete fun spec => spec.nodePorts = []
    refine after_all hS hleft fun s o hship hstored => ?_
    obtain ⟨obj, hobj, hiff⟩ := nodePorts_of_stored htp hnew hsrv hS hship hstored
    refine hiff.mpr fun hon => ?_
    simp [allocationOff, hobj, hon] at hoff
  exact ⟨hS, fun ctx r s options o hship hstored => nodePorts_of_stored htp hnew hsrv hS hship hstored⟩

def allocatingServer : Server (Owned Workload) :=
  storingServer.admitting fun o => o.withSpec (o.body.spec.allocated fun _ => 30000)

lemma allocatesPorts_allocatingServer {tp : TenantProxy (Owned Workload)}
    (hsub : tp.subresource = "") : AllocatesPorts tp allocatingServer where
  get S ns name o h := get_storingServer h
  stored S ctx options s o svc h hsvc := by
    obtain ⟨o', ho', rfl⟩ := storedFor_admitting hsub h
    rw [storedFor_storingServer hsub ho'] at hsvc
    rw [Object.withSpec, serviceOf_allocated] at hsvc
    obtain ⟨sent, hsent, rfl⟩ := Option.map_eq_some_iff.mp hsvc
    exact ⟨sent, sent, fun _ => 30000, hsent, rfl, by simp, rfl, rfl, fun _ => .inl⟩
  delete S ns name options o h := by
    have hdelete : storingServer.delete S ns name options = .ok (some o) := h
    cases delete_storingServer hdelete

def shopService (allocate : Option Bool) : Object (Owned Workload) :=
  { metadata := { name := "shop", «namespace» := "web" }
    template := .own
    body := ⟨[], .service { type := .loadBalancer, ports := [{ port := 443 }],
                            allocateLoadBalancerNodePorts := allocate }⟩ }

def shopRequests : System (Store (Owned Workload)) (RequestContext × TenantRequest (Owned Workload)) :=
  (plainWorkloads "services" false).requests (workloadGuards (fun _ => true) .permissive)
    (workloadPods dashContract namedPools none) { body := { spec := .service {} } } allocatingServer

theorem node_ports_closed_shop :
    ∃ S : Store (Owned Workload), (S "111111-web" "shop").isSome = true ∧ S.All fun o => o.body.spec.nodePorts = [] := by
  have hrun : (Transition.exec (fun S a =>
      if allocationOff (plainWorkloads "services" false) { body := { spec := .service {} } }
        allocatingServer S a
      then some ((plainWorkloads "services" false).after
        (workloadGuards (fun _ => true) .permissive) (workloadPods dashContract namedPools none)
        { body := { spec := .service {} } } allocatingServer S a.1 a.2)
      else none) .empty [(webVerb "create", .create (shopService (some false)) {})]).map
        (fun S => (S "111111-web" "shop").isSome) = some true := by
    decide +kernel
  obtain ⟨S, hS, hstored⟩ := Option.map_eq_some_iff.mp hrun
  have hreachable : (shopRequests.restrict fun S a =>
      allocationOff (plainWorkloads "services" false) { body := { spec := .service {} } }
        allocatingServer S a = true).Reachable S :=
    Transition.reachable_of_exec_restrict (.init rfl) hS
  exact ⟨S, hstored, (node_ports_closed namedPools none (fun _ => true)
    (plainWorkloads "services" false) .permissive { body := { spec := .service {} } }
    allocatingServer (servesWorkloads_plainWorkloads "services" false) rfl
    (allocatesPorts_allocatingServer rfl) S hreachable).1⟩

theorem load_balancer_opens_node_port :
    ∃ S, shopRequests.Reachable S ∧
      (S "111111-web" "shop").map (·.body.spec.nodePorts) = some [30000] := by
  have hrun : (Transition.exec (fun S a => some ((plainWorkloads "services" false).after
        (workloadGuards (fun _ => true) .permissive) (workloadPods dashContract namedPools none)
        { body := { spec := .service {} } } allocatingServer S a.1 a.2)) .empty
      [(webVerb "create", .create (shopService none) {})]).map
        (fun S => (S "111111-web" "shop").map (·.body.spec.nodePorts)) = some (some [30000]) := by
    decide +kernel
  obtain ⟨S, hS, hstored⟩ := Option.map_eq_some_iff.mp hrun
  exact ⟨S, Transition.reachable_of_exec (.init rfl) hS, hstored⟩

end KubeZoo
