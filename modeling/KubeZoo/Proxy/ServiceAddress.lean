import KubeZoo.Proxy.NetworkReach

/-! # The address of a Service -/

namespace KubeZoo

/-- `showTenantClusterIP`, of one object. -/
def showTenantClusterIP (isIP : String → Bool) (o : Object (Owned Workload)) :
    Object (Owned Workload) :=
  match o.body.spec with
  | .service svc =>
    match tenantClusterIPFrom isIP o.metadata.annotations svc.clusterIP with
    | none => o
    | some address =>
      o.withSpec (.service
        { svc with clusterIP := address, clusterIPs := svc.clusterIPs.set 0 address })
  | _ => o

def shownClusterIP (isIP : String → Bool) (annotations : StringMap) (clusterIP : String) : String :=
  (tenantClusterIPFrom isIP annotations clusterIP).getD clusterIP

section

variable {isIP : String → Bool} {annotations : StringMap} {svc oldSvc sent : ServiceSpec}
  {old obj : Object (Owned Workload)}

lemma tenantClusterIPFrom_eq_some {clusterIP address : String}
    (h : tenantClusterIPFrom isIP annotations clusterIP = some address) :
    address ≠ "" ∧ isIP address = true := by
  unfold tenantClusterIPFrom at h
  simp only at h
  split_ifs at h with hnone haddress
  rw [Option.some.injEq] at h
  rw [not_or, h, Bool.not_eq_false] at haddress
  exact haddress

lemma restoreUpstreamClusterIP_eq_some_iff (hisIP : isIP "None" = false) :
    restoreUpstreamClusterIP isIP svc oldSvc annotations = some sent ↔
      svc.clusterIP = oldSvc.clusterIP ∧ sent = svc ∨
      svc.clusterIP ≠ oldSvc.clusterIP ∧
        svc.clusterIP = shownClusterIP isIP annotations oldSvc.clusterIP ∧
        sent = { svc with
          clusterIP := oldSvc.clusterIP, clusterIPs := svc.clusterIPs.set 0 oldSvc.clusterIP } := by
  unfold restoreUpstreamClusterIP shownClusterIP
  by_cases hsame : svc.clusterIP = oldSvc.clusterIP
  · simp only [hsame, if_true, ite_self, true_and, ne_eq, not_true_eq_false, false_and, or_false,
      Option.some.injEq, eq_comm]
  · cases hshown : tenantClusterIPFrom isIP annotations oldSvc.clusterIP with
    | none => simp [hsame]
    | some address =>
      obtain ⟨hne, hip⟩ := tenantClusterIPFrom_eq_some hshown
      by_cases haddress : svc.clusterIP = address
      · have hNone : address ≠ "None" := by
          rintro rfl
          rw [hisIP] at hip
          cases hip
        simp [haddress, hne, hNone, haddress ▸ hsame, eq_comm]
      · simp [hsame, haddress, Ne.symm haddress]

lemma refuseForeignClusterIP_service (hold : old.body.spec = .service oldSvc)
    (hobj : obj.body.spec = .service svc) :
    refuseForeignClusterIP isIP obj (some old) =
      match restoreUpstreamClusterIP isIP svc oldSvc old.metadata.annotations with
      | some svc => .ok (obj.withSpec (.service svc))
      | none => .error (.status (newInvalid "" "Service" obj.metadata.name
          (fieldInvalid "spec.clusterIP" svc.clusterIP
            "a Service's address is allocated for you and cannot be chosen or changed. Leave the field unset to be given one, or set it to None for a headless Service."))) := by
  unfold refuseForeignClusterIP
  cases hrestore : restoreUpstreamClusterIP isIP svc oldSvc old.metadata.annotations with
  | none => simp only [hobj, hold, Workload.serviceOf, hrestore]
  | some restored => simp only [hobj, hold, Workload.serviceOf, hrestore]

lemma set_head {l : List String} {a : String} (h : l[0]? = some a) : l.set 0 a = l := by
  cases l with
  | nil => rfl
  | cons b l =>
    rw [List.getElem?_cons_zero, Option.some.injEq] at h
    rw [List.set_cons_zero, h]

variable {tp : TenantProxy (Owned Workload)}

lemma spec_applyTenantViews (hshow : tp.showTenantClusterIP = showTenantClusterIP isIP)
    (hview : tp.storageView = false) (hold : old.body.spec = .service oldSvc)
    (hips : oldSvc.clusterIPs[0]? = some oldSvc.clusterIP) :
    (tp.applyTenantViews old).body.spec = .service { oldSvc with
      clusterIP := shownClusterIP isIP old.metadata.annotations oldSvc.clusterIP
      clusterIPs := oldSvc.clusterIPs.set 0
        (shownClusterIP isIP old.metadata.annotations oldSvc.clusterIP) } := by
  have hstrip : ∀ o : Object (Owned Workload),
      (HiddenMetadata.strip tp.hiddenMetadata o).body = o.body := by
    intro o
    unfold HiddenMetadata.strip HiddenMetadata.stripPodTemplate
    cases tp.hiddenMetadata with
    | none => rfl
    | some _ => cases o.template <;> rfl
  rw [TenantProxy.applyTenantViews, if_neg (by simp [hview]), hstrip, hshow, showTenantClusterIP,
    shownClusterIP]
  simp only [hold]
  cases tenantClusterIPFrom isIP old.metadata.annotations oldSvc.clusterIP with
  | none =>
    rw [hold, Option.getD_none, set_head hips]
  | some address => rfl

lemma sent_service {pools : NodePools} {dnsFor : TenantDNSFunc} {g : Guards (Owned Workload)}
    {ctx : RequestContext} {guarded : Object (Owned Workload)}
    {out : TenantProxy.Outgoing (Owned Workload)} (htp : ServesWorkloads pools dnsFor tp)
    (hguard : tp.guardUpdate (workloadGuards isIP g) ctx obj old = .ok guarded)
    (hout : tp.prepareUpdate (workloadGuards isIP g) ctx guarded = .ok out) :
    ∃ restored, refuseForeignClusterIP isIP obj (some old) = .ok restored ∧
      ∀ sent, restored.body.spec = .service sent → out.utd.body.spec = .service sent := by
  simp only [TenantProxy.guardUpdate, Except.bind_eq_ok_iff] at hguard
  obtain ⟨-, -, -, -, -, -, -, -, -, -, -, -, -, -, restored, hrestored, -, -, -, -, -, -, -, -,
    hguarded⟩ := hguard
  refine ⟨restored, hrestored, fun sent hsent => ?_⟩
  obtain ⟨up, -, hup, hutd, -, -⟩ := TenantProxy.prepareUpdate_ok hout
  obtain ⟨f, -, hspec⟩ := htp.forward hup
  rw [htp.spec_versioned hutd, hspec, ← Except.ok.inj hguarded, spec_restore, hsent]
  rfl

end

/-- A tenant that submits what it is shown of a Service gets what is stored of it. -/
theorem service_address_restored_iff (isIP : String → Bool) (hisIP : isIP "None" = false)
    (old : Object (Owned Workload)) (oldSvc : ServiceSpec) (hold : old.body.spec = .service oldSvc)
    (hips : oldSvc.clusterIPs[0]? = some oldSvc.clusterIP) (shown : String)
    (hshown : shown = shownClusterIP isIP old.metadata.annotations oldSvc.clusterIP) :
    (∀ tp : TenantProxy (Owned Workload), tp.showTenantClusterIP = showTenantClusterIP isIP →
      tp.storageView = false → ∃ restored, refuseForeignClusterIP isIP (tp.applyTenantViews old)
        (some old) = .ok restored ∧ restored.body.spec = old.body.spec) ∧
    (∀ (obj : Object (Owned Workload)) (svc : ServiceSpec), obj.body.spec = .service svc →
      (svc.clusterIP = shown ∨ svc.clusterIP = oldSvc.clusterIP) →
      (svc.clusterIPs[0]? = some shown ∨ svc.clusterIPs[0]? = some oldSvc.clusterIP) →
      ((∀ restored, refuseForeignClusterIP isIP obj (some old) = .ok restored →
          ∃ sent, restored.body.spec = .service sent ∧ sent.clusterIP = oldSvc.clusterIP ∧
            sent.clusterIPs[0]? = oldSvc.clusterIPs[0]?) ↔
        (svc.clusterIP = oldSvc.clusterIP → svc.clusterIPs[0]? = some oldSvc.clusterIP))) ∧
    (∀ (obj : Object (Owned Workload)) (svc : ServiceSpec), obj.body.spec = .service svc →
      svc.clusterIP ≠ shown → svc.clusterIP ≠ oldSvc.clusterIP → ∃ status,
        refuseForeignClusterIP isIP obj (some old) = .error (.status status) ∧
          status.reason = "Invalid") ∧
    ∀ (pools : NodePools) (dnsFor : TenantDNSFunc) (tp : TenantProxy (Owned Workload))
      (g : Guards (Owned Workload)) (ctx : RequestContext) (obj guarded : Object (Owned Workload))
      (out : TenantProxy.Outgoing (Owned Workload)), ServesWorkloads pools dnsFor tp →
      tp.guardUpdate (workloadGuards isIP g) ctx obj old = .ok guarded →
      tp.prepareUpdate (workloadGuards isIP g) ctx guarded = .ok out →
      ∃ restored, refuseForeignClusterIP isIP obj (some old) = .ok restored ∧
        ∀ sent, restored.body.spec = .service sent → out.utd.body.spec = .service sent := by
  subst hshown
  refine ⟨fun tp hshow hview => ?_, fun obj svc hobj hip hip0 => ?_, fun obj svc hobj hip hip' => ?_,
    fun pools dnsFor tp g ctx obj guarded out htp => sent_service htp⟩
  · rw [refuseForeignClusterIP_service hold (spec_applyTenantViews hshow hview hold hips)]
    have hrestore : restoreUpstreamClusterIP isIP { oldSvc with
        clusterIP := shownClusterIP isIP old.metadata.annotations oldSvc.clusterIP
        clusterIPs := oldSvc.clusterIPs.set 0
          (shownClusterIP isIP old.metadata.annotations oldSvc.clusterIP) } oldSvc
        old.metadata.annotations = some oldSvc := by
      rw [restoreUpstreamClusterIP_eq_some_iff hisIP]
      by_cases hsame : shownClusterIP isIP old.metadata.annotations oldSvc.clusterIP =
          oldSvc.clusterIP
      · exact .inl ⟨hsame, by rw [hsame, set_head hips]⟩
      · exact .inr ⟨hsame, rfl, by rw [List.set_set, set_head hips]⟩
    rw [hrestore]
    exact ⟨_, rfl, hold.symm⟩
  · rw [refuseForeignClusterIP_service hold hobj]
    by_cases hsame : svc.clusterIP = oldSvc.clusterIP
    · rw [(restoreUpstreamClusterIP_eq_some_iff hisIP).mpr (.inl ⟨hsame, rfl⟩)]
      simp [hsame, hips]
    · rw [(restoreUpstreamClusterIP_eq_some_iff hisIP).mpr
        (.inr ⟨hsame, hip.resolve_right hsame, rfl⟩)]
      have hfirst : (svc.clusterIPs.set 0 oldSvc.clusterIP)[0]? = oldSvc.clusterIPs[0]? := by
        rw [hips]
        cases hnil : svc.clusterIPs with
        | nil => simp [hnil] at hip0
        | cons ip ips => rfl
      simp [hsame, hfirst]
  · rw [refuseForeignClusterIP_service hold hobj]
    cases hrestore : restoreUpstreamClusterIP isIP svc oldSvc old.metadata.annotations with
    | none => exact ⟨_, rfl, rfl⟩
    | some sent =>
      obtain ⟨hsame, -⟩ | ⟨-, hshown, -⟩ := (restoreUpstreamClusterIP_eq_some_iff hisIP).mp hrestore
      · exact absurd hsame hip'
      · exact absurd hshown hip

def pricedService (ip : String) (ips : List String) : Object (Owned Workload) :=
  { metadata := { name := "shop", «namespace» := "web",
                  annotations := .ofList [(clusterIPAnnotationKey, "10.0.0.7")] }
    body := ⟨[], .service { clusterIP := ip, clusterIPs := ips }⟩ }

def dottedIP (s : String) : Bool := s ≠ "None"

theorem service_address_restored_shown :
    ∃ restored sent, refuseForeignClusterIP dottedIP (pricedService "10.0.0.7" ["10.0.0.7"])
        (some (pricedService "172.16.0.9" ["172.16.0.9"])) = .ok restored ∧
      restored.body.spec = .service sent ∧ sent.clusterIP = "172.16.0.9" ∧
      sent.clusterIPs[0]? = some "172.16.0.9" := by
  obtain ⟨sent, hsent⟩ := ((service_address_restored_iff dottedIP rfl
    (pricedService "172.16.0.9" ["172.16.0.9"]) _ rfl rfl "10.0.0.7" (by decide +kernel)).2.1
    (pricedService "10.0.0.7" ["10.0.0.7"]) _ rfl (.inl rfl) (.inl rfl)).mpr
    (fun h => absurd h (by decide)) _ rfl
  exact ⟨_, sent, rfl, hsent⟩

theorem shown_address_sent_in_list :
    ∃ sent : ServiceSpec, refuseForeignClusterIP dottedIP (pricedService "172.16.0.9" ["10.0.0.7"])
        (some (pricedService "172.16.0.9" ["172.16.0.9"])) =
          .ok ((pricedService "172.16.0.9" ["10.0.0.7"]).withSpec (.service sent)) ∧
      shownClusterIP dottedIP (.ofList [(clusterIPAnnotationKey, "10.0.0.7")]) "172.16.0.9" =
        "10.0.0.7" ∧
      sent.clusterIPs[0]? = some "10.0.0.7" :=
  ⟨_, rfl, by decide +kernel, rfl⟩

end KubeZoo
