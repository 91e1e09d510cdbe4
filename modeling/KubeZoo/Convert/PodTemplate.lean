import KubeZoo.Convert.Embedding
import KubeZoo.Convert.Workload

/-! # Pod templates that are written again -/

namespace KubeZoo

lemma isSAVolume_retarget (v : PodVolume) : isSAVolume (retargetNamespaceSource v) = isSAVolume v := rfl

lemma retargetNamespaceSource_twice (v : PodVolume) :
    retargetNamespaceSource (retargetNamespaceSource v) = retargetNamespaceSource v := by
  have hitem : ∀ item : DownwardAPIFile, (if (if item.path = "namespace" then
          { item with fieldRef := some tenantNamespaceFieldRef } else item).path = "namespace" then
        { (if item.path = "namespace" then
          { item with fieldRef := some tenantNamespaceFieldRef } else item) with
          fieldRef := some tenantNamespaceFieldRef }
      else if item.path = "namespace" then
        { item with fieldRef := some tenantNamespaceFieldRef } else item) =
      if item.path = "namespace" then
        { item with fieldRef := some tenantNamespaceFieldRef } else item := by
    intro item
    split_ifs <;> simp_all
  simp [retargetNamespaceSource, Function.comp_def, hitem]

lemma any_retargetFirst (vs : List PodVolume) : (retargetFirst vs).any isSAVolume = vs.any isSAVolume := by
  induction vs with
  | nil => rfl
  | cons v vs ih =>
    unfold retargetFirst
    split_ifs with h
    · simp [isSAVolume_retarget]
    · simp [ih]

lemma retargetFirst_twice (vs : List PodVolume) :
    retargetFirst (retargetFirst vs) = retargetFirst vs := by
  induction vs with
  | nil => rfl
  | cons v vs ih =>
    by_cases h : isSAVolume v = true
    · simp [retargetFirst, isSAVolume_retarget, h, retargetNamespaceSource_twice]
    · simp [retargetFirst, h, ih]

lemma length_retargetFirst (vs : List PodVolume) : (retargetFirst vs).length = vs.length := by
  induction vs with
  | nil => rfl
  | cons v vs ih =>
    unfold retargetFirst
    split_ifs
    · rfl
    · simp [ih]

lemma retargetFirst_added {vs : List PodVolume} (h : vs.any isSAVolume = false) :
    retargetFirst
      (vs ++ [{ name := kubezooSAVolumeName, projected := some tenantNamespaceTokenVolume }]) =
      vs ++ [{ name := kubezooSAVolumeName, projected := some tenantNamespaceTokenVolume }] := by
  induction vs with
  | nil => decide +kernel
  | cons v vs ih =>
    rw [List.any_cons, Bool.or_eq_false_iff] at h
    rw [List.cons_append, retargetFirst, if_neg (by simp [h.1]), ih h.2]

lemma projectVolumes_twice (spec : PodSpec) :
    projectVolumes (projectVolumes spec) = projectVolumes spec := by
  have hadded : isSAVolume
      { name := kubezooSAVolumeName, projected := some tenantNamespaceTokenVolume } = true := by
    decide +kernel
  unfold projectVolumes
  by_cases hmount : spec.automountServiceAccountToken = some false
  · simp [hmount]
  · cases hany : spec.volumes.any isSAVolume with
    | true => simp [hmount, hany, any_retargetFirst, retargetFirst_twice]
    | false => simp [hmount, hadded, retargetFirst_added hany]

lemma length_projectIn_le (n : String) (spec : PodSpec) :
    (projectIn n spec).volumes.length ≤ spec.volumes.length + 1 := by
  unfold projectIn projectVolumes
  split_ifs
  · omega
  · omega
  · rw [length_retargetFirst]
    omega
  · rw [List.length_append]
    rfl

variable {c : Contract} {pools : NodePools} {dnsFor : TenantDNSFunc} {tid n : String}

lemma setTenantDNS_twice (spec : PodSpec) :
    setTenantDNS dnsFor n tid (setTenantDNS dnsFor n tid spec) =
      setTenantDNS dnsFor n tid spec := by
  unfold setTenantDNS
  cases dnsFor.bind fun f => f tid with
  | none => rfl
  | some dns => simp only; split_ifs <;> rfl

lemma projectIn_setTenantDNS (spec : PodSpec) :
    projectIn n (setTenantDNS dnsFor n tid spec) =
      setTenantDNS dnsFor n tid (projectIn n spec) := by
  unfold setTenantDNS projectIn projectVolumes
  cases dnsFor.bind fun f => f tid with
  | none => rfl
  | some dns => simp only; split_ifs <;> rfl

lemma place_prepared (spec : PodSpec) :
    { place pools tid (setTenantDNS dnsFor n tid
        (projectIn n { place pools tid spec with nodeName := "" })) with nodeName := "" } =
      setTenantDNS dnsFor n tid (projectIn n { place pools tid spec with nodeName := "" }) := by
  unfold setTenantDNS projectIn projectVolumes place
  cases dnsFor.bind fun f => f tid with
  | none => simp only; split_ifs <;> rfl
  | some dns => simp only; split_ifs <;> rfl

lemma preparedSpec_twice (ns : String) (spec : PodSpec) :
    preparedSpec c pools dnsFor tid ns (preparedSpec c pools dnsFor tid ns spec) =
      preparedSpec c pools dnsFor tid ns spec := by
  have hproject : ∀ n spec, projectIn n (projectIn n spec) = projectIn n spec := by
    intro n spec
    unfold projectIn
    split_ifs
    · rfl
    · exact projectVolumes_twice spec
  simp only [preparedSpec]
  rw [place_prepared, projectIn_setTenantDNS, hproject, setTenantDNS_twice]

lemma length_preparedSpec_le (ns : String) (spec : PodSpec) :
    (preparedSpec c pools dnsFor tid ns spec).volumes.length ≤ spec.volumes.length + 1 := by
  have hdns : ∀ spec, (setTenantDNS dnsFor (c.trimTenantIDPrefix tid ns) tid spec).volumes =
      spec.volumes := by
    intro spec
    unfold setTenantDNS
    cases dnsFor.bind fun f => f tid with
    | none => rfl
    | some dns => simp only; split_ifs <;> rfl
  rw [preparedSpec, hdns]
  exact length_projectIn_le _ _

section

variable {o onPod onTemplate : Object (Owned Workload)} {spec : PodSpec}

lemma onPodSpec_template (hpod : o.body.spec.isPod = false)
    (hspec : ∃ spec, o.body.spec.podSpecOf = .ok (some spec)) :
    o.onPodSpec onPod onTemplate = .ok onTemplate := by
  obtain ⟨spec, hspec⟩ := hspec
  simp [Object.onPodSpec, hspec, hpod]

variable (c : Contract) (pools : NodePools) (dnsFor : TenantDNSFunc) (tid : String)
  (hpod : o.body.spec.isPod = false) (hspec : o.body.spec.podSpecOf = .ok (some spec))
include hpod hspec

lemma podTransformer_forward_template :
    (podTransformer c pools dnsFor).forward o tid = .ok
      { o.withSpec (o.body.spec.mapPodSpec
          (preparedSpec c pools dnsFor tid o.metadata.namespace)) with
        template := o.template.mapAnnotations
          (stampTenantNamespace (c.trimTenantIDPrefix tid o.metadata.namespace)) } := by
  simp only [podTransformer, chainTransformers, List.foldlM_cons, placementTransformer]
  rw [onPodSpec_template hpod ⟨spec, hspec⟩]
  show (Object.onPodSpec _ _ _ >>= _) = _
  rw [onPodSpec_template (by simp [hpod]) ⟨_, by simp [hspec]; rfl⟩]
  show (Object.onPodSpec _ _ _ >>= _) = _
  rw [onPodSpec_template (by simp [hpod]) ⟨_, by simp [hspec]; rfl⟩]
  simp [Workload.mapPodSpec_mapPodSpec]
  rfl

lemma podTransformer_backward_template :
    (podTransformer c pools dnsFor).backward o tid = .ok
      { o with template := o.template.mapAnnotations (·.erase tenantNamespaceAnnotationKey) } := by
  show (Object.onPodSpec _ _ _ >>= _) = _
  rw [onPodSpec_template hpod ⟨spec, hspec⟩]
  rfl

end

lemma mapAnnotations_stamp_twice (hn : n ≠ "") (t : PodTemplate) :
    ((t.mapAnnotations (stampTenantNamespace n)).mapAnnotations
      (·.erase tenantNamespaceAnnotationKey)).mapAnnotations (stampTenantNamespace n) =
      t.mapAnnotations (stampTenantNamespace n) := by
  cases t with
  | nested labels annotations =>
    simp only [PodTemplate.mapAnnotations, stampTenantNamespace, PodTemplate.nested.injEq, true_and]
    ext k
    grind
  | _ => rfl

def chainConvertor (c : Contract) (pools : NodePools) (dnsFor : TenantDNSFunc) :
    Convertor (Owned Workload) where
  convertTenantObjectToUpstreamObject o tid _ := (podTransformer c pools dnsFor).forward o tid
  convertUpstreamObjectToTenantObject o tid _ := (podTransformer c pools dnsFor).backward o tid

/-- What is stored of the template of an object in a namespace `ns` of the tenant is stored again
when it is read and written back, however often; it has at most one volume more than the template,
and the annotation with the tenant's name `ns` of the namespace. -/
theorem pod_template_chain_stable (c : Contract) (hc : c.Dashes) (pools : NodePools)
    (dnsFor : TenantDNSFunc) (tid ns : String) (o : Object (Owned Workload)) (spec : PodSpec)
    (labels annotations : StringMap)
    (hpod : o.body.spec.isPod = false) (hspec : o.body.spec.podSpecOf = .ok (some spec))
    (htemplate : o.template = .nested labels annotations)
    (hns : ns ≠ "") (hobj : o.metadata.namespace = tenantPrefix tid ++ ns) :
    ∃ up upSpec, (podTransformer c pools dnsFor).forward o tid = .ok up ∧
      up.body.spec.podSpecOf = .ok (some upSpec) ∧
      (∃ shown, (podTransformer c pools dnsFor).backward up tid = .ok shown ∧
        (podTransformer c pools dnsFor).forward shown tid = .ok up) ∧
      (∀ rounds, (chainConvertor c pools dnsFor).rounds tid true rounds up = .ok up) ∧
      upSpec.volumes.length ≤ spec.volumes.length + 1 ∧
      ∃ upAnnotations, up.template = .nested labels upAnnotations ∧
        upAnnotations[tenantNamespaceAnnotationKey]? = some ns := by
  have hn : c.trimTenantIDPrefix tid o.metadata.namespace = ns := by
    rw [hc.trim, hobj, Tag.trim_append]
  set f := preparedSpec c pools dnsFor tid o.metadata.namespace with hf
  let up : Object (Owned Workload) :=
    { o.withSpec (o.body.spec.mapPodSpec f) with
      template := o.template.mapAnnotations (stampTenantNamespace ns) }
  have hup : up.body.spec.podSpecOf = .ok (some (f spec)) := by
    simp [up, hspec, Except.map]
  have hpodUp : up.body.spec.isPod = false := by simp [up, hpod]
  have hforward := podTransformer_forward_template c pools dnsFor tid hpod hspec
  rw [hn] at hforward
  have hbackward := podTransformer_backward_template c pools dnsFor tid hpodUp hup
  let shown : Object (Owned Workload) :=
    { up with template := up.template.mapAnnotations (·.erase tenantNamespaceAnnotationKey) }
  have hagain : (podTransformer c pools dnsFor).forward shown tid = .ok up := by
    have hmap : (o.body.spec.mapPodSpec f).mapPodSpec f = o.body.spec.mapPodSpec f := by
      rw [Workload.mapPodSpec_mapPodSpec]
      congr 1
      funext spec
      exact preparedSpec_twice _ spec
    rw [podTransformer_forward_template (o := shown) c pools dnsFor tid hpodUp hup]
    simp only [shown, up, Object.withSpec, ← hf, hn, hmap, mapAnnotations_stamp_twice hns]
  refine ⟨up, f spec, hforward, hup, ⟨_, hbackward, hagain⟩, ?_, length_preparedSpec_le _ spec,
    stampTenantNamespace ns annotations, ?_, ?_⟩
  · exact Convertor.rounds_of_embedded (d := chainConvertor c pools dnsFor) hagain hbackward
  · simp only [up, htemplate, PodTemplate.mapAnnotations]
  · rw [stampTenantNamespace, if_neg hns]
    exact Std.ExtTreeMap.getElem?_insert_self

private def samplePools : NodePools where
  nodePoolFor tid := tid
  nodePoolLabelKey := "kubezoo.io/pool"
  unreachableTolerationSeconds := 300
  tenantSchedulerName := "tenants"

private def annotatedDeployment : Object (Owned Workload) where
  metadata := { name := "web", «namespace» := "111111-shop" }
  template := .nested ∅ ((∅ : StringMap).insert tenantNamespaceAnnotationKey "mine")
  body := { spec := .deployment {} }

theorem pod_template_chain_stable_deployment : ∃ up upSpec,
    (podTransformer dashContract samplePools none).forward annotatedDeployment "111111" = .ok up ∧
      up.body.spec.podSpecOf = .ok (some upSpec) ∧ upSpec.volumes.length ≤ 1 := by
  obtain ⟨up, upSpec, hup, hspec, -, -, hlength, -⟩ := pod_template_chain_stable dashContract
    dashes_dashContract samplePools none "111111" "shop" annotatedDeployment {} _ _ rfl rfl rfl
    (by decide) (by decide +kernel)
  exact ⟨up, upSpec, hup, hspec, hlength⟩

end KubeZoo
