import KubeZoo.Convert.AccessReview
import KubeZoo.Convert.ReadWrite

/-! # The spellings of a namespace -/

namespace KubeZoo

open Tag

variable {c : Contract} {isNativeAPIGroup : String → Bool} {tid ns : String}

structure SpellingAgrees (c : Contract) (isNativeAPIGroup : String → Bool) (tid ns : String) :
    Prop where
  objectMetadata : ∀ m : ObjectMeta, m.namespace = ns →
    (forwardMetadata c tid true m).namespace = c.upstreamNamespace tid ns
  serviceAccount : ∀ s s' : Subject, SubjectKind.ofString s.kind = .serviceAccount →
    s.namespace = ns → transformSubjectToUpstream c tid s = .ok s' →
    s'.namespace = c.upstreamNamespace tid ns
  group : ∀ s s' : Subject, SubjectKind.ofString s.kind = .group →
    s.name = makeNamespaceGroupName ns → transformSubjectToUpstream c tid s = .ok s' →
    s'.name = makeNamespaceGroupName (c.upstreamNamespace tid ns)
  webhook : ∀ w w' : Webhook, w.service = some ns → forwardWebhook c tid w = .ok w' →
    w'.service = some (c.upstreamNamespace tid ns)
  conversion : ∀ crd crd' : CustomResourceDefinition, serviceOf crd.conversion = some ns →
    forwardCRDConversionWebhook c crd tid = .ok crd' →
    serviceOf crd'.conversion = some (c.upstreamNamespace tid ns)
  claimRef : ∀ o o' : Object (Owned PersistentVolume), o.body.spec.claimNamespace = some ns →
    (pvTransformer c).forward o tid = .ok o' →
    o'.body.spec.claimNamespace = some (c.upstreamNamespace tid ns)
  dataSourceRef : ∀ o o' : Object (Owned PersistentVolumeClaim),
    o.body.spec.dataSourceRef = some { «namespace» := some ns } →
    (pvcTransformer c).forward o tid = .ok o' →
    o'.body.spec.dataSourceRef = some { «namespace» := some (c.upstreamNamespace tid ns) }
  accessReview : ∀ review review' : AccessReview, review.namespace = some ns →
    forwardAccessReview c isNativeAPIGroup tid review = .ok review' →
    review'.namespace = some (c.upstreamNamespace tid ns)

lemma namespace_forwardMetadata {m : ObjectMeta} (hns : m.namespace ≠ "") :
    (forwardMetadata c tid true m).namespace = c.upstreamNamespace tid m.namespace := by
  simp [forwardMetadata, hns]

lemma claimNamespace_forward (hns : ns ≠ "") {o o' : Object (Owned PersistentVolume)}
    (hclaim : o.body.spec.claimNamespace = some ns)
    (h : (pvTransformer c).forward o tid = .ok o') :
    o'.body.spec.claimNamespace = some (c.upstreamNamespace tid ns) := by
  simp only [pvTransformer, Except.bind_eq_ok_iff] at h
  obtain ⟨_, _, _, _, h⟩ := h
  obtain ⟨ref, href, hrefns⟩ := Option.map_eq_some_iff.mp hclaim
  rw [← Except.ok.inj h]
  simp [PersistentVolume.claimNamespace, PersistentVolume.mapClaim, href, hrefns, hns]

lemma dataSourceRef_forward (hns : ns ≠ "") {o o' : Object (Owned PersistentVolumeClaim)}
    (href : o.body.spec.dataSourceRef = some { «namespace» := some ns })
    (h : (pvcTransformer c).forward o tid = .ok o') :
    o'.body.spec.dataSourceRef = some { «namespace» := some (c.upstreamNamespace tid ns) } := by
  rw [← Except.ok.inj h]
  simp [href, DataSourceRef.rewrite, hns]

lemma service_forwardWebhook (hns : ns ≠ "") {w w' : Webhook} (hservice : w.service = some ns)
    (h : forwardWebhook c tid w = .ok w') :
    w'.service = some (c.addTenantIDPrefix tid ns) := by
  obtain ⟨config, hconfig, h⟩ := Except.bind_eq_ok_iff.mp h
  unfold forwardWebhookClientConfig at hconfig
  split_ifs at hconfig
  rw [← Except.ok.inj h, ← Except.ok.inj hconfig]
  have : w.clientConfig.serviceNamespace = some ns := hservice
  simp [Webhook.service, this, hns]

lemma service_forwardCRDConversionWebhook (hns : ns ≠ "") {crd crd' : CustomResourceDefinition}
    (hservice : serviceOf crd.conversion = some ns)
    (h : forwardCRDConversionWebhook c crd tid = .ok crd') :
    serviceOf crd'.conversion = some (c.addTenantIDPrefix tid ns) := by
  obtain ⟨conversion, hconversion, rfl⟩ := forwardCRDConversionWebhook_ok.mp h
  unfold conversionView at hconversion
  simp only at hconversion
  split_ifs at hconversion
  obtain ⟨config, hconfig, hserviceNamespace⟩ := Option.bind_eq_some_iff.mp hservice
  rw [← Except.ok.inj hconversion, hconfig]
  simp [serviceOf, hserviceNamespace, hns]

/-- The references to a namespace agree with the requests exactly if the namespace is not in
upstream's spelling. -/
theorem spelling_agrees_iff (hc : c.Dashes) (isNativeAPIGroup : String → Bool) (tid : String)
    (hns : ns ≠ "") :
    SpellingAgrees c isNativeAPIGroup tid ns ↔ ¬ Marked (tenantPrefix tid) ns := by
  rw [← append_eq_ensure_iff (tenantPrefix_ne tid)]
  constructor
  · intro h
    -- A service account of the namespace tells the two rewrites apart.
    have hsubject := h.serviceAccount { kind := "ServiceAccount", «namespace» := ns } _ rfl rfl
      (if_pos hns)
    rw [← hc.add, ← hc.upstream tid ns hns, ← hsubject]
  · intro h
    have hadd : c.addTenantIDPrefix tid ns = c.upstreamNamespace tid ns := by
      rw [hc.add, h, hc.upstream tid ns hns]
    refine ⟨?_, ?_, ?_, ?_, ?_, ?_, ?_, ?_⟩
    · rintro m rfl
      exact namespace_forwardMetadata hns
    · rintro s s' hkind rfl hs'
      simp only [transformSubjectToUpstream, hkind, ne_eq, hns] at hs'
      rw [← Except.ok.inj hs']
      exact hadd
    · intro s s' hkind hname hs'
      simp only [transformSubjectToUpstream, hkind] at hs'
      rw [← Except.ok.inj hs', ← hadd, hc.add]
      show forwardGroupName c tid s.name = _
      rw [hname, forwardGroupName_namespace hc hns]
    · intro w w' hservice hw'
      rw [service_forwardWebhook hns hservice hw', hadd]
    · intro crd crd' hservice hcrd'
      rw [service_forwardCRDConversionWebhook hns hservice hcrd', hadd]
    · intro o o' hclaim ho'
      exact claimNamespace_forward hns hclaim ho'
    · intro o o' href ho'
      exact dataSourceRef_forward hns href ho'
    · intro review review' hreview hreview'
      exact namespace_forwardAccessReview hns hreview hreview'

theorem spelling_agrees_ownName :
    ("ci" : String) ≠ "" ∧ SpellingAgrees dashContract (fun _ => false) "111111" "ci" :=
  ⟨by decide, (spelling_agrees_iff dashes_dashContract _ "111111" (by decide)).mpr (by decide)⟩

theorem spelling_upstreamName_prefixed_twice :
    dashContract.upstreamNamespace "111111" "111111-ci" = "111111-ci" ∧
    transformSubjectToUpstream dashContract "111111"
        { kind := "ServiceAccount", name := "build", «namespace» := "111111-ci" } =
      .ok { kind := "ServiceAccount", name := "build", «namespace» := "111111-111111-ci" } :=
  ⟨by decide, rfl⟩

end KubeZoo
