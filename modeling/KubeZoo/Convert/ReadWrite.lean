import KubeZoo.Convert.Confinement
import KubeZoo.Convert.Volume
import KubeZoo.Convert.Webhook

/-! # Reading an object and writing it back -/

namespace KubeZoo

open Tag

variable {c : Contract} {checkGroupKind : CheckGroupKind} {tid : String}

def conversionView (c : Contract) (tid : String) :
    View GoError (Option WebhookClientConfig) (Option WebhookClientConfig) where
  read conversion := .ok (conversion.map fun config => { config with
    serviceNamespace := config.serviceNamespace.map fun ns =>
      if ns = "" then ns else trimIfAttributable c ns tid })
  write conversion :=
    if conversion.any (·.url.isSome) then .error (.plain "")
    else .ok (conversion.map fun config => { config with
      serviceNamespace := config.serviceNamespace.map fun ns =>
        if ns = "" then ns else c.addTenantIDPrefix tid ns })

variable {crd crd' : CustomResourceDefinition}

lemma forwardCRDConversionWebhook_ok :
    forwardCRDConversionWebhook c crd tid = .ok crd' ↔
      ∃ conversion, (conversionView c tid).write crd.conversion = .ok conversion ∧
        crd' = { crd with conversion := conversion } := by
  obtain ⟨name, group, plural, conversion, owners⟩ := crd
  unfold forwardCRDConversionWebhook conversionView
  cases conversion with
  | none => simp [eq_comm]
  | some config =>
    cases hurl : config.url with
    | none => simp [hurl, eq_comm]
    | some url => simp [hurl]

lemma crdForward_ok :
    crdForward c checkGroupKind crd tid = .ok crd' ↔ crd.name = crd.plural ++ "." ++ crd.group ∧
      ∃ owners, crd.ownerReferences.mapM (ownerReferenceView c checkGroupKind tid).write =
          .ok owners ∧
      ∃ conversion, (conversionView c tid).write crd.conversion = .ok conversion ∧
        crd' = { crd with
          group := c.addTenantIDPrefix tid crd.group
          name := crd.plural ++ "." ++ c.addTenantIDPrefix tid crd.group
          conversion := conversion
          ownerReferences := owners } := by
  unfold crdForward
  by_cases hname : crd.name = crd.plural ++ "." ++ crd.group
  · rw [if_neg (not_not.mpr hname)]
    simp only [Except.bind_eq_ok_iff, forwardCRDConversionWebhook_ok]
    constructor
    · rintro ⟨_, ⟨conversion, hconversion, rfl⟩, owners, howners, h⟩
      exact ⟨hname, owners, howners, conversion, hconversion, (Except.ok.inj h).symm⟩
    · rintro ⟨-, owners, howners, conversion, hconversion, rfl⟩
      exact ⟨_, ⟨conversion, hconversion, rfl⟩, owners, howners, rfl⟩
  · rw [if_pos hname]
    exact iff_of_false nofun fun h => hname h.1

lemma crdBackward_ok :
    crdBackward c checkGroupKind crd tid = .ok crd' ↔ startsWith crd.group tid = true ∧
      ∃ owners, crd.ownerReferences.mapM (ownerReferenceView c checkGroupKind tid).read =
          .ok owners ∧
      ∃ conversion, (conversionView c tid).read crd.conversion = .ok conversion ∧
        crd' = { crd with
          group := c.trimTenantIDPrefix tid crd.group
          name := crd.plural ++ "." ++ c.trimTenantIDPrefix tid crd.group
          conversion := conversion
          ownerReferences := owners } := by
  unfold crdBackward
  cases hgroup : startsWith crd.group tid with
  | false => exact iff_of_false nofun nofun
  | true =>
    simp only [Bool.not_true, Bool.false_eq_true, if_false, true_and, Except.bind_eq_ok_iff]
    constructor
    · intro ⟨owners, howners, h⟩
      exact ⟨owners, howners, _, rfl, (Except.ok.inj h).symm⟩
    · rintro ⟨owners, howners, _, ⟨rfl⟩, rfl⟩
      exact ⟨owners, howners, rfl⟩

def serviceOf (conversion : Option WebhookClientConfig) : Option String :=
  conversion.bind (·.serviceNamespace)

lemma conversion_neutral_iff (hc : c.Dashes) (conversion : Option WebhookClientConfig) :
    ((conversionView c tid).Writable conversion ↔ ¬ conversion.any (·.url.isSome) = true) ∧
      (¬ conversion.any (·.url.isSome) = true →
        ((conversionView c tid).Neutral serviceOf conversion ↔
          ServiceKept tid (serviceOf conversion))) := by
  rw [View.writable_iff rfl, View.neutral_iff rfl, ← service_kept_iff hc]
  cases conversion with
  | none => simp [conversionView, serviceOf]
  | some config =>
    cases hurl : config.url with
    | none => simp [conversionView, serviceOf, hurl]
    | some url => simp [conversionView, hurl]

lemma crd_neutral_iff (hc : c.Dashes) {x shown : CustomResourceDefinition}
    (hshown : crdBackward c checkGroupKind x tid = .ok shown) :
    (∀ y, crdForward c checkGroupKind shown tid = .ok y →
      y.ownerReferences = x.ownerReferences ∧ serviceOf y.conversion = serviceOf x.conversion) ↔
    ((∃ ref ∈ x.ownerReferences, ref.Refused checkGroupKind tid) ∨
      x.conversion.any (·.url.isSome) = true) ∨
    (∀ ref ∈ x.ownerReferences, ref.Kept checkGroupKind tid) ∧
      ServiceKept tid (serviceOf x.conversion) := by
  obtain ⟨-, owners, howners, conversion, hconversion, rfl⟩ := crdBackward_ok.mp hshown
  obtain ⟨hwritable, hneutral⟩ := conversion_neutral_iff hc x.conversion
  rw [← View.write_both_eq_iff howners hconversion (fun _ => ownerReference_not_writable_iff hc)
    (fun _ => ownerReference_neutral_iff hc) hwritable hneutral]
  simp only [crdForward_ok, true_and]
  constructor
  · intro h owners' howners' conversion' hconversion'
    exact h _ ⟨owners', howners', conversion', hconversion', rfl⟩
  · rintro h y ⟨owners', howners', conversion', hconversion', rfl⟩
    exact h owners' howners' conversion' hconversion'

inductive Referrer
  | roleBinding (o : Object (Owned RoleBinding))
  | mutatingWebhookConfiguration (o : Object (Owned WebhookConfiguration))
  | validatingWebhookConfiguration (o : Object (Owned WebhookConfiguration))
  | customResourceDefinition (crd : CustomResourceDefinition)
  | persistentVolume (o : Object (Owned PersistentVolume))

structure References where
  ownerReferences : List OwnerReference
  roleRef : Option RoleRef := none
  subjects : List Subject := []
  services : List (Option String) := []
  claimNamespace : Option String := none
deriving DecidableEq

namespace Referrer

def references : Referrer → References
  | roleBinding o =>
    { ownerReferences := o.body.ownerReferences
      roleRef := some o.body.spec.roleRef
      subjects := o.body.spec.subjects }
  | mutatingWebhookConfiguration o | validatingWebhookConfiguration o =>
    { ownerReferences := o.body.ownerReferences, services := o.body.spec.services }
  | customResourceDefinition crd =>
    { ownerReferences := crd.ownerReferences, services := [serviceOf crd.conversion] }
  | persistentVolume o =>
    { ownerReferences := o.body.ownerReferences, claimNamespace := o.body.spec.claimNamespace }

variable (c : Contract) (checkGroupKind : CheckGroupKind) (tid : String)

def backward : Referrer → Except GoError Referrer
  | roleBinding o =>
    ((BindingKind.roleBinding.convertor c checkGroupKind).convertUpstreamObjectToTenantObject o
      tid true).map roleBinding
  | mutatingWebhookConfiguration o =>
    ((kindConvertor c checkGroupKind
      (webhookConfigurationTransformer c)).convertUpstreamObjectToTenantObject o tid
        false).map mutatingWebhookConfiguration
  | validatingWebhookConfiguration o =>
    ((kindConvertor c checkGroupKind
      (webhookConfigurationTransformer c)).convertUpstreamObjectToTenantObject o tid
        false).map validatingWebhookConfiguration
  | customResourceDefinition crd =>
    (crdBackward c checkGroupKind crd tid).map customResourceDefinition
  | persistentVolume o =>
    ((kindConvertor c checkGroupKind (pvTransformer c)).convertUpstreamObjectToTenantObject o
      tid false).map persistentVolume

def forward : Referrer → Except GoError Referrer
  | roleBinding o =>
    ((BindingKind.roleBinding.convertor c checkGroupKind).convertTenantObjectToUpstreamObject o
      tid true).map roleBinding
  | mutatingWebhookConfiguration o =>
    ((kindConvertor c checkGroupKind
      (webhookConfigurationTransformer c)).convertTenantObjectToUpstreamObject o tid
        false).map mutatingWebhookConfiguration
  | validatingWebhookConfiguration o =>
    ((kindConvertor c checkGroupKind
      (webhookConfigurationTransformer c)).convertTenantObjectToUpstreamObject o tid
        false).map validatingWebhookConfiguration
  | customResourceDefinition crd =>
    (crdForward c checkGroupKind crd tid).map customResourceDefinition
  | persistentVolume o =>
    ((kindConvertor c checkGroupKind (pvTransformer c)).convertTenantObjectToUpstreamObject o
      tid false).map persistentVolume

/-- Something the object refers to is refused on the way upstream. -/
def Refused (x : Referrer) : Prop :=
  (∃ ref ∈ x.references.ownerReferences, ref.Refused checkGroupKind tid) ∨
    match x with
    | roleBinding _ => False
    | mutatingWebhookConfiguration o | validatingWebhookConfiguration o =>
      ∃ w ∈ o.body.spec.webhooks, w.clientConfig.url ≠ none
    | customResourceDefinition crd => crd.conversion.any (·.url.isSome) = true
    | persistentVolume o => o.body.spec.Refused tid

/-- Everything the object refers to comes back as it was sent. -/
def Kept (x : Referrer) : Prop :=
  (∀ ref ∈ x.references.ownerReferences, ref.Kept checkGroupKind tid) ∧
    match x with
    | roleBinding o =>
      (∀ s ∈ o.body.spec.subjects, s.Kept tid) ∧ o.body.spec.roleRef.Kept tid
    | mutatingWebhookConfiguration o | validatingWebhookConfiguration o =>
      ∀ w ∈ o.body.spec.webhooks, ServiceKept tid w.service
    | customResourceDefinition crd => ServiceKept tid (serviceOf crd.conversion)
    | persistentVolume o => o.body.spec.Kept tid

section

variable {c checkGroupKind tid} {x shown : Referrer}

lemma forall_map_ok {α : Type} {e : Except GoError α} {g : α → Referrer} {P : Referrer → Prop} :
    (∀ y, e.map g = .ok y → P y) ↔ ∀ a, e = .ok a → P (g a) := by
  simp only [Except.map_eq_ok_iff]
  constructor
  · intro h a ha
    exact h _ ⟨a, ha, rfl⟩
  · rintro h y ⟨a, ha, rfl⟩
    exact h a ha

lemma roleBinding_neutral_iff (hc : c.Dashes) {o shown : Object (Owned RoleBinding)}
    (hshown : (BindingKind.roleBinding.convertor c
      checkGroupKind).convertUpstreamObjectToTenantObject o tid true = .ok shown) :
    (∀ y, (BindingKind.roleBinding.convertor c
        checkGroupKind).convertTenantObjectToUpstreamObject shown tid true = .ok y →
      (roleBinding y).references = (roleBinding o).references) ↔
    (roleBinding o).Refused checkGroupKind tid ∨ (roleBinding o).Kept checkGroupKind tid := by
  obtain ⟨called, trimName, heq, htrim⟩ := BindingKind.roleBinding.transformer_eq hc
  unfold BindingKind.convertor at hshown ⊢
  rw [heq] at hshown ⊢
  obtain ⟨_, _, spec, hspec, _⟩ := bindingTransformer_converts.backward_ok.mp hshown
  obtain ⟨hwritable, hneutral⟩ := binding_neutral_iff hc htrim hspec
  have hnever : (bindingView c trimName tid).Writable o.body.spec ↔ ¬ False :=
    iff_of_true hwritable not_false
  refine Iff.trans (forall₂_congr fun y _ => ?_)
    (bindingTransformer_converts.neutral_iff hc hnever (fun _ => hneutral) hshown)
  simp only [references, References.mk.injEq, Option.some.injEq, and_true, id, RoleBinding.ext_iff]
  rw [and_comm (a := y.body.spec.roleRef = _)]

lemma webhookConfiguration_references_iff (hc : c.Dashes)
    {o shown : Object (Owned WebhookConfiguration)}
    (hshown : (kindConvertor c checkGroupKind
      (webhookConfigurationTransformer c)).convertUpstreamObjectToTenantObject o tid false =
        .ok shown) :
    (∀ y, (kindConvertor c checkGroupKind
        (webhookConfigurationTransformer c)).convertTenantObjectToUpstreamObject shown tid
          false = .ok y →
      y.body.ownerReferences = o.body.ownerReferences ∧
        y.body.spec.services = o.body.spec.services) ↔
    ((∃ ref ∈ o.body.ownerReferences, ref.Refused checkGroupKind tid) ∨
      ∃ w ∈ o.body.spec.webhooks, w.clientConfig.url ≠ none) ∨
    (∀ ref ∈ o.body.ownerReferences, ref.Kept checkGroupKind tid) ∧
      ∀ w ∈ o.body.spec.webhooks, ServiceKept tid w.service := by
  obtain ⟨_, _, spec, hspec, _⟩ := webhookConfigurationTransformer_converts.backward_ok.mp hshown
  exact webhookConfigurationTransformer_converts.neutral_iff hc
    (webhookConfiguration_writable_iff hc hspec) (webhookConfiguration_neutral_iff hc hspec) hshown

end

end Referrer

/-- Which objects a tenant can read and write back without changing what they refer to: those whose
write is refused, and those whose references all had the tenant's prefix. -/
theorem readWrite_neutral_iff {c : Contract} (hc : c.Dashes) (checkGroupKind : CheckGroupKind)
    (tid : String) {x shown : Referrer}
    (hshown : x.backward c checkGroupKind tid = .ok shown) :
    (∀ y, shown.forward c checkGroupKind tid = .ok y → y.references = x.references) ↔
      x.Refused checkGroupKind tid ∨ x.Kept checkGroupKind tid := by
  cases x with
  | roleBinding o =>
    obtain ⟨o', ho', rfl⟩ := Except.map_eq_ok_iff.mp hshown
    exact Referrer.forall_map_ok.trans (Referrer.roleBinding_neutral_iff hc ho')
  | mutatingWebhookConfiguration o | validatingWebhookConfiguration o =>
    obtain ⟨o', ho', rfl⟩ := Except.map_eq_ok_iff.mp hshown
    refine Referrer.forall_map_ok.trans
      (Iff.trans ?_ (Referrer.webhookConfiguration_references_iff hc ho'))
    simp only [Referrer.references, References.mk.injEq, and_true, true_and]
  | customResourceDefinition crd =>
    obtain ⟨crd', hcrd', rfl⟩ := Except.map_eq_ok_iff.mp hshown
    refine Referrer.forall_map_ok.trans (Iff.trans ?_ (crd_neutral_iff hc hcrd'))
    simp only [Referrer.references, References.mk.injEq, List.cons.injEq, and_true, true_and]
  | persistentVolume o =>
    obtain ⟨o', ho', rfl⟩ := Except.map_eq_ok_iff.mp hshown
    refine Referrer.forall_map_ok.trans (Iff.trans ?_
      (pvTransformer_converts.neutral_iff hc (pv_writable_iff hc _) (pv_neutral_iff hc) ho'))
    simp only [Referrer.references, References.mk.injEq, true_and]

def boundTo (role subject : String) : Referrer :=
  .roleBinding
    { metadata := { name := "readers", «namespace» := "111111-apps" }
      body := { spec := {
        subjects := [{ kind := "User", name := subject }]
        roleRef := { kind := "ClusterRole", name := role } } } }

theorem readWrite_neutral_ownRole :
    ((boundTo "111111-view" "111111-ann").backward dashContract namespacedKinds
      "111111").toOption.isSome = true ∧
    ∀ shown, (boundTo "111111-view" "111111-ann").backward dashContract namespacedKinds "111111" =
        .ok shown →
      ∀ y, shown.forward dashContract namespacedKinds "111111" = .ok y →
        y.references = (boundTo "111111-view" "111111-ann").references := by
  refine ⟨by decide +kernel, fun shown hshown => ?_⟩
  refine (readWrite_neutral_iff dashes_dashContract namespacedKinds "111111" hshown).mpr (Or.inr ?_)
  have howners : (boundTo "111111-view" "111111-ann").references.ownerReferences = [] := rfl
  refine ⟨by simp [howners], ?_, fun _ => Or.inr ⟨"view", by decide, by decide⟩⟩
  intro s hs
  rw [List.mem_singleton.mp hs]
  exact Or.inr ⟨"ann", by decide, by decide⟩

theorem readWrite_prefixes_platformRole :
    ∃ shown y, (boundTo "view" "111111-ann").backward dashContract namespacedKinds "111111" =
        .ok shown ∧ shown.forward dashContract namespacedKinds "111111" = .ok y ∧
      y.references.roleRef = some { kind := "ClusterRole", name := "111111-view" } ∧
      y.references ≠ (boundTo "view" "111111-ann").references := by
  have h : (((boundTo "view" "111111-ann").backward dashContract namespacedKinds
      "111111").toOption.bind fun shown =>
        (shown.forward dashContract namespacedKinds "111111").toOption.map Referrer.references) =
      some (boundTo "111111-view" "111111-ann").references := by decide +kernel
  obtain ⟨shown, hshown, h⟩ := Option.bind_eq_some_iff.mp h
  obtain ⟨y, hy, hreferences⟩ := Option.map_eq_some_iff.mp h
  refine ⟨shown, y, Except.toOption_eq_some_iff.mp hshown, Except.toOption_eq_some_iff.mp hy, ?_, ?_⟩
  · rw [hreferences]
    rfl
  · rw [hreferences]
    decide +kernel

end KubeZoo
