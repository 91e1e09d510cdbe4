import KubeZoo.Proxy.CustomResource

/-! # Webhook configurations -/

namespace KubeZoo

open Tag

structure LabelSelector where
  matchLabels : StringMap := ∅
deriving DecidableEq

/-- The part of `admissionregistration.RuleWithOperations` that is written. -/
structure WebhookRule where
  scope : Option String := none
deriving DecidableEq

structure Webhook where
  name : String := ""
  clientConfig : WebhookClientConfig := {}
  namespaceSelector : Option LabelSelector := none
  rules : List WebhookRule := []
deriving DecidableEq

/-- A `MutatingWebhookConfiguration` or a `ValidatingWebhookConfiguration`. -/
structure WebhookConfiguration where
  webhooks : List Webhook := []
deriving DecidableEq

def tenantNamespaceSelector (tid : String) : LabelSelector :=
  { matchLabels := (∅ : StringMap).insert tenantNamespaceLabelKey tid }

def forwardWebhookClientConfig (c : Contract) (clientConfig : WebhookClientConfig)
    (tid webhookName : String) : Except GoError WebhookClientConfig :=
  if clientConfig.url ≠ none then
    .error (.plain ("webhook " ++ webhookName ++ ": clientConfig.url is not available to tenants, because a URL cannot be confined to the tenant; use clientConfig.service to name a service in one of your namespaces"))
  else
    let rename := fun ns => if ns = "" then ns else c.addTenantIDPrefix tid ns
    .ok { clientConfig with serviceNamespace := clientConfig.serviceNamespace.map rename }

def backwardWebhookClientConfig (c : Contract) (clientConfig : WebhookClientConfig)
    (tid : String) : WebhookClientConfig :=
  let rename := fun ns => if ns = "" then ns else trimIfAttributable c ns tid
  { clientConfig with serviceNamespace := clientConfig.serviceNamespace.map rename }

def confineRulesToNamespacedScope (rules : List WebhookRule) : List WebhookRule :=
  rules.map fun rule => { rule with scope := some "Namespaced" }

def forwardWebhook (c : Contract) (tid : String) (w : Webhook) : Except GoError Webhook := do
  let clientConfig ← forwardWebhookClientConfig c w.clientConfig tid w.name
  return { w with
    clientConfig := clientConfig
    namespaceSelector := some (tenantNamespaceSelector tid)
    rules := confineRulesToNamespacedScope w.rules }

def backwardWebhook (c : Contract) (tid : String) (w : Webhook) : Except GoError Webhook :=
  .ok { w with clientConfig := backwardWebhookClientConfig c w.clientConfig tid }

def webhookView (c : Contract) (tid : String) : View GoError Webhook Webhook where
  read := backwardWebhook c tid
  write := forwardWebhook c tid

def webhookConfigurationView (c : Contract) (tid : String) :
    View GoError WebhookConfiguration WebhookConfiguration where
  read config := do
    let webhooks ← config.webhooks.mapM (webhookView c tid).read
    return { webhooks := webhooks }
  write config := do
    let webhooks ← config.webhooks.mapM (webhookView c tid).write
    return { webhooks := webhooks }

/-- `WebhookConfigurationTransformer`. -/
def webhookConfigurationTransformer (c : Contract) :
    ObjectTransformer (Owned WebhookConfiguration) where
  forward o tid := do
    let config ← (webhookConfigurationView c tid).write o.body.spec
    return o.withSpec config
  backward o tid := do
    let config ← (webhookConfigurationView c tid).read o.body.spec
    return o.withSpec config

section

variable {c : Contract} {tid : String}

def ServiceKept (tid : String) (ns : Option String) : Prop :=
  ∀ s, ns = some s → Tag.Kept (tenantPrefix tid) true true s

lemma service_kept_iff (hc : c.Dashes) (ns : Option String) :
    (ns.map fun s => if s = "" then s else trimIfAttributable c s tid).map
        (fun s => if s = "" then s else c.addTenantIDPrefix tid s) = ns ↔
      ServiceKept tid ns := by
  unfold ServiceKept
  have hrewrite : ∀ s : String, (if (if s = "" then s else trimIfAttributable c s tid) = "" then
          (if s = "" then s else trimIfAttributable c s tid)
        else c.addTenantIDPrefix tid (if s = "" then s else trimIfAttributable c s tid)) =
        rewrite (tenantPrefix tid) true true s := by
    intro s
    have hshown : (if s = "" then s else trimIfAttributable c s tid) =
        Tag.trim (tenantPrefix tid) s := by
      by_cases hs : s = ""
      · rw [if_pos hs, hs, trim_of_not (not_marked_empty (tenantPrefix_ne tid))]
      · rw [if_neg hs, hc.trimIfAttributable]
    rw [hshown, hc.add]
    unfold rewrite
    by_cases hempty : Tag.trim (tenantPrefix tid) s = "" <;> simp [hempty]
  cases ns with
  | none => simp
  | some s =>
    simp only [Option.map_some, Option.some.injEq, hrewrite, forall_eq',
      rewrite_eq_iff (tenantPrefix_ne tid)]

def Webhook.service (w : Webhook) : Option String := w.clientConfig.serviceNamespace

lemma webhook_neutral_iff (hc : c.Dashes) (w : Webhook) :
    ((webhookView c tid).Writable w ↔ w.clientConfig.url = none) ∧ (w.clientConfig.url = none →
        ((webhookView c tid).Neutral Webhook.service w ↔ ServiceKept tid w.service)) := by
  rw [View.writable_iff rfl, View.neutral_iff rfl, ← service_kept_iff hc]
  by_cases hurl : w.clientConfig.url = none
  · -- The write has a result, and its service is the one that was read, with the prefix.
    obtain ⟨sent, hsent, hservice⟩ : ∃ sent,
        (webhookView c tid).write { w with
          clientConfig := backwardWebhookClientConfig c w.clientConfig tid } = .ok sent ∧
        sent.service = (w.service.map fun s => if s = "" then s else
          trimIfAttributable c s tid).map
            (fun s => if s = "" then s else c.addTenantIDPrefix tid s) := by
      simp only [backwardWebhookClientConfig, hurl]
      exact ⟨_, rfl, rfl⟩
    refine ⟨iff_of_true ⟨sent, hsent⟩ hurl, fun _ => ?_⟩
    rw [hsent, ← hservice]
    constructor
    · intro h
      exact h sent rfl
    · intro h a' ha'
      rw [← Except.ok.inj ha', h]
  · refine ⟨iff_of_false ?_ hurl, fun h => absurd h hurl⟩
    intro ⟨a', ha'⟩
    simp only [webhookView, forwardWebhook, forwardWebhookClientConfig,
      backwardWebhookClientConfig, ne_eq, hurl] at ha'
    cases ha'

lemma webhookConfigurationTransformer_converts :
    (webhookConfigurationTransformer c).Converts tid (webhookConfigurationView c tid) where
  forward o o' := by
    simp only [webhookConfigurationTransformer, Except.bind_eq_ok_iff, Except.pure_eq_ok_iff]
  backward o o' := by
    simp only [webhookConfigurationTransformer, Except.bind_eq_ok_iff, Except.pure_eq_ok_iff]

def WebhookConfiguration.services (config : WebhookConfiguration) : List (Option String) :=
  config.webhooks.map Webhook.service

section

variable {config shown : WebhookConfiguration}

lemma webhookConfiguration_writable_iff (hc : c.Dashes)
    (hshown : (webhookConfigurationView c tid).read config = .ok shown) :
    (webhookConfigurationView c tid).Writable config ↔
      ¬ ∃ w ∈ config.webhooks, w.clientConfig.url ≠ none := by
  rw [View.writable_iff hshown]
  obtain ⟨webhooks, hwebhooks, hconfig⟩ := Except.bind_eq_ok_iff.mp hshown
  obtain rfl := Except.ok.inj hconfig
  have hall : (∃ sent, webhooks.mapM (webhookView c tid).write = .ok sent) ↔
      ¬ ∃ w ∈ config.webhooks, w.clientConfig.url ≠ none := by
    rw [View.exists_write_iff hwebhooks]
    push Not
    exact forall₂_congr fun w _ => (webhook_neutral_iff hc w).1
  rw [← hall]
  simp only [webhookConfigurationView, Except.bind_eq_ok_iff]
  exact ⟨fun ⟨_, sent, hsent, _⟩ => ⟨sent, hsent⟩, fun ⟨sent, hsent⟩ => ⟨_, sent, hsent, rfl⟩⟩

lemma webhookConfiguration_neutral_iff (hc : c.Dashes)
    (hshown : (webhookConfigurationView c tid).read config = .ok shown)
    (hurl : ¬ ∃ w ∈ config.webhooks, w.clientConfig.url ≠ none) :
    (webhookConfigurationView c tid).Neutral WebhookConfiguration.services config ↔
      ∀ w ∈ config.webhooks, ServiceKept tid w.service := by
  have hwritable := (webhookConfiguration_writable_iff hc hshown).mpr hurl
  rw [View.writable_iff hshown] at hwritable
  rw [View.neutral_iff hshown]
  obtain ⟨webhooks, hwebhooks, hconfig⟩ := Except.bind_eq_ok_iff.mp hshown
  obtain rfl := Except.ok.inj hconfig
  simp only [webhookConfigurationView, Except.bind_eq_ok_iff] at hwritable ⊢
  obtain ⟨_, sent, hsent, _⟩ := hwritable
  push Not at hurl
  have hkept : (∀ w ∈ config.webhooks, ServiceKept tid w.service) ↔
      sent.map Webhook.service = config.webhooks.map Webhook.service := by
    rw [View.map_write_eq_iff hwebhooks hsent]
    exact forall₂_congr fun w hw => ((webhook_neutral_iff hc w).2 (hurl w hw)).symm
  rw [hkept]
  constructor
  · intro h
    exact h _ ⟨sent, hsent, rfl⟩
  · intro h a' ⟨sent', hsent', ha'⟩
    rw [hsent, Except.ok.injEq] at hsent'
    rw [← Except.ok.inj ha', ← hsent']
    exact h

end

end

end KubeZoo
