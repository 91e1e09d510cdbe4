import KubeZoo.Convert.Webhook
import KubeZoo.Lib.PrefixCode
import KubeZoo.Proxy.Relay

/-! # Fields a tenant has no say in -/

namespace KubeZoo

open Except PrefixCode

inductive WebhookLeaf
  | name
  | url
  | serviceNamespace
  | namespaceSelector
  | rules
deriving DecidableEq

structure WebhookSchema where
  path : String → WebhookLeaf → String
  selectorText : LabelSelector → String
  rulesText : List WebhookRule → String
  selectorText_injective : selectorText.Injective
  rulesText_injective : rulesText.Injective

def Webhook.Confined (tid : String) (w : Webhook) : Prop :=
  w.namespaceSelector = some (tenantNamespaceSelector tid) ∧ w.clientConfig.url = none ∧
    ∀ rule ∈ w.rules, rule.scope = some "Namespaced"

namespace WebhookSchema

variable (W : WebhookSchema)

def leafOf (w : Webhook) : WebhookLeaf → Option String
  | .name => some w.name
  | .url => w.clientConfig.url
  | .serviceNamespace => w.clientConfig.serviceNamespace
  | .namespaceSelector => w.namespaceSelector.map W.selectorText
  | .rules => if w.rules = [] then none else some (W.rulesText w.rules)

def leaf (config : WebhookConfiguration) (name : String) (l : WebhookLeaf) : Option String :=
  (config.webhooks.find? fun w => w.name == name).bind fun w => W.leafOf w l

def Renders (config : WebhookConfiguration) (o : Object Fields) : Prop :=
  (config.webhooks.map Webhook.name).Nodup ∧ ∀ name l, o.field (W.path name l) = W.leaf config name l

def Tracked (p : String) : Prop := ∃ name l, p = W.path name l

/-- The object has webhooks, all of which are confined to the tenant. -/
def StoresConfined (tid : String) (o : Object Fields) : Prop :=
  (∃ config, W.Renders config o) ∧
    ∀ config, W.Renders config o → ∀ w ∈ config.webhooks, w.Confined tid

structure Serves (c : Contract) (tp : TenantProxy Fields) : Prop where
  forward : ∀ obj t up, tp.convertTenantObjectToUpstreamObject obj t = .ok up →
    ∃ o o', (webhookConfigurationTransformer c).forward o t = .ok o' ∧
      W.Renders o.body.spec obj ∧ W.Renders o'.body.spec up
  backward : ∀ obj t b shown, tp.convertor.convertUpstreamObjectToTenantObject obj t b = .ok shown →
    ∃ o o', (webhookConfigurationTransformer c).backward o t = .ok o' ∧
      W.Renders o.body.spec obj ∧ W.Renders o'.body.spec shown

end WebhookSchema

section

variable {c : Contract} {tid : String}

variable {l l' : List Webhook} {o o' : Object (Owned WebhookConfiguration)} {w w' : Webhook}
  {R : Webhook → Webhook → Prop}

lemma forwardWebhook_ok (h : forwardWebhook c tid w = .ok w') :
    w'.name = w.name ∧ w.clientConfig.url = none ∧ w'.Confined tid ∧
      w'.clientConfig.serviceNamespace.isSome = w.clientConfig.serviceNamespace.isSome ∧
      (w'.rules = [] ↔ w.rules = []) := by
  obtain ⟨clientConfig, hclient, hw'⟩ := bind_eq_ok_iff.mp h
  obtain rfl := Except.ok.inj hw'
  unfold forwardWebhookClientConfig at hclient
  split_ifs at hclient with hurl
  rw [← Except.ok.inj hclient]
  have hnone : w.clientConfig.url = none := not_not.mp hurl
  refine ⟨rfl, hnone, ⟨rfl, hnone, ?_⟩, Option.isSome_map, List.map_eq_nil_iff⟩
  intro rule hrule
  obtain ⟨rule', -, rfl⟩ := List.mem_map.mp hrule
  rfl

lemma backwardWebhook_ok (h : backwardWebhook c tid w = .ok w') :
    w' = { w with clientConfig := backwardWebhookClientConfig c w.clientConfig tid } :=
  (Except.ok.inj h).symm

lemma find?_forall₂ (h : List.Forall₂ R l l') (hname : ∀ w w', R w w' → w'.name = w.name)
    (name : String) :
    (l.find? (fun w => w.name == name) = none ∧ l'.find? (fun w => w.name == name) = none) ∨
      ∃ w w', l.find? (fun w => w.name == name) = some w ∧
        l'.find? (fun w => w.name == name) = some w' ∧ R w w' := by
  induction h with
  | nil => exact .inl ⟨rfl, rfl⟩
  | @cons w w' l l' hw hl ih =>
    rw [List.find?_cons, List.find?_cons, hname w w' hw]
    cases w.name == name with
    | true => exact .inr ⟨w, w', rfl, rfl, hw⟩
    | false => exact ih

lemma map_name_eq (h : List.Forall₂ R l l') (hname : ∀ w w', R w w' → w'.name = w.name) :
    l'.map Webhook.name = l.map Webhook.name := by
  induction h with
  | nil => rfl
  | @cons w w' l l' hw hl ih => rw [List.map_cons, List.map_cons, hname w w' hw, ih]

variable {W : WebhookSchema} {config config' : WebhookConfiguration}

lemma forall₂_webhooks {f : Webhook → Except GoError Webhook}
    (h : ((o.body.spec.webhooks.mapM f).bind fun webhooks => .ok { webhooks := webhooks }).bind
      (fun config => .ok (o.withSpec config)) = .ok o') :
    List.Forall₂ (fun w w' => f w = .ok w') o.body.spec.webhooks o'.body.spec.webhooks := by
  obtain ⟨config, hconfig, ho'⟩ := bind_eq_ok_iff.mp h
  obtain ⟨webhooks, hwebhooks, hspec⟩ := bind_eq_ok_iff.mp hconfig
  obtain rfl := Except.ok.inj hspec
  rw [← Except.ok.inj ho']
  exact mapM_eq_ok_iff.mp hwebhooks

lemma webhookConfigurationTransformer_forward_ok
    (h : (webhookConfigurationTransformer c).forward o tid = .ok o') :
    List.Forall₂ (fun w w' => forwardWebhook c tid w = .ok w') o.body.spec.webhooks
      o'.body.spec.webhooks := forall₂_webhooks h

lemma webhookConfigurationTransformer_backward_ok
    (h : (webhookConfigurationTransformer c).backward o tid = .ok o') :
    List.Forall₂ (fun w w' => backwardWebhook c tid w = .ok w') o.body.spec.webhooks
      o'.body.spec.webhooks := forall₂_webhooks h

namespace WebhookSchema

lemma leaf_forward (h : List.Forall₂ (fun w w' => forwardWebhook c tid w = .ok w') config.webhooks
      config'.webhooks) (name : String) (l : WebhookLeaf) :
    (W.leaf config' name l = none → W.leaf config name l = none) ∧
      (l = .serviceNamespace → (W.leaf config' name l).isSome = (W.leaf config name l).isSome) := by
  obtain ⟨hnone, hnone'⟩ | ⟨w, w', hsome, hsome', hw⟩ :=
    find?_forall₂ h (fun w w' hw => (forwardWebhook_ok hw).1) name
  · rw [leaf, leaf, hnone, hnone']
    exact ⟨fun _ => rfl, fun _ => rfl⟩
  · obtain ⟨-, hurl, hconfined, hservice, hrules⟩ := forwardWebhook_ok hw
    rw [leaf, leaf, hsome, hsome', Option.bind_some, Option.bind_some]
    cases l with
    | name => simp [leafOf]
    | url => simp [leafOf, hurl]
    | serviceNamespace =>
      refine ⟨fun hmissing => ?_, fun _ => hservice⟩
      rw [leafOf] at hmissing ⊢
      rw [hmissing] at hservice
      simpa using hservice.symm
    | namespaceSelector => simp [leafOf, hconfined.1]
    | rules => simp [leafOf, hrules]

lemma leaf_backward (h : List.Forall₂ (fun w w' => backwardWebhook c tid w = .ok w') config.webhooks
      config'.webhooks) (name : String) (l : WebhookLeaf) :
    (l ≠ .serviceNamespace → W.leaf config' name l = W.leaf config name l) ∧
      (l = .serviceNamespace → (W.leaf config' name l).isSome = (W.leaf config name l).isSome) := by
  obtain ⟨hnone, hnone'⟩ | ⟨w, w', hsome, hsome', hw⟩ :=
    find?_forall₂ h (fun w w' hw => by rw [backwardWebhook_ok hw]) name
  · rw [leaf, leaf, hnone, hnone']
    exact ⟨fun _ => rfl, fun _ => rfl⟩
  · rw [leaf, leaf, hsome, hsome', backwardWebhook_ok hw]
    refine ⟨fun hl => ?_, fun hl => ?_⟩
    · cases l with
      | serviceNamespace => exact absurd rfl hl
      | _ => rfl
    · rw [hl]
      exact Option.isSome_map

lemma find?_name (h : (config.webhooks.map Webhook.name).Nodup)
    (hw : w ∈ config.webhooks) : config.webhooks.find? (fun w' => w'.name == w.name) = some w := by
  obtain ⟨webhooks⟩ := config
  induction webhooks with
  | nil => cases hw
  | cons w₀ ws ih =>
    rw [List.map_cons, List.nodup_cons] at h
    rw [List.find?_cons]
    rcases List.mem_cons.mp hw with rfl | hw
    · simp
    · have hne : w₀.name ≠ w.name := fun heq => h.1 (heq ▸ List.mem_map_of_mem hw)
      rw [beq_false_of_ne hne]
      exact ih h.2 hw

variable {o : Object Fields}

lemma Renders.confined (h : W.Renders config o) (h' : W.Renders config' o)
    (hconfined : ∀ w ∈ config'.webhooks, w.Confined tid) :
    ∀ w ∈ config.webhooks, w.Confined tid := by
  intro w hw
  have hleaf : ∀ l, W.leaf config' w.name l = W.leafOf w l := by
    intro l
    rw [← h'.2, h.2, leaf, find?_name h.1 hw, Option.bind_some]
  cases hfound : config'.webhooks.find? (fun w' => w'.name == w.name) with
  | none =>
    have hname := hleaf .name
    rw [leaf, hfound] at hname
    cases hname
  | some w' =>
    obtain ⟨hselector, hurl, hscopes⟩ := hconfined w' (List.mem_of_find?_eq_some hfound)
    simp only [leaf, hfound, Option.bind_some] at hleaf
    refine ⟨?_, (hleaf .url).symm.trans hurl, ?_⟩
    · have hsame := (hleaf .namespaceSelector).symm
      rw [Option.map_injective W.selectorText_injective hsame, hselector]
    · have hrules := hleaf .rules
      simp only [leafOf] at hrules
      intro rule hrule
      have hne : w.rules ≠ [] := List.ne_nil_of_mem hrule
      split_ifs at hrules
      rw [W.rulesText_injective (Option.some.inj hrules)] at hscopes
      exact hscopes rule hrule

def withServices (config : WebhookConfiguration) (o : Object Fields) : WebhookConfiguration :=
  { webhooks := config.webhooks.map fun w => { w with
      clientConfig := { w.clientConfig with
        serviceNamespace := o.field (W.path w.name .serviceNamespace) } } }

lemma renders_withServices (hnodup : (config.webhooks.map Webhook.name).Nodup)
    (hexact : ∀ name l, l ≠ .serviceNamespace → o.field (W.path name l) = W.leaf config name l)
    (hpresent : ∀ name, (o.field (W.path name .serviceNamespace)).isSome =
      (W.leaf config name .serviceNamespace).isSome) : W.Renders (W.withServices config o) o := by
  have hall : List.Forall₂ (fun w w' => w' = { w with
      clientConfig := { w.clientConfig with
        serviceNamespace := o.field (W.path w.name .serviceNamespace) } }) config.webhooks
      (W.withServices config o).webhooks := by
    rw [withServices, List.forall₂_map_right_iff]
    exact List.forall₂_same.mpr fun w _ => rfl
  have hname : ∀ w w' : Webhook, w' = { w with
      clientConfig := { w.clientConfig with
        serviceNamespace := o.field (W.path w.name .serviceNamespace) } } → w'.name = w.name := by
    intro w w' hw
    rw [hw]
  refine ⟨by rw [map_name_eq hall hname]; exact hnodup, fun name l => ?_⟩
  obtain ⟨hnone, hnone'⟩ | ⟨w, w', hsome, hsome', hw⟩ := find?_forall₂ hall hname name
  · have hmissing : W.leaf config name l = none := by rw [leaf, hnone]; rfl
    rw [leaf, hnone', Option.bind_none]
    by_cases hl : l = .serviceNamespace
    · have hservice := hpresent name
      rw [← hl, hmissing] at hservice
      simpa using hservice
    · rw [hexact name l hl, hmissing]
  · have hkey : w.name = name := by simpa using List.find?_some hsome
    have hfound : W.leaf config name l = W.leafOf w l := by rw [leaf, hsome, Option.bind_some]
    rw [leaf, hsome', Option.bind_some, hw]
    cases l with
    | serviceNamespace => rw [leafOf, hkey]
    | _ =>
      rw [hexact name _ (by decide), hfound]
      rfl

lemma StoresConfined.of_renders (h : W.Renders config o)
    (hconfined : ∀ w ∈ config.webhooks, w.Confined tid) : W.StoresConfined tid o :=
  ⟨⟨config, h⟩, fun _ h' => h'.confined h hconfined⟩

lemma StoresConfined.congr {o' : Object Fields} (h : ∀ p, W.Tracked p → o'.field p = o.field p)
    (ho : W.StoresConfined tid o) : W.StoresConfined tid o' := by
  obtain ⟨⟨config, hnodup, hleaves⟩, hconfined⟩ := ho
  have hrenders : W.Renders config o' := by
    refine ⟨hnodup, fun name l => ?_⟩
    rw [h _ ⟨name, l, rfl⟩, hleaves]
  exact .of_renders hrenders (hconfined config ⟨hnodup, hleaves⟩)

lemma Serves.storesConfined {tp : TenantProxy Fields} (hserves : W.Serves c tp) {S : Store Fields}
    {obj up : Object Fields} (hup : tp.convertTenantObjectToUpstreamObject obj tid = .ok up)
    (hwrote : tp.WroteFields W.Tracked S tid obj up o) : W.StoresConfined tid o := by
  obtain ⟨x, sent, hforward, hobj, hsent⟩ := hserves.forward obj tid up hup
  have hall := webhookConfigurationTransformer_forward_ok hforward
  have hconfined : ∀ w ∈ sent.body.spec.webhooks, w.Confined tid := by
    intro w' hw'
    obtain ⟨w, -, hw⟩ := (forall₂_mem hall).2 w' hw'
    exact (forwardWebhook_ok hw).2.2.1
  cases hwrote with
  | whole h =>
    exact .congr h (.of_renders hsent hconfined)
  | relayed ns name stored output shown hstored houtput hshown hexact hpresent =>
    obtain ⟨y, seen, hbackward, hy, hseen⟩ := hserves.backward output tid _ shown hshown
    have hview := @leaf_backward _ _ W _ _ (webhookConfigurationTransformer_backward_ok hbackward)
    have hdrop := @leaf_forward _ _ W _ _ hall
    refine .of_renders (renders_withServices hsent.1 ?_ ?_) ?_
    · intro name l hl
      rw [hexact _ ⟨name, l, rfl⟩, hsent.2]
      · rw [hy.2, hseen.2, (hview name l).1 hl]
      · rw [hsent.2, hobj.2]
        exact fun hnone => .inl ((hdrop name l).1 hnone)
    · intro name
      rw [hpresent _ ⟨name, _, rfl⟩, hsent.2]
      · rw [hy.2, hseen.2, (hview name _).2 rfl]
      · rw [hsent.2, hobj.2, (hdrop name _).2 rfl]
    · intro w hw
      obtain ⟨w', hw', rfl⟩ := List.mem_map.mp hw
      exact hconfined w' hw'

end WebhookSchema

end

/-- The leaves of a pod specification that `place` writes, and those of its containers, by which one
knows that there is a specification. -/
inductive PlacementLeaf
  | containers (sub : String)
  | nodeSelector
  | tolerations
  | schedulerName
  | affinity (sub : String)
  | topologySpreadConstraints (sub : String)
  | nodeName
deriving DecidableEq

structure TemplateSchema where
  path : PlacementLeaf → String
  containersText : String → List Container → Option String
  nodeSelectorText : StringMap → String
  tolerationsText : List Toleration → String
  affinityText : String → String → Option String
  constraintsText : String → List String → Option String
  containers_shown : ∀ containers, ∃ sub, (containersText sub containers).isSome
  nodeSelectorText_injective : nodeSelectorText.Injective
  tolerationsText_injective : tolerationsText.Injective
  affinity_shown : ∀ affinity, ∃ sub, (affinityText sub affinity).isSome
  constraints_shown : ∀ constraints, constraints ≠ [] → ∃ sub, (constraintsText sub constraints).isSome

/-- A specification is placed on the tenant's pool, by nothing but what `place` wrote. -/
structure PodSpec.Placed (pools : NodePools) (tid : String) (spec : PodSpec) : Prop where
  nodeSelector : spec.nodeSelector =
    (∅ : StringMap).insert pools.nodePoolLabelKey (pools.nodePoolFor tid)
  tolerations : spec.tolerations = poolTolerations pools (pools.nodePoolFor tid)
  schedulerName : spec.schedulerName = pools.tenantSchedulerName
  affinity : spec.affinity = none
  topologySpreadConstraints : spec.topologySpreadConstraints = []
  nodeName : spec.nodeName = ""

namespace TemplateSchema

variable (P : TemplateSchema)

def leafOf (spec : PodSpec) : PlacementLeaf → Option String
  | .containers sub => P.containersText sub spec.containers
  | .nodeSelector =>
    if spec.nodeSelector.isEmpty then none else some (P.nodeSelectorText spec.nodeSelector)
  | .tolerations => if spec.tolerations = [] then none else some (P.tolerationsText spec.tolerations)
  | .schedulerName => if spec.schedulerName = "" then none else some spec.schedulerName
  | .affinity sub => spec.affinity.bind (P.affinityText sub)
  | .topologySpreadConstraints sub =>
    if spec.topologySpreadConstraints = [] then none
    else P.constraintsText sub spec.topologySpreadConstraints
  | .nodeName => if spec.nodeName = "" then none else some spec.nodeName

def Renders (template : Option PodSpec) (o : Object Fields) : Prop :=
  ∀ l, o.field (P.path l) = template.bind fun spec => P.leafOf spec l

def Shows (w : Workload) (o : Object Fields) : Prop :=
  ∃ template, w.podSpecOf = .ok template ∧ P.Renders template o

def Tracked (p : String) : Prop := ∃ l, p = P.path l

def StoresPlaced (pools : NodePools) (tid : String) (o : Object Fields) : Prop :=
  (∃ template, P.Renders template o) ∧
    ∀ template, P.Renders template o → ∀ spec, template = some spec → spec.Placed pools tid

structure Serves (c : Contract) (pools : NodePools) (dnsFor : TenantDNSFunc)
    (tp : TenantProxy Fields) : Prop where
  forward : ∀ obj t up, tp.convertTenantObjectToUpstreamObject obj t = .ok up →
    ∃ o o', (podTransformer c pools dnsFor).forward o t = .ok o' ∧ o.body.spec.isPod = false ∧
      P.Shows o.body.spec obj ∧ P.Shows o'.body.spec up
  backward : ∀ obj t b shown, tp.convertor.convertUpstreamObjectToTenantObject obj t b = .ok shown →
    ∃ o o', (podTransformer c pools dnsFor).backward o t = .ok o' ∧
      P.Shows o.body.spec obj ∧ P.Shows o'.body.spec shown

end TemplateSchema

section

variable {c : Contract} {pools : NodePools} {dnsFor : TenantDNSFunc} {tid : String}

lemma projectIn_keeps (tenantNamespace : String) (spec : PodSpec) :
    ∃ volumes, projectIn tenantNamespace spec = { spec with volumes := volumes } := by
  unfold projectIn projectVolumes
  split_ifs
  · exact ⟨spec.volumes, rfl⟩
  · exact ⟨spec.volumes, rfl⟩
  · exact ⟨_, rfl⟩
  · exact ⟨_, rfl⟩

lemma setTenantDNS_keeps (tenantNamespace : String) (spec : PodSpec) :
    ∃ dnsPolicy dnsConfig, setTenantDNS dnsFor tenantNamespace tid spec =
      { spec with dnsPolicy := dnsPolicy, dnsConfig := dnsConfig } := by
  unfold setTenantDNS
  split
  · exact ⟨spec.dnsPolicy, spec.dnsConfig, rfl⟩
  · split_ifs
    · exact ⟨spec.dnsPolicy, spec.dnsConfig, rfl⟩
    · exact ⟨_, _, rfl⟩

lemma preparedSpec_placed (ns : String) (spec : PodSpec) :
    (preparedSpec c pools dnsFor tid ns spec).Placed pools tid ∧
      (preparedSpec c pools dnsFor tid ns spec).containers = spec.containers := by
  rw [preparedSpec]
  obtain ⟨volumes, hvolumes⟩ := projectIn_keeps (c.trimTenantIDPrefix tid ns)
    { place pools tid spec with nodeName := "" }
  obtain ⟨dnsPolicy, dnsConfig, hdns⟩ := @setTenantDNS_keeps dnsFor tid
    (c.trimTenantIDPrefix tid ns)
    (projectIn (c.trimTenantIDPrefix tid ns) { place pools tid spec with nodeName := "" })
  rw [hdns, hvolumes]
  exact ⟨⟨rfl, rfl, rfl, rfl, rfl, rfl⟩, rfl⟩

namespace TemplateSchema

variable {P : TemplateSchema} {template template' : Option PodSpec} {o o' : Object Fields}

lemma leafOf_placed {spec spec' : PodSpec} (h : spec.Placed pools tid)
    (h' : spec'.Placed pools tid) {l : PlacementLeaf} (hl : ∀ sub, l ≠ .containers sub) :
    P.leafOf spec l = P.leafOf spec' l := by
  cases l with
  | containers sub => exact absurd rfl (hl sub)
  | nodeSelector => rw [leafOf, leafOf, h.nodeSelector, h'.nodeSelector]
  | tolerations => rw [leafOf, leafOf, h.tolerations, h'.tolerations]
  | schedulerName => rw [leafOf, leafOf, h.schedulerName, h'.schedulerName]
  | affinity sub => rw [leafOf, leafOf, h.affinity, h'.affinity]
  | topologySpreadConstraints sub =>
    rw [leafOf, leafOf, h.topologySpreadConstraints, h'.topologySpreadConstraints]
  | nodeName => rw [leafOf, leafOf, h.nodeName, h'.nodeName]

lemma Renders.placed (h : P.Renders template o) (h' : P.Renders template' o)
    (hplaced : ∀ spec, template' = some spec → spec.Placed pools tid) :
    ∀ spec, template = some spec → spec.Placed pools tid := by
  rintro spec rfl
  have hleaf : ∀ l, (template'.bind fun spec' => P.leafOf spec' l) = P.leafOf spec l := by
    intro l
    rw [← h' l, h l, Option.bind_some]
  cases template' with
  | none =>
    obtain ⟨sub, hsub⟩ := P.containers_shown spec.containers
    have hnone := hleaf (.containers sub)
    rw [leafOf] at hnone
    rw [← hnone] at hsub
    cases hsub
  | some spec' =>
    obtain ⟨hselector, htolerations, hscheduler, haffinity, hconstraints, hnode⟩ := hplaced spec' rfl
    simp only [Option.bind_some] at hleaf
    refine ⟨?_, ?_, ?_, ?_, ?_, ?_⟩
    · have hsame := hleaf .nodeSelector
      have hne : spec'.nodeSelector.isEmpty = false := by
        rw [hselector]
        simp
      simp only [leafOf, hne, Bool.false_eq_true, if_false] at hsame
      split_ifs at hsame
      rw [← P.nodeSelectorText_injective (Option.some.inj hsame), hselector]
    · have hsame := hleaf .tolerations
      simp only [leafOf, htolerations, poolTolerations, reduceCtorEq, if_false] at hsame
      split_ifs at hsame
      exact (P.tolerationsText_injective (Option.some.inj hsame)).symm
    · have hsame := hleaf .schedulerName
      simp only [leafOf, hscheduler] at hsame
      split_ifs at hsame with hempty hempty' hempty'
      · rw [hempty', hempty]
      · exact (Option.some.inj hsame).symm
    · cases haff : spec.affinity with
      | none => rfl
      | some affinity =>
        obtain ⟨sub, hsub⟩ := P.affinity_shown affinity
        have hsame := hleaf (.affinity sub)
        rw [leafOf, leafOf, haffinity, haff, Option.bind_some] at hsame
        rw [← hsame] at hsub
        cases hsub
    · by_contra hne
      obtain ⟨sub, hsub⟩ := P.constraints_shown spec.topologySpreadConstraints hne
      have hsame := hleaf (.topologySpreadConstraints sub)
      rw [leafOf, leafOf, if_pos hconstraints, if_neg hne] at hsame
      rw [← hsame] at hsub
      cases hsub
    · by_contra hne
      have hsame := hleaf .nodeName
      rw [leafOf, leafOf, if_pos hnode, if_neg hne] at hsame
      cases hsame

lemma StoresPlaced.of_renders (h : P.Renders template o)
    (hplaced : ∀ spec, template = some spec → spec.Placed pools tid) :
    P.StoresPlaced pools tid o :=
  ⟨⟨template, h⟩, fun _ h' => h'.placed h hplaced⟩

lemma StoresPlaced.congr (h : ∀ p, P.Tracked p → o'.field p = o.field p)
    (ho : P.StoresPlaced pools tid o) : P.StoresPlaced pools tid o' := by
  obtain ⟨⟨template, hleaves⟩, hplaced⟩ := ho
  have hrenders : P.Renders template o' := fun l => by rw [h _ ⟨l, rfl⟩, hleaves]
  exact .of_renders hrenders (hplaced template hleaves)

variable {obj up : Object Fields} {tp : TenantProxy Fields}

lemma Serves.sent (hserves : P.Serves c pools dnsFor tp)
    (hup : tp.convertTenantObjectToUpstreamObject obj tid = .ok up) :
    ∃ template ns, P.Renders template obj ∧
      P.Renders (template.map (preparedSpec c pools dnsFor tid ns)) up := by
  obtain ⟨x, x', hforward, hpod, ⟨template, htemplate, hobj⟩, sent, hsent, hup⟩ :=
    hserves.forward obj tid up hup
  have hspec := podTransformer_forward_ok hforward
  rw [hpod, if_neg Bool.false_ne_true] at hspec
  rw [hspec, Workload.podSpecOf_mapPodSpec, htemplate] at hsent
  obtain rfl := Except.ok.inj hsent
  exact ⟨template, _, hobj, hup⟩

lemma Serves.seen (hserves : P.Serves c pools dnsFor tp) {shown : Object Fields} {b : Bool}
    (hshown : tp.convertor.convertUpstreamObjectToTenantObject obj tid b = .ok shown)
    (l : PlacementLeaf) : shown.field (P.path l) = obj.field (P.path l) := by
  obtain ⟨x, x', hbackward, ⟨template, htemplate, hobj⟩, template', htemplate', hshown⟩ :=
    hserves.backward obj tid b shown hshown
  rw [podTransformer_backward_ok hbackward, htemplate] at htemplate'
  obtain rfl := Except.ok.inj htemplate'
  rw [hshown l, hobj l]

lemma Serves.storesPlaced (hserves : P.Serves c pools dnsFor tp) {S : Store Fields}
    (hS : S.All (P.StoresPlaced pools tid))
    (hup : tp.convertTenantObjectToUpstreamObject obj tid = .ok up)
    (hwrote : tp.WroteFields P.Tracked S tid obj up o) : P.StoresPlaced pools tid o := by
  obtain ⟨template, ns, hobj, hsent⟩ := hserves.sent hup
  have hup' : P.StoresPlaced pools tid up := by
    refine .of_renders hsent fun spec' hspec' => ?_
    obtain ⟨spec, -, rfl⟩ := Option.map_eq_some_iff.mp hspec'
    exact (preparedSpec_placed ns spec).1
  cases hwrote with
  | whole h => exact hup'.congr h
  | relayed ns' name stored output shown hstored houtput hshown hexact hpresent =>
    refine hup'.congr ?_
    rintro _ ⟨l, rfl⟩
    refine hexact _ ⟨l, rfl⟩ (hserves.seen hshown l) fun hnone => ?_
    rw [hsent l] at hnone
    rw [hobj l]
    cases template with
    | none => exact .inl rfl
    | some spec =>
      rw [Option.map_some, Option.bind_some] at hnone
      obtain ⟨hplaced, hcontainers⟩ := @preparedSpec_placed c pools dnsFor tid ns spec
      by_cases hl : ∃ sub, l = .containers sub
      · obtain ⟨sub, rfl⟩ := hl
        rw [leafOf, hcontainers] at hnone
        exact .inl hnone
      · -- A leaf that `place` leaves out is stored by no write.
        obtain ⟨⟨template₀, hleaves⟩, hall⟩ := hS ns' name stored hstored
        rw [hleaves l]
        right
        cases template₀ with
        | none => rfl
        | some spec₀ =>
          rw [Option.bind_some, leafOf_placed (hall _ hleaves spec₀ rfl) hplaced
            (fun sub h => hl ⟨sub, h⟩)]
          exact hnone

end TemplateSchema

end

def mapCode : PrefixCode StringMap :=
  (string.prod .string).list.comap (fun m => m.toList) fun m m' h => by
    have hlist : m.toList = m'.toList := h
    refine Std.ExtTreeMap.ext_getElem? fun k => Option.ext fun v => ?_
    rw [← Std.ExtTreeMap.mem_toList_iff_getElem?_eq_some, hlist,
      Std.ExtTreeMap.mem_toList_iff_getElem?_eq_some]

def leafMap {L : Type} (path : L → String) (value : L → Option String) : List L → StringMap
  | [] => ∅
  | l :: ls =>
    match value l with
    | none => leafMap path value ls
    | some v => (leafMap path value ls).insert (path l) v

lemma getElem?_leafMap {L : Type} {path : L → String} (hpath : path.Injective)
    {value : L → Option String} {ls : List L} {l : L} (hl : value l ≠ none → l ∈ ls) :
    (leafMap path value ls)[path l]? = value l := by
  have hmem : ∀ ls : List L, l ∉ ls → (leafMap path value ls)[path l]? = none := by
    intro ls hls
    induction ls with
    | nil => rfl
    | cons l₀ ls ih =>
      obtain ⟨hne, htail⟩ := not_or.mp (mt List.mem_cons.mpr hls)
      rw [leafMap]
      split
      · exact ih htail
      · rw [getElem?_insert_string, if_neg fun h => hne (hpath h).symm]
        exact ih htail
  induction ls with
  | nil =>
    have hnone : value l = none := by
      by_contra h
      cases hl h
    rw [hnone]
    rfl
  | cons l₀ ls ih =>
    rw [leafMap]
    by_cases heq : l₀ = l
    · subst heq
      split
      · next hnone =>
        rw [hnone]
        by_cases hls : l₀ ∈ ls
        · rw [ih fun _ => hls, hnone]
        · exact hmem ls hls
      · next v hv => rw [getElem?_insert_string, if_pos rfl, hv]
    · have htail : value l ≠ none → l ∈ ls := by
        intro h
        rcases List.mem_cons.mp (hl h) with rfl | hls
        · exact absurd rfl heq
        · exact hls
      split
      · exact ih htail
      · rw [getElem?_insert_string, if_neg fun h => heq (hpath h)]
        exact ih htail

def leafProxy (resource : String) (namespaceScoped : Bool)
    (forward backward : String → StringMap → Except GoError StringMap) : TenantProxy Fields where
  kind := { version := "v1" }
  resource := resource
  namespaceScoped := namespaceScoped
  contract := dashContract
  convertor := {
    convertTenantObjectToUpstreamObject := fun o t _ =>
      (forward t o.body.fields).map fun fields =>
        { o with
          metadata := { o.metadata with
            name := if namespaceScoped then o.metadata.name else t ++ "-" ++ o.metadata.name }
          body := { o.body with fields := fields } }
    convertUpstreamObjectToTenantObject := fun o t _ =>
      (backward t o.body.fields).map fun fields => { o with body := { o.body with fields := fields } } }

lemma keepsFields_leafProxy (resource : String) (namespaceScoped : Bool)
    (forward backward : String → StringMap → Except GoError StringMap) (T : String → Prop) :
    (leafProxy resource namespaceScoped forward backward).KeepsFields .permissive noPod
      { body := {} } readsAll T where
  typed := rfl
  subresource := rfl
  forward obj t up h := by
    obtain ⟨fields, -, rfl⟩ := map_eq_ok_iff.mp h
    exact ⟨rfl, rfl⟩
  backward obj t b shown h := by
    obtain ⟨fields, -, rfl⟩ := map_eq_ok_iff.mp h
    rfl
  toVersioned obj body h := by
    rw [← Except.ok.inj h]
    exact ⟨rfl, fun p _ => rfl⟩
  fromVersioned obj body h := by
    rw [← Except.ok.inj h]
    exact ⟨rfl, fun p _ => rfl⟩
  notService obj old obj' h := (Except.ok.inj h).symm
  notPod body := rfl
  newFields p _ := rfl
  injectedPaths := rfl

variable {o : Object Fields}

lemma finishWrite_leafProxy_error {resource : String} {namespaceScoped : Bool}
    {forward backward : String → StringMap → Except GoError StringMap} {ctx : RequestContext}
    {t : String} {e : GoError}
    (h : (leafProxy resource namespaceScoped forward backward).forUpdate.finishWrite ctx t o =
      .error e) : backward t o.body.fields = .error e := by
  change ((backward t o.body.fields).map _ >>= fun obj => Except.ok _) = Except.error e at h
  cases hread : backward t o.body.fields with
  | error e' =>
    rw [hread] at h
    exact congrArg _ (Except.error.inj h)
  | ok fields =>
    rw [hread] at h
    cases h

def unreadable : GoError := .plain "no kind is registered for the object"

def convertLeaves {σ : Type} (leaves : σ → StringMap) (known : List σ) (f : σ → Except GoError σ)
    (fields : StringMap) : Except GoError StringMap :=
  match known.find? fun x => decide (fields = leaves x) with
  | none => .error unreadable
  | some x => (f x).map leaves

lemma convertLeaves_ok {σ : Type} {leaves : σ → StringMap} {known : List σ}
    {f : σ → Except GoError σ} {fields fields' : StringMap}
    (h : convertLeaves leaves known f fields = .ok fields') :
    ∃ x y, fields = leaves x ∧ f x = .ok y ∧ fields' = leaves y := by
  unfold convertLeaves at h
  split at h
  · cases h
  · next x hx =>
    obtain ⟨y, hy, rfl⟩ := map_eq_ok_iff.mp h
    exact ⟨x, y, by simpa using List.find?_some hx, hy, rfl⟩

def leafKind {σ : Type} (leaves : σ → StringMap) (known : List σ)
    (forward backward : String → σ → Except GoError σ)
    (hbackward : ∀ t x e, backward t x = .error e → e.isNotFound = false) (resource : String)
    (namespaceScoped : Bool) (T : String → Prop) : RelayedKind T where
  tp := leafProxy resource namespaceScoped (fun t => convertLeaves leaves known (forward t))
    fun t => convertLeaves leaves known (backward t)
  g := .permissive
  pods := noPod
  new := { body := {} }
  settings := readsAll
  srv := (leafProxy resource namespaceScoped (fun t => convertLeaves leaves known (forward t))
    fun t => convertLeaves leaves known (backward t)).applyingServer readsAll
  keeps := keepsFields_leafProxy _ _ _ _ T
  stores := by
    refine TenantProxy.storesFields_applyingServer rfl ?_ T
    intro ctx t o e h
    have hconvert := finishWrite_leafProxy_error h
    unfold convertLeaves at hconvert
    split at hconvert
    · rw [← Except.error.inj hconvert]
      rfl
    · next x _ =>
      cases hx : backward t x with
      | error e' =>
        rw [hx] at hconvert
        rw [← Except.error.inj hconvert]
        exact hbackward t x e' hx
      | ok y =>
        rw [hx] at hconvert
        cases hconvert

def WebhookLeaf.letter : WebhookLeaf → Char
  | .name => 'n'
  | .url => 'u'
  | .serviceNamespace => 's'
  | .namespaceSelector => 'l'
  | .rules => 'r'

lemma WebhookLeaf.letter_injective : WebhookLeaf.letter.Injective := by
  intro l l' h
  cases l <;> cases l' <;> first | rfl | cases h

def textualWebhooks : WebhookSchema where
  path name l := (string.prod .char).text (name, l.letter)
  selectorText := (mapCode.comap LabelSelector.matchLabels fun a b h => by
    cases a
    cases b
    exact congrArg _ h).text
  rulesText := (string.option.comap WebhookRule.scope fun a b h => by
    cases a
    cases b
    exact congrArg _ h).list.text
  selectorText_injective := text_injective _
  rulesText_injective := text_injective _

def webhookLeaves (w : Webhook) : StringMap :=
  leafMap (fun x => textualWebhooks.path x.1 x.2)
    (fun x => if x.1 = w.name then textualWebhooks.leafOf w x.2 else none)
    [(w.name, .name), (w.name, .url), (w.name, .serviceNamespace), (w.name, .namespaceSelector),
      (w.name, .rules)]

lemma renders_webhookLeaves {w : Webhook} (h : o.body.fields = webhookLeaves w) :
    textualWebhooks.Renders { webhooks := [w] } o := by
  refine ⟨List.nodup_singleton _, fun name l => ?_⟩
  have hpath : (fun x : String × WebhookLeaf => textualWebhooks.path x.1 x.2).Injective := by
    intro x y h
    obtain ⟨hname, hletter⟩ := Prod.mk.inj (text_injective _ h)
    exact Prod.ext hname (WebhookLeaf.letter_injective hletter)
  rw [Object.field, h]
  refine (getElem?_leafMap hpath (l := (name, l)) ?_).trans ?_
  · intro hvalue
    by_cases hname : name = w.name
    · subst hname
      cases l <;> simp
    · rw [if_neg hname] at hvalue
      exact absurd rfl hvalue
  · rw [WebhookSchema.leaf]
    by_cases hname : name = w.name
    · subst hname
      simp
    · simp [hname, Ne.symm hname]

def webhookKind (known : List Webhook) : RelayedKind textualWebhooks.Tracked :=
  leafKind webhookLeaves known (forwardWebhook dashContract) (backwardWebhook dashContract)
    (fun _ _ _ h => nomatch h) "validatingwebhookconfigurations" false _

lemma serves_webhookKind (known : List Webhook) :
    textualWebhooks.Serves dashContract (webhookKind known).tp where
  forward obj t up h := by
    obtain ⟨fields, hfields, rfl⟩ := map_eq_ok_iff.mp h
    obtain ⟨w, w', hw, hconvert, rfl⟩ := convertLeaves_ok hfields
    refine ⟨{ body := { spec := { webhooks := [w] } } }, { body := { spec := { webhooks := [w'] } } },
      ?_, renders_webhookLeaves hw, renders_webhookLeaves rfl⟩
    simp only [webhookConfigurationTransformer, webhookConfigurationView, webhookView,
      List.mapM_cons, List.mapM_nil, hconvert]
    rfl
  backward obj t b shown h := by
    obtain ⟨fields, hfields, rfl⟩ := map_eq_ok_iff.mp h
    obtain ⟨w, w', hw, hconvert, rfl⟩ := convertLeaves_ok hfields
    refine ⟨{ body := { spec := { webhooks := [w] } } }, { body := { spec := { webhooks := [w'] } } },
      ?_, renders_webhookLeaves hw, renders_webhookLeaves rfl⟩
    simp only [webhookConfigurationTransformer, webhookConfigurationView, webhookView,
      List.mapM_cons, List.mapM_nil, hconvert]
    rfl

def PlacementLeaf.code : PlacementLeaf → Char × String
  | .containers sub => ('c', sub)
  | .nodeSelector => ('s', "")
  | .tolerations => ('t', "")
  | .schedulerName => ('e', "")
  | .affinity sub => ('a', sub)
  | .topologySpreadConstraints sub => ('o', sub)
  | .nodeName => ('n', "")

lemma PlacementLeaf.code_injective : PlacementLeaf.code.Injective := by
  intro l l' h
  cases l <;> cases l' <;> simp_all [PlacementLeaf.code]

def textualTemplates : TemplateSchema where
  path l := (char.prod .string).text l.code
  containersText sub containers :=
    if sub = "" then some (string.list.text (containers.map Container.name)) else none
  nodeSelectorText := mapCode.text
  tolerationsText := ((string.prod (string.prod (string.prod
    (string.prod int.option)))).comap
      (fun t : Toleration => (t.key, t.operator, t.value, t.effect, t.tolerationSeconds))
      fun a b h => by
        cases a
        cases b
        simp only [Prod.mk.injEq] at h
        simp [h]).list.text
  affinityText sub affinity := if sub = "" then some affinity else none
  constraintsText sub constraints :=
    if sub = "" then some (string.list.text constraints) else none
  containers_shown _ := ⟨"", rfl⟩
  nodeSelectorText_injective := text_injective _
  tolerationsText_injective := text_injective _
  affinity_shown _ := ⟨"", rfl⟩
  constraints_shown _ _ := ⟨"", rfl⟩

def templateLeaves (spec : PodSpec) : StringMap :=
  leafMap textualTemplates.path (textualTemplates.leafOf spec)
    [.containers "", .nodeSelector, .tolerations, .schedulerName, .affinity "",
      .topologySpreadConstraints "", .nodeName]

lemma renders_templateLeaves {spec : PodSpec} (h : o.body.fields = templateLeaves spec) :
    textualTemplates.Renders (some spec) o := by
  intro l
  have hpath : textualTemplates.path.Injective := fun l l' h =>
    PlacementLeaf.code_injective (text_injective _ h)
  rw [Object.field, h]
  refine getElem?_leafMap hpath ?_
  intro hvalue
  cases l with
  | containers sub =>
    by_cases hsub : sub = ""
    · simp [hsub]
    · exact absurd (if_neg hsub) hvalue
  | affinity sub =>
    by_cases hsub : sub = ""
    · simp [hsub]
    · refine absurd ?_ hvalue
      cases haff : spec.affinity with
      | none => simp [TemplateSchema.leafOf, haff]
      | some affinity => simp [TemplateSchema.leafOf, textualTemplates, hsub]
  | topologySpreadConstraints sub =>
    by_cases hsub : sub = ""
    · simp [hsub]
    · refine absurd ?_ hvalue
      simp [TemplateSchema.leafOf, textualTemplates, hsub]
  | _ => simp

def tenantPools : NodePools where
  nodePoolFor tid := tid
  nodePoolLabelKey := "pool"
  unreachableTolerationSeconds := 5
  tenantSchedulerName := "tenants"

def templateKind (known : List PodSpec) : RelayedKind textualTemplates.Tracked :=
  leafKind templateLeaves known
    (fun t spec => .ok (preparedSpec dashContract tenantPools none t "" spec)) (fun _ spec => .ok spec)
    (fun _ _ _ h => nomatch h) "deployments" true _

lemma serves_templateKind (known : List PodSpec) :
    textualTemplates.Serves dashContract tenantPools none (templateKind known).tp where
  forward obj t up h := by
    obtain ⟨fields, hfields, rfl⟩ := map_eq_ok_iff.mp h
    obtain ⟨spec, spec', hspec, hconvert, rfl⟩ := convertLeaves_ok hfields
    refine ⟨{ body := { spec := .deployment spec } },
      { body := { spec := .deployment spec' } }, ?_, rfl,
      ⟨some spec, rfl, renders_templateLeaves hspec⟩, some spec', rfl, renders_templateLeaves rfl⟩
    rw [← Except.ok.inj hconvert]
    rfl
  backward obj t b shown h := by
    obtain ⟨fields, hfields, rfl⟩ := map_eq_ok_iff.mp h
    obtain ⟨spec, spec', hspec, hconvert, rfl⟩ := convertLeaves_ok hfields
    obtain rfl := Except.ok.inj hconvert
    exact ⟨{ body := { spec := .deployment spec } }, { body := { spec := .deployment spec } }, rfl,
      ⟨some spec, rfl, renders_templateLeaves hspec⟩, some spec, rfl, renders_templateLeaves rfl⟩

def greedyWebhook : Webhook where
  name := "check.shop"
  clientConfig := { serviceNamespace := some "prod" }
  namespaceSelector := some {}
  rules := [{ scope := some "*" }]

def greedyTemplate : PodSpec where
  containers := [{ name := "web" }]
  nodeSelector := (∅ : StringMap).insert "kubernetes.io/os" "linux"
  schedulerName := "mine"
  affinity := some "near the control plane"
  nodeName := "control-plane"

def confinedWebhook : Webhook where
  name := "check.shop"
  clientConfig := { serviceNamespace := some "111111-prod" }
  namespaceSelector := some (tenantNamespaceSelector "111111")
  rules := [{ scope := some "Namespaced" }]

def placedTemplate : PodSpec := preparedSpec dashContract tenantPools none "111111" "" greedyTemplate

def leafApply (fields : StringMap) (manager : String) : NamespaceApply where
  ctx := { tenantID := some "111111",
           requestInfo := some { verb := "patch", «namespace» := "prod", name := "shop" },
           isApplyPatch := true }
  name := "shop"
  fieldManager := manager
  config := { fields := fields }

def threeApplies (fields : StringMap) : List NamespaceApply :=
  [leafApply fields "kubectl", leafApply fields "argocd", leafApply fields "kubectl"]

lemma threeApplies_of (fields : StringMap) :
    ∀ a ∈ threeApplies fields, a.ctx.tenantID = some "111111" ∧ a.fieldManager ≠ "" := by
  simp [threeApplies, leafApply]

def storedWebhooks : Store Fields :=
  (webhookKind [greedyWebhook, confinedWebhook]).applied (threeApplies (webhookLeaves greedyWebhook))

def storedTemplates : Store Fields :=
  (templateKind [greedyTemplate, placedTemplate]).applied
    (threeApplies (templateLeaves greedyTemplate))

end KubeZoo
