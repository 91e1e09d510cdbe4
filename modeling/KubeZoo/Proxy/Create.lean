import KubeZoo.Convert.Namespace
import KubeZoo.Convert.Workload
import KubeZoo.Proxy.Write

/-! # Create -/

namespace KubeZoo

open HiddenMetadata

variable {β : Type}

/-- What `Create` does to a live pod: its placement, the volume its service account is read from,
its resolver, and the refusal of an inline volume. -/
structure PodSteps (β : Type) where
  isPod : β → Bool
  place : β → String → β
  projectVolume : β → β
  setDNS : Object β → String → β
  refuseInlineCSIVolume : Object β → Except GoError Unit

inductive Sent (β : Type)
  | apply (utd : Object β)
  | create (utd : Object β)
  | createSubresource (name : String) (utd : Object β)

def Sent.object : Sent β → Object β
  | .apply utd => utd
  | .create utd => utd
  | .createSubresource _ utd => utd

namespace TenantProxy

variable (tp : TenantProxy β) (g : Guards β) (pods : PodSteps β)

def projectPodNamespace (obj : Object β) (tid : String) : Object β :=
  let tenantNamespace := tp.contract.trimTenantIDPrefix tid obj.metadata.namespace
  if tenantNamespace = "" then obj
  else
    { obj with
      metadata := { obj.metadata with
        annotations := obj.metadata.annotations.insert tenantNamespaceAnnotationKey tenantNamespace }
      body := pods.projectVolume obj.body }

def upstreamForm (obj : Object β) (tid : String) : Except GoError (Object β) := do
  let obj ← tp.convertTenantObjectToUpstreamObject obj tid
  if pods.isPod obj.body ∧ tp.subresource = "" then
    let obj := { obj with body := pods.place obj.body tid }
    let obj := tp.projectPodNamespace pods obj tid
    let obj := { obj with body := pods.setDNS obj tid }
    pods.refuseInlineCSIVolume obj
    return obj
  else return obj

/-- The guards of a create, in their order; `obj` is the request's object and `utd` what is sent.
What is stored there is nothing of. -/
def guardCreate (ctx : RequestContext) (tid : String) (obj : Object β) (utd : Utd β) :
    Except GoError (Object β) := do
  tp.refuseReservedName tid (utd.read obj).metadata.name
  tp.refuseProjectedName (utd.read obj).metadata.name
  tp.refuseProjectedLabel (utd.read obj)
  g.refuseInlineCSIVolume obj
  g.refuseUnpublishedSnapshotClass obj
  g.refusePreProvisionedSnapshot obj
  g.refuseUnpublishedStorageClass obj
  g.refuseUnpublishedVolumeAttributesClass obj none
  g.refuseTenantChosenNode obj
  g.refuseTenantBinding obj
  let obj := restore tp.hiddenMetadata obj none
  g.refuseTooManyNamespaces ctx obj tid
  g.refuseTooManyCRDs ctx obj tid
  g.refuseExternalNameService obj
  g.refuseForgedEndpointAddress ctx obj
  g.refuseUnpublishedEphemeralClasses obj none
  g.refuseProbeHost obj
  g.refuseNewExternalIPs obj none
  g.refuseNodePorts obj none
  let obj ← g.refuseForeignClusterIP obj none
  g.refuseUnpublishedDeviceClass obj
  g.refusePlatformQuotaWrite obj
  return obj

/-- `Create` up to the point where something is sent: the tenant, the object as it stood before
conversion, and what is sent. -/
def prepareCreate (ctx : RequestContext) (obj : Object β) :
    Except GoError (String × Option (Object β) × Object β) := do
  if !tp.newFunc then
    throw (.plain "newFunc is nil")
  match ctx.tenantID with
  | none => throw (.plain "tanentID doesn't exist in context")
  | some tid =>
    let tenantForm ← tp.snapshot ctx obj
    let obj ← tp.upstreamForm pods obj tid
    let utd ← tp.toUtd obj
    let obj ← tp.guardCreate g ctx tid obj utd
    return (tid, tenantForm, utd.read obj)

def sendCreate (client : WriteClient β) (ctx : RequestContext) (options : WriteOptions)
    (tid : String) (utd : Object β) : List (Sent β) × Except GoError (Object β) :=
  let finish := fun (got : Except GoError (Object β)) =>
    (got.mapError fun e => tp.contract.trimTenantIDFromError e tid).bind (tp.finishWrite ctx tid)
  match tp.getClient ctx with
  | .error e => ([], .error e)
  | .ok ns =>
    if tp.subresource = "" then ([.create utd], finish (client.create ns utd options))
    else
      match ctx.requestInfo with
      | none =>
        ([], .error (.plain ("no request info in context, cannot address subresource " ++
          quoted tp.subresource)))
      | some info =>
        let name := if !tp.namespaceScoped then
          tp.contract.convertTenantObjectNameToUpstream info.name tid tp.kind else info.name
        ([.createSubresource name utd],
          finish (client.createSubresource ns name utd options tp.subresource))

/-- `tenantProxy.Create`, with what it hands to upstream. -/
def create (client : WriteClient β) (ctx : RequestContext) (obj : Object β)
    (options : WriteOptions) : List (Sent β) × Except GoError (Object β) :=
  match tp.prepareCreate g pods ctx obj with
  | .error e => ([], .error e)
  | .ok (tid, tenantForm, utd) =>
    if tp.subresource = "" ∧ options.fieldManager ≠ "" then
      match client.forwardApply ctx utd tenantForm options.fieldManager options with
      | .error e => ([.apply utd], .error (tp.contract.trimTenantIDFromError e tid))
      | .ok (some applied) => ([.apply utd], tp.finishWrite ctx tid applied)
      | .ok none =>
        let (sent, result) := tp.sendCreate client ctx options tid utd
        (.apply utd :: sent, result)
    else tp.sendCreate client ctx options tid utd

structure Stamps (labels annotations : String → Object β → StringMap) : Prop where
  labels : ∀ tid obj up, tp.upstreamForm pods obj tid = .ok up →
    ∀ k, hides tp.hiddenMetadata k = true →
      up.metadata.labels[k]? = (labels tid obj)[k]?.or obj.metadata.labels[k]?
  annotations : ∀ tid obj up, tp.upstreamForm pods obj tid = .ok up →
    ∀ k, hides tp.hiddenMetadata k = true →
      up.metadata.annotations[k]? = (annotations tid obj)[k]?.or obj.metadata.annotations[k]?

variable {tp g pods}

variable {obj utd : Object β} {tenantForm : Option (Object β)} {ctx : RequestContext}
  {tid : String}

variable {sent : Sent β} {client : WriteClient β} {options : WriteOptions}

lemma sent_sendCreate (h : sent ∈ (tp.sendCreate client ctx options tid utd).1) :
    sent.object = utd := by
  rw [sendCreate] at h
  cases hclient : tp.getClient ctx with
  | error e =>
    simp only [hclient, List.not_mem_nil] at h
  | ok ns =>
    simp only [hclient] at h
    by_cases hsub : tp.subresource = ""
    · simp only [if_pos hsub, List.mem_singleton] at h
      rw [h]
      rfl
    · simp only [if_neg hsub] at h
      cases hinfo : ctx.requestInfo with
      | none => simp only [hinfo, List.not_mem_nil] at h
      | some info =>
        simp only [hinfo, List.mem_singleton] at h
        rw [h]
        rfl

lemma sent_create (h : sent ∈ (tp.create g pods client ctx obj options).1) :
    ∃ tid tenantForm, tp.prepareCreate g pods ctx obj = .ok (tid, tenantForm, sent.object) := by
  rw [create] at h
  cases hprep : tp.prepareCreate g pods ctx obj with
  | error e => simp only [hprep, List.not_mem_nil] at h
  | ok r =>
    refine ⟨r.1, r.2.1, ?_⟩
    suffices hsent : sent.object = r.2.2 by rw [hsent]
    simp only [hprep] at h
    by_cases happly : tp.subresource = "" ∧ options.fieldManager ≠ ""
    · simp only [if_pos happly] at h
      cases hfwd : client.forwardApply ctx r.2.2 r.2.1 options.fieldManager options with
      | error e =>
        simp only [hfwd, List.mem_singleton] at h
        rw [h]
        rfl
      | ok applied =>
        cases applied with
        | some applied =>
          simp only [hfwd, List.mem_singleton] at h
          rw [h]
          rfl
        | none =>
          simp only [hfwd, List.mem_cons] at h
          rcases h with h | h
          · rw [h]
            rfl
          · exact sent_sendCreate h
    · simp only [if_neg happly] at h
      exact sent_sendCreate h

lemma prepareCreate_eq_ok_iff :
    tp.prepareCreate g pods ctx obj = .ok (tid, tenantForm, utd) ↔
      tp.newFunc = true ∧ ctx.tenantID = some tid ∧ tp.snapshot ctx obj = .ok tenantForm ∧
        ∃ up u guarded, tp.upstreamForm pods obj tid = .ok up ∧ tp.toUtd up = .ok u ∧
          tp.guardCreate g ctx tid up u = .ok guarded ∧ u.read guarded = utd := by
  rw [prepareCreate]
  by_cases hnew : tp.newFunc
  · cases htenant : ctx.tenantID with
    | none => simp [hnew]
    | some tenant =>
      simp only [hnew, Bool.not_true, Bool.false_eq_true, if_false, Except.bind_eq_ok_iff,
        true_and, Option.some.injEq]
      constructor
      · intro ⟨form, hform, up, hup, u, hu, guarded, hguarded, h⟩
        obtain ⟨rfl, rfl, rfl⟩ : tenant = tid ∧ form = tenantForm ∧ u.read guarded = utd := by
          simpa only [pure, Except.pure, Except.ok.injEq, Prod.mk.injEq] using h
        exact ⟨rfl, hform, up, u, guarded, hup, hu, hguarded, rfl⟩
      · intro ⟨htenant, hform, up, u, guarded, hup, hu, hguarded, hutd⟩
        subst htenant hutd
        exact ⟨tenantForm, hform, up, hup, u, hu, guarded, hguarded, rfl⟩
  · simp [hnew, bind, Except.bind]

lemma prepareCreate_ok (h : tp.prepareCreate g pods ctx obj = .ok (tid, tenantForm, utd)) :
    ctx.tenantID = some tid ∧ tp.snapshot ctx obj = .ok tenantForm ∧
      ∃ up u guarded, tp.upstreamForm pods obj tid = .ok up ∧ tp.toUtd up = .ok u ∧
        utd = u.read guarded := by
  obtain ⟨-, htenant, hform, up, u, guarded, hup, hu, -, hutd⟩ := prepareCreate_eq_ok_iff.mp h
  exact ⟨htenant, hform, up, u, guarded, hup, hu, hutd.symm⟩

lemma prepareCreate_copy (htyped : tp.unstructured = false)
    (h : tp.prepareCreate g pods ctx obj = .ok (tid, tenantForm, utd)) :
    ∃ up, tp.upstreamForm pods obj tid = .ok up ∧
      tp.convertInternalObjectToUnstructuredObject up = .ok utd := by
  obtain ⟨-, -, up, u, guarded, hup, hu, rfl⟩ := prepareCreate_ok h
  refine ⟨up, hup, ?_⟩
  -- The copy is made before the guards run on the request's object.
  rw [toUtd, if_neg (by simp [htyped]), Except.map_eq_ok_iff] at hu
  obtain ⟨copy, hcopy, rfl⟩ := hu
  exact hcopy

lemma metadata_of_versioned (h : tp.convertInternalObjectToUnstructuredObject obj = .ok utd) :
    utd.metadata = obj.metadata := by
  unfold convertInternalObjectToUnstructuredObject at h
  split_ifs at h
  · rw [← Except.ok.inj h]
  · obtain ⟨body, -, rfl⟩ := Except.map_eq_ok_iff.mp h
    rfl

lemma prepareCreate_typed (htyped : tp.unstructured = false)
    (h : tp.prepareCreate g pods ctx obj = .ok (tid, tenantForm, utd)) :
    ctx.tenantID = some tid ∧
      ∃ up, tp.upstreamForm pods obj tid = .ok up ∧ utd.metadata = up.metadata := by
  obtain ⟨up, hup, hcopy⟩ := prepareCreate_copy htyped h
  exact ⟨(prepareCreate_ok h).1, up, hup, metadata_of_versioned hcopy⟩

lemma upstreamForm_of_notPod (hpods : ∀ b, pods.isPod b = false) (obj : Object β) (tid : String) :
    tp.upstreamForm pods obj tid = tp.convertTenantObjectToUpstreamObject obj tid := by
  rw [upstreamForm]
  cases tp.convertTenantObjectToUpstreamObject obj tid with
  | error e => rfl
  | ok up => simp [bind, Except.bind, hpods, pure, Except.pure]

end TenantProxy

/-- What a create of a kind with a type of its own sends carries exactly the hidden keys the
conversion stamps, with the stamped values, if and only if the tenant put no other hidden key on
the object. -/
theorem create_sends_stamped_iff (tp : TenantProxy β) (htyped : tp.unstructured = false)
    (g : Guards β) (pods : PodSteps β) (labels annotations : String → Object β → StringMap)
    (hstamps : tp.Stamps pods labels annotations) (client : WriteClient β) (ctx : RequestContext)
    (tid : String) (htenant : ctx.tenantID = some tid) (obj : Object β)
    (options : WriteOptions) :
    ∀ sent ∈ (tp.create g pods client ctx obj options).1,
      (∀ k, hides tp.hiddenMetadata k = true →
        sent.object.metadata.labels[k]? = (labels tid obj)[k]? ∧
        sent.object.metadata.annotations[k]? = (annotations tid obj)[k]?) ↔
      ∀ k, hides tp.hiddenMetadata k = true →
        (k ∈ obj.metadata.labels → k ∈ labels tid obj) ∧
        (k ∈ obj.metadata.annotations → k ∈ annotations tid obj) := by
  intro sent hsent
  obtain ⟨tenant, form, hprep⟩ := TenantProxy.sent_create hsent
  obtain ⟨htenant', up, hup, hmeta⟩ := TenantProxy.prepareCreate_typed htyped hprep
  obtain rfl : tid = tenant := Option.some.inj (htenant.symm.trans htenant')
  -- A key is stamped, or is as the tenant wrote it.
  have hor : ∀ (stamped written : StringMap) (k : String),
      stamped[k]?.or written[k]? = stamped[k]? ↔ (k ∈ written → k ∈ stamped) := by
    intro stamped written k
    rw [Std.ExtTreeMap.mem_iff_isSome_getElem?, Std.ExtTreeMap.mem_iff_isSome_getElem?]
    cases stamped[k]? <;> cases written[k]? <;> simp
  refine forall_congr' fun k => forall_congr' fun hk => ?_
  rw [hmeta, hstamps.labels tid obj up hup k hk, hstamps.annotations tid obj up hup k hk, hor, hor]

def noPod : PodSteps β where
  isPod _ := false
  place b _ := b
  projectVolume b := b
  setDNS o _ := o.body
  refuseInlineCSIVolume _ := .ok ()

lemma stamps_namespaceForward {tp : TenantProxy β} {pods : PodSteps β}
    (hpods : ∀ b, pods.isPod b = false)
    (hconv : ∀ obj tid up, tp.convertTenantObjectToUpstreamObject obj tid = .ok up →
      ∃ renamed : Object β, renamed.metadata.labels = obj.metadata.labels ∧
        renamed.metadata.annotations = obj.metadata.annotations ∧
        namespaceForward tp.contract renamed tid = .ok up) :
    tp.Stamps pods (fun tid _ => namespaceLabels tp.contract tid) fun _ _ => ∅ := by
  constructor
  · intro tid obj up h k _
    rw [TenantProxy.upstreamForm_of_notPod hpods] at h
    obtain ⟨renamed, hlabels, -, hforward⟩ := hconv obj tid up h
    rw [namespaceForward_ok hforward, ← hlabels]
    exact getElem?_pinned _ tid k
  · intro tid obj up h k _
    rw [TenantProxy.upstreamForm_of_notPod hpods] at h
    obtain ⟨renamed, -, hannotations, hforward⟩ := hconv obj tid up h
    rw [namespaceForward_ok hforward, ← hannotations]
    simp

def plainNamespaces : TenantProxy Unit where
  kind := { version := "v1", kind := "Namespace" }
  resource := "namespaces"
  namespaceScoped := false
  hiddenMetadata := some platformHidden
  contract := dashContract
  convertor := { convertTenantObjectToUpstreamObject := fun o t _ => namespaceForward dashContract o t
                 convertUpstreamObjectToTenantObject := fun o _ _ => .ok o }

def plainConfigMaps : TenantProxy Unit where
  kind := { version := "v1", kind := "ConfigMap" }
  resource := "configmaps"
  namespaceScoped := true
  hiddenMetadata := some platformHidden
  contract := dashContract

def echoClient : WriteClient β where
  get _ _ _ := .error (.plain "not found")
  create _ utd _ := .ok utd
  createSubresource _ _ utd _ _ := .ok utd
  update _ utd _ _ := .ok (utd, false)
  forwardApply _ _ _ _ _ := .ok none

def webContext : RequestContext :=
  { tenantID := some "111111", requestInfo := some { «namespace» := "web" } }

theorem create_sends_stamped_namespace :
    (plainNamespaces.create .permissive noPod echoClient webContext
        { metadata := { name := "111111-web" }, body := () } {}).1.length = 1 ∧
    ∀ sent ∈ (plainNamespaces.create .permissive noPod echoClient webContext
        { metadata := { name := "111111-web" }, body := () } {}).1,
      (∀ k, hides (some platformHidden) k = true →
        sent.object.metadata.labels[k]? = (namespaceLabels dashContract "111111")[k]? ∧
        sent.object.metadata.annotations[k]? = (∅ : StringMap)[k]?) ↔
      ∀ k, hides (some platformHidden) k = true →
        (k ∈ (∅ : StringMap) → k ∈ namespaceLabels dashContract "111111") ∧
        (k ∈ (∅ : StringMap) → k ∈ (∅ : StringMap)) :=
  ⟨by decide +kernel, create_sends_stamped_iff plainNamespaces rfl .permissive noPod
    (fun tid _ => namespaceLabels dashContract tid) (fun _ _ => ∅)
    (stamps_namespaceForward (fun _ => rfl) fun obj _ _ h => ⟨obj, rfl, rfl, h⟩)
    echoClient webContext "111111" rfl { metadata := { name := "111111-web" }, body := () } {}⟩

def plantedConfigMap : Object Unit :=
  { metadata := { name := "settings", labels := (∅ : StringMap).insert "kubezoo.io/tenant" "222222" }
    body := () }

theorem create_sends_planted_label :
    plainConfigMaps.Stamps noPod (fun _ _ => ∅) (fun _ _ => ∅) ∧
    hides plainConfigMaps.hiddenMetadata "kubezoo.io/tenant" = true ∧
    ∃ sent ∈ (plainConfigMaps.create .permissive noPod echoClient webContext plantedConfigMap {}).1,
      sent.object.metadata.labels["kubezoo.io/tenant"]? = some "222222" := by
  refine ⟨⟨?_, ?_⟩, by decide +kernel, .create plantedConfigMap, ?_, by decide +kernel⟩
  · intro tid obj up h k _
    rw [← Except.ok.inj h]
    simp
  · intro tid obj up h k _
    rw [← Except.ok.inj h]
    simp
  · show Sent.create plantedConfigMap ∈ [Sent.create plantedConfigMap]
    exact List.mem_singleton_self _

end KubeZoo
