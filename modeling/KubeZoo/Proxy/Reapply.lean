import KubeZoo.Proxy.Apply
import KubeZoo.Proxy.Retry

/-! # Applying a namespace again -/

namespace KubeZoo

open Ownership HiddenMetadata

structure NamespaceApply where
  ctx : RequestContext
  name : String
  fieldManager : String
  config : Leaves

def NamespaceApply.request (a : NamespaceApply) : PatchRequest Fields where
  name := a.name
  objInfo :=
    { updatedObject := fun o =>
        let resolved := o.resolve a.fieldManager a.config
        .ok { resolved with metadata := { resolved.metadata with name := a.name } } }
  forceAllowCreate := true
  options := { fieldManager := a.fieldManager }

namespace Store

variable (S : Store Fields) (patch : ApplyPatch)

def applied : Object Fields :=
  ((S patch.ns patch.name).getD
    { metadata := { name := patch.name, «namespace» := patch.namespace }
      body := { apiVersion := patch.apiVersion, kind := patch.kind } }).resolve
    patch.fieldManager patch.leaves

def apply : Store Fields := fun ns name =>
  if ns = patch.ns ∧ name = patch.name then some (S.applied patch) else S ns name

end Store

namespace TenantProxy

variable (tp : TenantProxy Fields) (g : Guards Fields) (pods : PodSteps Fields)
  (new : Object Fields) (settings : ApplySettings)

def applying (S : Store Fields) : Upstream Fields :=
  { Upstream.ofStore (fun _ _ _ => false) S with
    forwardApply := tp.forwardApply settings fun patch => .ok (S.applied patch) }

lemma applying_get_eq_ok_iff {S : Store Fields} {ns name subresource : String} {o : Object Fields} :
    (tp.applying settings S).get ns name subresource = .ok o ↔ S ns name = some o :=
  @Upstream.ofStore_get_eq_ok_iff _ (fun _ _ _ => false) S ns name subresource o

def sentApply (S : Store Fields) (a : NamespaceApply) : Except GoError (Option ApplyPatch) :=
  match tp.readForUpdate (tp.applying settings S) a.ctx a.name with
  | .ok original => do
    let out ← tp.outgoing g a.ctx a.request original
    tp.applyPatch settings a.ctx out.utd out.tenantForm a.fieldManager a.request.options
  | .error e =>
    if !e.isNotFound then .error e
    else do
      let obj ← patched a.request.objInfo new
      let (_, form, utd) ← tp.prepareCreate g pods a.ctx obj
      tp.applyPatch settings a.ctx utd form a.fieldManager a.request.options

/-- Applies one after the other, each with the store it leaves. -/
inductive ApplyRun : Store Fields → List (NamespaceApply × Store Fields) → Prop
  | nil (S : Store Fields) : ApplyRun S []
  | cons {S : Store Fields} {a : NamespaceApply} {patch : ApplyPatch}
      {rest : List (NamespaceApply × Store Fields)}
      (hsent : tp.sentApply g pods new settings S a = .ok (some patch))
      (hrest : ApplyRun (S.apply patch) rest) : ApplyRun S ((a, S.apply patch) :: rest)

def EachApply (P : Store Fields → NamespaceApply → Prop) :
    Store Fields → List (NamespaceApply × Store Fields) → Prop
  | _, [] => True
  | S, (a, S') :: rest => P S a ∧ EachApply P S' rest

/-- The proxy of namespaces, over objects with their fields. -/
structure ServesNamespaces : Prop where
  typed : tp.unstructured = false
  subresource : tp.subresource = ""
  clusterScoped : tp.namespaceScoped = false
  forward : ∀ obj t up, tp.convertTenantObjectToUpstreamObject obj t = .ok up →
    ∃ renamed : Object Fields, renamed.metadata.labels = obj.metadata.labels ∧
      renamed.body = obj.body ∧ renamed.metadata.name = tp.upstreamName obj.metadata.name t ∧
      namespaceForward tp.contract renamed t = .ok up
  backward : ∀ obj t b shown, tp.convertor.convertUpstreamObjectToTenantObject obj t b = .ok shown →
    shown.metadata.labels = obj.metadata.labels ∧ shown.body = obj.body
  toVersioned : ∀ obj body, tp.toVersioned obj = .ok body →
    body.managedFields = obj.body.managedFields
  fromVersioned : ∀ obj body, tp.fromVersioned obj = .ok body →
    body.managedFields = obj.body.managedFields
  notService : ∀ obj old obj', g.refuseForeignClusterIP obj old = .ok obj' → obj' = obj
  notPod : ∀ body, pods.isPod body = false
  newLabels : new.metadata.labels = ∅
  hidesTenant : hides tp.hiddenMetadata tenantNamespaceLabelKey = true
  showsEnforce : hides tp.hiddenMetadata tp.contract.podSecurityEnforceLabelKey = false
  showsVersion :
    hides tp.hiddenMetadata tp.contract.podSecurityEnforceVersionLabelKey = false
  enforce_ne_version :
    tp.contract.podSecurityEnforceLabelKey ≠ tp.contract.podSecurityEnforceVersionLabelKey
  injectedPaths : settings.injectedPaths = []
  schema : ∃ converter, settings.typeConverter = some converter ∧ ∀ o, converter.reads o = true
  hideProjected : tp.hideProjected = false
  ownErrors : ∀ ctx t o e, tp.forUpdate.finishWrite ctx t o = .error e → e.isNotFound = false

def Labelled (tid : String) (o : Object Fields) : Prop :=
  o.metadata.labels[tenantNamespaceLabelKey]? = some tid ∧
  o.metadata.labels[tp.contract.podSecurityEnforceLabelKey]? = some tp.contract.podSecurityLevel ∧
  o.metadata.labels[tp.contract.podSecurityEnforceVersionLabelKey]? =
    some tp.contract.podSecurityVersion

/-- The namespace is stored with the labels that the gateway puts on it. -/
def StoredLabelled (tid name : String) (S : Store Fields) : Prop :=
  ∃ o, S "" (tp.upstreamName name tid) = some o ∧ tp.Labelled tid o

/-- The manager is not the only owner of the tenant's label. -/
def LeavesLabel (tid : String) (S : Store Fields) (a : NamespaceApply) : Prop :=
  ∀ o, S "" (tp.upstreamName a.name tid) = some o →
    ¬ (o.owns a.fieldManager (.label tenantNamespaceLabelKey) = true ∧
      o.othersOwn a.fieldManager (.label tenantNamespaceLabelKey) = false)

structure Applies (tid name : String) (a : NamespaceApply) : Prop where
  tenant : a.ctx.tenantID = some tid
  name : a.name = name
  manager : a.fieldManager ≠ ""
  isApplyPatch : a.ctx.isApplyPatch = true
  shown : ∀ k, hides tp.hiddenMetadata k = true → a.config.labels[k]? = none

structure Relays (tid : String) (a : NamespaceApply) (patch : ApplyPatch)
    (form utd : Object Fields) : Prop where
  ns : patch.ns = ""
  name : patch.name = tp.upstreamName a.name tid
  manager : patch.fieldManager = a.fieldManager
  leaves : patch.leaves.get = forwarded a.config.get form.leaves.get utd.leaves.get
  labels : ∀ k, utd.leaves.get (.label k) =
    (namespaceLabels tp.contract tid)[k]?.or (form.leaves.get (.label k))

variable {tp g pods new settings} {S : Store Fields} {a : NamespaceApply} {tid name : String}
  {patch : ApplyPatch} {o original : Object Fields}

section

variable (hns : tp.ServesNamespaces g pods new settings) (ha : a.ctx.tenantID = some tid)
include hns ha

lemma getClient_applying {ns : String} (h : tp.forUpdate.getClient a.ctx = .ok ns) : ns = "" := by
  unfold getClient at h
  rw [ha] at h
  cases hinfo : a.ctx.requestInfo with
  | none => simp [hinfo] at h
  | some info =>
    simp only [hinfo, forUpdate, hns.clusterScoped] at h
    exact (Except.ok.inj h).symm

lemma readForUpdate_applying_ok
    (h : tp.readForUpdate (tp.applying settings S) a.ctx a.name = .ok original) :
    ∃ o, S "" (tp.upstreamName a.name tid) = some o ∧
      tp.forUpdate.finishWrite a.ctx tid o = .ok original := by
  obtain ⟨tid', ns, o, htenant, hclient, hget, hshown⟩ := readForUpdate_ok h
  obtain rfl : tid' = tid := Option.some.inj (htenant.symm.trans ha)
  obtain rfl := getClient_applying hns ha hclient
  exact ⟨o, (tp.applying_get_eq_ok_iff settings).mp hget, hshown⟩

lemma readForUpdate_applying_missing {e : GoError}
    (h : tp.readForUpdate (tp.applying settings S) a.ctx a.name = .error e)
    (he : e.isNotFound = true) : S "" (tp.upstreamName a.name tid) = none := by
  obtain ⟨tid', ns, e', htenant, hclient, hget⟩ := readForUpdate_notFound hns.hideProjected
    (fun tid o hfinish => hns.ownErrors a.ctx tid o e hfinish) h he
  obtain rfl : tid' = tid := Option.some.inj (htenant.symm.trans ha)
  obtain rfl := getClient_applying hns ha hclient
  rw [Option.eq_none_iff_forall_ne_some]
  intro o hS
  rw [(tp.applying_get_eq_ok_iff settings).mpr hS] at hget
  cases hget

omit ha in
lemma finishWrite_stored (h : tp.forUpdate.finishWrite a.ctx tid o = .ok original) :
    original.metadata.labels = o.metadata.labels ∧
      original.body.managedFields = o.body.managedFields := by
  obtain ⟨output, houtput, hconvert⟩ := Except.bind_eq_ok_iff.mp h
  obtain ⟨shown, hshown, hecho⟩ := Except.bind_eq_ok_iff.mp hconvert
  obtain ⟨hlabels, hbody⟩ := hns.backward _ _ _ _ hshown
  have htyped : ¬ tp.forUpdate.unstructured = true := by simp [forUpdate, hns.typed]
  unfold convertUnstructuredToOutput at houtput
  rw [if_neg htyped] at houtput
  obtain ⟨body, hfrom, rfl⟩ := Except.map_eq_ok_iff.mp houtput
  have hview : original.metadata.labels = shown.metadata.labels ∧ original.body = shown.body := by
    obtain ⟨ns, hns'⟩ := tp.forUpdate.echoRequestNamespace_eq (tp.forUpdate.applyTenantViews shown)
      tid (tp.forUpdate.requestNamespace a.ctx)
    rw [← Except.ok.inj hecho, hns']
    exact ⟨rfl, rfl⟩
  rw [hview.1, hview.2, hlabels, hbody]
  exact ⟨rfl, hns.fromVersioned o body hfrom⟩

end

lemma namespaceLabels_getElem? (tid : String) (hns : tp.ServesNamespaces g pods new settings) :
    (namespaceLabels tp.contract tid)[tenantNamespaceLabelKey]? = some tid ∧
    (namespaceLabels tp.contract tid)[tp.contract.podSecurityEnforceLabelKey]? =
      some tp.contract.podSecurityLevel ∧
    (namespaceLabels tp.contract tid)[tp.contract.podSecurityEnforceVersionLabelKey]? =
      some tp.contract.podSecurityVersion := by
  -- One key is hidden and the two others are not.
  have henforce : tp.contract.podSecurityEnforceLabelKey ≠ tenantNamespaceLabelKey := by
    intro h
    have := hns.showsEnforce
    rw [h, hns.hidesTenant] at this
    cases this
  have hversion : tp.contract.podSecurityEnforceVersionLabelKey ≠ tenantNamespaceLabelKey := by
    intro h
    have := hns.showsVersion
    rw [h, hns.hidesTenant] at this
    cases this
  simp only [namespaceLabels, getElem?_insert_string]
  simp [henforce, hversion, hns.enforce_ne_version.symm]

lemma restore_keeps (hidden : Option HiddenMetadata) (obj : Object Fields)
    (old : Option (Object Fields)) :
    (restore hidden obj old).metadata.name = obj.metadata.name ∧
      (restore hidden obj old).body = obj.body := by
  cases hidden with
  | none => exact ⟨rfl, rfl⟩
  | some hidden => exact ⟨rfl, rfl⟩

section

variable (hns : tp.ServesNamespaces g pods new settings) (ha : tp.Applies tid name a)
include hns ha

variable {obj up utd : Object Fields} {form : Option (Object Fields)}

omit ha in
lemma managedFields_sent (hup : tp.convertTenantObjectToUpstreamObject obj tid = .ok up)
    (hutd : tp.convertInternalObjectToUnstructuredObject up = .ok utd) :
    utd.body.managedFields = obj.body.managedFields := by
  obtain ⟨renamed, -, hbody, -, hforward⟩ := hns.forward obj tid up hup
  unfold convertInternalObjectToUnstructuredObject at hutd
  rw [if_neg (by simp [hns.typed])] at hutd
  obtain ⟨body, htoVersioned, rfl⟩ := Except.map_eq_ok_iff.mp hutd
  rw [hns.toVersioned up body htoVersioned, namespaceForward_ok hforward, ← hbody]

lemma relays_of_applyPatch {x : Object Fields} (hname : obj.metadata.name = a.name)
    (hobj : obj.body.managedFields = (x.resolve a.fieldManager a.config).body.managedFields)
    (hform : tp.snapshot a.ctx obj = .ok form)
    (hup : tp.convertTenantObjectToUpstreamObject obj tid = .ok up)
    (hutd : tp.convertInternalObjectToUnstructuredObject up = .ok utd)
    (hpatch : tp.applyPatch settings a.ctx utd form a.fieldManager a.request.options =
      .ok (some patch)) :
    ∃ form', tp.Relays tid a patch form' utd ∧ form'.metadata.labels = obj.metadata.labels := by
  obtain ⟨renamed, hlabels, -, hrenamed, hforward⟩ := hns.forward obj tid up hup
  have hup' := namespaceForward_ok hforward
  obtain ⟨form', owned, rfl, howned, hmanager, hpname, hclient, hleaves⟩ := applyPatch_some hpatch
  have hsnapshot : form'.metadata = obj.metadata := by
    unfold snapshot at hform
    split_ifs at hform
    · obtain ⟨versioned, hversioned, hsome⟩ := Except.map_eq_ok_iff.mp hform
      rw [← Option.some.inj hsome, metadata_of_versioned hversioned]
    · cases hform
  have hentry : owned = a.config.paths := by
    rw [applyEntry_resolve ha.manager ((managedFields_sent hns hup hutd).trans hobj)] at howned
    exact (Option.some.inj howned).symm
  refine ⟨form', ⟨?_, ?_, hmanager, ?_, ?_⟩, by rw [hsnapshot]⟩
  · exact getClient_applying hns ha.tenant hclient
  · rw [hpname, metadata_of_versioned hutd, hup', ← hname]
    exact hrenamed
  · funext p
    rw [hleaves p, hentry, hns.injectedPaths, forwarded]
    simp only [Leaves.mem_paths, List.not_mem_nil, or_false]
  · intro k
    show utd.metadata.labels[k]? = _
    rw [metadata_of_versioned hutd, hup']
    show (pinPodSecurity tp.contract (renamed.metadata.labels.insert _ _))[k]? = _
    rw [getElem?_pinned, hlabels, ← hsnapshot]
    rfl

lemma sentApply_found (hshown : tp.forUpdate.finishWrite a.ctx tid o = .ok original)
    {out : Outgoing Fields} (hout : tp.outgoing g a.ctx a.request original = .ok out)
    (hpatch : tp.applyPatch settings a.ctx out.utd out.tenantForm a.fieldManager a.request.options =
      .ok (some patch)) :
    ∃ form, tp.Relays tid a patch form out.utd ∧ ∀ k, form.leaves.get (.label k) =
      if hides tp.hiddenMetadata k then o.metadata.labels[k]?
      else (o.managed.apply a.fieldManager a.config.get).value (.label k) := by
  obtain ⟨hlabels, hmanaged⟩ := finishWrite_stored hns hshown
  obtain ⟨updated, hupdated, hrest⟩ := Except.bind_eq_ok_iff.mp hout
  obtain ⟨guarded, hguarded, hprepare⟩ := Except.bind_eq_ok_iff.mp hrest
  obtain ⟨obj, hobj, rfl⟩ := guardUpdate_ok hguarded
  obtain rfl := hns.notService _ _ _ hobj
  obtain ⟨up, htenant, hup, hutd, hform, -⟩ := prepareUpdate_ok hprepare
  obtain rfl : tid = out.tenantID := Option.some.inj (ha.tenant.symm.trans htenant)
  -- What the apply was resolved to, on the stored view.
  have hresolved : obj = { original.resolve a.fieldManager a.config with
      metadata := { (original.resolve a.fieldManager a.config).metadata with name := a.name } } :=
    (Except.ok.inj hupdated).symm
  have hrestore : ∀ k, (restore tp.hiddenMetadata obj
      (some original)).metadata.labels[k]? =
      if hides tp.hiddenMetadata k then original.metadata.labels[k]?
      else obj.metadata.labels[k]? := by
    intro k
    cases hhidden : tp.hiddenMetadata with
    | none => rfl
    | some hidden => exact getElem?_restoreHidden _ _ k
  have hkeeps := restore_keeps tp.hiddenMetadata obj (some original)
  obtain ⟨form, hrelays, hformLabels⟩ := relays_of_applyPatch hns ha (by rw [hkeeps.1, hresolved])
    (by rw [hkeeps.2, hresolved]) hform hup hutd hpatch
  refine ⟨form, hrelays, ?_⟩
  intro k
  show form.metadata.labels[k]? = _
  rw [hformLabels, hrestore, hlabels]
  split_ifs
  · rfl
  · rw [hresolved, ← Object.managed_resolve]
    show (original.resolve _ _).leaves.get (.label k) = (o.resolve _ _).leaves.get (.label k)
    have howns : ∀ m p, original.owns m p = o.owns m p ∧ original.othersOwn m p = o.othersOwn m p := by
      intro m p
      simp only [Object.owns, Object.othersOwn, hmanaged, and_self]
    rw [Object.get_leaves_resolve, Object.get_leaves_resolve, (howns _ _).1, (howns _ _).2]
    show _ = (_ : Option String).or (if _ then none else o.metadata.labels[k]?)
    rw [← hlabels]
    rfl

lemma sentApply_missing (hobj : patched a.request.objInfo new = .ok obj) {t : String}
    (hprepare : tp.prepareCreate g pods a.ctx obj = .ok (t, form, utd))
    (hpatch : tp.applyPatch settings a.ctx utd form a.fieldManager a.request.options =
      .ok (some patch)) :
    ∃ form, tp.Relays tid a patch form utd ∧
      ∀ k, form.leaves.get (.label k) = a.config.get (.label k) := by
  obtain ⟨htenant, hform, -⟩ := prepareCreate_ok hprepare
  obtain rfl : tid = t := Option.some.inj (ha.tenant.symm.trans htenant)
  obtain ⟨up, hup, hutd⟩ := prepareCreate_copy hns.typed hprepare
  rw [upstreamForm_of_notPod hns.notPod] at hup
  have hresolved : obj = { new.resolve a.fieldManager a.config with
      metadata := { (new.resolve a.fieldManager a.config).metadata with name := a.name } } :=
    (Except.ok.inj hobj).symm
  obtain ⟨form, hrelays, hformLabels⟩ := relays_of_applyPatch hns ha (by rw [hresolved])
    (by rw [hresolved]) hform hup hutd hpatch
  refine ⟨form, hrelays, ?_⟩
  intro k
  show form.metadata.labels[k]? = _
  rw [hformLabels, hresolved]
  show (new.resolve _ _).leaves.get (.label k) = _
  rw [Object.get_leaves_resolve]
  have hnew : new.leaves.get (.label k) = none := by
    show new.metadata.labels[k]? = none
    rw [hns.newLabels]
    rfl
  rw [hnew, ite_self, Option.or_none]

end

lemma labels_applied (S : Store Fields) (patch : ApplyPatch) (base : Object Fields)
    (hbase : S.applied patch = base.resolve patch.fieldManager patch.leaves) (k : String) :
    (S.applied patch).metadata.labels[k]? =
      (base.managed.apply patch.fieldManager patch.leaves.get).value (.label k) := by
  rw [hbase, ← Object.managed_resolve]
  rfl

section

variable (hns : tp.ServesNamespaces g pods new settings) (ha : tp.Applies tid name a)
  {form utd : Object Fields}
include hns ha

omit ha in
lemma labelled_of_created (hrelays : tp.Relays tid a patch form utd)
    (hform : ∀ k, form.leaves.get (.label k) = a.config.get (.label k)) :
    tp.Labelled tid (S.applied patch) := by
  obtain ⟨htenant, henforce, hversion⟩ := namespaceLabels_getElem? tid hns
  have hstored : ∀ k v : String, (namespaceLabels tp.contract tid)[k]? = some v →
      (S.applied patch).metadata.labels[k]? = some v := by
    intro k v hv
    rw [labels_applied S patch _ (by rw [Store.applied]), hrelays.leaves]
    apply Managed.value_apply_of_mem
    apply forwarded_of_patch (hform k)
    rw [hrelays.labels, hv, Option.some_or]
  exact ⟨hstored _ _ htenant, hstored _ _ henforce, hstored _ _ hversion⟩

lemma labelled_applied_iff (hrelays : tp.Relays tid a patch form utd)
    (hform : ∀ k, form.leaves.get (.label k) =
      if hides tp.hiddenMetadata k then o.metadata.labels[k]?
      else (o.managed.apply a.fieldManager a.config.get).value (.label k))
    (hS : S patch.ns patch.name = some o) (ho : tp.Labelled tid o) :
    tp.Labelled tid (S.applied patch) ↔
      ¬ o.managed.Sole a.fieldManager (.label tenantNamespaceLabelKey) := by
  obtain ⟨htenant, henforce, hversion⟩ := namespaceLabels_getElem? tid hns
  have hsent : ∀ k v : String, (namespaceLabels tp.contract tid)[k]? = some v →
      utd.leaves.get (.label k) = some v := by
    intro k v hv
    rw [hrelays.labels, hv, Option.some_or]
  have hstored : ∀ k : String, (S.applied patch).metadata.labels[k]? =
      (o.managed.apply a.fieldManager
        (forwarded a.config.get form.leaves.get utd.leaves.get)).value (.label k) := by
    intro k
    rw [labels_applied S patch o (by rw [Store.applied, hS]; rfl), hrelays.leaves, hrelays.manager]
  -- A shown label is in the snapshot as the apply was resolved, and arrives.
  have hshown : ∀ k v : String, hides tp.hiddenMetadata k = false →
      (namespaceLabels tp.contract tid)[k]? = some v →
      (S.applied patch).metadata.labels[k]? = some v := by
    intro k v hk hv
    rw [hstored]
    apply Managed.value_apply_forwarded _ (hsent k v hv)
    rw [hform k, hk]
    rfl
  -- The hidden one is in it as it is stored.
  have hhidden : (S.applied patch).metadata.labels[tenantNamespaceLabelKey]? = some tid ↔
      ¬ o.managed.Sole a.fieldManager (.label tenantNamespaceLabelKey) := by
    rw [hstored]
    apply Managed.value_apply_forwarded_restored_iff
    · exact ha.shown _ hns.hidesTenant
    · rw [hform, hns.hidesTenant]
      exact ho.1
    · exact hsent _ _ htenant
    · exact ho.1
  rw [← hhidden]
  constructor
  · intro hlabelled
    exact hlabelled.1
  · intro hkept
    exact ⟨hkept, hshown _ _ hns.showsEnforce henforce, hshown _ _ hns.showsVersion hversion⟩

lemma storedLabelled_apply (hsent : tp.sentApply g pods new settings S a = .ok (some patch)) :
    (S "" (tp.upstreamName name tid) = none → tp.StoredLabelled tid name (S.apply patch)) ∧
    (tp.StoredLabelled tid name S →
      (tp.StoredLabelled tid name (S.apply patch) ↔ tp.LeavesLabel tid S a)) := by
  have hafter : patch.ns = "" → patch.name = tp.upstreamName a.name tid →
      (tp.StoredLabelled tid name (S.apply patch) ↔ tp.Labelled tid (S.applied patch)) := by
    intro hpns hpname
    have happlied : S.apply patch "" (tp.upstreamName name tid) = some (S.applied patch) := by
      rw [Store.apply, if_pos ⟨hpns.symm, by rw [hpname, ha.name]⟩]
    constructor
    · intro ⟨o, ho, hlabelled⟩
      rw [happlied] at ho
      rw [Option.some.inj ho]
      exact hlabelled
    · intro hlabelled
      exact ⟨_, happlied, hlabelled⟩
  unfold sentApply at hsent
  cases hread : tp.readForUpdate (tp.applying settings S) a.ctx a.name with
  | ok original =>
    rw [hread] at hsent
    obtain ⟨out, hout, hpatch⟩ := Except.bind_eq_ok_iff.mp hsent
    obtain ⟨o, hS, hshown⟩ := readForUpdate_applying_ok hns ha.tenant hread
    obtain ⟨form, hrelays, hform⟩ := sentApply_found hns ha hshown hout hpatch
    rw [hafter hrelays.ns hrelays.name]
    constructor
    · intro hnone
      rw [← ha.name, hS] at hnone
      cases hnone
    · intro ⟨o', ho', hlabelled⟩
      rw [← ha.name, hS] at ho'
      rw [← Option.some.inj ho'] at hlabelled
      rw [labelled_applied_iff hns ha hrelays hform (by rw [hrelays.ns, hrelays.name, hS]) hlabelled,
        Object.sole_iff, LeavesLabel, hS]
      simp
  | error e =>
    rw [hread] at hsent
    simp only at hsent
    split_ifs at hsent with hmissing
    rw [Bool.not_eq_true', Bool.not_eq_false] at hmissing
    have hS := readForUpdate_applying_missing hns ha.tenant hread hmissing
    obtain ⟨obj, hobj, hsent⟩ := Except.bind_eq_ok_iff.mp hsent
    obtain ⟨⟨t, form, utd⟩, hprepare, hpatch⟩ := Except.bind_eq_ok_iff.mp hsent
    obtain ⟨form, hrelays, hform⟩ := sentApply_missing hns ha hobj hprepare hpatch
    have hcreated : tp.Labelled tid (S.applied patch) := labelled_of_created hns hrelays hform
    rw [hafter hrelays.ns hrelays.name]
    constructor
    · intro _
      exact hcreated
    · intro _
      refine ⟨fun _ => ?_, fun _ => hcreated⟩
      intro o ho
      rw [hS] at ho
      cases ho

end

variable {run : List (NamespaceApply × Store Fields)}

lemma storedLabelled_iff_of_run (hns : tp.ServesNamespaces g pods new settings)
    (hrun : tp.ApplyRun g pods new settings S run) (ha : ∀ x ∈ run, tp.Applies tid name x.1)
    (hS : tp.StoredLabelled tid name S) :
    (∀ x ∈ run, tp.StoredLabelled tid name x.2) ↔ EachApply (tp.LeavesLabel tid) S run := by
  induction hrun with
  | nil S => simp [EachApply]
  | @cons S a patch rest hsent hrest ih =>
    rw [List.forall_mem_cons] at ha
    have hstep := (storedLabelled_apply hns ha.1 hsent).2 hS
    rw [List.forall_mem_cons, EachApply, ← hstep]
    constructor
    · intro ⟨hnow, hlater⟩
      exact ⟨hnow, (ih ha.2 hnow).mp hlater⟩
    · intro ⟨hnow, hlater⟩
      exact ⟨hnow, (ih ha.2 hnow).mpr hlater⟩

/-- In a run of applies of a namespace, by any managers and the first of them creating it, the stored
namespace carries the tenant's label and the Pod Security level after every apply, if and only if no
apply is made by a manager that alone owns the tenant's label at that time. -/
theorem reapply_keeps_labels_iff (hns : tp.ServesNamespaces g pods new settings)
    {run : List (NamespaceApply × Store Fields)} (hrun : tp.ApplyRun g pods new settings S run)
    (ha : ∀ x ∈ run, tp.Applies tid name x.1)
    (hS : S "" (tp.upstreamName name tid) = none) :
    (∀ x ∈ run, tp.StoredLabelled tid name x.2) ↔ EachApply (tp.LeavesLabel tid) S run := by
  cases hrun with
  | nil S => simp [EachApply]
  | @cons S a patch rest hsent hrest =>
    rw [List.forall_mem_cons] at ha
    have hcreated := (storedLabelled_apply hns ha.1 hsent).1 hS
    have hfree : tp.LeavesLabel tid S a := by
      intro o ho
      rw [ha.1.name, hS] at ho
      cases ho
    rw [List.forall_mem_cons, storedLabelled_iff_of_run hns hrest ha.2 hcreated]
    exact and_congr_left' (iff_of_true hcreated hfree)

variable (tp g pods new settings)

def applyAll : Store Fields → List NamespaceApply → Option (List (NamespaceApply × Store Fields))
  | _, [] => some []
  | S, a :: rest =>
    match tp.sentApply g pods new settings S a with
    | .ok (some patch) => (applyAll (S.apply patch) rest).map ((a, S.apply patch) :: ·)
    | _ => none

variable {tp g pods new settings}

lemma applyRun_of_applyAll {as : List NamespaceApply}
    (h : tp.applyAll g pods new settings S as = some run) :
    tp.ApplyRun g pods new settings S run ∧ run.map Prod.fst = as := by
  induction as generalizing S run with
  | nil =>
    rw [← Option.some.inj h]
    exact ⟨.nil S, rfl⟩
  | cons a rest ih =>
    unfold applyAll at h
    split at h
    · next patch hsent =>
      obtain ⟨run', hrun', rfl⟩ := Option.map_eq_some_iff.mp h
      obtain ⟨hrest, hmap⟩ := ih hrun'
      exact ⟨.cons hsent hrest, by rw [List.map_cons, hmap]⟩
    · cases h

end TenantProxy

def appliedNamespaces : TenantProxy Fields where
  kind := { version := "v1", kind := "Namespace" }
  resource := "namespaces"
  namespaceScoped := false
  hiddenMetadata := some platformHidden
  contract := dashContract
  convertor := {
    convertTenantObjectToUpstreamObject := fun o t _ =>
      namespaceForward dashContract
        { o with metadata := { o.metadata with name := t ++ "-" ++ o.metadata.name } } t
    convertUpstreamObjectToTenantObject := fun o t _ =>
      .ok { o with metadata := { o.metadata with
        name := dashContract.trimTenantIDPrefix t o.metadata.name } } }

def readsAll : ApplySettings where
  typeConverter := some ⟨fun _ => true⟩
  deducedTypeConverter := ⟨fun _ => true⟩

lemma servesNamespaces_appliedNamespaces :
    appliedNamespaces.ServesNamespaces .permissive noPod { body := {} } readsAll where
  typed := rfl
  subresource := rfl
  clusterScoped := rfl
  forward obj t up h :=
    ⟨{ obj with metadata := { obj.metadata with name := t ++ "-" ++ obj.metadata.name } },
      rfl, rfl, rfl, h⟩
  backward obj t b shown h := by
    rw [← Except.ok.inj h]
    exact ⟨rfl, rfl⟩
  toVersioned obj body h := by rw [← Except.ok.inj h]
  fromVersioned obj body h := by rw [← Except.ok.inj h]
  notService obj old obj' h := (Except.ok.inj h).symm
  notPod body := rfl
  newLabels := rfl
  hidesTenant := by decide +kernel
  showsEnforce := by decide +kernel
  showsVersion := by decide +kernel
  enforce_ne_version := by decide
  injectedPaths := rfl
  schema := ⟨_, rfl, fun _ => rfl⟩
  hideProjected := rfl
  ownErrors ctx t o e h := nomatch h

def webApply (manager : String) : NamespaceApply where
  ctx := { tenantID := some "111111", requestInfo := some { verb := "patch", name := "web" },
           isApplyPatch := true }
  name := "web"
  fieldManager := manager
  config := { labels := (∅ : StringMap).insert "team" "web" }

lemma applies_webApply {manager : String} (hmanager : manager ≠ "") :
    appliedNamespaces.Applies "111111" "web" (webApply manager) where
  tenant := rfl
  name := rfl
  manager := hmanager
  isApplyPatch := rfl
  shown k hk := by
    show ((∅ : StringMap).insert "team" "web")[k]? = none
    rw [getElem?_insert_string]
    split_ifs with hteam
    · rw [← hteam] at hk
      revert hk
      decide +kernel
    · rfl

def storedLabels (S : Store Fields) : Option String × Option String × Option String :=
  let labels := ((S "" "111111-web").map fun o => o.metadata.labels).getD ∅
  (labels["kubezoo.io/tenant"]?, labels["pod-security.kubernetes.io/enforce"]?,
    labels["pod-security.kubernetes.io/enforce-version"]?)

lemma storedLabelled_iff_storedLabels (S : Store Fields) :
    appliedNamespaces.StoredLabelled "111111" "web" S ↔
      storedLabels S = (some "111111", some "restricted", some "latest") := by
  have hname : appliedNamespaces.upstreamName "web" "111111" = "111111-web" := by decide +kernel
  unfold TenantProxy.StoredLabelled storedLabels TenantProxy.Labelled
  rw [hname]
  cases hS : S "" "111111-web" with
  | none => simp
  | some o =>
    simp only [Option.some.injEq, exists_eq_left', Option.map_some, Option.getD_some, Prod.mk.injEq]
    rfl

theorem reapply_keeps_labels_two_managers :
    ∃ run, appliedNamespaces.applyAll .permissive noPod { body := {} } readsAll (fun _ _ => none)
        [webApply "kubectl", webApply "argocd"] = some run ∧
      (∀ x ∈ run, appliedNamespaces.StoredLabelled "111111" "web" x.2) ∧
      TenantProxy.EachApply (appliedNamespaces.LeavesLabel "111111") (fun _ _ => none) run := by
  have hrun : (appliedNamespaces.applyAll .permissive noPod { body := {} } readsAll (fun _ _ => none)
      [webApply "kubectl", webApply "argocd"]).any (fun run => run.all fun x =>
        decide (storedLabels x.2 = (some "111111", some "restricted", some "latest"))) = true := by
    decide +kernel
  obtain ⟨run, hrun, hlabels⟩ := (Option.any_eq_true _ _).mp hrun
  have hlabelled : ∀ x ∈ run, appliedNamespaces.StoredLabelled "111111" "web" x.2 := by
    intro x hx
    rw [storedLabelled_iff_storedLabels]
    simpa using List.all_eq_true.mp hlabels x hx
  obtain ⟨happlied, hmap⟩ := TenantProxy.applyRun_of_applyAll hrun
  have ha : ∀ x ∈ run, appliedNamespaces.Applies "111111" "web" x.1 := by
    intro x hx
    have hmem : x.1 ∈ [webApply "kubectl", webApply "argocd"] := hmap ▸ List.mem_map_of_mem hx
    rcases List.mem_cons.mp hmem with h | h
    · rw [h]
      exact applies_webApply (by decide)
    · rw [List.mem_singleton.mp h]
      exact applies_webApply (by decide)
  exact ⟨run, hrun, hlabelled, (TenantProxy.reapply_keeps_labels_iff
    servesNamespaces_appliedNamespaces happlied ha rfl).mp hlabelled⟩

theorem reapply_loses_tenant_label :
    ∃ run, appliedNamespaces.ApplyRun .permissive noPod { body := {} } readsAll (fun _ _ => none) run ∧
      run.map Prod.fst = [webApply "kubectl", webApply "kubectl"] ∧
      run.map (fun x => storedLabels x.2) =
        [(some "111111", some "restricted", some "latest"), (none, some "restricted", some "latest")] ∧
      ¬ ∀ x ∈ run, appliedNamespaces.StoredLabelled "111111" "web" x.2 := by
  have hrun : (appliedNamespaces.applyAll .permissive noPod { body := {} } readsAll (fun _ _ => none)
      [webApply "kubectl", webApply "kubectl"]).any (fun run =>
        decide (run.map (fun x => storedLabels x.2) =
          [(some "111111", some "restricted", some "latest"),
            (none, some "restricted", some "latest")])) = true := by
    decide +kernel
  obtain ⟨run, hrun, hlabels⟩ := (Option.any_eq_true _ _).mp hrun
  obtain ⟨happlied, hmap⟩ := TenantProxy.applyRun_of_applyAll hrun
  have hlabels := of_decide_eq_true hlabels
  refine ⟨run, happlied, hmap, hlabels, ?_⟩
  intro hlabelled
  have hlost : (none, some "restricted", some "latest") ∈ run.map fun x => storedLabels x.2 := by
    rw [hlabels]
    simp
  obtain ⟨x, hx, hstored⟩ := List.mem_map.mp hlost
  have hkept := (storedLabelled_iff_storedLabels x.2).mp (hlabelled x hx)
  rw [hstored] at hkept
  cases hkept

end KubeZoo
