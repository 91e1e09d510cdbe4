import KubeZoo.Proxy.Reapply
import KubeZoo.Proxy.Requests

/-! # What a relayed write stores -/

namespace KubeZoo

open Ownership

def Object.field (o : Object Fields) (path : String) : Option String := o.body.fields[path]?

/-- The storage of a kind that is followed at the paths `T`. The conversions carry the managed fields,
and those between the internal and the versioned form the leaves. -/
structure TenantProxy.KeepsFields (tp : TenantProxy Fields) (g : Guards Fields)
    (pods : PodSteps Fields) (new : Object Fields) (settings : ApplySettings) (T : String → Prop) :
    Prop where
  typed : tp.unstructured = false
  subresource : tp.subresource = ""
  forward : ∀ obj t up, tp.convertTenantObjectToUpstreamObject obj t = .ok up →
    up.metadata.name = tp.upstreamName obj.metadata.name t ∧
      up.body.managedFields = obj.body.managedFields
  backward : ∀ obj t b shown, tp.convertor.convertUpstreamObjectToTenantObject obj t b = .ok shown →
    shown.body.managedFields = obj.body.managedFields
  toVersioned : ∀ obj body, tp.toVersioned obj = .ok body →
    body.managedFields = obj.body.managedFields ∧ ∀ p, T p → body.fields[p]? = obj.field p
  fromVersioned : ∀ obj body, tp.fromVersioned obj = .ok body →
    body.managedFields = obj.body.managedFields ∧ ∀ p, T p → body.fields[p]? = obj.field p
  notService : ∀ obj old obj', g.refuseForeignClusterIP obj old = .ok obj' → obj' = obj
  notPod : ∀ body, pods.isPod body = false
  newFields : ∀ p, T p → new.field p = none
  injectedPaths : settings.injectedPaths = []

/-- An upstream that stores, at the paths `T`, what it is sent, and resolves an apply on what it
stores. What is left of an object it deletes has the leaves of the object. -/
structure Server.StoresFields (srv : Server Fields) (tp : TenantProxy Fields)
    (settings : ApplySettings) (T : String → Prop) : Prop where
  get : ∀ S ns name o, (srv.upstream S).get ns name "" = .ok o → S ns name = some o
  missing : ∀ S ctx name e t ns, tp.readForUpdate (srv.upstream S) ctx name = .error e →
    e.isNotFound = true → ctx.tenantID = some t → tp.getClient ctx = .ok ns →
    S ns (tp.upstreamName name t) = none
  create : ∀ S ns utd options o, (srv.upstream S).create ns utd options = .ok o →
    ∀ p, T p → o.field p = utd.field p
  update : ∀ S ns utd options o created, (srv.upstream S).update ns utd options "" = .ok (o, created) →
    ∀ p, T p → o.field p = utd.field p
  forwardApply : ∀ S ctx utd form manager options o,
    (srv.upstream S).forwardApply ctx utd form manager options = .ok (some o) →
    ∃ patch, tp.applyPatch settings ctx utd form manager options = .ok (some patch) ∧
      ∀ p, T p → o.field p = (S.applied patch).field p
  delete : ∀ S ns name options left, srv.delete S ns name options = .ok (some left) →
    ∃ old, S ns name = some old ∧ ∀ p, T p → left.field p = old.field p

def TenantRequest.Resolved (T : String → Prop) (ctx : RequestContext) (r : TenantRequest Fields) :
    Prop :=
  ctx.isApplyPatch = true → ∃ req config, r = .update req ∧
    ∀ x y, req.objInfo.updatedObject x = .ok y → y.metadata.name = req.name ∧
      applyEntry y req.options.fieldManager = some config.paths ∧
      ∀ p, T p → y.field p = (x.resolve req.options.fieldManager config).field p

inductive TenantProxy.WroteFields (tp : TenantProxy Fields) (T : String → Prop) (S : Store Fields)
    (tid : String) (obj up o : Object Fields) : Prop
  | whole (h : ∀ p, T p → o.field p = up.field p)
  | relayed (ns name : String) (stored output shown : Object Fields)
      (hstored : S ns name = some stored)
      (houtput : ∀ p, T p → output.field p = stored.field p)
      (hshown : tp.convertor.convertUpstreamObjectToTenantObject output tid
        tp.namespaceScoped = .ok shown)
      (hexact : ∀ p, T p → shown.field p = output.field p →
        (up.field p = none → obj.field p = none ∨ stored.field p = none) → o.field p = up.field p)
      (hpresent : ∀ p, T p → (shown.field p).isSome = (output.field p).isSome →
        (up.field p).isSome = (obj.field p).isSome → (o.field p).isSome = (up.field p).isSome)

variable {o o' : Object Fields}

lemma Object.sole_congr (h : o'.body.managedFields = o.body.managedFields) (manager : String)
    (p : FieldPath) : o'.managed.Sole manager p ↔ o.managed.Sole manager p := by
  rw [sole_iff, sole_iff]
  simp only [owns, othersOwn, h]

lemma applyEntry_congr (h : o'.body.managedFields = o.body.managedFields) (manager : String) :
    applyEntry o' manager = applyEntry o manager := by
  simp only [applyEntry, h]

lemma Object.field_resolve (o : Object Fields) (manager : String) (patch : Leaves) (path : String) :
    (o.resolve manager patch).field path = (o.managed.apply manager patch.get).value (.field path) := by
  rw [← managed_resolve]
  rfl

lemma Object.field_resolve_of_none {path : String} (h : o.field path = none) (manager : String)
    (patch : Leaves) : (o.resolve manager patch).field path = patch.get (.field path) := by
  rw [field_resolve]
  by_cases hsole : o.managed.Sole manager (.field path)
  · rw [Managed.value_apply_sole hsole]
  · rw [Managed.value_apply_shared hsole]
    show (patch.get (.field path)).or (o.field path) = _
    rw [h, Option.or_none]

namespace TenantProxy

variable {tp : TenantProxy Fields} {g : Guards Fields} {pods : PodSteps Fields} {new : Object Fields}
  {settings : ApplySettings} {T : String → Prop} {srv : Server Fields} {S : Store Fields}
  {ctx : RequestContext} {r : TenantRequest Fields} {s : Shipment Fields} {tid : String}
  {o submitted original stored obj utd : Object Fields}

section

variable (htp : tp.KeepsFields g pods new settings T)
include htp

lemma KeepsFields.versioned (h : tp.convertInternalObjectToUnstructuredObject obj = .ok utd) :
    utd.body.managedFields = obj.body.managedFields ∧ ∀ p, T p → utd.field p = obj.field p := by
  unfold convertInternalObjectToUnstructuredObject at h
  rw [if_neg (by simp [htp.typed])] at h
  obtain ⟨body, hbody, rfl⟩ := Except.map_eq_ok_iff.mp h
  exact htp.toVersioned obj body hbody

lemma KeepsFields.read (h : tp.forUpdate.finishWrite ctx tid stored = .ok original) :
    original.body.managedFields = stored.body.managedFields ∧ ∃ output shown,
      (∀ p, T p → output.field p = stored.field p) ∧
      tp.convertor.convertUpstreamObjectToTenantObject output tid tp.namespaceScoped = .ok shown ∧
      original.body = shown.body := by
  obtain ⟨output, houtput, hconvert⟩ := Except.bind_eq_ok_iff.mp h
  obtain ⟨shown, hshown, hecho⟩ := Except.bind_eq_ok_iff.mp hconvert
  unfold convertUnstructuredToOutput at houtput
  rw [if_neg (by simp [forUpdate, htp.typed])] at houtput
  obtain ⟨body, hfrom, rfl⟩ := Except.map_eq_ok_iff.mp houtput
  obtain ⟨hmanaged, hfields⟩ := htp.fromVersioned stored body hfrom
  have hbody : original.body = shown.body := by
    obtain ⟨ns, hns⟩ := tp.forUpdate.echoRequestNamespace_eq (tp.forUpdate.applyTenantViews shown)
      tid (tp.forUpdate.requestNamespace ctx)
    rw [← Except.ok.inj hecho, hns]
    rfl
  refine ⟨?_, { stored with body := body }, shown, hfields, hshown, hbody⟩
  rw [hbody, htp.backward _ _ _ _ hshown]
  exact hmanaged

lemma KeepsFields.prepared
    (h : tp.shipNew g pods ctx submitted = .ok s ∨ tp.shipFound g ctx submitted original = .ok s) :
    ∃ obj up, obj.metadata.name = submitted.metadata.name ∧ obj.body = submitted.body ∧
      ctx.tenantID = some s.tenantID ∧ tp.getClient ctx = .ok s.ns ∧
      tp.snapshot ctx obj = .ok s.tenantForm ∧
      tp.convertTenantObjectToUpstreamObject obj s.tenantID = .ok up ∧
      tp.convertInternalObjectToUnstructuredObject up = .ok s.utd := by
  obtain h | h := h
  · obtain ⟨-, hclient, hprepare⟩ := shipNew_eq_ok_iff.mp h
    obtain ⟨htenant, hform, -⟩ := prepareCreate_ok hprepare
    obtain ⟨up, hup, hutd⟩ := prepareCreate_copy htp.typed hprepare
    rw [upstreamForm_of_notPod htp.notPod] at hup
    exact ⟨submitted, up, rfl, rfl, htenant, hclient, hform, hup, hutd⟩
  · obtain ⟨-, guarded, hguard, hout⟩ := shipFound_eq_ok_iff.mp h
    obtain ⟨obj, hobj, rfl⟩ := guardUpdate_ok hguard
    obtain rfl := htp.notService _ _ _ hobj
    obtain ⟨up, htenant, hup, hutd, hform, hclient⟩ := prepareUpdate_ok hout
    obtain ⟨hname, hbody⟩ := restore_keeps tp.hiddenMetadata obj (some original)
    exact ⟨_, up, hname, hbody, htenant, hclient, hform, hup, hutd⟩

end

lemma resolved_of_submitted {req : PatchRequest Fields}
    (h : tp.submitted new (srv.upstream S) ctx (.update req) = .ok submitted) :
    (∃ original, tp.readForUpdate (srv.upstream S) ctx req.name = .ok original ∧
      req.objInfo.updatedObject original = .ok submitted) ∨
    (∃ e, tp.readForUpdate (srv.upstream S) ctx req.name = .error e ∧ e.isNotFound = true ∧
      req.objInfo.updatedObject new = .ok submitted) := by
  have hupdated : ∀ info x, updated info req x = .ok submitted →
      req.objInfo.updatedObject x = .ok submitted := by
    intro info x hx
    unfold updated at hx
    split_ifs at hx
    · obtain ⟨-, -, hx⟩ := Except.bind_eq_ok_iff.mp hx
      exact hx
    · exact hx
  rw [TenantProxy.submitted] at h
  cases hinfo : ctx.requestInfo with
  | none => simp [hinfo] at h
  | some info =>
    simp only [hinfo] at h
    cases hread : tp.readForUpdate (srv.upstream S) ctx req.name with
    | ok original =>
      simp only [hread] at h
      exact .inl ⟨original, rfl, hupdated info original h⟩
    | error e =>
      simp only [hread] at h
      by_cases hmissing : (!e.isNotFound || !req.forceAllowCreate) = true
      · rw [if_pos hmissing] at h
        cases h
      · rw [if_neg hmissing] at h
        rw [Bool.or_eq_true, not_or, Bool.not_eq_true', Bool.not_eq_false] at hmissing
        exact .inr ⟨e, rfl, hmissing.1, hupdated info new h⟩

section

variable (htp : tp.KeepsFields g pods new settings T)
include htp

variable {patch : ApplyPatch} {config : Leaves} {up : Object Fields} {manager : String}
  {out snapshot : FieldPath → Option String}

lemma KeepsFields.leaves_patch {form : Option (Object Fields)}
    {options : WriteOptions} (hform : tp.snapshot ctx obj = .ok form)
    (hup : tp.convertTenantObjectToUpstreamObject obj s.tenantID = .ok up)
    (hutd : tp.convertInternalObjectToUnstructuredObject up = .ok utd)
    (hentry : applyEntry obj manager = some config.paths)
    (hpatch : tp.applyPatch settings ctx utd form manager options = .ok (some patch)) :
    patch.fieldManager = manager ∧ tp.getClient ctx = .ok patch.ns ∧
      patch.name = tp.upstreamName obj.metadata.name s.tenantID ∧
      ∃ snapshot out : FieldPath → Option String,
        patch.leaves.get = forwarded config.get snapshot out ∧
        ∀ p, T p → snapshot (.field p) = obj.field p ∧ out (.field p) = up.field p := by
  obtain ⟨form', owned, rfl, howned, hmanager, hname, hclient, hleaves⟩ := applyPatch_some hpatch
  obtain ⟨hupName, hupManaged⟩ := htp.forward obj s.tenantID up hup
  obtain ⟨hutdManaged, hutdFields⟩ := htp.versioned hutd
  obtain rfl : owned = config.paths := by
    rw [applyEntry_congr (hutdManaged.trans hupManaged), hentry] at howned
    exact (Option.some.inj howned).symm
  refine ⟨hmanager, hclient, ?_, form'.leaves.get, utd.leaves.get, ?_, ?_⟩
  · rw [hname, metadata_of_versioned hutd, hupName]
  · funext p
    rw [hleaves p, htp.injectedPaths, forwarded]
    simp only [Leaves.mem_paths, List.not_mem_nil, or_false]
  · intro p hp
    unfold snapshot at hform
    split_ifs at hform
    · obtain ⟨versioned, hversioned, hsome⟩ := Except.map_eq_ok_iff.mp hform
      obtain rfl := Option.some.inj hsome
      exact ⟨(htp.versioned hversioned).2 p hp, hutdFields p hp⟩
    · cases hform

section

variable (hleaves : patch.leaves.get = forwarded config.get snapshot out)
  (hvalues : ∀ p, T p → snapshot (.field p) = obj.field p ∧ out (.field p) = up.field p)
  (ho : ∀ p, T p → o.field p = (S.applied patch).field p)
include hleaves hvalues ho

lemma KeepsFields.wrote_relayed {ns name : String} (hstored : S ns name = some stored)
    (hread : tp.forUpdate.finishWrite ctx tid stored = .ok original)
    (hobj : ∀ p, T p → obj.field p = (original.resolve manager config).field p)
    (hpatch : patch.fieldManager = manager ∧ patch.ns = ns ∧ patch.name = name) :
    tp.WroteFields T S tid obj up o := by
  obtain ⟨rfl, rfl, rfl⟩ := hpatch
  obtain ⟨hmanaged, output, shown, houtput, hshown, hbody⟩ := htp.read hread
  have happlied : ∀ p, T p → o.field p =
      (stored.managed.apply patch.fieldManager (forwarded config.get snapshot out)).value (.field p) := by
    intro p hp
    rw [ho p hp, Store.applied, hstored, Option.getD_some, Object.field_resolve, hleaves]
  have hsole : ∀ p, original.managed.Sole patch.fieldManager (.field p) ↔
      stored.managed.Sole patch.fieldManager (.field p) :=
    fun p => Object.sole_congr hmanaged _ _
  have horiginal : ∀ p, original.field p = shown.field p := fun p => by rw [Object.field, hbody]; rfl
  -- The gateway has resolved the apply on the view.
  have hsnapshot : ∀ p, T p → snapshot (.field p) =
      (original.managed.apply patch.fieldManager config.get).value (.field p) := by
    intro p hp
    rw [(hvalues p hp).1, hobj p hp, Object.field_resolve]
  refine .relayed _ _ stored output shown hstored houtput hshown ?_ ?_
  · intro p hp hexact hdrop
    rw [happlied p hp, ← (hvalues p hp).2]
    refine Managed.value_apply_forwarded_eq ?_ (hsole p) (hsnapshot p hp) ?_
    · show original.field p = stored.field p
      rw [horiginal, hexact, houtput p hp]
    · rw [(hvalues p hp).1, (hvalues p hp).2]
      exact hdrop
  · intro p hp hpresent hkept
    rw [happlied p hp, ← (hvalues p hp).2]
    refine Managed.isSome_value_apply_forwarded ?_ (hsole p) (hsnapshot p hp) ?_
    · show (original.field p).isSome = (stored.field p).isSome
      rw [horiginal, hpresent, houtput p hp]
    · rw [(hvalues p hp).1, (hvalues p hp).2]
      exact hkept

omit htp in
lemma wrote_created (hmissing : S patch.ns patch.name = none)
    (hobj : ∀ p, T p → obj.field p = config.get (.field p)) :
    tp.WroteFields T S tid obj up o := by
  refine .whole fun p hp => ?_
  have hfresh : ∀ fresh : Object Fields, fresh.body.fields = ∅ → fresh.field p = none := by
    intro fresh h
    rw [Object.field, h]
    rfl
  rw [ho p hp, Store.applied, hmissing, Object.field_resolve_of_none (hfresh _ rfl), hleaves,
    ← (hvalues p hp).2]
  cases hout : out (.field p) with
  | none => rw [forwarded, hout, ite_self]
  | some v => exact forwarded_of_patch (by rw [(hvalues p hp).1, hobj p hp]) hout

end

theorem KeepsFields.wroteFields (hsrv : srv.StoresFields tp settings T) (hr : r.Resolved T ctx)
    (hship : tp.ship g pods new (srv.upstream S) ctx r = .ok s)
    (hstored : tp.storedFor (srv.upstream S) ctx r.options s = .ok o) :
    ctx.tenantID = some s.tenantID ∧ ∃ obj up,
      tp.convertTenantObjectToUpstreamObject obj s.tenantID = .ok up ∧
      tp.WroteFields T S s.tenantID obj up o := by
  obtain ⟨submitted, hsubmitted, hprepared⟩ := ship_eq_ok_iff.mp hship
  obtain ⟨obj, up, hname, hbody, htenant, hclient, hform, hup, hutd⟩ := htp.prepared
    (hprepared.imp And.right And.right)
  obtain ⟨-, hutdFields⟩ := htp.versioned hutd
  refine ⟨htenant, obj, up, hup, ?_⟩
  obtain happly | ⟨-, hcreate⟩ | ⟨-, created, hupdate⟩ := storedFor_ok htp.subresource hstored
  · obtain ⟨patch, hpatch, ho⟩ := hsrv.forwardApply S ctx _ _ _ _ o happly
    obtain ⟨req, config, rfl, hresolved⟩ := hr (applyPatch_eq_some_iff.mp hpatch).1
    -- Read or not, the API machinery has resolved the apply to the object that is submitted.
    have hrelayed : ∀ x, req.objInfo.updatedObject x = .ok submitted →
        obj.metadata.name = req.name ∧ applyEntry obj req.options.fieldManager = some config.paths ∧
        ∀ p, T p → obj.field p = (x.resolve req.options.fieldManager config).field p := by
      intro x hx
      obtain ⟨hreq, hentry, hfields⟩ := hresolved x submitted hx
      refine ⟨hname.trans hreq, ?_, fun p hp => ?_⟩
      · rw [applyEntry_congr (congrArg Fields.managedFields hbody), hentry]
      · rw [← hfields p hp, Object.field, hbody]
        rfl
    obtain ⟨original, hread, hx⟩ | ⟨e, hread, hnotFound, hx⟩ := resolved_of_submitted hsubmitted
    · obtain ⟨hreq, hentry, hfields⟩ := hrelayed original hx
      obtain ⟨hmanager, hns, hpname, snapshot, out, hleaves, hvalues⟩ :=
        htp.leaves_patch hform hup hutd hentry hpatch
      obtain ⟨tid, ns, stored, htenant', hclient', hget, hfinish⟩ := readForUpdate_ok hread
      obtain rfl : tid = s.tenantID := Option.some.inj (htenant'.symm.trans htenant)
      refine htp.wrote_relayed hleaves hvalues ho (hsrv.get S _ _ _ hget) hfinish hfields
        ⟨hmanager, ?_, ?_⟩
      · exact Except.ok.inj (hns.symm.trans hclient')
      · rw [hpname, hreq]
    · obtain ⟨hreq, hentry, hfields⟩ := hrelayed new hx
      obtain ⟨hmanager, hns, hpname, snapshot, out, hleaves, hvalues⟩ :=
        htp.leaves_patch hform hup hutd hentry hpatch
      refine wrote_created hleaves hvalues ho ?_ fun p hp => ?_
      · rw [hpname, hreq]
        exact hsrv.missing S ctx req.name e _ _ hread hnotFound htenant hns
      · rw [hfields p hp, Object.field_resolve_of_none (htp.newFields p hp)]
  · exact .whole fun p hp => by rw [hsrv.create S _ _ _ o hcreate p hp, hutdFields p hp]
  · exact .whole fun p hp => by rw [hsrv.update S _ _ _ o created hupdate p hp, hutdFields p hp]

end

end TenantProxy

/-- A kind that is followed at the paths `T`, and the upstream that stores it. -/
structure RelayedKind (T : String → Prop) where
  tp : TenantProxy Fields
  g : Guards Fields
  pods : PodSteps Fields
  new : Object Fields
  settings : ApplySettings
  srv : Server Fields
  keeps : tp.KeepsFields g pods new settings T
  stores : srv.StoresFields tp settings T

namespace RelayedKind

variable {T : String → Prop} (K : RelayedKind T)

def requestsOf (tid : String) :
    Transition.System (Store Fields) (RequestContext × TenantRequest Fields) :=
  (K.tp.requests K.g K.pods K.new K.srv).restrict fun _ a =>
    a.1.tenantID = some tid ∧ a.2.Resolved T a.1

variable {K}

lemma all_of_wrote {tid : String} {I : Object Fields → Prop} {S : Store Fields}
    (hfields : ∀ o o', (∀ p, T p → o'.field p = o.field p) → I o → I o')
    (hwrote : ∀ S obj up o, S.All I → K.tp.convertTenantObjectToUpstreamObject obj tid = .ok up →
      K.tp.WroteFields T S tid obj up o → I o)
    (hS : (K.requestsOf tid).Reachable S) : S.All I := by
  refine TenantProxy.all_of_reachable hS ?_
  intro S ctx r hI hr
  have hdelete : K.srv.DeleteKeeps I := by
    intro S ns name options left h
    obtain ⟨old, hold, hsame⟩ := K.stores.delete S ns name options left h
    exact ⟨old, hold, hfields old left hsame⟩
  refine TenantProxy.after_all hI hdelete ?_
  intro s o hship hstored
  obtain ⟨htenant, obj, up, hup, hobj⟩ := K.keeps.wroteFields K.stores hr.2 hship hstored
  obtain rfl : s.tenantID = tid := Option.some.inj (htenant.symm.trans hr.1)
  exact hwrote S obj up o hI hup hobj

end RelayedKind

def TenantProxy.applyingServer (tp : TenantProxy Fields) (settings : ApplySettings) :
    Server Fields :=
  { storingServer with upstream := tp.applying settings }

lemma TenantProxy.storesFields_applyingServer {tp : TenantProxy Fields} {settings : ApplySettings}
    (hhide : tp.hideProjected = false)
    (hown : ∀ ctx t o e, tp.forUpdate.finishWrite ctx t o = .error e → e.isNotFound = false)
    (T : String → Prop) : (tp.applyingServer settings).StoresFields tp settings T where
  get S ns name o h := (tp.applying_get_eq_ok_iff settings).mp h
  missing S ctx name e t ns h he htenant hclient := by
    obtain ⟨t', ns', e', htenant', hclient', hget⟩ := readForUpdate_notFound hhide
      (fun t o => hown ctx t o e) h he
    obtain rfl : t = t' := Option.some.inj (htenant.symm.trans htenant')
    obtain rfl : ns = ns' := Except.ok.inj (hclient.symm.trans hclient')
    rw [Option.eq_none_iff_forall_ne_some]
    intro o hS
    rw [show ((tp.applyingServer settings).upstream S).get ns (tp.upstreamName name t) "" = .ok o from
      (tp.applying_get_eq_ok_iff settings).mpr hS] at hget
    cases hget
  create S ns utd options o h p _ := by
    change (Upstream.ofStore (fun _ _ _ => false) S).create ns utd options = .ok o at h
    cases hS : S ns utd.metadata.name with
    | none =>
      simp only [Upstream.ofStore, hS] at h
      rw [Except.ok.inj h]
    | some old =>
      simp only [Upstream.ofStore, hS] at h
      cases h
  update S ns utd options o created h p _ := by
    change (Upstream.ofStore (fun _ _ _ => false) S).update ns utd options "" = .ok (o, created) at h
    simp only [Upstream.ofStore] at h
    split_ifs at h
    obtain ⟨rfl, -⟩ := Prod.mk.inj (Except.ok.inj h)
    rfl
  forwardApply S ctx utd form manager options o h := by
    change tp.forwardApply settings (fun patch => .ok (S.applied patch)) ctx utd form manager options =
      .ok (some o) at h
    obtain ⟨sent, hsent, h⟩ := Except.bind_eq_ok_iff.mp h
    cases sent with
    | none => cases h
    | some patch =>
      obtain rfl : S.applied patch = o := Option.some.inj (Except.ok.inj h)
      exact ⟨patch, hsent, fun p _ => rfl⟩
  delete S ns name options left h := by
    change storingServer.delete S ns name options = .ok (some left) at h
    cases hS : S ns name with
    | none =>
      simp only [storingServer, hS] at h
      cases h
    | some old =>
      simp only [storingServer, hS] at h
      cases h

lemma resolved_request (T : String → Prop) {a : NamespaceApply} (hmanager : a.fieldManager ≠ "") :
    (TenantRequest.update a.request).Resolved T a.ctx := by
  intro _
  refine ⟨a.request, a.config, rfl, fun x y hy => ?_⟩
  rw [← Except.ok.inj hy]
  exact ⟨rfl, applyEntry_resolve hmanager rfl, fun p _ => rfl⟩

namespace RelayedKind

variable {T : String → Prop} (K : RelayedKind T)

def applied (as : List NamespaceApply) : Store Fields :=
  as.foldl (fun S a => K.tp.after K.g K.pods K.new K.srv S a.ctx (.update a.request)) .empty

lemma reachable_applied {tid : String} {as : List NamespaceApply}
    (h : ∀ a ∈ as, a.ctx.tenantID = some tid ∧ a.fieldManager ≠ "") :
    (K.requestsOf tid).Reachable (K.applied as) := by
  have hrun : ∀ S, (K.requestsOf tid).Reachable S → (K.requestsOf tid).Reachable
      (as.foldl (fun S a => K.tp.after K.g K.pods K.new K.srv S a.ctx (.update a.request)) S) := by
    induction as with
    | nil => exact fun S hS => hS
    | cons a as ih =>
      intro S hS
      obtain ⟨htenant, hmanager⟩ := h a List.mem_cons_self
      exact ih (fun b hb => h b (List.mem_cons_of_mem a hb)) _
        (hS.step (a := (a.ctx, .update a.request)) ⟨rfl, htenant, resolved_request T hmanager⟩)
  exact hrun _ (.init rfl)

end RelayedKind

end KubeZoo
