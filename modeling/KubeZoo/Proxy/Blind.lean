import KubeZoo.Proxy.Claims
import KubeZoo.Proxy.EndpointAddress
import KubeZoo.Proxy.NamespaceCap
import KubeZoo.Proxy.QuotaWrite

/-! # What a patch can learn of hidden metadata -/

namespace KubeZoo

open HiddenMetadata

open HiddenMetadata (Alike hides alike_iff strip_eq_of_alike)

open Except (Agree)

variable {β : Type}

/-- Two upstreams that answer alike. -/
structure AlikeUpstreams (h : Option HiddenMetadata) (c c' : Upstream β) : Prop where
  get : ∀ ns name sub, Agree (Alike h) (c.get ns name sub) (c'.get ns name sub)
  getNamespace : ∀ ns, c.getNamespace ns = c'.getNamespace ns
  create : ∀ ns utd options, Agree (Alike h) (c.create ns utd options) (c'.create ns utd options)
  createSubresource : ∀ ns name utd options sub,
    Agree (Alike h) (c.createSubresource ns name utd options sub)
      (c'.createSubresource ns name utd options sub)
  update : ∀ ns utd utd' options sub, Alike h utd utd' →
    Agree (fun r r' => Alike h r.1 r'.1 ∧ r.2 = r'.2) (c.update ns utd options sub)
      (c'.update ns utd' options sub)
  forwardApply : ∀ ctx utd utd' form form' manager options,
    Alike h utd utd' → Option.Rel (Alike h) form form' →
    Agree (Option.Rel (Alike h)) (c.forwardApply ctx utd form manager options)
      (c'.forwardApply ctx utd' form' manager options)

/-- The guards of an update do not tell alike objects apart. -/
structure BlindGuards (h : Option HiddenMetadata) (g : Guards β) : Prop where
  object : ∀ guard ∈ [g.refuseInlineCSIVolume, g.refuseExternalNameService, g.refuseProbeHost,
      g.refuseTenantBinding, g.refuseUnpublishedDeviceClass, g.refusePlatformQuotaWrite],
    ∀ o o', Alike h o o' → guard o = guard o'
  stored : ∀ guard ∈ [g.refuseUnpublishedVolumeAttributesClass, g.refuseUnpublishedEphemeralClasses,
      g.refuseTenantWrittenPodAddresses, g.refuseNewExternalIPs, g.refuseNodePorts],
    ∀ o o' old old', Alike h o o' → Alike h old old' → guard o (some old) = guard o' (some old')
  endpoint : ∀ ctx o o', Alike h o o' →
    g.refuseForgedEndpointAddress ctx o = g.refuseForgedEndpointAddress ctx o'
  clusterIP : ∀ o o' old old', Alike h o o' → Alike h old old' →
    Agree (Alike h) (g.refuseForeignClusterIP o (some old))
      (g.refuseForeignClusterIP o' (some old'))

/-- Alike objects are shown alike. -/
structure BlindReads (tp : TenantProxy β) : Prop where
  toTenant : ∀ o o' tid isNamespaceScoped, Alike tp.hiddenMetadata o o' →
    Agree (Alike tp.hiddenMetadata)
      (tp.convertor.convertUpstreamObjectToTenantObject o tid isNamespaceScoped)
      (tp.convertor.convertUpstreamObjectToTenantObject o' tid isNamespaceScoped)
  toVersioned : ∀ o o', Alike tp.hiddenMetadata o o' → tp.toVersioned o = tp.toVersioned o'
  fromVersioned : ∀ o o', Alike tp.hiddenMetadata o o' → tp.fromVersioned o = tp.fromVersioned o'
  clusterIP : ∀ o o', Alike tp.hiddenMetadata o o' →
    Alike tp.hiddenMetadata (tp.showTenantClusterIP o) (tp.showTenantClusterIP o')

def KeepsHidden (h : Option HiddenMetadata) (obj stored : Object β) : Prop :=
  ∀ k, hides h k = true → obj.metadata.labels[k]? = stored.metadata.labels[k]? ∧
    obj.metadata.annotations[k]? = stored.metadata.annotations[k]?

def BlindWrites (tp : TenantProxy β) (stored stored' : Object β) : Prop :=
  ∀ o o' tid, Alike tp.hiddenMetadata o o' → KeepsHidden tp.hiddenMetadata o stored →
    KeepsHidden tp.hiddenMetadata o' stored' →
    Agree (Alike tp.hiddenMetadata) (tp.convertTenantObjectToUpstreamObject o tid)
      (tp.convertTenantObjectToUpstreamObject o' tid)

lemma keepsHidden_restore (h : Option HiddenMetadata) (obj stored : Object β) :
    KeepsHidden h (restore h obj (some stored)) stored := by
  intro k hk
  cases h with
  | none => simp [hides] at hk
  | some _ => simp [restore, hk]

namespace TenantProxy

variable {tp : TenantProxy β} {g : Guards β} {pods : PodSteps β} {new : Object β}
  {c c' : Upstream β} {o o' : Object β} (hreads : BlindReads tp) (hview : tp.storageView = false)
  (hg : BlindGuards tp.hiddenMetadata g) (hc : AlikeUpstreams tp.hiddenMetadata c c')
  (ctx : RequestContext)

variable (tp) in
/-- Nothing that is shown tells the two apart. -/
abbrev ShowsAlike : Object β → Object β → Prop := HiddenMetadata.Alike tp.hiddenMetadata

variable (ho : tp.ShowsAlike o o')

include hreads ho in
lemma applyTenantViews_alike :
    tp.ShowsAlike (tp.applyTenantViews o) (tp.applyTenantViews o') ∧
      (tp.storageView = false → tp.applyTenantViews o = tp.applyTenantViews o') := by
  have hstrip := strip_eq_of_alike (hreads.clusterIP o o' ho)
  by_cases hview : tp.storageView = true
  · simp [applyTenantViews, hview, ho]
  · simp [applyTenantViews, hview, hstrip, HiddenMetadata.Alike.refl]

include ho in
lemma echoRequestNamespace_alike (tid ns : String) :
    tp.ShowsAlike (tp.echoRequestNamespace o tid ns) (tp.echoRequestNamespace o' tid ns) := by
  obtain ⟨hrest, hlabels, hannotations, htemplate, hbody⟩ := alike_iff.mp ho
  have hns := ho.fields.2.1
  simp only [echoRequestNamespace, ← hns]
  split_ifs
  · exact ho
  · exact ho
  · exact ho
  · refine alike_iff.mpr ⟨?_, hlabels, hannotations, htemplate, hbody⟩
    show ({ o.metadata.bare with «namespace» := ns } : ObjectMeta) =
      { o'.metadata.bare with «namespace» := ns }
    rw [hrest]

include ho in
lemma converted_alike {f : Object β → Except GoError β}
    (hf : ∀ o o', tp.ShowsAlike o o' → f o = f o') :
    Agree tp.ShowsAlike
      (if tp.unstructured then .ok o else (f o).map fun body => { o with body := body })
      (if tp.unstructured then .ok o' else (f o').map fun body => { o' with body := body }) := by
  by_cases hu : tp.unstructured = true
  · rw [if_pos hu, if_pos hu]
    exact .ok ho
  · rw [if_neg hu, if_neg hu, hf o o' ho]
    refine (Agree.refl (fun _ => rfl) (f o')).map (r := (· = ·)) ?_
    rintro body _ rfl
    obtain ⟨hrest, hlabels, hannotations, htemplate, -⟩ := alike_iff.mp ho
    exact alike_iff.mpr ⟨hrest, hlabels, hannotations, htemplate, rfl⟩

include hreads ho in
lemma convertUnstructuredToOutput_alike :
    Agree tp.ShowsAlike (tp.convertUnstructuredToOutput o)
      (tp.convertUnstructuredToOutput o') := converted_alike ho hreads.fromVersioned

include hreads ho in
lemma convertInternalObjectToUnstructuredObject_alike :
    Agree tp.ShowsAlike (tp.convertInternalObjectToUnstructuredObject o)
      (tp.convertInternalObjectToUnstructuredObject o') := converted_alike ho hreads.toVersioned

include hreads ho in
lemma finishWrite_alike (tid : String) :
    Agree (fun r r' => tp.ShowsAlike r r' ∧ (tp.storageView = false → r = r'))
      (tp.finishWrite ctx tid o) (tp.finishWrite ctx tid o') := by
  refine (convertUnstructuredToOutput_alike hreads ho).bind fun out out' hout => ?_
  refine (hreads.toTenant out out' tid tp.namespaceScoped hout).bind fun t t' ht => ?_
  obtain ⟨hviews, heq⟩ := applyTenantViews_alike hreads ht
  refine .ok ⟨echoRequestNamespace_alike hviews tid _, fun hview => ?_⟩
  rw [heq hview]

include hc in
lemma shapeError_eq (tid : String) (e : GoError) :
    tp.shapeError c ctx e tid = tp.shapeError c' ctx e tid := by
  simp only [shapeError, hc.getNamespace]

include hreads hc in
lemma readForUpdate_alike (name : String) :
    Agree tp.ShowsAlike (tp.readForUpdate c ctx name) (tp.readForUpdate c' ctx name) := by
  have hreads' : BlindReads tp.forUpdate := ⟨hreads.1, hreads.2, hreads.3, hreads.4⟩
  have hc' : AlikeUpstreams tp.forUpdate.hiddenMetadata c c' := hc
  rw [readForUpdate, readForUpdate, get, get]
  split_ifs
  · exact .error _
  · exact .error _
  · cases ctx.tenantID with
    | none => exact .error _
    | some tid =>
      refine (Agree.refl (fun _ => rfl) (tp.forUpdate.getClient ctx)).bind (r := (· = ·)) ?_
      rintro ns _ rfl
      refine ((hc.get ns _ _).mapError (shapeError_eq hc' ctx tid)).bind
        fun utd utd' hutd => ?_
      exact (finishWrite_alike hreads' ctx hutd tid).imp fun _ _ _ _ hr => hr.1

include hg ho in
lemma guardUpdate_alike {old old' : Object β} (hold : tp.ShowsAlike old old') :
    Agree (fun r r' =>
        tp.ShowsAlike r r' ∧ KeepsHidden tp.hiddenMetadata r old ∧
      KeepsHidden tp.hiddenMetadata r' old') (tp.guardUpdate g ctx o old)
      (tp.guardUpdate g ctx o' old') := by
  refine (Agree.of_eq (hg.stored _ (by simp) o o' old old' ho hold)).bind fun _ _ _ => ?_
  refine (Agree.of_eq (hg.object _ (by simp) o o' ho)).bind fun _ _ _ => ?_
  refine (Agree.of_eq (hg.endpoint ctx o o' ho)).bind fun _ _ _ => ?_
  refine (Agree.of_eq (hg.stored _ (by simp) o o' old old' ho hold)).bind fun _ _ _ => ?_
  refine (Agree.of_eq (hg.stored _ (by simp) o o' old old' ho hold)).bind fun _ _ _ => ?_
  refine (Agree.of_eq (hg.object _ (by simp) o o' ho)).bind fun _ _ _ => ?_
  refine (Agree.of_eq (hg.stored _ (by simp) o o' old old' ho hold)).bind fun _ _ _ => ?_
  refine (hg.clusterIP o o' old old' ho hold).bind fun p p' hp => ?_
  refine (Agree.of_eq (hg.object _ (by simp) p p' hp)).bind fun _ _ _ => ?_
  have hr := hp.restore hold
  refine (Agree.of_eq (hg.stored _ (by simp) _ _ old old' hr hold)).bind fun _ _ _ => ?_
  refine (Agree.of_eq (hg.object _ (by simp) _ _ hr)).bind fun _ _ _ => ?_
  refine (Agree.of_eq (hg.object _ (by simp) _ _ hr)).bind fun _ _ _ => ?_
  exact .ok ⟨hr, keepsHidden_restore _ p old, keepsHidden_restore _ p' old'⟩

include ho in
lemma refuseProjectedLabel_eq :
    tp.refuseProjectedLabel o = tp.refuseProjectedLabel o' := by
  simp only [refuseProjectedLabel, ho.labels_none_iff, ho.fields.1]

include hreads ho in
lemma snapshot_alike :
    Agree (Option.Rel tp.ShowsAlike) (tp.snapshot ctx o) (tp.snapshot ctx o') := by
  rw [snapshot, snapshot]
  split_ifs
  · exact (convertInternalObjectToUnstructuredObject_alike hreads ho).map fun _ _ h => .some h
  · exact .ok .none

def OutgoingAlike (h : Option HiddenMetadata) (out out' : Outgoing β) : Prop :=
  out.tenantID = out'.tenantID ∧ out.ns = out'.ns ∧
    Option.Rel (HiddenMetadata.Alike h) out.tenantForm out'.tenantForm ∧
      HiddenMetadata.Alike h out.utd out'.utd

include hreads hg ho in
lemma prepareUpdate_alike {stored stored' : Object β} (hwrites : BlindWrites tp stored stored')
    (hs : KeepsHidden tp.hiddenMetadata o stored)
    (hs' : KeepsHidden tp.hiddenMetadata o' stored') :
    Agree (OutgoingAlike tp.hiddenMetadata) (tp.prepareUpdate g ctx o)
      (tp.prepareUpdate g ctx o') := by
  rw [prepareUpdate, prepareUpdate]
  cases ctx.tenantID with
  | none => exact .error _
  | some tid =>
    refine (Agree.of_eq (hg.object _ (by simp) o o' ho)).bind fun _ _ _ => ?_
    refine (snapshot_alike hreads ctx ho).bind fun form form' hform => ?_
    refine (hwrites o o' tid ho hs hs').bind fun up up' hup => ?_
    refine (convertInternalObjectToUnstructuredObject_alike hreads hup).bind fun utd utd' hutd => ?_
    rw [hutd.fields.1, refuseProjectedLabel_eq hutd]
    refine (Agree.refl (fun _ => rfl) (tp.getClient ctx)).bind (r := (· = ·)) ?_
    rintro ns _ rfl
    refine (Agree.refl (fun _ => rfl) (tp.refuseReservedName tid _)).bind (r := (· = ·)) ?_
    rintro _ _ -
    refine (Agree.refl (fun _ => rfl) (tp.refuseProjectedName _)).bind (r := (· = ·)) ?_
    rintro _ _ -
    refine (Agree.refl (fun _ => rfl) (tp.refuseProjectedLabel _)).bind (r := (· = ·)) ?_
    rintro _ _ -
    exact .ok ⟨rfl, rfl, hform, hutd⟩

variable {h : Option HiddenMetadata} {out out' : Outgoing β}

include hc in
lemma callWrite_alike (options : WriteOptions) (hout : OutgoingAlike tp.hiddenMetadata out out') :
    Agree (fun r r' => tp.ShowsAlike r.1 r'.1 ∧ r.2 = r'.2)
      (tp.callWrite c ctx options out) (tp.callWrite c' ctx options out') := by
  obtain ⟨-, hns, hform, hutd⟩ := hout
  have happly : Agree (Option.Rel tp.ShowsAlike) (tp.callApply c ctx options out)
      (tp.callApply c' ctx options out') := by
    rw [callApply, callApply]
    split_ifs
    · exact hc.forwardApply ctx _ _ _ _ _ options hutd hform
    · exact .ok .none
  refine happly.bind fun applied applied' happlied => ?_
  cases happlied with
  | some hgot => exact .ok ⟨hgot, rfl⟩
  | none =>
    show Agree _ (tp.callUpdate c options out) (tp.callUpdate c' options out')
    rw [callUpdate, callUpdate, ← hns]
    refine (hc.update out.ns _ _ options tp.subresource hutd).map ?_
    rintro ⟨got, created⟩ ⟨got', _⟩ ⟨hgot, rfl⟩
    exact ⟨hgot, rfl⟩

include hreads hview hc in
lemma sendUpdate_eq (options : WriteOptions) (hout : OutgoingAlike tp.hiddenMetadata out out') :
    tp.sendUpdate c ctx options out = tp.sendUpdate c' ctx options out' := by
  refine Agree.eq ?_
  rw [sendUpdate, sendUpdate, ← hout.1]
  refine ((callWrite_alike hc ctx options hout).mapError fun _ => rfl).bind ?_
  rintro ⟨got, created⟩ ⟨got', _⟩ ⟨hgot, rfl⟩
  refine (finishWrite_alike hreads ctx hgot out.tenantID).bind fun r r' hr => ?_
  exact .ok (by rw [hr.2 hview])

include hreads hview in
lemma finishCreate_eq (tid : String) {got got' : Except GoError (Object β)}
    (hgot : Agree tp.ShowsAlike got got') :
    (got.mapError fun e => tp.contract.trimTenantIDFromError e tid).bind (tp.finishWrite ctx tid) =
      (got'.mapError fun e => tp.contract.trimTenantIDFromError e tid).bind
        (tp.finishWrite ctx tid) := by
  refine Agree.eq ((hgot.mapError fun _ => rfl).bind fun o o' ho => ?_)
  exact (finishWrite_alike hreads ctx ho tid).imp fun _ _ _ _ h => h.2 hview

include hreads hview hc in
lemma sendCreate_eq (options : WriteOptions) (tid : String) (utd : Object β) :
    (tp.sendCreate c.toWriteClient ctx options tid utd).2 =
      (tp.sendCreate c'.toWriteClient ctx options tid utd).2 := by
  rw [sendCreate, sendCreate]
  cases tp.getClient ctx with
  | error e => rfl
  | ok ns =>
    by_cases hsub : tp.subresource = ""
    · simp only [if_pos hsub]
      exact finishCreate_eq hreads hview ctx tid (hc.create ns utd options)
    · simp only [if_neg hsub]
      cases ctx.requestInfo with
      | none => rfl
      | some info =>
        exact finishCreate_eq hreads hview ctx tid (hc.createSubresource ns _ utd options _)

include hreads hview hc in
lemma create_eq (obj : Object β) (options : WriteOptions) :
    (tp.create g pods c.toWriteClient ctx obj options).2 =
      (tp.create g pods c'.toWriteClient ctx obj options).2 := by
  rw [create, create]
  cases tp.prepareCreate g pods ctx obj with
  | error e => rfl
  | ok out =>
    obtain ⟨tid, form, utd⟩ := out
    have hsend := sendCreate_eq hreads hview hc ctx options tid utd
    by_cases happly : tp.subresource = "" ∧ options.fieldManager ≠ ""
    · simp only [if_pos happly]
      have hform : Option.Rel tp.ShowsAlike form form := by
        cases form with
        | none => exact .none
        | some form => exact .some (.refl form)
      have hfwd :=
        hc.forwardApply ctx utd utd form form options.fieldManager options (.refl utd) hform
      revert hfwd
      generalize c.forwardApply ctx utd form options.fieldManager options = x
      generalize c'.forwardApply ctx utd form options.fieldManager options = y
      intro hfwd
      cases hfwd with
      | error e => rfl
      | ok happlied =>
        cases happlied with
        | some hgot => exact finishCreate_eq hreads hview ctx tid (.ok hgot)
        | none => exact hsend
    · simp only [if_neg happly]
      exact hsend

lemma checkPreconditions_eq (preconditions : Option Preconditions)
    (ho : HiddenMetadata.Alike h o o') :
    checkPreconditions preconditions o = checkPreconditions preconditions o' := by
  simp only [checkPreconditions, ho.fields.2.2.1, ho.fields.2.2.2]

/-- The patch makes alike objects of the two. -/
def PatchAgrees (h : Option HiddenMetadata) (objInfo : UpdatedObjectInfo β) (o o' : Object β) :
    Prop :=
  checkPreconditions objInfo.preconditions o = .ok () →
    Agree (HiddenMetadata.Alike h) (objInfo.updatedObject o) (objInfo.updatedObject o')

lemma patched_alike {objInfo : UpdatedObjectInfo β} (ho : HiddenMetadata.Alike h o o')
    (hpatch : PatchAgrees h objInfo o o') :
    Agree (HiddenMetadata.Alike h) (patched objInfo o) (patched objInfo o') := by
  rw [patched, patched, ← checkPreconditions_eq objInfo.preconditions ho]
  cases hpre : checkPreconditions objInfo.preconditions o with
  | error e => exact .error e
  | ok u => exact hpatch hpre

include hreads hview hg hc ho in
lemma roundFound_eq (req : PatchRequest β) (hwrites : BlindWrites tp o o')
    (hpatch : PatchAgrees tp.hiddenMetadata req.objInfo o o') :
    tp.roundFound g c ctx req o = tp.roundFound g c' ctx req o' := by
  have hguarded := (patched_alike ho hpatch).bind fun u u' hu =>
    guardUpdate_alike (g := g) hg ctx hu ho
  rw [roundFound, roundFound]
  revert hguarded
  generalize (patched req.objInfo o >>= fun obj => tp.guardUpdate g ctx obj o) = x
  generalize (patched req.objInfo o' >>= fun obj => tp.guardUpdate g ctx obj o') = y
  intro hguarded
  cases hguarded with
  | error e => rfl
  | @ok u u' hu =>
    have hupdate : tp.update g c ctx u req.options = tp.update g c' ctx u' req.options := by
      refine Agree.eq ((prepareUpdate_alike hreads hg ctx hu.1 hwrites hu.2.1 hu.2.2).bind ?_)
      intro out out' hout
      exact Agree.of_eq (sendUpdate_eq hreads hview hc ctx req.options hout)
    simp only [hupdate]

include hreads hview hg hc in
lemma round_eq (req : PatchRequest β) {read read' : Except GoError (Object β)}
    (hread : Agree (fun o o' => tp.ShowsAlike o o' ∧ BlindWrites tp o o' ∧
      PatchAgrees tp.hiddenMetadata req.objInfo o o') read read') :
    tp.round g pods new c ctx req read = tp.round g pods new c' ctx req read' := by
  cases hread with
  | ok ho => exact roundFound_eq hreads hview hg hc ctx ho.1 req ho.2.1 ho.2.2
  | error e =>
    simp only [round, roundMissing, create_eq hreads hview hc]

include hreads hview hg in
lemma guaranteedUpdate_eq (req : PatchRequest β) (rounds : ℕ) :
    ∀ history history' : ℕ → Upstream β × Upstream β,
    (∀ i, AlikeUpstreams tp.hiddenMetadata (history i).2 (history' i).2) →
    (∀ i, Agree (fun o o' => tp.ShowsAlike o o' ∧ BlindWrites tp o o' ∧
      PatchAgrees tp.hiddenMetadata req.objInfo o o') (tp.readForUpdate (history i).1 ctx req.name)
        (tp.readForUpdate (history' i).1 ctx req.name)) →
    tp.guaranteedUpdate g pods new ctx req history rounds =
      tp.guaranteedUpdate g pods new ctx req history' rounds := by
  induction rounds with
  | zero => intro history history' _ _; rfl
  | succ rounds ih =>
    intro history history' hc hread
    rw [guaranteedUpdate, guaranteedUpdate, round_eq hreads hview hg (hc 0) ctx req (hread 0)]
    cases tp.round g pods new (history' 0).2 ctx req
        (tp.readForUpdate (history' 0).1 ctx req.name) with
    | done result => rfl
    | again => exact ih _ _ (fun i => hc (i + 1)) fun i => hread (i + 1)

/-- Guards that refuse what `f` does. -/
def refusing (f : Object β → Except GoError Unit) : Guards β :=
  { Guards.permissive with refuseUnpublishedVolumeAttributesClass := fun obj _ => f obj }

lemma blindGuards_refusing {f : Object β → Except GoError Unit}
    (hf : ∀ o o', HiddenMetadata.Alike h o o' → f o = f o') : BlindGuards h (refusing f) where
  object := by
    intro guard hguard o o' _
    simp only [List.mem_cons, List.not_mem_nil, or_false] at hguard
    rcases hguard with rfl | rfl | rfl | rfl | rfl | rfl <;> rfl
  stored := by
    intro guard hguard o o' old old' ho _
    simp only [List.mem_cons, List.not_mem_nil, or_false] at hguard
    rcases hguard with rfl | rfl | rfl | rfl | rfl
    · simp only [refusing, hf o o' ho]
    all_goals rfl
  endpoint _ _ _ _ := rfl
  clusterIP _ _ _ _ ho _ := .ok ho

lemma guaranteedUpdate_refusing (f : Object β → GoError) {ctx : RequestContext}
    {req : PatchRequest β} {v : Object β} (hread : tp.readForUpdate c ctx req.name = .ok v)
    (hpre : checkPreconditions req.objInfo.preconditions v = .ok ()) :
    tp.guaranteedUpdate (refusing fun o => .error (f o)) pods new ctx req (fun _ => (c, c)) 1 =
      some (.error (Except.observe f (req.objInfo.updatedObject v))) := by
  refine guaranteedUpdate_succ_done ?_ 0
  show tp.round _ _ _ c ctx req (tp.readForUpdate c ctx req.name) = _
  rw [hread, round, roundFound, patched, hpre]
  cases hu : req.objInfo.updatedObject v with
  | error e => simp only [bind, Except.bind, Except.observe]
  | ok u => simp only [bind, Except.bind, Except.observe]; rfl

end TenantProxy

/-- A patch of either of two alike stores has the same outcome for the tenant, whatever the guards
refuse, if and only if it does not tell the stored views it is handed apart. -/
theorem patch_outcome_eq_iff (tp : TenantProxy β) (hview : tp.storageView = false)
    (hreads : BlindReads tp) (pods : PodSteps β) (new : Object β) (ctx : RequestContext)
    (req : PatchRequest β) (c c' : Upstream β) (hc : AlikeUpstreams tp.hiddenMetadata c c')
    (hwrites : ∀ v v', tp.readForUpdate c ctx req.name = .ok v →
      tp.readForUpdate c' ctx req.name = .ok v' → BlindWrites tp v v') :
    (∀ g, BlindGuards tp.hiddenMetadata g → ∀ rounds,
      tp.guaranteedUpdate g pods new ctx req (fun _ => (c, c)) rounds =
        tp.guaranteedUpdate g pods new ctx req (fun _ => (c', c')) rounds) ↔
    ∀ v v', tp.readForUpdate c ctx req.name = .ok v → tp.readForUpdate c' ctx req.name = .ok v' →
      TenantProxy.PatchAgrees tp.hiddenMetadata req.objInfo v v' := by
  have hread := TenantProxy.readForUpdate_alike hreads hc ctx req.name
  constructor
  · intro hall v v' hv hv' hpre
    have halike : Alike tp.hiddenMetadata v v' := by
      rw [hv, hv'] at hread
      exact hread.of_ok
    have hpre' : checkPreconditions req.objInfo.preconditions v' = .ok () :=
      (TenantProxy.checkPreconditions_eq _ halike).symm.trans hpre
    -- Guards that refuse everything are observers of what the patch made.
    refine Except.agree_of_observe alike_equivalence fun f hf => ?_
    have h := hall _ (TenantProxy.blindGuards_refusing fun o o' ho =>
      congrArg Except.error (hf o o' ho)) 1
    rw [TenantProxy.guaranteedUpdate_refusing f hv hpre,
      TenantProxy.guaranteedUpdate_refusing f hv' hpre'] at h
    exact Except.error.inj (Option.some.inj h)
  · intro hpatch g hg rounds
    refine TenantProxy.guaranteedUpdate_eq hreads hview hg ctx req rounds _ _ (fun _ => hc)
      fun _ => ?_
    exact hread.imp fun v v' hv hv' h => ⟨h, hwrites v v' hv hv', hpatch v v' hv hv'⟩

section

variable {h : Option HiddenMetadata} {g : Guards β}

lemma blindGuards_permissive : BlindGuards h (Guards.permissive : Guards β) :=
  TenantProxy.blindGuards_refusing (f := fun _ => .ok ()) fun _ _ _ => rfl

lemma blindGuards_namespaceGuards {α : Type} (hg : BlindGuards h g) (client : DynamicClient α)
    (tenants : Option TenantLister) (maxNamespaces : ℤ) (isNamespace : β → Bool) :
    BlindGuards h (namespaceGuards client tenants maxNamespaces isNamespace g) :=
  ⟨hg.object, hg.stored, hg.endpoint, hg.clusterIP⟩

lemma blindGuards_claimGuards {g : Guards (Owned PersistentVolumeClaim)} (hg : BlindGuards h g)
    (published : Option PublishedClasses) : BlindGuards h (claimGuards published g) :=
  ⟨hg.object, hg.stored, hg.endpoint, fun _ _ _ _ ho _ => .ok ho⟩

lemma blindGuards_endpointGuards (pods : PodState) : BlindGuards h (endpointGuards pods) where
  object := blindGuards_permissive.object
  stored := blindGuards_permissive.stored
  endpoint _ o o' ho := by
    obtain ⟨hname, hns, -⟩ := ho.fields
    simp only [endpointGuards, refuseForgedEndpointAddress, (alike_iff.mp ho).2.2.2.2, hname, hns]
  clusterIP := blindGuards_permissive.clusterIP

/-- The guard of quotas asks whether the label is there, which is not hidden of any key. -/
lemma blindGuards_quotaGuards (createdby : String) :
    BlindGuards h (quotaGuards createdby : Guards β) where
  object := by
    intro guard hguard o o' ho
    simp only [List.mem_cons, List.not_mem_nil, or_false] at hguard
    rcases hguard with rfl | rfl | rfl | rfl | rfl | rfl
    on_goal 6 =>
      simp only [quotaGuards, refusePlatformQuotaWrite, ho.labels_none_iff createdby, ho.fields.1]
    all_goals rfl
  stored := blindGuards_permissive.stored
  endpoint _ _ _ _ := rfl
  clusterIP _ _ _ _ ho _ := .ok ho

end

lemma mask_insert (h : Option HiddenMetadata) (m : StringMap) (k v : String) :
    mask h (m.insert k v) =
      (mask h m).insert k (if hides h k then "" else v) := by
  ext a w
  rw [getElem?_mask, getElem?_insert_string, getElem?_insert_string,
    getElem?_mask]
  by_cases hka : k = a
  · rw [if_pos hka, if_pos hka, hka, Option.map_some]
  · rw [if_neg hka, if_neg hka]

variable {o o' : Object β} {h : Option HiddenMetadata}

lemma alike_insert_label (ho : Alike h o o') (k v : String) :
    Alike h { o with metadata := { o.metadata with labels := o.metadata.labels.insert k v } }
      { o' with metadata := { o'.metadata with labels := o'.metadata.labels.insert k v } } := by
  obtain ⟨hrest, hlabels, hannotations, htemplate, hbody⟩ := alike_iff.mp ho
  refine alike_iff.mpr ⟨hrest, ?_, hannotations, htemplate, hbody⟩
  rw [mask_insert, mask_insert, hlabels]

lemma namespaceForward_alike {c : Contract} (tid : String) (ho : Alike h o o')
    (hlabel : o.metadata.labels[tenantNamespaceLabelKey]? =
      o'.metadata.labels[tenantNamespaceLabelKey]?) :
    Agree (Alike h) (namespaceForward c o tid) (namespaceForward c o' tid) := by
  rw [namespaceForward, ho.fields.1, hlabel]
  refine (Agree.refl (fun _ => rfl) (c.namespaceNameForTenant tid _)).bind (r := (· = ·)) ?_
  rintro _ _ -
  split_ifs
  · exact .error _
  · have h1 := alike_insert_label ho tenantNamespaceLabelKey tid
    have h2 := alike_insert_label h1 c.podSecurityEnforceLabelKey c.podSecurityLevel
    exact .ok (alike_insert_label h2 c.podSecurityEnforceVersionLabelKey c.podSecurityVersion)

lemma blindReads_plainNamespaces : BlindReads plainNamespaces where
  toTenant _ _ _ _ ho := .ok ho
  toVersioned o o' _ := by rfl
  fromVersioned o o' _ := by rfl
  clusterIP _ _ ho := ho

def holding (x : Object Unit) : Upstream Unit :=
  { echoClient with get := fun _ _ _ => .ok x, getNamespace := fun _ => .ok () }

lemma alikeUpstreams_holding {x x' : Object Unit} (hx : Alike h x x') :
    AlikeUpstreams h (holding x) (holding x') where
  get _ _ _ := .ok hx
  getNamespace _ := rfl
  create _ utd _ := .ok (.refl utd)
  createSubresource _ _ utd _ _ := .ok (.refl utd)
  update _ _ _ _ _ hutd := .ok ⟨hutd, rfl⟩
  forwardApply _ _ _ _ _ _ _ _ _ := .ok .none

def notedNamespace (note : String) : Object Unit :=
  { metadata :=
      { name := "web"
        labels := (∅ : StringMap).insert "kubezoo.io/tenant" "111111"
        annotations := (∅ : StringMap).insert "kubezoo.io/note" note }
    body := () }

def labelPatch : PatchRequest Unit :=
  { name := "web"
    objInfo := { updatedObject := fun o => .ok { o with metadata := { o.metadata with
      labels := o.metadata.labels.insert "team" "green" } } } }

theorem patch_outcome_eq_labelled :
    Alike (some platformHidden) (notedNamespace "a") (notedNamespace "b") ∧
    ∀ g, BlindGuards (some platformHidden) g → ∀ rounds,
      plainNamespaces.guaranteedUpdate g noPod { body := () } webContext labelPatch
          (fun _ => (holding (notedNamespace "a"), holding (notedNamespace "a"))) rounds =
        plainNamespaces.guaranteedUpdate g noPod { body := () } webContext labelPatch
          (fun _ => (holding (notedNamespace "b"), holding (notedNamespace "b"))) rounds := by
  have halike : Alike (some platformHidden) (notedNamespace "a") (notedNamespace "b") := by
    rw [alike_iff]
    decide +kernel
  have hread : ∀ note, plainNamespaces.readForUpdate (holding (notedNamespace note)) webContext
      labelPatch.name = .ok (notedNamespace note) := fun _ => rfl
  refine ⟨halike, (patch_outcome_eq_iff plainNamespaces rfl blindReads_plainNamespaces noPod
    { body := () } webContext labelPatch _ _ (alikeUpstreams_holding halike) ?_).mpr ?_⟩
  · intro v v' hv hv' o o' tid ho hs hs'
    obtain rfl : notedNamespace "a" = v := Except.ok.inj ((hread "a").symm.trans hv)
    obtain rfl : notedNamespace "b" = v' := Except.ok.inj ((hread "b").symm.trans hv')
    have hhides : hides (some platformHidden) tenantNamespaceLabelKey = true := by decide +kernel
    exact namespaceForward_alike tid ho ((hs _ hhides).1.trans (hs' _ hhides).1.symm)
  · intro v v' hv hv' _
    obtain rfl : notedNamespace "a" = v := Except.ok.inj ((hread "a").symm.trans hv)
    obtain rfl : notedNamespace "b" = v' := Except.ok.inj ((hread "b").symm.trans hv')
    exact .ok (alike_insert_label halike "team" "green")

def copyPatch : PatchRequest Unit :=
  { name := "web"
    objInfo := { updatedObject := fun o =>
      match o.metadata.annotations["kubezoo.io/note"]? with
      | none => .error (.status (newBadRequest "the path to copy from does not exist"))
      | some note => .ok { o with metadata := { o.metadata with
          labels := o.metadata.labels.insert "team" note } } } }

theorem patch_copies_hidden_note :
    Alike (some platformHidden) (notedNamespace "a") (notedNamespace "b") ∧
    ∀ note, note = "a" ∨ note = "b" →
      ((plainNamespaces.guaranteedUpdate .permissive noPod { body := () } webContext copyPatch
        (fun _ => (holding (notedNamespace note), holding (notedNamespace note))) 1).bind
          fun result => result.toOption.bind fun r => r.1.metadata.labels["team"]?) =
        some note := by
  refine ⟨?_, ?_⟩
  · rw [alike_iff]
    decide +kernel
  · rintro note (rfl | rfl) <;> decide +kernel

end KubeZoo
