import KubeZoo.Proxy.Requests

/-! # The quotas of the platform -/

namespace KubeZoo

open Except HiddenMetadata

variable {β : Type}

/-- `refusePlatformQuotaWrite`, of a ResourceQuota. The label is `ClusterResourceQuotaCreatedby`. -/
def refusePlatformQuotaWrite (createdby : String) (obj : Object β) : Except GoError Unit :=
  if obj.metadata.labels[createdby]? = none then .ok ()
  else .error (.status (newForbidden "" "resourcequotas" obj.metadata.name
    "this ResourceQuota is derived from your tenant quota and is maintained by the platform; editing it would stop your tenant-wide quota being enforced. Create a ResourceQuota of your own if you want to limit this namespace further"))

def quotaGuards (createdby : String) : Guards β :=
  { Guards.permissive with refusePlatformQuotaWrite := refusePlatformQuotaWrite createdby }

/-- The proxy of ResourceQuotas, of which the label is not hidden. -/
structure ServesQuotas (tp : TenantProxy β) (createdby : String) : Prop where
  subresource : tp.subresource = ""
  newFunc : tp.newFunc = true
  namespaced : tp.namespaceScoped = true
  projected : tp.hideProjected = false
  visible : hides tp.hiddenMetadata createdby = false
  label : ∀ obj tid up, tp.convertTenantObjectToUpstreamObject obj tid = .ok up →
    up.metadata.labels[createdby]? = obj.metadata.labels[createdby]?

/-- A delete upstream is about one object, which keeps its name if finalizers keep it. -/
structure Server.DeletesOne (srv : Server β) : Prop where
  apart : ∀ S S' ns name options, S ns name = S' ns name →
    srv.delete S ns name options = srv.delete S' ns name options
  name : ∀ S ns name options left, srv.delete S ns name options = .ok (some left) →
    left.metadata.name = name

namespace TenantProxy

variable {tp : TenantProxy β} {createdby : String} {new : Object β} {client : Upstream β}
  {ctx : RequestContext}

/-- The object the request submits carries the label. -/
def SubmitsLabel (tp : TenantProxy β) (createdby : String) (new : Object β) (client : Upstream β)
    (ctx : RequestContext) (r : TenantRequest β) : Prop :=
  ∃ obj, tp.submitted new client ctx r = .ok obj ∧ obj.metadata.labels[createdby]? ≠ none

section

variable (tp : TenantProxy β) (createdby : String) (new : Object β) (srv : Server β) (S : Store β)
  (ctx : RequestContext) (ns name : String) (o : Object β)

/-- Upstream takes a write for good, of an object that was submitted without the label, and stores
another object in the place of the quota `o`. -/
def Replaces (r : TenantRequest β) : Prop :=
  r.options.isDryRun = false ∧ ¬ tp.SubmitsLabel createdby new (srv.upstream S) ctx r ∧
    ∃ s o', tp.ship .permissive noPod new (srv.upstream S) ctx r = .ok s ∧
      tp.storedFor (srv.upstream S) ctx r.options s = .ok o' ∧
      s.ns = ns ∧ o'.metadata.name = name ∧ o' ≠ o

/-- Upstream takes a delete of the quota `o` for good, and leaves no object or another one. -/
def Removes (options : DeleteOptions) : Prop :=
  options.isDryRun = false ∧ ∃ left, srv.delete S ns name options = .ok left ∧ left ≠ some o

/-- The requests that touch a stored quota `o`: writes without the label, a delete by its name in
its namespace, and a delete of a collection that has it, if upstream takes all deletes up to it. -/
def TouchesQuota : TenantRequest β → Prop
  | .get _ => False
  | .create obj options => tp.Replaces createdby new srv S ctx ns name o (.create obj options)
  | .update req => tp.Replaces createdby new srv S ctx ns name o (.update req)
  | .delete asked options =>
    tp.getClient ctx = .ok ns ∧ asked = name ∧ Removes srv S ns name o options
  | .deleteCollection options listOptions =>
    ∃ tid before rest, tp.deleteTargets srv S ctx listOptions = .ok (tid, ns, before ++ name :: rest) ∧
      (∀ n ∈ before, ∃ left, srv.delete S ns n options = .ok left) ∧ Removes srv S ns name o options

end

variable {srv : Server β} {S : Store β} {ns name : String} {o : Object β}

lemma afterWrite_eq_some_iff (hS : S ns name = some o) {options : WriteOptions}
    {shipment : Except GoError (Shipment β)} :
    tp.afterWrite client S ctx options shipment ns name = some o ↔
      ¬ ∃ s o', shipment = .ok s ∧ tp.storedFor client ctx options s = .ok o' ∧
        options.isDryRun = false ∧ s.ns = ns ∧ o'.metadata.name = name ∧ o' ≠ o := by
  cases shipment with
  | error e => simp [afterWrite, hS]
  | ok s =>
    cases hstored : tp.storedFor client ctx options s with
    | error e => simp [afterWrite, hstored, hS]
    | ok o' =>
      cases hdry : options.isDryRun with
      | true => simp [afterWrite, hstored, hdry, hS]
      | false =>
        by_cases hat : ns = s.ns ∧ name = o'.metadata.name
        · obtain ⟨rfl, rfl⟩ := hat
          simp [afterWrite, hstored, hdry, Store.put]
        · have hafter : tp.afterWrite client S ctx options (.ok s) ns name = S ns name := by
            simp [afterWrite, hstored, hdry, Store.put, hat]
          refine iff_of_true (hafter.trans hS) ?_
          rintro ⟨s', o'', ⟨⟩, hstored', -, hns, hname, -⟩
          obtain rfl := Except.ok.inj (hstored.symm.trans hstored')
          exact hat ⟨hns.symm, hname.symm⟩

section

variable {options : DeleteOptions} {tid : String} (hsrv : srv.DeletesOne)

include hsrv

omit hsrv in
lemma delete_ne_of_afterDelete {n : String} {e : GoError}
    (h : afterDelete srv S ns n options = .error e) (left : Option (Object β)) :
    srv.delete S ns n options ≠ .ok left := by
  intro hdelete
  rw [afterDelete, hdelete] at h
  cases h

lemma afterDelete_other {S' : Store β} {ns' n : String} (hne : ¬ (ns = ns' ∧ name = n))
    (h : afterDelete srv S ns' n options = .ok S') : S' ns name = S ns name := by
  obtain ⟨left, hdelete, rfl⟩ := map_eq_ok_iff.mp h
  split_ifs
  · rfl
  · cases left with
    | none => exact if_neg hne
    | some left =>
      rw [← hsrv.name S ns' n options left hdelete] at hne
      exact if_neg hne

lemma afterDelete_eq_some_iff {S' : Store β} (hS : S ns name = some o)
    (h : afterDelete srv S ns name options = .ok S') :
    S' ns name = some o ↔ ¬ Removes srv S ns name o options := by
  obtain ⟨left, hdelete, rfl⟩ := map_eq_ok_iff.mp h
  rw [Removes, hdelete]
  split_ifs with hdry
  · simp [hdry, hS]
  · cases left with
    | none => simp [hdry, Store.remove]
    | some left => simp [hdry, Store.put, (hsrv.name S ns name options left hdelete).symm]

/-- The loop touches the quota at its place in the list, if it gets there. -/
lemma deleteEach_eq_some_iff (hprojected : tp.hideProjected = false)
    (hscoped : tp.namespaceScoped = true) {names : List String} (hnodup : names.Nodup)
    (hS : S ns name = some o) :
    tp.deleteEach srv tid ns options S names ns name = some o ↔
      ¬ ∃ before rest, names = before ++ name :: rest ∧
        (∀ n ∈ before, ∃ left, srv.delete S ns n options = .ok left) ∧
        Removes srv S ns name o options := by
  induction names generalizing S with
  | nil => simp [deleteEach, hS]
  | cons n names ih =>
    obtain ⟨hn, hnodup⟩ := List.nodup_cons.mp hnodup
    simp only [deleteEach, refuseProjectedName, hprojected, refuseReservedName, hscoped]
    cases hafter : afterDelete srv S ns n options with
    | error e =>
      have hrefused := delete_ne_of_afterDelete hafter
      refine iff_of_true hS ?_
      rintro ⟨before, rest, hnames, hbefore, -, left, hdelete, -⟩
      cases before with
      | nil => exact hrefused left ((List.cons.inj hnames).1 ▸ hdelete)
      | cons n' before =>
        obtain ⟨left', hleft'⟩ := hbefore n' List.mem_cons_self
        exact hrefused left' ((List.cons.inj hnames).1 ▸ hleft')
    | ok S' =>
      obtain ⟨left, hleft, -⟩ := map_eq_ok_iff.mp hafter
      by_cases hname : name = n
      · -- The rest of the list has other names.
        subst hname
        have hrest : tp.deleteEach srv tid ns options S' names ns name = S' ns name := by
          refine deleteEach_preserves (P := fun S'' : Store β => S'' ns name = S' ns name) ?_ rfl
          intro S₁ S₂ n hmem hS₁ _ hdelete
          rw [← hS₁]
          refine afterDelete_other hsrv ?_ hdelete
          rintro ⟨-, rfl⟩
          exact hn hmem
        show tp.deleteEach srv tid ns options S' names ns name = some o ↔ _
        rw [hrest, afterDelete_eq_some_iff hsrv hS hafter, not_iff_not]
        constructor
        · intro hremoves
          exact ⟨[], names, rfl, fun _ h => (by cases h), hremoves⟩
        · rintro ⟨_, _, -, -, hremoves⟩
          exact hremoves
      · have hsame : ∀ m, m ≠ n → srv.delete S' ns m options = srv.delete S ns m options :=
          fun m hm => hsrv.apart _ _ _ _ _ (afterDelete_other hsrv (fun h => hm h.2) hafter)
        refine (ih hnodup ((afterDelete_other hsrv (fun h => hname h.2) hafter).trans hS)).trans
          (not_congr ?_)
        simp only [Removes, hsame name hname]
        constructor
        · rintro ⟨before, rest, rfl, hbefore, hremoves⟩
          refine ⟨n :: before, rest, rfl, ?_, hremoves⟩
          intro m hm
          obtain rfl | hm := List.mem_cons.mp hm
          · exact ⟨left, hleft⟩
          · rw [← hsame m fun h => hn (h ▸ List.mem_append_left _ hm)]
            exact hbefore m hm
        · rintro ⟨before, rest, hnames, hbefore, hremoves⟩
          cases before with
          | nil => exact absurd (List.cons.inj hnames).1.symm hname
          | cons n' before =>
            obtain ⟨rfl, rfl⟩ := List.cons.inj hnames
            refine ⟨before, rest, rfl, fun m hm => ?_, hremoves⟩
            rw [hsame m fun h => hn (h ▸ List.mem_append_left _ hm)]
            exact hbefore m (List.mem_cons_of_mem _ hm)

end

variable (h : ServesQuotas tp createdby)

include h in
lemma label_restore (obj : Object β) (old : Option (Object β)) :
    (restore tp.hiddenMetadata obj old).metadata.labels[createdby]? =
      obj.metadata.labels[createdby]? := by
  have hvisible := h.visible
  unfold restore
  cases hhidden : tp.hiddenMetadata with
  | none => rfl
  | some hidden =>
    rw [hhidden] at hvisible
    simp [hvisible]

variable {guarded obj : Object β} {s : Shipment β}

variable {original : Object β} {tid : String} {utd : Utd β}

lemma guardCreate_permissive_ok (h : tp.guardCreate .permissive ctx tid obj utd = .ok guarded) :
    guarded = restore tp.hiddenMetadata obj none := by
  simp only [guardCreate, Guards.permissive, bind_eq_ok_iff, Except.ok.injEq, exists_const,
    true_and, exists_eq_left'] at h
  obtain ⟨-, -, -, -, -, -, h⟩ := h
  exact (Except.ok.inj h).symm

lemma guardCreate_quota (tid : String) (obj : Object β) (utd : Utd β) :
    tp.guardCreate (quotaGuards createdby) ctx tid obj utd =
      tp.guardCreate .permissive ctx tid obj utd >>= fun guarded =>
        refusePlatformQuotaWrite createdby guarded >>= fun _ => .ok guarded := by
  simp only [guardCreate, bind_assoc]
  rfl

lemma guardUpdate_quota (obj original : Object β) :
    tp.guardUpdate (quotaGuards createdby) ctx obj original = refusePlatformQuotaWrite createdby
        (restore tp.hiddenMetadata obj (some original)) >>= fun _ =>
          .ok (restore tp.hiddenMetadata obj (some original)) := rfl

lemma refusePlatformQuotaWrite_ok_iff :
    refusePlatformQuotaWrite createdby obj = .ok () ↔ obj.metadata.labels[createdby]? = none := by
  rw [refusePlatformQuotaWrite]
  by_cases h : obj.metadata.labels[createdby]? = none <;> simp [h]

include h in
lemma guardCreate_quota_ok_iff :
    tp.guardCreate (quotaGuards createdby) ctx tid obj utd = .ok guarded ↔
      tp.guardCreate .permissive ctx tid obj utd = .ok guarded ∧
        obj.metadata.labels[createdby]? = none := by
  rw [guardCreate_quota, bind_eq_ok_iff]
  constructor
  · intro ⟨guarded', hguarded, hrefuse⟩
    obtain ⟨_, hlabel, hrefuse⟩ := bind_eq_ok_iff.mp hrefuse
    obtain rfl := Except.ok.inj hrefuse
    rw [refusePlatformQuotaWrite_ok_iff, guardCreate_permissive_ok hguarded, label_restore h]
      at hlabel
    exact ⟨hguarded, hlabel⟩
  · intro ⟨hguarded, hlabel⟩
    refine ⟨guarded, hguarded, bind_eq_ok_iff.mpr ⟨(), ?_, rfl⟩⟩
    rw [refusePlatformQuotaWrite_ok_iff, guardCreate_permissive_ok hguarded, label_restore h]
    exact hlabel

lemma upstreamForm_noPod (obj : Object β) (tid : String) :
    tp.upstreamForm noPod obj tid = tp.convertTenantObjectToUpstreamObject obj tid :=
  upstreamForm_of_notPod (fun _ => rfl) obj tid

include h

lemma shipNew_quota_ok_iff :
    tp.shipNew (quotaGuards createdby) noPod ctx obj = .ok s ↔
      tp.shipNew .permissive noPod ctx obj = .ok s ∧ obj.metadata.labels[createdby]? = none := by
  simp only [shipNew_eq_ok_iff, prepareCreate_eq_ok_iff, guardCreate_quota_ok_iff h,
    upstreamForm_noPod]
  constructor
  · intro ⟨hcreates, hns, hnew, htenant, hform, up, u, guarded, hup, hu, ⟨hguarded, hlabel⟩, hutd⟩
    exact ⟨⟨hcreates, hns, hnew, htenant, hform, up, u, guarded, hup, hu, hguarded, hutd⟩,
      h.label _ _ _ hup ▸ hlabel⟩
  · intro ⟨⟨hcreates, hns, hnew, htenant, hform, up, u, guarded, hup, hu, hguarded, hutd⟩, hlabel⟩
    exact ⟨hcreates, hns, hnew, htenant, hform, up, u, guarded, hup, hu,
      ⟨hguarded, (h.label _ _ _ hup).trans hlabel⟩, hutd⟩

lemma label_of_shipNew_quota (hship : tp.shipNew (quotaGuards createdby) noPod ctx obj = .ok s) :
    s.utd.metadata.labels[createdby]? = none := by
  obtain ⟨-, -, hprep⟩ := shipNew_eq_ok_iff.mp hship
  obtain ⟨-, -, -, up, u, guarded, -, hu, hguarded, hutd⟩ := prepareCreate_eq_ok_iff.mp hprep
  obtain ⟨hguarded, hlabel⟩ := (guardCreate_quota_ok_iff h).mp hguarded
  rw [← hutd]
  unfold toUtd at hu
  split_ifs at hu with halias
  · rw [← Except.ok.inj hu]
    show guarded.metadata.labels[createdby]? = none
    rw [guardCreate_permissive_ok hguarded, label_restore h, hlabel]
  · obtain ⟨copy, hcopy, rfl⟩ := map_eq_ok_iff.mp hu
    show copy.metadata.labels[createdby]? = none
    rw [metadata_of_versioned hcopy, hlabel]

lemma guardUpdate_quota_ok_iff :
    tp.guardUpdate (quotaGuards createdby) ctx obj original = .ok guarded ↔
      tp.guardUpdate .permissive ctx obj original = .ok guarded ∧
        obj.metadata.labels[createdby]? = none := by
  rw [guardUpdate_quota, bind_eq_ok_iff]
  constructor
  · intro ⟨_, hlabel, hguarded⟩
    rw [refusePlatformQuotaWrite_ok_iff, label_restore h] at hlabel
    exact ⟨hguarded, hlabel⟩
  · intro ⟨hguarded, hlabel⟩
    refine ⟨(), ?_, hguarded⟩
    rw [refusePlatformQuotaWrite_ok_iff, label_restore h]
    exact hlabel

lemma shipFound_quota_ok_iff :
    tp.shipFound (quotaGuards createdby) ctx obj original = .ok s ↔
      tp.shipFound .permissive ctx obj original = .ok s ∧
        obj.metadata.labels[createdby]? = none := by
  simp only [shipFound_eq_ok_iff, guardUpdate_quota_ok_iff h]
  tauto

lemma ship_quota_ok_iff {r : TenantRequest β} :
    tp.ship (quotaGuards createdby) noPod new client ctx r = .ok s ↔
      tp.ship .permissive noPod new client ctx r = .ok s ∧
        ¬ tp.SubmitsLabel createdby new client ctx r := by
  simp only [ship_eq_ok_iff, shipNew_quota_ok_iff h, shipFound_quota_ok_iff h]
  constructor
  · intro ⟨obj, hobj, hship⟩
    have hlabel : obj.metadata.labels[createdby]? = none := by tauto
    refine ⟨⟨obj, hobj, by tauto⟩, ?_⟩
    intro ⟨obj', hobj', hlabel'⟩
    rw [hobj, Except.ok.injEq] at hobj'
    exact hlabel' (hobj' ▸ hlabel)
  · intro ⟨⟨obj, hobj, hship⟩, hnot⟩
    have hlabel : obj.metadata.labels[createdby]? = none := by
      by_contra hlabel
      exact hnot ⟨obj, hobj, hlabel⟩
    exact ⟨obj, hobj, by tauto⟩

omit h in
lemma deleteTarget_quota_ok_iff (h : ServesQuotas tp createdby) {asked : String} :
    tp.deleteTarget ctx asked = .ok (ns, name) ↔ tp.getClient ctx = .ok ns ∧ asked = name := by
  cases htenant : ctx.tenantID with
  | none => simp [deleteTarget, h.newFunc, htenant, getClient]
  | some tid =>
    simp only [deleteTarget, h.newFunc, htenant, refuseProjectedName, h.projected,
      refuseReservedName, h.namespaced, upstreamName]
    cases tp.getClient ctx with
    | error e => simp [bind, Except.bind]
    | ok ns' => simp [bind, Except.bind, pure, Except.pure]

omit h in
lemma deleteTargets_ok {listOptions : ListOptions} {tid : String} {names : List String}
    (hlist : ∀ ns options l, srv.list S ns options = .ok l →
      (l.items.map fun o => o.metadata.name).Nodup)
    (h : tp.deleteTargets srv S ctx listOptions = .ok (tid, ns, names)) :
    tp.getClient ctx = .ok ns ∧ names.Nodup := by
  obtain ⟨⟨tid', options⟩, -, h⟩ := bind_eq_ok_iff.mp h
  obtain ⟨ns', hns, h⟩ := bind_eq_ok_iff.mp h
  obtain ⟨l, hl, h⟩ := bind_eq_ok_iff.mp h
  cases h
  refine ⟨hns, (hlist ns options l (mapError_eq_ok_iff.mp hl)).sublist (List.Sublist.map _ ?_)⟩
  rw [hideProjections]
  split_ifs
  · exact List.filter_sublist
  · exact List.filter_sublist.trans List.filter_sublist

lemma replaces_iff {r : TenantRequest β} (hS : S ns name = some o) :
    tp.afterWrite (srv.upstream S) S ctx r.options
        (tp.ship (quotaGuards createdby) noPod new (srv.upstream S) ctx r) ns name = some o ↔
      ¬ tp.Replaces createdby new srv S ctx ns name o r := by
  rw [afterWrite_eq_some_iff hS, not_iff_not]
  simp only [ship_quota_ok_iff h]
  constructor
  · rintro ⟨s, o', ⟨hship, hlabel⟩, hstored, hdry, hat⟩
    exact ⟨hdry, hlabel, s, o', hship, hstored, hat⟩
  · rintro ⟨hdry, hlabel, s, o', hship, hstored, hat⟩
    exact ⟨s, o', ⟨hship, hlabel⟩, hstored, hdry, hat⟩

lemma after_quota_eq_some_iff (hsrv : srv.DeletesOne)
    (hlist : ∀ ns options l, srv.list S ns options = .ok l →
      (l.items.map fun o => o.metadata.name).Nodup) (hS : S ns name = some o)
    (r : TenantRequest β) :
    tp.after (quotaGuards createdby) noPod new srv S ctx r ns name = some o ↔
      ¬ tp.TouchesQuota createdby new srv S ctx ns name o r := by
  cases r with
  | get name => exact iff_of_true hS id
  | create obj options => exact replaces_iff h hS
  | update req => exact replaces_iff h hS
  | delete asked options =>
    simp only [TouchesQuota]
    rw [← and_assoc, ← deleteTarget_quota_ok_iff h]
    by_cases htarget : tp.deleteTarget ctx asked = .ok (ns, name)
    · simp only [after, htarget, true_and]
      cases hafter : afterDelete srv S ns name options with
      | error e =>
        refine iff_of_true hS ?_
        rintro ⟨-, left, hdelete, -⟩
        exact delete_ne_of_afterDelete hafter left hdelete
      | ok S' => exact afterDelete_eq_some_iff hsrv hS hafter
    · refine iff_of_true ?_ fun htouches => htarget htouches.1
      simp only [after]
      cases hother : tp.deleteTarget ctx asked with
      | error e => exact hS
      | ok target =>
        cases hafter : afterDelete srv S target.1 target.2 options with
        | error e => simp only [hafter, hS]
        | ok S' =>
          simp only [hafter]
          refine (afterDelete_other hsrv ?_ hafter).trans hS
          rintro ⟨rfl, rfl⟩
          exact htarget hother
  | deleteCollection options listOptions =>
    by_cases hns : tp.getClient ctx = .ok ns
    · simp only [after, TouchesQuota]
      cases htargets : tp.deleteTargets srv S ctx listOptions with
      | error e => simp [hS]
      | ok targets =>
        obtain ⟨tid, ns', names⟩ := targets
        obtain ⟨hns', hnodup⟩ := deleteTargets_ok hlist htargets
        obtain rfl := Except.ok.inj (hns.symm.trans hns')
        rw [deleteEach_eq_some_iff hsrv h.projected h.namespaced hnodup hS]
        simp
    · refine iff_of_true ((after_elsewhere hns name).trans hS) ?_
      rintro ⟨tid, before, rest, htargets, -⟩
      exact hns (deleteTargets_ok hlist htargets).1

end TenantProxy

def plainQuotas : TenantProxy Unit :=
  { plainConfigMaps with
    kind := { version := "v1", kind := "ResourceQuota" }
    resource := "resourcequotas"
    contract := { dashContract with
      keeps := fun tid _ m => startsWith m.namespace (tid ++ "-") } }

def oneQuotaServer : Server Unit where
  upstream S := .ofStore neverApplies S
  list S ns _ := .ok { items := (S ns "quota").toList }
  delete S ns name _ :=
    match S ns name with
    | none => .error (.status (newNotFound "" "resourcequotas" name))
    | some _ => .ok none

def quotaOf (labelled : Bool) : Object Unit :=
  { metadata :=
      { name := "quota", «namespace» := "111111-web"
        labels := if labelled then (∅ : StringMap).insert "quota.example/createdby" "q" else ∅ }
    body := () }

def keptQuota : Store Unit := Store.empty.put "111111-web" (quotaOf true)

def putQuota (labelled : Bool) : TenantRequest Unit :=
  .update { name := "quota", objInfo := { updatedObject := fun _ => .ok (quotaOf labelled) } }

lemma servesQuotas_plainQuotas : ServesQuotas plainQuotas "quota.example/createdby" where
  subresource := rfl
  newFunc := rfl
  namespaced := rfl
  projected := rfl
  visible := by decide +kernel
  label _ _ _ h := by rw [← Except.ok.inj h]

lemma deletesOne_oneQuotaServer : oneQuotaServer.DeletesOne where
  apart S S' ns name options h := by simp only [oneQuotaServer, h]
  name S ns name options left h := by
    simp only [oneQuotaServer] at h
    split at h <;> cases h

end KubeZoo
