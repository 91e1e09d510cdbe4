import KubeZoo.Convert.Volume
import KubeZoo.Proxy.Requests
import KubeZoo.PublishedClass

/-! # Claims -/

namespace KubeZoo

open TenantProxy

open Transition (System)

/-- `refuseUnpublishedStorageClass`, of a claim. -/
def refuseUnpublishedStorageClass (published : Option PublishedClasses)
    (obj : Object (Owned PersistentVolumeClaim)) : Except GoError Unit :=
  match published with
  | none => .ok ()
  | some published =>
    match obj.body.spec.storageClassName with
    | none => .ok ()
    | some name =>
      if name = "" then .ok ()
      else if !published.hasSynced then
        .error (.status (newServiceUnavailable
          "the list of available storage classes is still loading; retry shortly"))
      else if !published.visible name then
        .error (.status (newInvalid "" "PersistentVolumeClaim" obj.metadata.name
          (fieldInvalid "spec.storageClassName" name ("no storage class " ++ quoted name ++
            " is available to you; the ones that are can be listed with `kubectl get storageclass`, and leaving this field unset asks for the default one."))))
      else if published.retired name then
        .error (.status (newInvalid "" "PersistentVolumeClaim" obj.metadata.name
          (fieldInvalid "spec.storageClassName" name ("storage class " ++ quoted name ++
            " is being retired and is not accepting new claims; the ones still available are listed by `kubectl get storageclass`. Claims that already use it keep working -- this refuses only new ones."))))
      else .ok ()

/-- The guards of a claim; the others are `g`'s. -/
def claimGuards (published : Option PublishedClasses) (g : Guards (Owned PersistentVolumeClaim)) :
    Guards (Owned PersistentVolumeClaim) :=
  { g with
    refuseUnpublishedStorageClass := refuseUnpublishedStorageClass published
    refuseForeignClusterIP := fun obj _ => .ok obj }

def PublishedClasses.offers (published : PublishedClasses) (cls : Option String) : Bool :=
  cls.all fun name => name = "" || (published.visible name && !published.retired name)

lemma offers_of_refuse {published : PublishedClasses} {obj : Object (Owned PersistentVolumeClaim)}
    (h : refuseUnpublishedStorageClass (some published) obj = .ok ()) :
    published.offers obj.body.spec.storageClassName = true := by
  unfold refuseUnpublishedStorageClass at h
  cases hcls : obj.body.spec.storageClassName with
  | none => rfl
  | some name =>
    simp only [hcls] at h
    by_cases hname : name = ""
    · simp [PublishedClasses.offers, hname]
    · rw [if_neg hname] at h
      split_ifs at h with hsynced hvisible hretired
      simp_all [PublishedClasses.offers]

/-- The proxy of claims. -/
structure ServesClaims (tp : TenantProxy (Owned PersistentVolumeClaim)) : Prop where
  subresource : tp.subresource = ""
  typed : tp.unstructured = false
  toVersioned : ∀ o b, tp.toVersioned o = .ok b → b.spec = o.body.spec
  convertor : ∃ checkGroupKind,
    tp.convertor = kindConvertor tp.contract checkGroupKind (pvcTransformer tp.contract)

def sentVolume (c : Contract) (tid : String) (bound : Bool) (volumeName : String) : String :=
  if volumeName ≠ "" ∧ !bound then c.addTenantIDPrefix tid volumeName else volumeName

lemma boundByController_forwardMetadata (c : Contract) (tid : String) (scope : Bool)
    (m : ObjectMeta) :
    boundByController (forwardMetadata c tid scope m) = boundByController m := by
  have hother : ∀ annotations : StringMap,
      (rewriteLastApplied c tid scope true annotations)[annBoundByController]? =
        annotations[annBoundByController]? := by
    intro annotations
    have hkey : lastAppliedKey ≠ annBoundByController := by decide
    unfold rewriteLastApplied
    split
    · rfl
    · split_ifs
      · rfl
      · split
        · rfl
        · simp [Std.ExtTreeMap.getElem?_insert, hkey]
  unfold boundByController forwardMetadata
  rw [hother]
  split_ifs <;> rfl

namespace ServesClaims

variable {tp : TenantProxy (Owned PersistentVolumeClaim)} {ctx : RequestContext}
  {tid : String} {published : Option PublishedClasses}
  {g : Guards (Owned PersistentVolumeClaim)}

variable {obj utd : Object (Owned PersistentVolumeClaim)}

lemma forward (h : ServesClaims tp) {up : Object (Owned PersistentVolumeClaim)}
    (hup : tp.convertTenantObjectToUpstreamObject obj tid = .ok up) :
    up.body.spec.storageClassName = obj.body.spec.storageClassName ∧
    up.body.spec.volumeName =
      sentVolume tp.contract tid (boundByController obj.metadata) obj.body.spec.volumeName := by
  obtain ⟨checkGroupKind, hconvertor⟩ := h.convertor
  rw [convertTenantObjectToUpstreamObject, hconvertor] at hup
  obtain ⟨owners, -, hforward⟩ := kindConvertor_forward_ok.mp hup
  rw [← Except.ok.inj hforward]
  refine ⟨rfl, ?_⟩
  simp only [Object.spec_withSpec, boundByController_forwardMetadata]
  rfl

lemma spec_versioned (h : ServesClaims tp)
    (hutd : tp.convertInternalObjectToUnstructuredObject obj = .ok utd) :
    utd.body.spec = obj.body.spec := by
  rw [convertInternalObjectToUnstructuredObject, if_neg (by simp [h.typed])] at hutd
  obtain ⟨b, hb, rfl⟩ := Except.map_eq_ok_iff.mp hutd
  exact h.toVersioned obj b hb

lemma sent_of_prepareCreate (h : ServesClaims tp)
    {form : Option (Object (Owned PersistentVolumeClaim))}
    (hprep : tp.prepareCreate (claimGuards published g) noPod ctx obj = .ok (tid, form, utd)) :
    utd.body.spec.storageClassName = obj.body.spec.storageClassName ∧
    utd.body.spec.volumeName = sentVolume tp.contract tid (boundByController obj.metadata)
      obj.body.spec.volumeName ∧
    ∀ p, published = some p → p.offers utd.body.spec.storageClassName = true := by
  obtain ⟨-, -, -, up, u, guarded, hup, hu, hguard, rfl⟩ :=
    prepareCreate_eq_ok_iff.mp hprep
  have hutd : (u.read guarded).body.spec = up.body.spec := by
    rw [toUtd, if_neg (by simp [h.typed])] at hu
    obtain ⟨copy, hcopy, rfl⟩ := Except.map_eq_ok_iff.mp hu
    exact h.spec_versioned hcopy
  rw [hutd]
  rw [upstreamForm_of_notPod fun _ => rfl] at hup
  obtain ⟨hcls, hvolume⟩ := h.forward hup
  refine ⟨hcls, hvolume, ?_⟩
  intro p hp
  simp only [guardCreate, Except.bind_eq_ok_iff] at hguard
  obtain ⟨-, -, -, -, -, -, -, -, -, -, -, -, _, hrefuse, -⟩ := hguard
  rw [hp] at hrefuse
  exact offers_of_refuse hrefuse

lemma sent_of_update (h : ServesClaims tp) {original guarded : Object (Owned PersistentVolumeClaim)}
    {out : TenantProxy.Outgoing (Owned PersistentVolumeClaim)}
    (hguard : tp.guardUpdate (claimGuards published g) ctx obj original = .ok guarded)
    (hout : tp.prepareUpdate (claimGuards published g) ctx guarded = .ok out) :
    out.utd.body.spec.storageClassName = obj.body.spec.storageClassName ∧
    out.utd.body.spec.volumeName = sentVolume tp.contract out.tenantID
      (boundByController (HiddenMetadata.restore tp.hiddenMetadata obj (some original)).metadata)
      obj.body.spec.volumeName := by
  simp only [guardUpdate, Except.bind_eq_ok_iff] at hguard
  obtain ⟨-, -, -, -, -, -, -, -, -, -, -, -, -, -, obj', hobj', -, -, -, -, -, -, -, -,
    hguarded⟩ := hguard
  obtain rfl := Except.ok.inj hobj'
  obtain ⟨up, -, hup, hutd, -, -⟩ := prepareUpdate_ok hout
  rw [h.spec_versioned hutd]
  obtain ⟨hcls, hvolume⟩ := h.forward hup
  have hbody : guarded.body = obj.body := by
    rw [← Except.ok.inj hguarded]
    cases tp.hiddenMetadata <;> rfl
  rw [hcls, hvolume, hbody, ← Except.ok.inj hguarded]
  exact ⟨rfl, rfl⟩

end ServesClaims

structure StoresClass (tp : TenantProxy (Owned PersistentVolumeClaim))
    (srv : Server (Owned PersistentVolumeClaim)) : Prop where
  stored : ∀ S ctx options s o, tp.storedFor (srv.upstream S) ctx options s = .ok o →
    o.body.spec.storageClassName = s.utd.body.spec.storageClassName ∨
      ∃ old, S s.ns s.utd.metadata.name = some old ∧
        o.body.spec.storageClassName = old.body.spec.storageClassName
  delete : ∀ S ns name options o, srv.delete S ns name options = .ok (some o) →
    ∃ old, S ns name = some old ∧ o.body.spec = old.body.spec

def updatesOffered (published : PublishedClasses) (tp : TenantProxy (Owned PersistentVolumeClaim))
    (new : Object (Owned PersistentVolumeClaim)) (srv : Server (Owned PersistentVolumeClaim))
    (S : Store (Owned PersistentVolumeClaim))
    (a : RequestContext × TenantRequest (Owned PersistentVolumeClaim)) : Bool :=
  tp.creating (srv.upstream S) a.1 a.2 ||
    match tp.submitted new (srv.upstream S) a.1 a.2 with
    | .ok obj => published.offers obj.body.spec.storageClassName
    | .error _ => true

/-- From no claims, and whatever tenants ask for as long as no update submits a class that is not
offered: every stored claim has a class that is offered. -/
theorem storage_classes_offered (published : PublishedClasses)
    (tp : TenantProxy (Owned PersistentVolumeClaim)) (g : Guards (Owned PersistentVolumeClaim))
    (new : Object (Owned PersistentVolumeClaim)) (srv : Server (Owned PersistentVolumeClaim))
    (htp : ServesClaims tp) (hsrv : StoresClass tp srv) (S : Store (Owned PersistentVolumeClaim))
    (h : ((tp.requests (claimGuards (some published) g) noPod new srv).restrict fun S a =>
      updatesOffered published tp new srv S a = true).Reachable S) :
    S.All fun o => published.offers o.body.spec.storageClassName = true := by
  refine all_of_reachable h fun S ctx r hS hoffered => ?_
  have hleft := Server.deleteKeeps_of_eq hsrv.delete fun spec => published.offers spec.storageClassName = true
  refine after_all hS hleft fun s o hship hstored => ?_
  have hsent : published.offers s.utd.body.spec.storageClassName = true := by
    obtain ⟨obj, hobj, ⟨-, hnew⟩ | ⟨hupdates, hfound⟩⟩ := ship_eq_ok_iff.mp hship
    · obtain ⟨-, -, hprep⟩ := shipNew_eq_ok_iff.mp hnew
      exact (htp.sent_of_prepareCreate hprep).2.2 published rfl
    · obtain ⟨-, guarded, hguard, hout⟩ := shipFound_eq_ok_iff.mp hfound
      rw [(htp.sent_of_update hguard hout).1]
      simpa [updatesOffered, hupdates, hobj] using hoffered
  obtain heq | ⟨old, hold, heq⟩ := hsrv.stored S ctx r.options s o hstored
  · rw [heq]
    exact hsent
  · rw [heq]
    exact hS _ _ old hold

def carriesBound (tp : TenantProxy (Owned PersistentVolumeClaim))
    (new : Object (Owned PersistentVolumeClaim)) (client : Upstream (Owned PersistentVolumeClaim))
    (ctx : RequestContext) (r : TenantRequest (Owned PersistentVolumeClaim))
    (obj : Object (Owned PersistentVolumeClaim)) : Bool :=
  if tp.creating client ctx r then boundByController obj.metadata
  else boundByController (HiddenMetadata.restore tp.hiddenMetadata obj
    (some (tp.originalOf new client ctx r))).metadata

def confined (tid volumeName : String) : Bool :=
  volumeName = "" || startsWith volumeName (tenantPrefix tid)

lemma confined_sentVolume {c : Contract} (hc : c.Dashes) (tid : String) (bound : Bool)
    (volumeName : String) :
    confined tid (sentVolume c tid bound volumeName) = true ↔
      bound = false ∨ confined tid volumeName = true := by
  cases bound with
  | true => simp [sentVolume]
  | false =>
    by_cases hname : volumeName = ""
    · simp [sentVolume, confined, hname]
    · simp [sentVolume, confined, hname, hc.add, startsWith_iff, Tag.marked_append]

/-- A write that is sent names no volume, or one of the tenant's, exactly if the submitted claim does
or the claim as it is converted does not carry the annotation of the controller. -/
theorem claim_volume_confined_iff (tp : TenantProxy (Owned PersistentVolumeClaim))
    (htp : ServesClaims tp) (hc : tp.contract.Dashes) (published : Option PublishedClasses)
    (g : Guards (Owned PersistentVolumeClaim)) (new : Object (Owned PersistentVolumeClaim))
    (client : Upstream (Owned PersistentVolumeClaim)) (ctx : RequestContext)
    (r : TenantRequest (Owned PersistentVolumeClaim)) (obj : Object (Owned PersistentVolumeClaim))
    (s : TenantProxy.Shipment (Owned PersistentVolumeClaim))
    (hobj : tp.submitted new client ctx r = .ok obj)
    (hship : tp.ship (claimGuards published g) noPod new client ctx r = .ok s) :
    confined s.tenantID s.utd.body.spec.volumeName = true ↔
      carriesBound tp new client ctx r obj = false ∨
        confined s.tenantID obj.body.spec.volumeName = true := by
  obtain ⟨obj', hobj', hmade⟩ := ship_eq_ok_iff.mp hship
  rw [hobj, Except.ok.injEq] at hobj'
  subst hobj'
  obtain ⟨hcreates, hnew⟩ | ⟨hupdates, hfound⟩ := hmade
  · obtain ⟨-, -, hprep⟩ := shipNew_eq_ok_iff.mp hnew
    rw [(htp.sent_of_prepareCreate hprep).2.1, confined_sentVolume hc, carriesBound,
      if_pos hcreates]
  · obtain ⟨-, guarded, hguard, hout⟩ := shipFound_eq_ok_iff.mp hfound
    rw [(htp.sent_of_update hguard hout).2, confined_sentVolume hc, carriesBound,
      if_neg (by simp [hupdates])]

def plainClaims : TenantProxy (Owned PersistentVolumeClaim) where
  kind := { version := "v1" }
  resource := "persistentvolumeclaims"
  namespaceScoped := true
  hiddenMetadata := some platformHidden
  contract := dashContract
  convertor := kindConvertor dashContract (fun _ _ _ _ => .ok (true, false))
    (pvcTransformer dashContract)

lemma servesClaims_plainClaims : ServesClaims plainClaims where
  subresource := rfl
  typed := rfl
  toVersioned o b h := by rw [← Except.ok.inj h]
  convertor := ⟨_, rfl⟩

lemma storesClass_storingServer {tp : TenantProxy (Owned PersistentVolumeClaim)}
    (hsub : tp.subresource = "") : StoresClass tp storingServer where
  stored S ctx options s o h := .inl (by rw [storedFor_storingServer hsub h])
  delete S ns name options o h := by cases delete_storingServer h

def standardOnly : PublishedClasses where
  hasSynced := true
  visible name := name = "standard"
  retired _ := false

def dataClaim (cls : Option String) (volumeName : String) (annotations : StringMap) :
    Object (Owned PersistentVolumeClaim) :=
  { metadata := { name := "data", «namespace» := "web", annotations := annotations }
    template := .own
    body := ⟨[], { storageClassName := cls, volumeName := volumeName }⟩ }

def claimThenPut (cls : String) :
    List (RequestContext × TenantRequest (Owned PersistentVolumeClaim)) :=
  [(webVerb "create", .create (dataClaim none "" ∅) {}),
    (webVerb "update", .update { name := "data", objInfo :=
      { updatedObject := fun _ => .ok (dataClaim (some cls) "" ∅) } })]

def claimRequests : System (Store (Owned PersistentVolumeClaim))
    (RequestContext × TenantRequest (Owned PersistentVolumeClaim)) :=
  plainClaims.requests (claimGuards (some standardOnly) .permissive) noPod { body := { spec := {} } }
    storingServer

theorem storage_classes_offered_standard :
    ∃ S : Store (Owned PersistentVolumeClaim),
      (S "111111-web" "data").map (·.body.spec.storageClassName) = some (some "standard") ∧
      S.All fun o => standardOnly.offers o.body.spec.storageClassName = true := by
  have hrun : (Transition.exec (fun S a =>
      if updatesOffered standardOnly plainClaims { body := { spec := {} } } storingServer S a
      then some (plainClaims.after (claimGuards (some standardOnly) .permissive) noPod
        { body := { spec := {} } } storingServer S a.1 a.2)
      else none) .empty (claimThenPut "standard")).map
        (fun S => (S "111111-web" "data").map (·.body.spec.storageClassName)) =
          some (some (some "standard")) := by
    decide +kernel
  obtain ⟨S, hS, hstored⟩ := Option.map_eq_some_iff.mp hrun
  have hreachable : (claimRequests.restrict fun S a => updatesOffered standardOnly plainClaims
      { body := { spec := {} } } storingServer S a = true).Reachable S :=
    Transition.reachable_of_exec_restrict (.init rfl) hS
  exact ⟨S, hstored, storage_classes_offered standardOnly plainClaims .permissive
    { body := { spec := {} } } storingServer servesClaims_plainClaims
    (storesClass_storingServer rfl) S hreachable⟩

theorem update_names_unpublished_class :
    (plainClaims.after (claimGuards (some standardOnly) .permissive) noPod
      { body := { spec := {} } } storingServer .empty (webVerb "create")
      (.create (dataClaim (some "platform-ssd") "" ∅) {}) "111111-web" "data") = none ∧
    ∃ S, claimRequests.Reachable S ∧
      (S "111111-web" "data").map (·.body.spec.storageClassName) = some (some "platform-ssd") ∧
      standardOnly.offers (some "platform-ssd") = false := by
  refine ⟨by decide +kernel, ?_⟩
  have hrun : (Transition.exec (fun S a => some (plainClaims.after
        (claimGuards (some standardOnly) .permissive) noPod { body := { spec := {} } } storingServer
        S a.1 a.2)) .empty (claimThenPut "platform-ssd")).map
        (fun S => (S "111111-web" "data").map (·.body.spec.storageClassName)) =
          some (some (some "platform-ssd")) := by
    decide +kernel
  obtain ⟨S, hS, hstored⟩ := Option.map_eq_some_iff.mp hrun
  exact ⟨S, Transition.reachable_of_exec (.init rfl) hS, hstored, by decide⟩

def sentClaim (volumeName : String) (annotations : StringMap) :
    Except GoError (TenantProxy.Shipment (Owned PersistentVolumeClaim)) :=
  plainClaims.ship (claimGuards none .permissive) noPod { body := { spec := {} } }
    (storingServer.upstream .empty) (webVerb "create")
    (.create (dataClaim none volumeName annotations) {})

theorem claim_volume_confined_data :
    (sentClaim "data" ∅).toOption.map (fun s => (s.tenantID, s.utd.body.spec.volumeName)) =
      some ("111111", "111111-data") ∧
    ∀ s, sentClaim "data" ∅ = .ok s → confined s.tenantID s.utd.body.spec.volumeName = true := by
  refine ⟨by decide +kernel, fun s hs => ?_⟩
  refine (claim_volume_confined_iff plainClaims servesClaims_plainClaims dashes_dashContract none
    .permissive { body := { spec := {} } } (storingServer.upstream .empty) (webVerb "create")
    (.create (dataClaim none "data" ∅) {}) (dataClaim none "data" ∅) s rfl hs).mpr (.inl ?_)
  decide +kernel

theorem annotated_claim_names_foreign_volume :
    (sentClaim "222222-data" (.ofList [(annBoundByController, "yes")])).toOption.map
      (fun s => (s.tenantID, s.utd.body.spec.volumeName)) = some ("111111", "222222-data") ∧
    confined "111111" "222222-data" = false := by
  decide +kernel

end KubeZoo
