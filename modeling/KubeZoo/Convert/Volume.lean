import KubeZoo.Convert.Default

/-! # Volumes and claims -/

namespace KubeZoo

open Tag

structure SecretReference where
  name : String := ""
  «namespace» : String := ""
deriving DecidableEq

/-- The secrets of a `core.CSIPersistentVolumeSource`. -/
structure CSISource where
  controllerPublishSecretRef : Option SecretReference := none
  nodeStageSecretRef : Option SecretReference := none
  nodePublishSecretRef : Option SecretReference := none
  controllerExpandSecretRef : Option SecretReference := none
  nodeExpandSecretRef : Option SecretReference := none
deriving DecidableEq

/-- The secret of a `core.ISCSIPersistentVolumeSource`. -/
structure ISCSISource where
  secretRef : Option SecretReference := none
deriving DecidableEq

/-- `core.PersistentVolumeSource`. Of the sources that carry nothing that is read it says whether
they are set, and of those no branch names whether one of them is. -/
structure PersistentVolumeSource where
  csi : Option CSISource := none
  iscsi : Option ISCSISource := none
  nfs : Bool := false
  fc : Bool := false
  portworxVolume : Bool := false
  hostPath : Bool := false
  localVolume : Bool := false
  anyOther : Bool := false
deriving DecidableEq

structure PersistentVolume where
  source : PersistentVolumeSource := {}
  claimRef : Option ObjectReference := none
deriving DecidableEq

def CSISource.secretRefs (source : CSISource) : List (String × Option SecretReference) :=
  [("controllerPublishSecretRef", source.controllerPublishSecretRef),
    ("nodeStageSecretRef", source.nodeStageSecretRef),
    ("nodePublishSecretRef", source.nodePublishSecretRef),
    ("controllerExpandSecretRef", source.controllerExpandSecretRef),
    ("nodeExpandSecretRef", source.nodeExpandSecretRef)]

/-- `refuseUnsafePVSource`. The source goes over the secrets of a CSI volume as a map, so it names
any one of those that are set; here it is the first. -/
def refuseUnsafePVSource (source : PersistentVolumeSource) (name : String) : Except GoError Unit :=
  match source.csi, source.iscsi with
  | some csi, _ =>
    match csi.secretRefs.find? (·.2.isSome) with
    | some (field, _) =>
      .error (.plain ("persistentvolume " ++ name ++ ": spec.csi." ++ field ++ " names a namespace, which the kubelet resolves with its own credentials rather than yours. A StorageClass carries those credentials on the platform's behalf: see kubectl get storageclass"))
    | none => .ok ()
  | none, some iscsi =>
    if iscsi.secretRef.isSome then
      .error (.plain ("persistentvolume " ++ name ++ ": spec.iscsi.secretRef names a namespace, which the kubelet resolves with its own credentials rather than yours"))
    else .ok ()
  | none, none =>
    if source.nfs || source.fc || source.portworxVolume then .ok ()
    else if source.hostPath || source.localVolume then
      .error (.plain ("persistentvolume " ++ name ++ ": a hostPath or local volume exposes the node's filesystem to whoever mounts it, and a PersistentVolumeClaim is not subject to the Pod Security volume checks"))
    else if !source.anyOther then .ok ()
    else
      .error (.plain ("persistentvolume " ++ name ++ ": this volume source is not one tenants may write; it either names an object in another namespace or reaches the node directly. Use one of the storage classes the platform publishes -- kubectl get storageclass -- or ask the platform operator"))

def PersistentVolume.reserved (pv : PersistentVolume) : Bool :=
  pv.claimRef.any fun ref => ref.namespace != "" && ref.name != ""

def refuseUnreservedPV (pv : PersistentVolume) (name : String) : Except GoError Unit :=
  if pv.reserved then .ok ()
  else
    .error (.plain ("persistentvolume " ++ name ++ " must reserve itself for one of your own claims: set spec.claimRef to the namespace and name of the PersistentVolumeClaim it is for. Without a claimRef the volume is offered to every claim in the cluster, including other tenants', and whoever binds it first mounts your storage"))

def PersistentVolume.mapClaim (pv : PersistentVolume) (rename : String → String) :
    PersistentVolume :=
  let rewrite := fun ref : ObjectReference =>
    if ref.namespace = "" then ref else { ref with «namespace» := rename ref.namespace }
  { pv with claimRef := pv.claimRef.map rewrite }

/-- `PVTranformer`. -/
def pvTransformer (c : Contract) : ObjectTransformer (Owned PersistentVolume) where
  forward o tid := do
    let pv := o.body.spec
    refuseUnsafePVSource pv.source o.metadata.name
    refuseUnreservedPV pv o.metadata.name
    return o.withSpec (pv.mapClaim (c.upstreamNamespace tid))
  backward o tid := .ok (o.withSpec (o.body.spec.mapClaim fun ns => trimIfAttributable c ns tid))

/-- The part of `core.TypedObjectReference` that is read or written. -/
structure DataSourceRef where
  «namespace» : Option String := none
deriving DecidableEq

structure PersistentVolumeClaim where
  volumeName : String := ""
  dataSourceRef : Option DataSourceRef := none
  storageClassName : Option String := none
deriving DecidableEq

def annBoundByController : String := "pv.kubernetes.io/bound-by-controller"

def boundByController (m : ObjectMeta) : Bool := m.annotations[annBoundByController]?.isSome

def DataSourceRef.rewrite (rename : String → String) (ref : DataSourceRef) : DataSourceRef :=
  { ref with
    «namespace» := ref.namespace.map fun ns => if ns = "" then ns else rename ns }

/-- `PVCTranformer`. -/
def pvcTransformer (c : Contract) : ObjectTransformer (Owned PersistentVolumeClaim) where
  forward o tid :=
    let pvc := o.body.spec
    .ok (o.withSpec
      { pvc with
        volumeName :=
          if pvc.volumeName ≠ "" ∧ !boundByController o.metadata then
            c.addTenantIDPrefix tid pvc.volumeName
          else pvc.volumeName
        dataSourceRef :=
          pvc.dataSourceRef.map (DataSourceRef.rewrite (c.upstreamNamespace tid)) })
  backward o tid :=
    let pvc := o.body.spec
    .ok (o.withSpec
      { pvc with
        volumeName :=
          if pvc.volumeName ≠ "" ∧ !boundByController o.metadata ∧
              startsWith pvc.volumeName (tenantPrefix tid) then
            c.trimTenantIDPrefix tid pvc.volumeName
          else pvc.volumeName
        dataSourceRef :=
          pvc.dataSourceRef.map (DataSourceRef.rewrite (c.trimTenantIDPrefix tid)) })

section

variable {c : Contract} {tid : String}

def PersistentVolumeSource.safe (source : PersistentVolumeSource) : Bool :=
  match source.csi, source.iscsi with
  | some csi, _ => csi.secretRefs.all (·.2.isNone)
  | none, some iscsi => iscsi.secretRef.isNone
  | none, none =>
    (source.nfs || source.fc || source.portworxVolume) ||
      (!(source.hostPath || source.localVolume) && !source.anyOther)

lemma refuseUnsafePVSource_ok_iff {source : PersistentVolumeSource} {name : String} :
    refuseUnsafePVSource source name = .ok () ↔ source.safe = true := by
  unfold refuseUnsafePVSource PersistentVolumeSource.safe
  cases hcsi : source.csi with
  | some csi =>
    cases hfind : csi.secretRefs.find? (·.2.isSome) with
    | none =>
      simp only [hfind, true_iff, List.all_eq_true]
      intro ref href
      have := List.find?_eq_none.mp hfind ref href
      simpa using this
    | some found =>
      obtain ⟨field, ref⟩ := found
      simp only [hfind, List.all_eq_true]
      refine iff_of_false nofun ?_
      intro hall
      have hsome := List.find?_some hfind
      have hnone := hall _ (List.mem_of_find?_eq_some hfind)
      rw [Option.isNone_iff_eq_none] at hnone
      rw [hnone] at hsome
      cases hsome
  | none =>
    cases hiscsi : source.iscsi with
    | some iscsi =>
      cases hsecret : iscsi.secretRef <;> simp
    | none =>
      cases source.nfs || source.fc || source.portworxVolume <;>
        cases source.hostPath || source.localVolume <;> cases source.anyOther <;> simp

def pvView (c : Contract) (tid : String) : View GoError PersistentVolume PersistentVolume where
  read pv := .ok (pv.mapClaim fun ns => trimIfAttributable c ns tid)
  write pv :=
    if pv.source.safe && pv.reserved then .ok (pv.mapClaim (c.upstreamNamespace tid))
    else .error (.plain "")

lemma pvTransformer_converts : (pvTransformer c).Converts tid (pvView c tid) where
  forward o o' := by
    simp only [pvTransformer, pvView, Except.bind_eq_ok_iff]
    constructor
    · rintro ⟨_, hsafe, _, hreserved, h⟩
      rw [refuseUnsafePVSource_ok_iff] at hsafe
      unfold refuseUnreservedPV at hreserved
      split_ifs at hreserved with hres
      refine ⟨_, if_pos (by rw [hsafe, hres]; rfl), (Except.ok.inj h).symm⟩
    · rintro ⟨spec, hspec, rfl⟩
      split_ifs at hspec with hgood
      rw [Bool.and_eq_true] at hgood
      refine ⟨_, refuseUnsafePVSource_ok_iff.mpr hgood.1, _, if_pos hgood.2, ?_⟩
      rw [← Except.ok.inj hspec]
      rfl
  backward o o' := by
    simp only [pvTransformer, pvView, Except.ok.injEq]
    exact ⟨fun h => ⟨_, rfl, h.symm⟩, fun ⟨_, h, h'⟩ => by rw [h', h]⟩

def PersistentVolume.claimNamespace (pv : PersistentVolume) : Option String :=
  pv.claimRef.map (·.namespace)

def PersistentVolume.Refused (tid : String) (pv : PersistentVolume) : Prop :=
  pv.source.safe = false ∨
  ∀ ref, pv.claimRef = some ref →
    ref.namespace = "" ∨ ref.namespace = tenantPrefix tid ∨ ref.name = ""

def PersistentVolume.Kept (tid : String) (pv : PersistentVolume) : Prop :=
  ∀ ref, pv.claimRef = some ref →
    ∃ rest, ¬ Marked (tenantPrefix tid) rest ∧ ref.namespace = tenantPrefix tid ++ rest

lemma claimRef_shown (hc : c.Dashes) (pv : PersistentVolume) :
    (pv.mapClaim fun ns => trimIfAttributable c ns tid).claimRef = pv.claimRef.map fun ref =>
        { ref with «namespace» := Tag.trim (tenantPrefix tid) ref.namespace } := by
  refine Option.map_congr fun ref _ => ?_
  by_cases hns : ref.namespace = ""
  · rw [if_pos hns, hns, trim_of_not (not_marked_empty (tenantPrefix_ne tid)), ← hns]
  · simp only [hns, if_false, hc.trimIfAttributable]

lemma claimNamespace_sent (hc : c.Dashes) {pv : PersistentVolume} (hreserved : pv.reserved = true) :
    (pv.mapClaim (c.upstreamNamespace tid)).claimNamespace =
      pv.claimNamespace.map (ensure (tenantPrefix tid)) := by
  unfold PersistentVolume.reserved at hreserved
  unfold PersistentVolume.claimNamespace PersistentVolume.mapClaim
  cases hclaim : pv.claimRef with
  | none => rfl
  | some ref =>
    rw [hclaim, Option.any_some, Bool.and_eq_true, bne_iff_ne] at hreserved
    simp [hreserved.1, hc.upstream]

lemma reserved_shown_iff (hc : c.Dashes) (pv : PersistentVolume) :
    (pv.source.safe && (pv.mapClaim fun ns => trimIfAttributable c ns tid).reserved) = true ↔
      ¬ pv.Refused tid := by
  rw [PersistentVolume.reserved, claimRef_shown hc, PersistentVolume.Refused]
  cases hclaim : pv.claimRef with
  | none => simp
  | some ref => simp [trim_eq_empty_iff, and_assoc]

lemma pv_writable_iff (hc : c.Dashes) (pv : PersistentVolume) :
    (pvView c tid).Writable pv ↔ ¬ pv.Refused tid := by
  rw [View.writable_iff rfl, ← reserved_shown_iff hc]
  exact Except.exists_ite_eq_ok_iff

lemma pv_neutral_iff (hc : c.Dashes) {pv : PersistentVolume} (hnot : ¬ pv.Refused tid) :
    (pvView c tid).Neutral PersistentVolume.claimNamespace pv ↔ pv.Kept tid := by
  have hgood := (reserved_shown_iff hc pv).mpr hnot
  have hreserved := (Bool.and_eq_true _ _ ▸ hgood).2
  have hwrite : (pvView c tid).write (pv.mapClaim fun ns => trimIfAttributable c ns tid) =
      .ok _ := if_pos hgood
  have hneutral : (pvView c tid).Neutral PersistentVolume.claimNamespace pv ↔
      ((pv.mapClaim fun ns => trimIfAttributable c ns tid).mapClaim
        (c.upstreamNamespace tid)).claimNamespace = pv.claimNamespace := by
    rw [View.neutral_iff rfl, hwrite]
    simp only [Except.ok.injEq, forall_eq']
  rw [hneutral, claimNamespace_sent hc hreserved]
  unfold PersistentVolume.Kept PersistentVolume.claimNamespace
  rw [claimRef_shown hc]
  rw [PersistentVolume.reserved, claimRef_shown hc] at hreserved
  cases hclaim : pv.claimRef with
  | none => simp
  | some ref =>
    have hne : Tag.trim (tenantPrefix tid) ref.namespace ≠ "" := by
      simp only [hclaim, Option.map_some, Option.any_some, Bool.and_eq_true, bne_iff_ne] at hreserved
      exact hreserved.1
    simp only [Option.map_some, Option.some.injEq, forall_eq',
      ensure_trim_eq_iff (tenantPrefix_ne tid) hne]

end

end KubeZoo
