import KubeZoo.Proxy.CustomResource

/-! # The cache of what serves custom resources -/

namespace KubeZoo

open Tag

/-- `CustomResourceDefinitionSpec`. -/
structure CRDSpec where
  group : String
  plural : String
  conversion : Option WebhookClientConfig
  versions : List String
deriving DecidableEq

def CustomResourceDefinition.spec (crd : CustomResourceDefinition) : CRDSpec :=
  ⟨crd.group, crd.plural, crd.conversion, crd.versions⟩

structure CRDInfo where
  spec : CRDSpec
  acceptedNames : List String
deriving DecidableEq

abbrev CRDStorageMap := String → Option CRDInfo

/-- `getOrCreateServingInfoFor`. -/
def getOrCreateServingInfoFor (prepare : CustomResourceDefinition → Except GoError Unit) (c : Contract)
    (crds : List CustomResourceDefinition) (ctx : RequestContext) (storageMap : CRDStorageMap)
    (uid name : String) : Except GoError (CRDInfo × CRDStorageMap) :=
  match storageMap uid with
  | some ret => .ok (ret, storageMap)
  | none => do
    let crd ← getTenantCRD c crds ctx name
    match storageMap crd.uid with
    | some ret => return (ret, storageMap)
    | none =>
      prepare crd
      let ret := { spec := crd.spec, acceptedNames := crd.acceptedNames }
      return (ret, Function.update storageMap crd.uid (some ret))

/-- `removeStorage_locked`. -/
def removeStorageLocked (storageMap : CRDStorageMap) (uid : String) : CRDStorageMap :=
  Function.update storageMap uid none

def updateCustomResourceDefinition (storageMap : CRDStorageMap)
    (oldCRD newCRD : CustomResourceDefinition) : CRDStorageMap :=
  let storageMap :=
    if oldCRD.uid ≠ newCRD.uid then removeStorageLocked storageMap oldCRD.uid else storageMap
  match storageMap newCRD.uid with
  | none => storageMap
  | some oldInfo =>
    if newCRD.spec = oldInfo.spec ∧ newCRD.acceptedNames = oldInfo.acceptedNames then storageMap
    else removeStorageLocked storageMap newCRD.uid

section

variable {storageMap : CRDStorageMap} {oldCRD newCRD : CustomResourceDefinition} {info : CRDInfo}

lemma update_entry (h : storageMap newCRD.uid = some info) :
    updateCustomResourceDefinition storageMap oldCRD newCRD newCRD.uid =
      if newCRD.spec = info.spec ∧ newCRD.acceptedNames = info.acceptedNames then some info
      else none := by
  have hfound : (if oldCRD.uid ≠ newCRD.uid then removeStorageLocked storageMap oldCRD.uid
      else storageMap) newCRD.uid = some info := by
    split_ifs with huid
    · rw [removeStorageLocked, Function.update_of_ne (Ne.symm huid), h]
    · exact h
  unfold updateCustomResourceDefinition
  simp only [hfound]
  by_cases hsame : newCRD.spec = info.spec ∧ newCRD.acceptedNames = info.acceptedNames
  · rw [if_pos hsame, if_pos hsame, hfound]
  · rw [if_neg hsame, if_neg hsame, removeStorageLocked, Function.update_self]

lemma update_others {uid : String} (hold : uid ≠ oldCRD.uid) (hnew : uid ≠ newCRD.uid) :
    updateCustomResourceDefinition storageMap oldCRD newCRD uid = storageMap uid := by
  have hremoved : (if oldCRD.uid ≠ newCRD.uid then removeStorageLocked storageMap oldCRD.uid
      else storageMap) uid = storageMap uid := by
    split_ifs
    · rw [removeStorageLocked, Function.update_of_ne hold]
    · rfl
  revert hremoved
  unfold updateCustomResourceDefinition
  generalize (if oldCRD.uid ≠ newCRD.uid then removeStorageLocked storageMap oldCRD.uid
    else storageMap) = removed
  intro hremoved
  cases removed newCRD.uid with
  | none => exact hremoved
  | some info =>
    dsimp only
    split_ifs
    · exact hremoved
    · rw [removeStorageLocked, Function.update_of_ne hnew, hremoved]

end

lemma getTenantCRD_ok {c : Contract} {crds : List CustomResourceDefinition} {ctx : RequestContext}
    {tid name : String} {origin crd : CustomResourceDefinition}
    (htenant : ctx.tenantID = some tid)
    (horigin : crdGet crds (crdKey c tid name) = .ok origin)
    (h : getTenantCRD c crds ctx name = .ok crd) :
    crd.uid = origin.uid ∧ crd.acceptedNames = origin.acceptedNames ∧
      crd.spec = { origin.spec with
        group := if sharedCRD name then origin.group else c.trimTenantIDPrefix tid origin.group } := by
  simp only [getTenantCRD, htenant, horigin, bind, Except.bind] at h
  by_cases hshared : sharedCRD name = true
  · rw [if_pos hshared] at h
    rw [← Except.ok.inj h, if_pos hshared]
    exact ⟨rfl, rfl, rfl⟩
  · rw [if_neg hshared] at h
    split_ifs at h
    rw [← Except.ok.inj h, if_neg hshared]
    exact ⟨rfl, rfl, rfl⟩

/-- The entry of a definition is kept by every update that changes nothing of what it was made from,
and dropped by every other, exactly if the definition is one that the platform shares or its group
does not have the prefix. -/
theorem serving_cache_reacts_iff (c : Contract) (hc : c.Dashes)
    (prepare : CustomResourceDefinition → Except GoError Unit) (crds : List CustomResourceDefinition)
    (ctx : RequestContext) (tid : String) (htenant : ctx.tenantID = some tid)
    (before after : CRDStorageMap) (uid name : String) (origin : CustomResourceDefinition)
    (info : CRDInfo) (horigin : crdGet crds (crdKey c tid name) = .ok origin)
    (huid : before uid = none) (hnone : before origin.uid = none)
    (hbuilt : getOrCreateServingInfoFor prepare c crds ctx before uid name = .ok (info, after)) :
    (∀ (storageMap : CRDStorageMap) (oldCRD newCRD : CustomResourceDefinition),
      storageMap origin.uid = some info → newCRD.uid = origin.uid →
      updateCustomResourceDefinition storageMap oldCRD newCRD origin.uid =
          (if newCRD.spec = origin.spec ∧ newCRD.acceptedNames = origin.acceptedNames then some info
          else none) ∧
        ∀ other, other ≠ oldCRD.uid → other ≠ newCRD.uid →
          updateCustomResourceDefinition storageMap oldCRD newCRD other = storageMap other) ↔
    sharedCRD name = true ∨ ¬ Marked (tenantPrefix tid) origin.group := by
  simp only [getOrCreateServingInfoFor, huid] at hbuilt
  obtain ⟨crd, hcrd, hbuilt⟩ := Except.bind_eq_ok_iff.mp hbuilt
  obtain ⟨hcrdUID, hnames, hspec⟩ := getTenantCRD_ok htenant horigin hcrd
  rw [hcrdUID, hnone] at hbuilt
  obtain ⟨-, -, hbuilt⟩ := Except.bind_eq_ok_iff.mp hbuilt
  obtain ⟨rfl, -⟩ := Prod.mk.inj (Except.ok.inj hbuilt)
  rw [hc.trim] at hspec
  constructor
  · intro h
    by_contra hnot
    rw [not_or, not_not] at hnot
    obtain ⟨hshared, rest, hgroup⟩ := hnot
    -- Nothing changes, as when the informer lists again.
    have hkept := (h (Function.update before origin.uid _) origin origin
      (Function.update_self _ _ _) rfl).1
    have hunchanged : origin.spec = origin.spec ∧ origin.acceptedNames = origin.acceptedNames :=
      ⟨rfl, rfl⟩
    rw [update_entry (Function.update_self _ _ _)] at hkept
    split_ifs at hkept with hsame
    have hgroups := congrArg CRDSpec.group hsame.1
    rw [hspec] at hgroups
    simp only [hshared] at hgroups
    rw [show origin.spec.group = origin.group from rfl, hgroup, trim_append] at hgroups
    exact append_ne (tenantPrefix_ne tid) rest hgroups
  · intro h storageMap oldCRD newCRD hentry hnew
    have hsame : crd.spec = origin.spec := by
      rw [hspec]
      rcases h with hshared | hmarked
      · rw [if_pos hshared]
        rfl
      · rw [trim_of_not hmarked, ite_self]
        rfl
    refine ⟨?_, fun other hold hother => update_others hold hother⟩
    rw [← hnew] at hentry ⊢
    rw [update_entry hentry, hsame, hnames]

private def upstreamCRD (plural group : String) : CustomResourceDefinition :=
  { tenantCRD plural group with uid := "d1", acceptedNames := [plural] }

private def snapshots : CustomResourceDefinition :=
  upstreamCRD "volumesnapshots" "snapshot.storage.k8s.io"

theorem serving_cache_reacts_shared : ∃ info after,
    getOrCreateServingInfoFor (fun _ => .ok ()) dashContract [snapshots] webContext (fun _ => none) "d1"
      snapshots.name = .ok (info, after) ∧
    ∀ storageMap : CRDStorageMap, storageMap "d1" = some info →
      updateCustomResourceDefinition storageMap snapshots snapshots "d1" = some info := by
  refine ⟨_, _, rfl, fun storageMap h => ?_⟩
  exact ((serving_cache_reacts_iff dashContract dashes_dashContract (fun _ => .ok ()) [snapshots]
    webContext "111111" rfl (fun _ => none) _ "d1" snapshots.name snapshots _ (by decide +kernel) rfl
    rfl rfl).mpr (Or.inl (by decide +kernel)) storageMap snapshots snapshots h rfl).1

theorem serving_cache_drops_unchanged :
    let crd := upstreamCRD "crontabs" "111111-stable.example.com"
    (getOrCreateServingInfoFor (fun _ => .ok ()) dashContract [crd] webContext (fun _ => none) "d1"
      "crontabs.stable.example.com").toOption.map
      (fun built => (built.2 "d1", updateCustomResourceDefinition built.2 crd crd "d1")) =
    some (some ⟨⟨"stable.example.com", "crontabs", none, []⟩, ["crontabs"]⟩, none) := by
  decide +kernel

end KubeZoo
