import KubeZoo.Proxy.Claims

/-! # The classes that an object names -/

namespace KubeZoo

structure ClassedClaim extends PersistentVolumeClaim where
  volumeAttributesClassName : Option String := none
deriving DecidableEq

/-- `refuseUnpublishedVolumeAttributesClass`, of a claim of a name and the one that is stored. -/
def refuseUnpublishedVolumeAttributesClass (published : Option PublishedClasses) (claimName : String)
    (claim : ClassedClaim) (old : Option ClassedClaim) : Except GoError Unit :=
  let name := claim.volumeAttributesClassName.getD ""
  let invalid detail := GoError.status (newInvalid "" "PersistentVolumeClaim" claimName
    (fieldInvalid "spec.volumeAttributesClassName" name detail))
  match published with
  | none => .ok ()
  | some published =>
    if name = "" then .ok ()
    else if old.map (fun old => old.volumeAttributesClassName.getD "") = some name then .ok ()
    else if !published.hasSynced then
      .error (.status (newServiceUnavailable
        "the list of available volume attributes classes is still loading; retry shortly"))
    else if !published.visible name then
      .error (invalid ("no volume attributes class " ++ quoted name ++ " is available to you; the ones that are can be listed with `kubectl get volumeattributesclass`, and leaving this field unset applies none."))
    else if published.retired name then
      .error (invalid ("volume attributes class " ++ quoted name ++ " is being retired and is not accepting new claims; claims already using it keep working -- this refuses only new references to it."))
    else .ok ()

/-- `refuseUnpublishedStorageClass`, of a claim of a name. -/
def refuseStorageClassOf (published : Option PublishedClasses) (claimName : String)
    (claim : ClassedClaim) : Except GoError Unit :=
  refuseUnpublishedStorageClass published
    { metadata := { name := claimName }, body := { spec := claim.toPersistentVolumeClaim } }

def Unavailable (answer : Except GoError Unit) : Prop :=
  ∃ message, answer = .error (.status (newServiceUnavailable message))

lemma unavailable_bind {x y : Except GoError Unit} :
    Unavailable (x >>= fun _ => y) ↔ Unavailable x ∨ x = .ok () ∧ Unavailable y := by
  cases x with
  | ok => exact ⟨fun h => .inr ⟨rfl, h⟩, fun h => h.elim (fun ⟨_, h⟩ => by cases h) And.right⟩
  | error e => exact ⟨.inl, fun h => h.elim id fun h => by cases h.1⟩

structure AsksForClass (published : PublishedClasses) (cls : Option String) (answer : Except GoError Unit) :
    Prop where
  unavailable : Unavailable answer ↔ cls.getD "" ≠ "" ∧ published.hasSynced = false
  accepts : (cls.getD "" ≠ "" → published.hasSynced = true) →
    (answer = .ok () ↔ published.offers cls = true)

variable {published : PublishedClasses} {cls : Option String} {claimName name : String}
  {claim : ClassedClaim} {names : List String}

lemma offers_iff :
    published.offers cls = true ↔ (cls.getD "" ≠ "" →
      published.visible (cls.getD "") = true ∧ published.retired (cls.getD "") = false) := by
  cases cls with
  | none => simp [PublishedClasses.offers]
  | some name => simp [PublishedClasses.offers, Decidable.imp_iff_not_or]

lemma asks_unnamed (h : cls.getD "" = "") :
    AsksForClass published cls (.ok ()) where
  unavailable := by simp [Unavailable, h]
  accepts _ := by simp [offers_iff, h]

/-- Whichever of the two checks comes first. -/
lemma asks_named (h : cls.getD "" ≠ "") {retry group kind name detail detail' : String}
    {first second : Bool} (hchecks : (first || second) =
      (!published.visible (cls.getD "") || published.retired (cls.getD ""))) :
    AsksForClass published cls (if !published.hasSynced then .error (.status (newServiceUnavailable retry))
      else if first then .error (.status (newInvalid group kind name detail))
      else if second then .error (.status (newInvalid group kind name detail'))
      else .ok ()) := by
  constructor
  · cases published.hasSynced <;> cases first <;> cases second <;>
      simp [Unavailable, h, newInvalid, newServiceUnavailable]
  · intro hsynced
    rw [offers_iff, hsynced h]
    revert hchecks
    cases published.visible (cls.getD "") <;> cases published.retired (cls.getD "") <;>
      cases first <;> cases second <;> simp [h]

lemma refuseStorageClassOf_asks :
    AsksForClass published claim.storageClassName (refuseStorageClassOf (some published) claimName claim) := by
  unfold refuseStorageClassOf refuseUnpublishedStorageClass
  cases claim.storageClassName with
  | none => exact asks_unnamed rfl
  | some name =>
    by_cases hname : name = ""
    · simpa only [hname, if_true] using asks_unnamed rfl
    · have hsome : (some name).getD "" ≠ "" := hname
      simpa only [Option.getD_some, if_neg hname] using asks_named hsome rfl

lemma refuseVolumeAttributes_asks :
    AsksForClass published claim.volumeAttributesClassName
      (refuseUnpublishedVolumeAttributesClass (some published) claimName claim none) := by
  unfold refuseUnpublishedVolumeAttributesClass
  by_cases hname : claim.volumeAttributesClassName.getD "" = ""
  · simpa only [hname, if_true] using asks_unnamed hname
  · simpa only [if_neg hname, Option.map_none, reduceCtorEq, if_false] using asks_named hname rfl

lemma refuseVolumeAttributes_unchanged (published : Option PublishedClasses) :
    refuseUnpublishedVolumeAttributesClass published claimName claim (some claim) = .ok () := by
  unfold refuseUnpublishedVolumeAttributesClass
  cases published with
  | none => rfl
  | some published => simp

/-- The part of `core.Volume` that is read: the template of its claim, if it is ephemeral. -/
structure EphemeralVolume where
  name : String
  volumeClaimTemplate : Option ClassedClaim := none

/-- `retargetToEphemeral`: the cause of the refusal of a volume's claim, for the field of the object. -/
def retargetToEphemeral (kind name volume field path : String) (e : GoError) : GoError :=
  match e with
  | .status s =>
    if s.reason = "ServiceUnavailable" then e
    else .status (newInvalid "" kind name (fieldForbidden path
      (Tag.trim (newInvalid "" "PersistentVolumeClaim" volume (field ++ ": ")).message s.message)))
  | .plain message => .status (newInvalid "" kind name (fieldForbidden path message))

def storedTemplate (old : List EphemeralVolume) (name : String) : Option ClassedClaim :=
  old.findSome? fun v => if v.name = name then v.volumeClaimTemplate else none

/-- The body of the loop of `refuseUnpublishedEphemeralClasses`. -/
def refuseUnpublishedEphemeralClass (storage attributes : Option PublishedClasses) (kind name : String)
    (old : List EphemeralVolume) (v : EphemeralVolume) (i : Nat) : Except GoError Unit :=
  match v.volumeClaimTemplate with
  | none => .ok ()
  | some claim => do
    let base := "spec.volumes[" ++ toString i ++ "].ephemeral.volumeClaimTemplate."
    (refuseStorageClassOf storage v.name claim).mapError (retargetToEphemeral kind name v.name
      "spec.storageClassName" (base ++ "spec.storageClassName"))
    (refuseUnpublishedVolumeAttributesClass attributes v.name claim (storedTemplate old v.name)).mapError
      (retargetToEphemeral kind name v.name "spec.volumeAttributesClassName"
        (base ++ "spec.volumeAttributesClassName"))

/-- `refuseUnpublishedEphemeralClasses`, of the volumes of an object that has the specification of a pod
and of those that are stored. -/
def refuseUnpublishedEphemeralClasses (storage attributes : Option PublishedClasses) (kind name : String)
    (volumes old : List EphemeralVolume) : Except GoError Unit :=
  forM volumes.zipIdx fun vi =>
    refuseUnpublishedEphemeralClass storage attributes kind name old vi.1 vi.2

lemma refuseUnpublishedEphemeralClass_kept {storage attributes : Option PublishedClasses}
    {kind : String} {old : List EphemeralVolume} {v : EphemeralVolume} (i : Nat)
    (hkept : ∀ claim, v.volumeClaimTemplate = some claim → storedTemplate old v.name = some claim) :
    refuseUnpublishedEphemeralClass storage attributes kind name old v i = .ok () ↔
      ∀ claim, v.volumeClaimTemplate = some claim →
        refuseStorageClassOf storage v.name claim = .ok () := by
  unfold refuseUnpublishedEphemeralClass
  cases hv : v.volumeClaimTemplate with
  | none => simp
  | some claim =>
    simp only [hkept claim hv, refuseVolumeAttributes_unchanged, Option.some.injEq, forall_eq']
    cases refuseStorageClassOf storage v.name claim with
    | ok => exact iff_of_true rfl rfl
    | error e => exact iff_of_false (fun h => by cases h) (fun h => by cases h)

/-- A write that leaves the templates as they are stored is accepted exactly if the classes that they name
for the storage are still offered. -/
theorem ephemeral_reapply_accepted_iff (storage attributes : Option PublishedClasses) (kind name : String)
    (volumes old : List EphemeralVolume) (hsynced : ∀ s, storage = some s → s.hasSynced = true)
    (hkept : ∀ v ∈ volumes, ∀ claim, v.volumeClaimTemplate = some claim →
      storedTemplate old v.name = some claim) :
    refuseUnpublishedEphemeralClasses storage attributes kind name volumes old = .ok () ↔
      ∀ s, storage = some s → ∀ v ∈ volumes, ∀ claim, v.volumeClaimTemplate = some claim →
        s.offers claim.storageClassName = true := by
  have hone : refuseUnpublishedEphemeralClasses storage attributes kind name volumes old = .ok () ↔
      ∀ v ∈ volumes, ∀ claim, v.volumeClaimTemplate = some claim →
        refuseStorageClassOf storage v.name claim = .ok () := by
    unfold refuseUnpublishedEphemeralClasses
    rw [Except.forM_eq_ok_iff]
    constructor
    · intro hall v hv
      obtain ⟨i, hi⟩ := List.mem_iff_getElem?.mp hv
      exact (refuseUnpublishedEphemeralClass_kept i (hkept v hv)).mp
        (hall (v, i) (List.mk_mem_zipIdx_iff_getElem?.mpr hi))
    · intro hall vi hvi
      have hv := List.fst_mem_of_mem_zipIdx hvi
      exact (refuseUnpublishedEphemeralClass_kept vi.2 (hkept _ hv)).mpr (hall _ hv)
  rw [hone]
  cases storage with
  | none => exact iff_of_true (fun v _ claim _ => rfl) (fun s h => by cases h)
  | some s =>
    simp only [Option.some.injEq, forall_eq']
    exact forall₂_congr fun v _ => forall₂_congr fun claim _ =>
      refuseStorageClassOf_asks.accepts fun _ => hsynced s rfl

private def scratchVolume : EphemeralVolume where
  name := "scratch"
  volumeClaimTemplate := some { storageClassName := some "gold" }

private def retiringClasses : LabelledSet :=
  .new "published" (some fun _ => .ok (some (some (.ofList [("published", publishedDeprecated)]))))
    (some true) []

theorem ephemeral_reapply_accepted_gold :
    refuseUnpublishedEphemeralClasses (some (LabelledSet.ofStatic ["gold"]).toClasses)
      (some retiringClasses.toClasses) "Deployment" "web" [scratchVolume] [scratchVolume] = .ok () :=
  (ephemeral_reapply_accepted_iff (some (LabelledSet.ofStatic ["gold"]).toClasses)
    (some retiringClasses.toClasses) "Deployment" "web" [scratchVolume] [scratchVolume]
    (by rintro s ⟨rfl⟩; rfl) (by simp [storedTemplate])).mpr (by
      rintro s ⟨rfl⟩
      decide)

theorem ephemeral_reapply_refused :
    retiringClasses.hasSynced = true ∧
      storedTemplate [scratchVolume] scratchVolume.name = scratchVolume.volumeClaimTemplate ∧
      ∃ s, refuseUnpublishedEphemeralClasses (some retiringClasses.toClasses) none "Deployment" "web"
        [scratchVolume] [scratchVolume] = .error (.status s) ∧ s.code = 422 :=
  ⟨rfl, by decide, _, rfl, rfl⟩

/-- `refuseUnpublishedSnapshotClass`, of a snapshot of a name. -/
def refuseUnpublishedSnapshotClass (published : Option PublishedClasses) (snapshot : String)
    (volumeSnapshotClassName : Option String) : Except GoError Unit :=
  let name := volumeSnapshotClassName.getD ""
  let invalid detail := GoError.status (newInvalid "snapshot.storage.k8s.io" "VolumeSnapshot" snapshot
    (fieldInvalid "spec.volumeSnapshotClassName" name detail))
  match published with
  | none => .ok ()
  | some published =>
    if name = "" then .ok ()
    else if !published.hasSynced then
      .error (.status (newServiceUnavailable
        "the list of published volume snapshot classes is not ready yet; retry"))
    else if published.retired name then
      .error (invalid ("volume snapshot class " ++ quoted name ++ " is being retired and is not taking new snapshots; snapshots already taken on it are unaffected"))
    else if !published.visible name then
      .error (invalid ("no volume snapshot class " ++ quoted name ++ " is available to this tenant"))
    else .ok ()

lemma refuseUnpublishedSnapshotClass_asks {snapshot : String} :
    AsksForClass published cls (refuseUnpublishedSnapshotClass (some published) snapshot cls) := by
  unfold refuseUnpublishedSnapshotClass
  by_cases hname : cls.getD "" = ""
  · simpa only [hname, if_true] using asks_unnamed hname
  · -- the two checks stand the other way round than for a claim
    simpa only [if_neg hname] using asks_named hname (Bool.or_comm _ _)

structure DeviceRequest where
  exactly : Option String := none
  firstAvailable : List String := []

def requestedDeviceClasses (requests : List DeviceRequest) : List String :=
  requests.flatMap fun r => r.exactly.toList ++ r.firstAvailable

/-- `refuseUnpublishedDeviceClass`, of the classes that `deviceClassNamesOf` found. -/
def refuseUnpublishedDeviceClass (published : Option PublishedClasses) (names : List String) :
    Except GoError Unit :=
  match published with
  | none => .ok ()
  | some published =>
    forM names fun name =>
      if name = "" then .ok ()
      else if published.visible name then .ok ()
      else .error (.status (newInvalid "resource.k8s.io" "ResourceClaim" ""
        (fieldForbidden "spec.devices.requests.deviceClassName" ("device class " ++ quoted name ++
          " is not offered to this tenant: it selects hardware the platform allocates, so only the classes it publishes may be named. `kubectl get deviceclasses` lists the ones you may use"))))

lemma refuseUnpublishedDeviceClass_ok_iff :
    refuseUnpublishedDeviceClass (some published) names = .ok () ↔
      ∀ name ∈ names, name ≠ "" → published.visible name = true := by
  unfold refuseUnpublishedDeviceClass
  rw [Except.forM_eq_ok_iff]
  refine forall₂_congr fun name _ => ?_
  by_cases hname : name = ""
  · simp [hname]
  · cases published.visible name <;> simp [hname]

lemma refuseUnpublishedDeviceClass_not_unavailable :
    ¬Unavailable (refuseUnpublishedDeviceClass (some published) names) := by
  rintro ⟨message, h⟩
  simp only [refuseUnpublishedDeviceClass] at h
  induction names with
  | nil => cases h
  | cons name names ih =>
    rw [List.forM_cons] at h
    split_ifs at h with hname hvisible
    · exact ih h
    · exact ih h
    · cases h

inductive ClassSet
  | storage
  | volumeAttributes
  | snapshot
  | device
deriving DecidableEq

inductive ClassedObject
  | persistentVolumeClaim (name : String) (claim : ClassedClaim)
  | volumeSnapshot (name : String) (volumeSnapshotClassName : Option String)
  | resourceClaim (requests : List DeviceRequest)
  | resourceClaimTemplate (requests : List DeviceRequest)

namespace ClassedObject

def classes : ClassedObject → List (ClassSet × String)
  | persistentVolumeClaim _ claim =>
    [(.storage, claim.storageClassName.getD ""),
      (.volumeAttributes, claim.volumeAttributesClassName.getD "")]
  | volumeSnapshot _ cls => [(.snapshot, cls.getD "")]
  | resourceClaim requests | resourceClaimTemplate requests =>
    (requestedDeviceClasses requests).map (.device, ·)

def named (o : ClassedObject) : List (ClassSet × String) := o.classes.filter (·.2 ≠ "")

variable (sets : ClassSet → LabelledSet)

/-- The guards of `Create`, of which each has its own kinds. -/
def refuseUnpublishedClasses : ClassedObject → Except GoError Unit
  | persistentVolumeClaim name claim => do
    refuseStorageClassOf (some (sets .storage).toClasses) name claim
    refuseUnpublishedVolumeAttributesClass (some (sets .volumeAttributes).toClasses) name claim none
  | volumeSnapshot name cls =>
    refuseUnpublishedSnapshotClass (some (sets .snapshot).toClasses) name cls
  | resourceClaim requests | resourceClaimTemplate requests =>
    refuseUnpublishedDeviceClass (some (sets .device).toClasses) (requestedDeviceClasses requests)

structure Uniform (o : ClassedObject) : Prop where
  accepts : (∀ n ∈ o.named, (sets n.1).hasSynced = true) →
    (o.refuseUnpublishedClasses sets = .ok () ↔
      ∀ n ∈ o.named, (sets n.1).visible n.2 = true ∧ (sets n.1).retired n.2 = false)
  unavailable : (∃ n ∈ o.named, (sets n.1).hasSynced = false) →
    Unavailable (o.refuseUnpublishedClasses sets)

def guardsSuffice : ClassedObject → Prop
  | persistentVolumeClaim _ claim =>
    (sets .storage).hasSynced = true →
      (sets .storage).toClasses.offers claim.storageClassName = true ∨
        claim.volumeAttributesClassName.getD "" = "" ∨ (sets .volumeAttributes).hasSynced = true
  | volumeSnapshot .. => True
  | o@(resourceClaim _) | o@(resourceClaimTemplate _) =>
    o.named = [] ∨ (sets .device).hasSynced = true ∧
      ((∃ n ∈ o.named, (sets .device).visible n.2 = false) ∨
        ∀ n ∈ o.named, (sets .device).retired n.2 = false)

variable {sets : ClassSet → LabelledSet}

lemma forall_named_claim {P : ClassSet → String → Prop} :
    (∀ n ∈ (persistentVolumeClaim name claim).named, P n.1 n.2) ↔
      (claim.storageClassName.getD "" ≠ "" → P .storage (claim.storageClassName.getD "")) ∧
      (claim.volumeAttributesClassName.getD "" ≠ "" →
        P .volumeAttributes (claim.volumeAttributesClassName.getD "")) := by
  simp [named, classes]

lemma uniform_claim_iff :
    Uniform sets (persistentVolumeClaim name claim) ↔
      guardsSuffice sets (persistentVolumeClaim name claim) := by
  have hstorage : AsksForClass (sets .storage).toClasses claim.storageClassName
    (refuseStorageClassOf (some (sets .storage).toClasses) name claim) := refuseStorageClassOf_asks
  have hattributes : AsksForClass (sets .volumeAttributes).toClasses claim.volumeAttributesClassName
    (refuseUnpublishedVolumeAttributesClass (some (sets .volumeAttributes).toClasses) name claim none) :=
    refuseVolumeAttributes_asks
  constructor
  · intro huniform hsynced
    by_contra hcontra
    rw [not_or, not_or, Bool.not_eq_true, Bool.not_eq_true] at hcontra
    obtain ⟨hrefused, hname, hnot⟩ := hcontra
    rcases unavailable_bind.mp (huniform.unavailable
      ⟨(.volumeAttributes, claim.volumeAttributesClassName.getD ""), by simp [named, classes, hname], hnot⟩)
      with hretry | ⟨hok, -⟩
    · exact Bool.false_ne_true ((hstorage.unavailable.mp hretry).2.symm.trans hsynced)
    · exact Bool.false_ne_true (hrefused.symm.trans ((hstorage.accepts fun _ => hsynced).mp hok))
  · intro hsuffice
    constructor
    · intro hsynced
      rw [forall_named_claim (P := fun set _ => (sets set).hasSynced = true)] at hsynced
      rw [forall_named_claim
        (P := fun set cls => (sets set).visible cls = true ∧ (sets set).retired cls = false)]
      exact (Except.bind_eq_ok_iff.trans Unique.exists_iff).trans
        (and_congr ((hstorage.accepts hsynced.1).trans offers_iff)
          ((hattributes.accepts hsynced.2).trans offers_iff))
    · rintro hnot
      refine unavailable_bind.mpr ?_
      by_cases hfirst : claim.storageClassName.getD "" ≠ "" ∧ (sets .storage).hasSynced = false
      · exact .inl (hstorage.unavailable.mpr hfirst)
      · rw [not_and, Bool.not_eq_false] at hfirst
        have hsecond : claim.volumeAttributesClassName.getD "" ≠ "" ∧
            (sets .volumeAttributes).hasSynced = false := by
          by_contra hcontra
          rw [not_and, Bool.not_eq_false] at hcontra
          obtain ⟨n, hn, hnot⟩ := hnot
          rw [forall_named_claim (P := fun set _ => (sets set).hasSynced = true).mpr ⟨hfirst, hcontra⟩ n hn]
            at hnot
          cases hnot
        refine .inr ⟨(hstorage.accepts hfirst).mpr ?_, hattributes.unavailable.mpr hsecond⟩
        by_cases hsynced : (sets .storage).hasSynced = true
        · rcases hsuffice hsynced with hoffers | hname | hloaded
          · exact hoffers
          · exact absurd hname hsecond.1
          · exact absurd hloaded (by rw [hsecond.2]; decide)
        · exact offers_iff.mpr fun hname => absurd (hfirst hname) hsynced

lemma uniform_snapshot : Uniform sets (volumeSnapshot name cls) := by
  have hasks : AsksForClass (sets .snapshot).toClasses cls
      ((volumeSnapshot name cls).refuseUnpublishedClasses sets) := refuseUnpublishedSnapshotClass_asks
  constructor
  · intro hsynced
    rw [hasks.accepts (by simpa [named, classes, LabelledSet.toClasses] using hsynced), offers_iff]
    simp [named, classes, LabelledSet.toClasses]
  · intro hnot
    exact hasks.unavailable.mpr (by simpa [named, classes, LabelledSet.toClasses] using hnot)

lemma uniform_devices_iff {o : ClassedObject} {requests : List DeviceRequest}
    (hclasses : o.classes = (requestedDeviceClasses requests).map (.device, ·))
    (hrefuse : o.refuseUnpublishedClasses sets =
      refuseUnpublishedDeviceClass (some (sets .device).toClasses) (requestedDeviceClasses requests)) :
    Uniform sets o ↔ o.named = [] ∨ (sets .device).hasSynced = true ∧
      ((∃ n ∈ o.named, (sets .device).visible n.2 = false) ∨
        ∀ n ∈ o.named, (sets .device).retired n.2 = false) := by
  have hset : ∀ n ∈ o.named, sets n.1 = sets .device := by
    intro n hn
    have hmem := (List.mem_filter.mp hn).1
    rw [hclasses] at hmem
    obtain ⟨name, -, rfl⟩ := List.mem_map.mp hmem
    rfl
  have haccepts : o.refuseUnpublishedClasses sets = .ok () ↔
      ∀ n ∈ o.named, (sets .device).visible n.2 = true := by
    rw [hrefuse, refuseUnpublishedDeviceClass_ok_iff]
    simp [named, hclasses, LabelledSet.toClasses]
  have hnever : ¬Unavailable (o.refuseUnpublishedClasses sets) := by
    rw [hrefuse]
    exact refuseUnpublishedDeviceClass_not_unavailable
  constructor
  · intro huniform
    by_cases hnone : o.named = []
    · exact .inl hnone
    · obtain ⟨n, hn⟩ := List.exists_mem_of_ne_nil _ hnone
      have hsynced : (sets .device).hasSynced = true := by
        by_contra hnot
        exact hnever (huniform.unavailable ⟨n, hn, by rw [hset n hn]; simpa using hnot⟩)
      have hiff := huniform.accepts fun n hn => by rw [hset n hn]; exact hsynced
      refine .inr ⟨hsynced, or_iff_not_imp_left.mpr fun hvisible n hn => ?_⟩
      have hall : ∀ n ∈ o.named, (sets .device).visible n.2 = true := by simpa using hvisible
      rw [← hset n hn]
      exact ((hiff.mp (haccepts.mpr hall)) n hn).2
  · rintro (hnone | ⟨hsynced, hasked⟩)
    · exact ⟨fun _ => by simp [haccepts, hnone], fun ⟨n, hn, _⟩ => by simp [hnone] at hn⟩
    · refine ⟨fun _ => haccepts.trans ⟨fun hall n hn => ?_, fun hall n hn => ?_⟩,
        fun ⟨n, hn, hnot⟩ => ?_⟩
      · rw [hset n hn]
        refine ⟨hall n hn, ?_⟩
        rcases hasked with ⟨m, hm, hunseen⟩ | hretired
        · simp [hall m hm] at hunseen
        · exact hretired n hn
      · rw [← hset n hn]
        exact (hall n hn).1
      · rw [hset n hn, hsynced] at hnot
        cases hnot

/-- The guards of a create keep to one rule exactly where they suffice. -/
theorem class_authorization_uniform_iff (sets : ClassSet → LabelledSet) (o : ClassedObject) :
    Uniform sets o ↔ guardsSuffice sets o := by
  cases o with
  | persistentVolumeClaim name claim => exact uniform_claim_iff
  | volumeSnapshot name cls => exact iff_of_true uniform_snapshot trivial
  | resourceClaim requests => exact uniform_devices_iff rfl rfl
  | resourceClaimTemplate requests => exact uniform_devices_iff rfl rfl

theorem class_authorization_not_uniform_devices :
    (retiringClasses.hasSynced = true ∧ retiringClasses.retired "gold" = true ∧
      (resourceClaim [{ exactly := some "gold" }]).refuseUnpublishedClasses (fun _ => retiringClasses) =
        .ok ()) ∧
    ∃ s, (resourceClaimTemplate [{ firstAvailable := ["gold"] }]).refuseUnpublishedClasses
      (fun _ => { synced := some false }) = .error (.status s) ∧ s.code = 422 := by
  refine ⟨by decide +kernel, _, rfl, rfl⟩

end ClassedObject

end KubeZoo
