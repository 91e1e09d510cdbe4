import KubeZoo.Proxy.Apply

/-! # What a forwarded apply sends -/

namespace KubeZoo

/-- Upstream's form has the field and the tenant's has not. -/
def Object.Added (tenantForm upstream : Object Fields) (p : FieldPath) : Prop :=
  tenantForm.leaves.get p = none ∧ (upstream.leaves.get p).isSome

/-- Both forms have the field, with different values. -/
def Object.Rewritten (tenantForm upstream : Object Fields) (p : FieldPath) : Prop :=
  (tenantForm.leaves.get p).isSome ∧ (upstream.leaves.get p).isSome ∧
    tenantForm.leaves.get p ≠ upstream.leaves.get p

namespace TenantProxy

variable {tp : TenantProxy Fields} {settings : ApplySettings} {ctx : RequestContext}
  {upstream form : Object Fields} {fieldManager : String} {options : WriteOptions}
  {owned : List FieldPath} {patch : ApplyPatch}

lemma mem_paths_applyPatch
    (h : tp.applyPatch settings ctx upstream (some form) fieldManager options = .ok (some patch))
    (howned : applyEntry upstream fieldManager = some owned) (p : FieldPath) :
    p ∈ patch.leaves.paths ↔ (upstream.leaves.get p).isSome ∧
      (p ∈ owned ∨ form.Added upstream p ∨ form.Rewritten upstream p ∨
        p ∈ settings.injectedPaths) := by
  obtain ⟨form', owned', hform, howned', -, -, -, hleaves⟩ := applyPatch_some h
  obtain rfl := Option.some.inj hform
  obtain rfl := Option.some.inj (howned.symm.trans howned')
  rw [Leaves.mem_paths, hleaves]
  unfold Object.Added Object.Rewritten
  cases hup : upstream.leaves.get p with
  | none => simp
  | some v =>
    cases hf : form.leaves.get p with
    | none => simp
    | some w =>
      by_cases hvw : w = v
      · simp [hvw]
      · simp [hvw]

/-- The patch has only leaves that the manager owns, that the conversion added, or that were declared,
if and only if the conversion rewrites no other leaf. -/
theorem forwarded_apply_not_overclaiming_iff
    (h : tp.applyPatch settings ctx upstream (some form) fieldManager options = .ok (some patch))
    (howned : applyEntry upstream fieldManager = some owned) :
    (∀ p ∈ patch.leaves.paths, p ∈ owned ∨ form.Added upstream p ∨ p ∈ settings.injectedPaths) ↔
      ∀ p, form.Rewritten upstream p → p ∈ owned ∨ p ∈ settings.injectedPaths := by
  constructor
  · intro hsent p hrewritten
    have hmem : p ∈ patch.leaves.paths :=
      (mem_paths_applyPatch h howned p).mpr ⟨hrewritten.2.1, .inr (.inr (.inl hrewritten))⟩
    rcases hsent p hmem with hp | hadded | hp
    · exact .inl hp
    · -- What was added was not there before, and what was rewritten was.
      have hthere := hrewritten.1
      rw [hadded.1] at hthere
      cases hthere
    · exact .inr hp
  · intro hrewritten p hp
    rcases ((mem_paths_applyPatch h howned p).mp hp).2 with hown | hadded | hrew | hdeclared
    · exact .inl hown
    · exact .inr (.inl hadded)
    · exact (hrewritten p hrew).imp_right .inr
    · exact .inr (.inr hdeclared)

/-- An apply that can be typed is forwarded, and nothing is lost on the way: every leaf of the converted
object that the manager owns, that the conversion added or rewrote, or that was declared is sent with
its converted value, to the converted object's address. -/
theorem forwarded_apply_complete {typeConverter converter : TypeConverter} {typed : Leaves}
    {ns : String} (hctx : ctx.isApplyPatch = true)
    (howned : applyEntry upstream fieldManager = some owned)
    (hschema : settings.typeConverter = some typeConverter)
    (htyped : typeObject typeConverter settings.deducedTypeConverter (upstream.setManagedFields [])
      form.body.apiVersion = .ok (typed, converter))
    (hform : converter.reads form = true) (hns : tp.getClient ctx = .ok ns) :
    ∃ patch, (∀ send, tp.forwardApply settings send ctx upstream (some form) fieldManager options =
        (send patch).map some) ∧
      patch.ns = ns ∧ patch.fieldManager = fieldManager ∧
      patch.apiVersion = upstream.body.apiVersion ∧ patch.kind = upstream.body.kind ∧
      patch.name = upstream.metadata.name ∧ patch.namespace = upstream.metadata.namespace ∧
      ∀ p v, upstream.leaves.get p = some v →
        p ∈ owned ∨ form.Added upstream p ∨ form.Rewritten upstream p ∨ p ∈ settings.injectedPaths →
        patch.leaves.get p = some v := by
  obtain ⟨rfl, hreads⟩ := typeObject_ok htyped
  have hpatch : tp.applyPatch settings ctx upstream (some form) fieldManager options = .ok (some _) :=
    applyPatch_eq_some_iff.mpr ⟨hctx, owned, typeConverter, form, _, converter, _, ns, howned, hschema, rfl, htyped,
      conversionDelta_eq_ok_iff.mpr ⟨hform, hreads, rfl⟩, hns, rfl⟩
  refine ⟨_, fun send => forwardApply_of_applyPatch hpatch, rfl, rfl, rfl, rfl, rfl, rfl, ?_⟩
  intro p v hv hsent
  have hmem := (mem_paths_applyPatch hpatch howned p).mpr ⟨by simp [hv], hsent⟩
  -- What is extracted has the value it was extracted from.
  rw [Leaves.mem_paths, Leaves.get_extractItems] at hmem
  rw [Leaves.get_extractItems]
  split_ifs at hmem ⊢ with hfield
  · exact hv
  · cases hmem

end TenantProxy

def boundClaims : TenantProxy Fields where
  kind := { version := "v1", kind := "PersistentVolumeClaim" }
  resource := "persistentvolumeclaims"
  namespaceScoped := true
  contract := dashContract
  convertor := {
    convertTenantObjectToUpstreamObject := fun o t _ => .ok
      { o with
        metadata := { o.metadata with «namespace» := t ++ "-" ++ o.metadata.namespace }
        body := { o.body with
          fields := o.body.fields.map fun path v =>
            if path = "spec.volumeName" then t ++ "-" ++ v else v } }
    convertUpstreamObjectToTenantObject := fun o _ _ => .ok o }

def openSchema : ApplySettings where
  typeConverter := some ⟨fun _ => true⟩
  deducedTypeConverter := ⟨fun _ => true⟩

/-- A tenant's claim `web` after manager `ci` applied its label: the name of the volume is another
manager's. -/
def claimOf (volumeManager : String) : Object Fields where
  metadata := {
    name := "web"
    «namespace» := "prod"
    labels := (∅ : StringMap).insert "app" "web" }
  body := {
    apiVersion := "v1"
    kind := "PersistentVolumeClaim"
    fields := (∅ : StringMap).insert "spec.volumeName" "data"
    managedFields := [
      { manager := "ci"
        operation := managedFieldsOperationApply
        fieldsV1 := some (if volumeManager = "ci" then [.label "app", .field "spec.volumeName"]
          else [.label "app"]) },
      { manager := volumeManager
        operation := managedFieldsOperationApply
        fieldsV1 := some [.field "spec.volumeName"] }] }

def upstreamClaimOf (volumeManager : String) : Object Fields :=
  { claimOf volumeManager with
    metadata := { (claimOf volumeManager).metadata with «namespace» := "111111-prod" }
    body := { (claimOf volumeManager).body with
      fields := (∅ : StringMap).insert "spec.volumeName" "111111-data" } }

def ciContext : RequestContext where
  tenantID := some "111111"
  requestInfo := some { verb := "patch", «namespace» := "prod", name := "web" }
  isApplyPatch := true

def ciPatch : ApplyPatch where
  ns := "111111-prod"
  apiVersion := "v1"
  kind := "PersistentVolumeClaim"
  name := "web"
  «namespace» := "111111-prod"
  leaves := {
    labels := (∅ : StringMap).insert "app" "web"
    fields := (∅ : StringMap).insert "spec.volumeName" "111111-data" }
  fieldManager := "ci"

lemma rewritten_claimOf {volumeManager : String} {p : FieldPath}
    (h : (claimOf volumeManager).Rewritten (upstreamClaimOf volumeManager) p) :
    p = .field "spec.volumeName" := by
  cases p with
  | label key => exact absurd rfl h.2.2
  | annotationKey key => exact absurd rfl h.2.2
  | field path =>
    by_contra hne
    have hnone : (claimOf volumeManager).leaves.get (.field path) = none := by
      show ((∅ : StringMap).insert "spec.volumeName" "data")[path]? = none
      rw [getElem?_insert_string, if_neg fun hpath => hne (congrArg _ hpath.symm)]
      rfl
    have hthere := h.1
    rw [hnone] at hthere
    cases hthere

lemma applyPatch_claimOf {volumeManager : String}
    (hmanager : volumeManager = "ci" ∨ volumeManager = "argocd") :
    boundClaims.applyPatch openSchema ciContext (upstreamClaimOf volumeManager)
      (some (claimOf volumeManager)) "ci" {} = .ok (some ciPatch) := by
  rcases hmanager with rfl | rfl
  · decide +kernel
  · decide +kernel

theorem forwarded_apply_not_overclaiming_own :
    boundClaims.applyPatch openSchema ciContext (upstreamClaimOf "ci") (some (claimOf "ci")) "ci" {} =
        .ok (some ciPatch) ∧
      ∀ p ∈ ciPatch.leaves.paths, p ∈ [FieldPath.label "app", .field "spec.volumeName"] ∨
        (claimOf "ci").Added (upstreamClaimOf "ci") p ∨ p ∈ openSchema.injectedPaths := by
  have hpatch := applyPatch_claimOf (.inl rfl)
  refine ⟨hpatch, (TenantProxy.forwarded_apply_not_overclaiming_iff hpatch (by decide +kernel)).mpr ?_⟩
  intro p hp
  rw [rewritten_claimOf hp]
  exact .inl (by decide)

theorem forwarded_apply_claims_foreign_volume_name :
    (boundClaims.convertTenantObjectToUpstreamObject (claimOf "argocd") "111111").toOption =
        some (upstreamClaimOf "argocd") ∧
      applyEntry (upstreamClaimOf "argocd") "ci" = some [.label "app"] ∧
      applyEntry (upstreamClaimOf "argocd") "argocd" = some [.field "spec.volumeName"] ∧
      boundClaims.applyPatch openSchema ciContext (upstreamClaimOf "argocd")
        (some (claimOf "argocd")) "ci" {} = .ok (some ciPatch) ∧
      openSchema.injectedPaths = [] ∧
      ¬ (claimOf "argocd").Added (upstreamClaimOf "argocd") (.field "spec.volumeName") ∧
      FieldPath.field "spec.volumeName" ∈ ciPatch.leaves.paths := by
  refine ⟨by decide +kernel, by decide +kernel, by decide +kernel, applyPatch_claimOf (.inr rfl), rfl,
    ?_, by decide +kernel⟩
  intro hadded
  exact absurd hadded.1 (by decide +kernel)

theorem forwarded_apply_complete_claim :
    ∃ patch, (∀ send, boundClaims.forwardApply openSchema send ciContext (upstreamClaimOf "ci")
        (some (claimOf "ci")) "ci" {} = (send patch).map some) ∧
      patch.ns = "111111-prod" ∧ patch.namespace = "111111-prod" ∧
      patch.leaves.get (.field "spec.volumeName") = some "111111-data" := by
  obtain ⟨patch, hsent, hns, -, -, -, -, hnamespace, hleaves⟩ :=
    @TenantProxy.forwarded_apply_complete boundClaims openSchema ciContext (upstreamClaimOf "ci")
      (claimOf "ci") "ci" {} [.label "app", .field "spec.volumeName"] ⟨fun _ => true⟩
      ⟨fun _ => true⟩ _ "111111-prod" rfl (by decide +kernel) rfl rfl rfl (by decide +kernel)
  exact ⟨patch, hsent, hns, hnamespace, hleaves _ _ (by decide +kernel) (.inl (by decide))⟩

end KubeZoo
