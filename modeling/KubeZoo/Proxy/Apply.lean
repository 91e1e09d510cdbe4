import KubeZoo.Lib.Ownership
import KubeZoo.Proxy.GuaranteedUpdate

/-! # Forwarding a server-side apply -/

namespace KubeZoo

inductive FieldPath
  | label (key : String)
  | annotationKey (key : String)
  | field (path : String)
deriving DecidableEq

structure Leaves where
  labels : StringMap := ∅
  annotations : StringMap := ∅
  fields : StringMap := ∅
deriving DecidableEq

namespace Leaves

variable (l : Leaves)

def get : FieldPath → Option String
  | .label key => l.labels[key]?
  | .annotationKey key => l.annotations[key]?
  | .field path => l.fields[path]?

def paths : List FieldPath :=
  l.labels.keys.map .label ++ l.annotations.keys.map .annotationKey ++ l.fields.keys.map .field

/-- `ExtractItems`: the leaves at these paths. -/
def extractItems (paths : FieldPath → Bool) : Leaves where
  labels := l.labels.filter fun k _ => paths (.label k)
  annotations := l.annotations.filter fun k _ => paths (.annotationKey k)
  fields := l.fields.filter fun k _ => paths (.field k)

def onto (under : Leaves) : Leaves where
  labels := under.labels ∪ l.labels
  annotations := under.annotations ∪ l.annotations
  fields := under.fields ∪ l.fields

variable {l}

@[simp] lemma get_extractItems (paths : FieldPath → Bool) (p : FieldPath) :
    (l.extractItems paths).get p = if paths p then l.get p else none := by
  cases p with
  | label key => exact HiddenMetadata.getElem?_filter_key _ (fun k => paths (.label k)) key
  | annotationKey key =>
    exact HiddenMetadata.getElem?_filter_key _ (fun k => paths (.annotationKey k)) key
  | field path => exact HiddenMetadata.getElem?_filter_key _ (fun k => paths (.field k)) path

@[simp] lemma get_onto (under : Leaves) (p : FieldPath) :
    (l.onto under).get p = (l.get p).or (under.get p) := by
  cases p with
  | label key | annotationKey key | field path => exact Std.ExtTreeMap.getElem?_union

lemma mem_paths (p : FieldPath) : p ∈ l.paths ↔ (l.get p).isSome := by
  cases p with
  | label key | annotationKey key | field path => simp [paths, get]

end Leaves

structure ManagedFieldsEntry where
  manager : String
  operation : String
  subresource : String := ""
  fieldsV1 : Option (List FieldPath)
deriving DecidableEq

def managedFieldsOperationApply : String := "Apply"

structure Fields where
  apiVersion : String := ""
  kind : String := ""
  fields : StringMap := ∅
  managedFields : List ManagedFieldsEntry := []
deriving DecidableEq

namespace Object

variable (o : Object Fields)

def leaves : Leaves := ⟨o.metadata.labels, o.metadata.annotations, o.body.fields⟩

def withLeaves (l : Leaves) : Object Fields :=
  { o with
    metadata := { o.metadata with labels := l.labels, annotations := l.annotations }
    body := { o.body with fields := l.fields } }

def setManagedFields (managedFields : List ManagedFieldsEntry) : Object Fields :=
  { o with body := { o.body with managedFields := managedFields } }

def owns (manager : String) (p : FieldPath) : Bool :=
  o.body.managedFields.any fun e => e.manager == manager && (e.fieldsV1.getD []).contains p

def othersOwn (manager : String) (p : FieldPath) : Bool :=
  o.body.managedFields.any fun e => e.manager != manager && (e.fieldsV1.getD []).contains p

def resolve (manager : String) (patch : Leaves) : Object Fields :=
  let kept := o.leaves.extractItems fun p => !(o.owns manager p && !o.othersOwn manager p)
  let entry := { manager := manager, operation := managedFieldsOperationApply, fieldsV1 := some patch.paths }
  (o.withLeaves (patch.onto kept)).setManagedFields
    (o.body.managedFields.filter (fun e => e.manager != manager) ++ [entry])

def managed : Ownership.Managed FieldPath String String where
  value := o.leaves.get
  owns manager := {p | o.owns manager p = true}

@[simp] lemma leaves_withLeaves (l : Leaves) : (o.withLeaves l).leaves = l := rfl

@[simp] lemma leaves_setManagedFields (managedFields : List ManagedFieldsEntry) :
    (o.setManagedFields managedFields).leaves = o.leaves := rfl

lemma othersOwn_iff (manager : String) (p : FieldPath) :
    o.othersOwn manager p = true ↔ ∃ m ≠ manager, o.owns m p = true := by
  simp only [othersOwn, owns, List.any_eq_true, Bool.and_eq_true, bne_iff_ne, beq_iff_eq]
  constructor
  · rintro ⟨e, he, hne, hp⟩
    exact ⟨e.manager, hne, e, he, rfl, hp⟩
  · rintro ⟨m, hne, e, he, rfl, hp⟩
    exact ⟨e, he, hne, hp⟩

lemma sole_iff (manager : String) (p : FieldPath) :
    o.managed.Sole manager p ↔ (o.owns manager p && !o.othersOwn manager p) = true := by
  rw [Bool.and_eq_true, Bool.not_eq_true', ← Bool.not_eq_true, othersOwn_iff]
  constructor
  · intro ⟨hown, hother⟩
    exact ⟨hown, fun ⟨m, hne, hm⟩ => hother m hne hm⟩
  · intro ⟨hown, hother⟩
    exact ⟨hown, fun m hne hm => hother ⟨m, hne, hm⟩⟩

lemma get_leaves_resolve (manager : String) (patch : Leaves) (p : FieldPath) :
    (o.resolve manager patch).leaves.get p =
      (patch.get p).or (if o.owns manager p && !o.othersOwn manager p then none else o.leaves.get p) := by
  simp only [resolve, leaves_setManagedFields, leaves_withLeaves, Leaves.get_onto,
    Leaves.get_extractItems]
  cases o.owns manager p && !o.othersOwn manager p <;> rfl

lemma owns_resolve (manager : String) (patch : Leaves) (m : String) (p : FieldPath) :
    (o.resolve manager patch).owns m p =
      if m = manager then (patch.get p).isSome else o.owns m p := by
  have hmem : patch.paths.contains p = (patch.get p).isSome := by
    rw [Bool.eq_iff_iff, List.contains_iff_mem, Leaves.mem_paths]
  simp only [owns, resolve, setManagedFields, List.any_append, List.any_filter, List.any_cons,
    List.any_nil, Bool.or_false, Option.getD_some, hmem]
  by_cases hm : m = manager
  · subst hm
    rw [if_pos rfl, beq_self_eq_true, Bool.true_and]
    convert Bool.false_or _
    rw [List.any_eq_false]
    intro e _
    cases h : e.manager == m <;> simp [h, bne]
  · rw [if_neg hm]
    have hne : (manager == m) = false := by simpa using Ne.symm hm
    rw [hne, Bool.false_and, Bool.or_false]
    congr 1
    funext e
    by_cases he : e.manager = m
    · simp [he, hm]
    · simp [he]

lemma managed_resolve (manager : String) (patch : Leaves) :
    (o.resolve manager patch).managed = o.managed.apply manager patch.get := by
  have hvalue : (o.resolve manager patch).managed.value =
      (o.managed.apply manager patch.get).value := by
    funext p
    show (o.resolve manager patch).leaves.get p = _
    rw [get_leaves_resolve]
    simp only [Ownership.Managed.apply, sole_iff]
    rfl
  have howns : (o.resolve manager patch).managed.owns =
      (o.managed.apply manager patch.get).owns := by
    funext m
    ext p
    show (o.resolve manager patch).owns m p = true ↔ _
    rw [owns_resolve]
    simp only [Ownership.Managed.apply]
    by_cases hm : m = manager
    · subst hm
      simp
    · rw [if_neg hm, Function.update_of_ne hm]
      rfl
  exact congrArg₂ Ownership.Managed.mk hvalue howns

end Object

/-- A `managedfields.TypeConverter`: the objects it can read. What it reads of one is its leaves. -/
structure TypeConverter where
  reads : Object Fields → Bool

def TypeConverter.objectToTyped (converter : TypeConverter) (o : Object Fields) :
    Except GoError Leaves :=
  if converter.reads o then .ok o.leaves else .error (.plain "no corresponding type")

structure ApplyPatch where
  ns : String
  apiVersion : String
  kind : String
  name : String
  «namespace» : String
  leaves : Leaves
  fieldManager : String
  dryRun : List String := []
  force : Bool := false
deriving DecidableEq

def asAPIVersion (obj : Object Fields) (apiVersion : String) : Object Fields :=
  if apiVersion = "" ∨ apiVersion = obj.body.apiVersion then obj
  else { obj with body := { obj.body with apiVersion := apiVersion } }

/-- `applyEntry`: what the manager owns as a result of applying. -/
def applyEntry (obj : Object Fields) (fieldManager : String) : Option (List FieldPath) :=
  if fieldManager = "" then none
  else
    (obj.body.managedFields.find? fun e =>
      e.manager == fieldManager && e.operation == managedFieldsOperationApply &&
        e.subresource == "" && e.fieldsV1.isSome).bind fun e => e.fieldsV1

variable {o : Object Fields} {tenantAPIVersion : String} {converter : TypeConverter}

lemma applyEntry_resolve {x : Object Fields} {manager : String} {patch : Leaves}
    (hmanager : manager ≠ "")
    (h : o.body.managedFields = (x.resolve manager patch).body.managedFields) :
    applyEntry o manager = some patch.paths := by
  have hothers : (x.body.managedFields.filter fun e => e.manager != manager).find? (fun e =>
      e.manager == manager && e.operation == managedFieldsOperationApply && e.subresource == "" &&
        e.fieldsV1.isSome) = none := by
    rw [List.find?_eq_none]
    intro e he
    have hne : e.manager ≠ manager := by simpa using (List.mem_filter.mp he).2
    simp [hne]
  unfold applyEntry
  rw [if_neg hmanager, h]
  show ((x.body.managedFields.filter _ ++ [_]).find? _).bind _ = _
  rw [List.find?_append, hothers]
  simp

/-- `typeObject`: the object as it was read, and the converter that read it. -/
def typeObject (typeConverter deduced : TypeConverter) (obj : Object Fields)
    (tenantAPIVersion : String) : Except GoError (Leaves × TypeConverter) :=
  let candidate := asAPIVersion obj tenantAPIVersion
  match typeConverter.objectToTyped candidate with
  | .ok typed => .ok (typed, typeConverter)
  | .error _ => (deduced.objectToTyped candidate).map fun typed => (typed, deduced)

/-- `conversionDelta`: the paths that were added or modified. -/
def conversionDelta (converter : TypeConverter) (tenantForm upstream : Object Fields)
    (tenantAPIVersion : String) : Except GoError (FieldPath → Bool) := do
  let before ← converter.objectToTyped tenantForm
  let after ← converter.objectToTyped (asAPIVersion upstream tenantAPIVersion)
  return fun p => (after.get p).isSome && before.get p != after.get p

lemma TypeConverter.objectToTyped_eq_ok_iff {l : Leaves} :
    converter.objectToTyped o = .ok l ↔ converter.reads o = true ∧ l = o.leaves := by
  unfold objectToTyped
  split_ifs with hreads
  · simp [hreads, eq_comm (a := l)]
  · simp [hreads]

@[simp] lemma leaves_asAPIVersion (o : Object Fields) (apiVersion : String) :
    (asAPIVersion o apiVersion).leaves = o.leaves := by
  unfold asAPIVersion
  split_ifs
  · rfl
  · rfl

lemma typeObject_ok {typeConverter deduced : TypeConverter} {obj : Object Fields} {typed : Leaves}
    (h : typeObject typeConverter deduced obj tenantAPIVersion = .ok (typed, converter)) :
    typed = obj.leaves ∧ converter.reads (asAPIVersion obj tenantAPIVersion) = true := by
  unfold typeObject at h
  simp only at h
  split at h
  · next l hl =>
    obtain ⟨hreads, rfl⟩ := TypeConverter.objectToTyped_eq_ok_iff.mp hl
    obtain ⟨rfl, rfl⟩ := Prod.mk.inj (Except.ok.inj h)
    exact ⟨leaves_asAPIVersion _ _, hreads⟩
  · obtain ⟨l, hl, hpair⟩ := Except.map_eq_ok_iff.mp h
    obtain ⟨hreads, rfl⟩ := TypeConverter.objectToTyped_eq_ok_iff.mp hl
    obtain ⟨rfl, rfl⟩ := Prod.mk.inj hpair
    exact ⟨leaves_asAPIVersion _ _, hreads⟩

lemma conversionDelta_eq_ok_iff {tenantForm upstream : Object Fields} {delta : FieldPath → Bool} :
    conversionDelta converter tenantForm upstream tenantAPIVersion = .ok delta ↔
      converter.reads tenantForm = true ∧
      converter.reads (asAPIVersion upstream tenantAPIVersion) = true ∧
      delta = fun p => (upstream.leaves.get p).isSome &&
        tenantForm.leaves.get p != upstream.leaves.get p := by
  unfold conversionDelta
  constructor
  · intro h
    obtain ⟨before, hbefore, h⟩ := Except.bind_eq_ok_iff.mp h
    obtain ⟨after, hafter, h⟩ := Except.bind_eq_ok_iff.mp h
    obtain ⟨hform, rfl⟩ := TypeConverter.objectToTyped_eq_ok_iff.mp hbefore
    obtain ⟨hupstream, rfl⟩ := TypeConverter.objectToTyped_eq_ok_iff.mp hafter
    rw [leaves_asAPIVersion] at h
    exact ⟨hform, hupstream, (Except.ok.inj h).symm⟩
  · intro ⟨hform, hupstream, hdelta⟩
    rw [TypeConverter.objectToTyped_eq_ok_iff.mpr ⟨hform, rfl⟩,
      TypeConverter.objectToTyped_eq_ok_iff.mpr ⟨hupstream, rfl⟩, leaves_asAPIVersion, hdelta]
    rfl

/-- What `forwardApply` reads beside the request: the schemas, and the paths that a storage above
this one declares. -/
structure ApplySettings where
  typeConverter : Option TypeConverter
  deducedTypeConverter : TypeConverter
  injectedPaths : List FieldPath := []
  /-- `util.ApplyForceFrom`. -/
  applyForceFrom : RequestContext → Bool := fun _ => false

namespace TenantProxy

variable (tp : TenantProxy Fields) (settings : ApplySettings)

/-- `forwardApply` up to the patch it sends. -/
def applyPatch (ctx : RequestContext) (upstream : Object Fields) (tenantForm : Option (Object Fields))
    (fieldManager : String) (options : WriteOptions) : Except GoError (Option ApplyPatch) :=
  if !ctx.isApplyPatch then .ok none
  else
    match applyEntry upstream fieldManager, settings.typeConverter, tenantForm with
    | none, _, _ => .ok none
    | some _, none, _ => .ok none
    | some _, some _, none => .error (.plain
        "cannot forward this apply: the object as the tenant sent it was not kept")
    | some owned, some typeConverter, some tenantForm =>
      let stripped := upstream.setManagedFields []
      match typeObject typeConverter settings.deducedTypeConverter stripped
          tenantForm.body.apiVersion with
      | .error _ => .ok none
      | .ok (typed, converter) =>
        match conversionDelta converter tenantForm stripped tenantForm.body.apiVersion with
        | .error e => .error (.plain
            ("working out which fields kubezoo added to this apply: " ++ e.error))
        | .ok injected => do
          let fields := fun p =>
            owned.contains p || injected p || settings.injectedPaths.contains p
          let ns ← tp.getClient ctx
          return some {
            ns := ns
            apiVersion := upstream.body.apiVersion
            kind := upstream.body.kind
            name := upstream.metadata.name
            «namespace» := upstream.metadata.namespace
            leaves := typed.extractItems fields
            fieldManager := fieldManager
            dryRun := options.dryRun
            force := settings.applyForceFrom ctx }

def forwardApply (send : ApplyPatch → Except GoError (Object Fields)) (ctx : RequestContext)
    (upstream : Object Fields) (tenantForm : Option (Object Fields)) (fieldManager : String)
    (options : WriteOptions) : Except GoError (Option (Object Fields)) := do
  match ← tp.applyPatch settings ctx upstream tenantForm fieldManager options with
  | none => return none
  | some patch => return some (← send patch)

variable {tp settings} {ctx : RequestContext} {upstream : Object Fields} {fieldManager : String}
  {options : WriteOptions}

variable {patch : ApplyPatch} {tenantForm : Option (Object Fields)}

lemma applyPatch_eq_some_iff :
    tp.applyPatch settings ctx upstream tenantForm fieldManager options = .ok (some patch) ↔
      ctx.isApplyPatch = true ∧ ∃ owned typeConverter form typed converter injected ns,
        applyEntry upstream fieldManager = some owned ∧
        settings.typeConverter = some typeConverter ∧ tenantForm = some form ∧
        typeObject typeConverter settings.deducedTypeConverter (upstream.setManagedFields [])
          form.body.apiVersion = .ok (typed, converter) ∧
        conversionDelta converter form (upstream.setManagedFields []) form.body.apiVersion =
          .ok injected ∧
        tp.getClient ctx = .ok ns ∧
        patch = {
          ns := ns
          apiVersion := upstream.body.apiVersion
          kind := upstream.body.kind
          name := upstream.metadata.name
          «namespace» := upstream.metadata.namespace
          leaves := typed.extractItems fun p =>
            owned.contains p || injected p || settings.injectedPaths.contains p
          fieldManager := fieldManager
          dryRun := options.dryRun
          force := settings.applyForceFrom ctx } := by
  constructor
  · intro h
    unfold applyPatch at h
    split_ifs at h with hctx
    · cases h
    split at h
    · cases h
    · cases h
    · cases h
    next owned typeConverter form howned hconverter =>
    simp only at h
    split at h
    · cases h
    next typed converter htyped =>
    split at h
    · cases h
    next injected hinjected =>
    obtain ⟨ns, hns, h⟩ := Except.bind_eq_ok_iff.mp h
    exact ⟨by simpa using hctx, owned, typeConverter, form, typed, converter, injected, ns, howned,
      hconverter, rfl, htyped, hinjected, hns, (Option.some.inj (Except.ok.inj h)).symm⟩
  · intro ⟨hctx, owned, typeConverter, form, typed, converter, injected, ns, howned, hconverter,
      hform, htyped, hinjected, hns, hpatch⟩
    subst hform hpatch
    unfold applyPatch
    rw [if_neg (by simp [hctx]), howned, hconverter]
    simp only [htyped, hinjected, hns]
    rfl

lemma applyPatch_some
    (h : tp.applyPatch settings ctx upstream tenantForm fieldManager options = .ok (some patch)) :
    ∃ form owned, tenantForm = some form ∧ applyEntry upstream fieldManager = some owned ∧
      patch.fieldManager = fieldManager ∧ patch.name = upstream.metadata.name ∧
      tp.getClient ctx = .ok patch.ns ∧
      ∀ p, patch.leaves.get p =
        if p ∈ owned ∨ form.leaves.get p ≠ upstream.leaves.get p ∨ p ∈ settings.injectedPaths then
          upstream.leaves.get p else none := by
  obtain ⟨-, owned, _, form, typed, converter, injected, ns, howned, -, hform, htyped, hinjected,
    hns, rfl⟩ := applyPatch_eq_some_iff.mp h
  refine ⟨form, owned, hform, howned, rfl, rfl, hns, ?_⟩
  obtain ⟨rfl, -⟩ := typeObject_ok htyped
  obtain ⟨-, -, rfl⟩ := conversionDelta_eq_ok_iff.mp hinjected
  intro p
  simp only [Leaves.get_extractItems, Object.leaves_setManagedFields, Bool.or_eq_true,
    Bool.and_eq_true, List.contains_iff_mem, bne_iff_ne]
  cases hp : upstream.leaves.get p with
  | none => simp
  | some v => simp [or_assoc]

lemma forwardApply_of_applyPatch {send : ApplyPatch → Except GoError (Object Fields)}
    (h : tp.applyPatch settings ctx upstream tenantForm fieldManager options = .ok (some patch)) :
    tp.forwardApply settings send ctx upstream tenantForm fieldManager options =
      (send patch).map some := by
  unfold forwardApply
  rw [h]
  rfl

end TenantProxy

end KubeZoo
