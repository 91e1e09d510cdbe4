import KubeZoo.Api
import KubeZoo.Lib.JsonMarshal
import KubeZoo.Lib.Regexp

/-! # Hidden metadata -/

namespace KubeZoo

/-- `HiddenMetadata`: the compiled patterns. -/
structure HiddenMetadata where
  patterns : List Regexp.Re

def platformMetadataPattern : Regexp.Re := Regexp.beginsWith "kubezoo.io/"

def platformHidden : HiddenMetadata := ⟨[platformMetadataPattern]⟩

def lastAppliedKey : String := "kubectl.kubernetes.io/last-applied-configuration"

def ObjectMeta.bare (m : ObjectMeta) : ObjectMeta := { m with labels := ∅, annotations := ∅ }

namespace HiddenMetadata

variable {β : Type} (h : Option HiddenMetadata)

/-- `hides`. -/
def hides (key : String) : Bool :=
  match h with
  | none => false
  | some h => h.patterns.any fun p => p.matchString key

def withoutHidden (m : StringMap) : StringMap := m.filter fun k _ => !hides h k

/-- `restoreHidden`: the stored values of the hidden keys over the submitted values of the others. -/
def restoreHidden (submitted stored : StringMap) : StringMap :=
  withoutHidden h submitted ∪ stored.filter fun k _ => hides h k

def stripField (metadata : List (String × Json.Value)) (name : String) :
    List (String × Json.Value) × Bool :=
  match Json.field metadata name with
  | some (.object m) =>
    (Json.setField metadata name (.object (m.filter fun f => !hides h f.1)),
      m.any fun f => hides h f.1)
  | _ => (metadata, false)

def stripDocument (raw : String) : Option String :=
  match Json.parse raw.toList with
  | some (.object applied) =>
    if !Json.fieldsInRange applied then none
    else
      match Json.field applied "metadata" with
      | some (.object metadata) =>
        let (metadata, inAnnotations) := stripField h metadata "annotations"
        let (metadata, inLabels) := stripField h metadata "labels"
        if !(inAnnotations || inLabels) then none
        else some (String.ofList (Json.marshal
          (.object (Json.setField applied "metadata" (.object metadata)))))
      | _ => none
  | _ => none

def stripLastApplied (annotations : StringMap) : StringMap :=
  match annotations[lastAppliedKey]? with
  | none => annotations
  | some raw =>
    if raw = "" then annotations
    else
      match stripDocument h raw with
      | none => annotations
      | some encoded => annotations.insert lastAppliedKey encoded

/-- `Strip` on the object's own metadata. -/
def stripOwn (m : ObjectMeta) : ObjectMeta :=
  { m with
    annotations := stripLastApplied h (withoutHidden h m.annotations)
    labels := withoutHidden h m.labels }

/-- `stripPodTemplate`. -/
def stripPodTemplate (o : Object β) : Object β :=
  match o.template with
  | .absent => o
  | .own => { o with metadata := stripOwn h o.metadata }
  | .nested labels annotations =>
    let annotations := stripLastApplied h (withoutHidden h annotations)
    { o with template := .nested (withoutHidden h labels) annotations }

def strip (o : Object β) : Object β :=
  match h with
  | none => o
  | some _ => stripPodTemplate h { o with metadata := stripOwn h o.metadata }

/-- `Restore`. -/
def restore (o : Object β) (old : Option (Object β)) : Object β :=
  match h with
  | none => o
  | some _ =>
    let storedAnnotations := (old.map fun old => old.metadata.annotations).getD ∅
    let storedLabels := (old.map fun old => old.metadata.labels).getD ∅
    { o with metadata := { o.metadata with
        annotations := restoreHidden h o.metadata.annotations storedAnnotations
        labels := restoreHidden h o.metadata.labels storedLabels } }

lemma name_strip (o : Object β) : (strip h o).metadata.name = o.metadata.name := by
  unfold strip
  cases h with
  | none => rfl
  | some h =>
    cases o.template with
    | absent => rfl
    | own => rfl
    | nested labels annotations => rfl

lemma name_restore (o : Object β) (old : Option (Object β)) :
    (restore h o old).metadata.name = o.metadata.name := by
  cases h with
  | none => rfl
  | some h => rfl

variable {h}

lemma getElem?_filter_key (m : StringMap) (p : String → Bool) (k : String) :
    (m.filter fun k _ => p k)[k]? = if p k then m[k]? else none := by
  rw [Std.ExtTreeMap.getElem?_filter]
  simp only [Std.ExtTreeMap.getKey_eq]
  by_cases hp : p k <;> cases m[k]? <;> simp [hp]

@[simp] lemma getElem?_withoutHidden (m : StringMap) (k : String) :
    (withoutHidden h m)[k]? = if hides h k then none else m[k]? := by
  rw [withoutHidden, getElem?_filter_key]
  cases hides h k <;> rfl

@[simp] lemma getElem?_restoreHidden (submitted stored : StringMap) (k : String) :
    (restoreHidden h submitted stored)[k]? =
      if hides h k then stored[k]? else submitted[k]? := by
  rw [restoreHidden, Std.ExtTreeMap.getElem?_union, getElem?_filter_key, getElem?_withoutHidden]
  cases hides h k <;> simp

variable (h)

def mask (m : StringMap) : StringMap := m.map fun k v => if hides h k then "" else v

def masked (o : Object β) : Object β :=
  { o with metadata := { o.metadata with
      labels := mask h o.metadata.labels, annotations := mask h o.metadata.annotations } }

/-- The objects differ in the values of hidden keys only. -/
def Alike (o o' : Object β) : Prop := masked h o = masked h o'

variable {h}

@[simp] lemma getElem?_mask (m : StringMap) (k : String) :
    (mask h m)[k]? = m[k]?.map fun v => if hides h k then "" else v :=
  Std.ExtTreeMap.getElem?_map

lemma withoutHidden_mask (m : StringMap) : withoutHidden h (mask h m) = withoutHidden h m := by
  ext k v
  rw [getElem?_withoutHidden, getElem?_withoutHidden]
  by_cases hk : hides h k = true
  · rw [if_pos hk, if_pos hk]
  · simp [hk]

lemma mask_restoreHidden (submitted stored : StringMap) :
    mask h (restoreHidden h submitted stored) =
      restoreHidden h (mask h submitted) (mask h stored) := by
  ext k v
  by_cases hk : hides h k = true <;> simp [hk]

lemma Alike.refl (o : Object β) : Alike h o o := rfl

lemma alike_equivalence : Equivalence (Alike h : Object β → Object β → Prop) := ⟨fun _ => rfl, Eq.symm, Eq.trans⟩

variable {o o' : Object β}

lemma alike_iff : Alike h o o' ↔ o.metadata.bare = o'.metadata.bare ∧
    mask h o.metadata.labels = mask h o'.metadata.labels ∧
    mask h o.metadata.annotations = mask h o'.metadata.annotations ∧
    o.template = o'.template ∧ o.body = o'.body := by
  simp only [Alike, masked, ObjectMeta.bare, Object.mk.injEq, ObjectMeta.mk.injEq]
  tauto

lemma Alike.fields (ho : Alike h o o') :
    o.metadata.name = o'.metadata.name ∧ o.metadata.namespace = o'.metadata.namespace ∧
    o.metadata.uid = o'.metadata.uid ∧
    o.metadata.resourceVersion = o'.metadata.resourceVersion := by
  have hrest := (alike_iff.mp ho).1
  simp only [ObjectMeta.bare, ObjectMeta.mk.injEq] at hrest
  tauto

lemma Alike.labels_none_iff (ho : Alike h o o') (k : String) :
    o.metadata.labels[k]? = none ↔ o'.metadata.labels[k]? = none := by
  have hlabels := congrArg (·[k]?) (alike_iff.mp ho).2.1
  cases hk : o.metadata.labels[k]? <;> cases hk' : o'.metadata.labels[k]? <;>
    simp [hk, hk'] at hlabels ⊢

lemma strip_eq_of_alike (ho : Alike h o o') : strip h o = strip h o' := by
  have hstrip : ∀ o : Object β, strip h (masked h o) = strip h o := by
    intro o
    cases h with
    | none =>
      have hmask : ∀ m : StringMap, mask none m = m := by
        intro m
        ext k v
        simp [hides]
      simp only [masked, hmask]
    | some _ => simp only [strip, masked, stripOwn, withoutHidden_mask]
  rw [← hstrip o, ← hstrip o', ho]

lemma Alike.restore {old old' : Object β} (ho : Alike h o o') (hold : Alike h old old') :
    Alike h (restore h o (some old)) (restore h o' (some old')) := by
  obtain ⟨hrest, hlabels, hannotations, htemplate, hbody⟩ := alike_iff.mp ho
  obtain ⟨-, hlabels', hannotations', -, -⟩ := alike_iff.mp hold
  cases h with
  | none => exact ho
  | some _ =>
    refine alike_iff.mpr ⟨hrest, ?_, ?_, htemplate, hbody⟩
    · simp only [HiddenMetadata.restore, Option.map_some, Option.getD_some, mask_restoreHidden,
        hlabels, hlabels']
    · simp only [HiddenMetadata.restore, Option.map_some, Option.getD_some, mask_restoreHidden,
        hannotations, hannotations']

end HiddenMetadata

end KubeZoo
