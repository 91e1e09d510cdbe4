import KubeZoo.Convert.HiddenMeta

/-! # Hidden metadata, read and written back -/

namespace KubeZoo

namespace HiddenMetadata

variable {β : Type}

inductive MetaMap
  | labels
  | annotations
deriving DecidableEq

def MetaMap.name : MetaMap → String
  | .labels => "labels"
  | .annotations => "annotations"

inductive Place
  | own (map : MetaMap)
  | applied (map : MetaMap)
  | template (map : MetaMap)
  | templateApplied (map : MetaMap)
deriving DecidableEq

def appliedValue (annotations : StringMap) (map : MetaMap) (key : String) : Option Json.Value := do
  let raw ← annotations[lastAppliedKey]?
  match Json.parse raw.toList with
  | some (.object applied) =>
    if !Json.fieldsInRange applied then none
    else
      match Json.field applied "metadata" with
      | some (.object metadata) =>
        match Json.field metadata map.name with
        | some (.object m) => Json.field m key
        | _ => none
      | _ => none
  | _ => none

/-- The labels and the annotations `podTemplateOf` finds. -/
def templateMaps (o : Object β) : Option (StringMap × StringMap) :=
  match o.template with
  | .absent => none
  | .own => some (o.metadata.labels, o.metadata.annotations)
  | .nested labels annotations => some (labels, annotations)

def mapValue (labels annotations : StringMap) (map : MetaMap) (key : String) : Option Json.Value :=
  match map with
  | .labels => labels[key]?.map .string
  | .annotations => annotations[key]?.map .string

def valueAt (o : Object β) (place : Place) (key : String) : Option Json.Value :=
  match place with
  | .own map => mapValue o.metadata.labels o.metadata.annotations map key
  | .applied map => appliedValue o.metadata.annotations map key
  | .template map => (templateMaps o).bind fun m => mapValue m.1 m.2 map key
  | .templateApplied map => (templateMaps o).bind fun m => appliedValue m.2 map key

/-- A document without the hidden keys of its metadata. -/
def documentRest (h : Option HiddenMetadata) (raw : String) : Option (List Char) :=
  match Json.parse raw.toList with
  | some (.object applied) =>
    if !Json.fieldsInRange applied then none
    else
      match Json.field applied "metadata" with
      | some (.object metadata) =>
        let metadata := (stripField h metadata "annotations").1
        let metadata := (stripField h metadata "labels").1
        some (Json.marshal (.object (Json.setField applied "metadata" (.object metadata))))
      | _ => none
  | _ => none

def SameDocument (h : Option HiddenMetadata) (raw raw' : String) : Prop :=
  raw' = raw ∨ (documentRest h raw).isSome ∧ documentRest h raw' = documentRest h raw

structure AddsHiddenTo (h : Option HiddenMetadata) (l a l' a' : StringMap) : Prop where
  labels : ∀ k, hides h k = false → l'[k]? = l[k]?
  annotations : ∀ k, hides h k = false → k ≠ lastAppliedKey → a'[k]? = a[k]?
  applied : hides h lastAppliedKey = false →
    Option.Rel (SameDocument h) a[lastAppliedKey]? a'[lastAppliedKey]?

/-- The second object is the first with hidden keys added where `Strip` looks for them. -/
structure AddsHidden (h : Option HiddenMetadata) (y z : Object β) : Prop where
  rest : z.metadata.bare = y.metadata.bare
  body : z.body = y.body
  own : AddsHiddenTo h y.metadata.labels y.metadata.annotations
    z.metadata.labels z.metadata.annotations
  template :
    match y.template, z.template with
    | .absent, .absent => True
    | .own, .own => True
    | .nested labels annotations, .nested labels' annotations' =>
      AddsHiddenTo h labels annotations labels' annotations'
    | _, _ => False

variable {h : Option HiddenMetadata}

lemma addsHiddenTo_insert (l a : StringMap) {k : String} (hk : hides h k = true) (v : String) :
    AddsHiddenTo h l a (l.insert k v) a := by
  refine ⟨?_, fun _ _ _ => rfl, ?_⟩
  · intro k' hk'
    have hne : compare k k' ≠ .eq := by
      intro heq
      rw [Std.compare_eq_iff_eq.mp heq, hk'] at hk
      cases hk
    rw [Std.ExtTreeMap.getElem?_insert, if_neg hne]
  · intro _
    cases a[lastAppliedKey]? with
    | none => exact .none
    | some raw => exact .some (Or.inl rfl)

lemma AddsHidden.template_own_iff {x z : Object β} (hz : AddsHidden h (strip h x) z) :
    z.template = .own ↔ x.template = .own := by
  have hstrip : (strip h x).template = .own ↔ x.template = .own := by
    cases h with
    | none => exact Iff.rfl
    | some _ =>
      simp only [strip, stripPodTemplate]
      cases x.template <;> simp
  have htemplate := hz.template
  rw [← hstrip]
  revert htemplate
  cases (strip h x).template <;> cases z.template <;> simp

lemma appliedValue_congr {a b : StringMap} (hab : a[lastAppliedKey]? = b[lastAppliedKey]?)
    (map : MetaMap) (key : String) : appliedValue a map key = appliedValue b map key := by
  simp only [appliedValue, hab]

lemma valueAt_restore_own (x z : Object β) (map : MetaMap) {key : String}
    (hkey : hides h key = true) :
    valueAt (restore h z (some x)) (.own map) key = valueAt x (.own map) key := by
  cases h with
  | none => simp [hides] at hkey
  | some _ => cases map <;> simp [valueAt, mapValue, restore, hkey]

lemma valueAt_restore_applied (x z : Object β) (map : MetaMap) (key : String) :
    valueAt (restore h z (some x)) (.applied map) key =
      if hides h lastAppliedKey then valueAt x (.applied map) key
      else valueAt z (.applied map) key := by
  cases h with
  | none => rfl
  | some hm =>
    by_cases hlast : hides (some hm) lastAppliedKey = true
    · rw [if_pos hlast]
      exact appliedValue_congr (by simp [restore, hlast]) map key
    · rw [if_neg hlast]
      exact appliedValue_congr (by simp [restore, hlast]) map key

lemma template_restore (x z : Object β) : (restore h z (some x)).template = z.template := by
  cases h <;> rfl

lemma templateMaps_own {o : Object β} (ho : o.template = .own) :
    templateMaps o = some (o.metadata.labels, o.metadata.annotations) := by
  rw [templateMaps, ho]

lemma templateMaps_restore {x z : Object β} (hz : z.template ≠ .own) :
    templateMaps (restore h z (some x)) = templateMaps z := by
  rw [templateMaps, templateMaps, template_restore]
  revert hz
  cases z.template <;> simp

end HiddenMetadata

open HiddenMetadata

/-- After a read, a write and `Restore`, the object has under every hidden key what is stored, at
every place `Strip` hides keys, if and only if the tenant submitted what is stored at the places
`Restore` does not reach: in the last applied configuration, and in the template of a workload. -/
theorem restore_round_trip_iff {β : Type} (h : Option HiddenMetadata) (x z : Object β)
    (hz : AddsHidden h (strip h x) z) :
    (∀ place key, hides h key = true →
      valueAt (restore h z (some x)) place key = valueAt x place key) ↔
    (∀ map key, hides h key = true → hides h lastAppliedKey = false →
      valueAt z (.applied map) key = valueAt x (.applied map) key) ∧
    (x.template ≠ .own → ∀ map key, hides h key = true →
      valueAt z (.template map) key = valueAt x (.template map) key ∧
      valueAt z (.templateApplied map) key = valueAt x (.templateApplied map) key) := by
  have htemplate := hz.template_own_iff
  constructor
  · intro hall
    refine ⟨?_, ?_⟩
    · intro map key hkey hlast
      rw [← hall (.applied map) key hkey, valueAt_restore_applied, if_neg (by simp [hlast])]
    · intro hx map key hkey
      have hmaps := templateMaps_restore (h := h) (x := x) (mt htemplate.mp hx)
      refine ⟨?_, ?_⟩
      · rw [← hall (.template map) key hkey, valueAt, valueAt, hmaps]
      · rw [← hall (.templateApplied map) key hkey, valueAt, valueAt, hmaps]
  · intro hall place key hkey
    have happlied : ∀ map, valueAt (restore h z (some x)) (.applied map) key =
        valueAt x (.applied map) key := by
      intro map
      rw [valueAt_restore_applied]
      by_cases hlast : hides h lastAppliedKey = true
      · rw [if_pos hlast]
      · rw [if_neg hlast]
        exact hall.1 map key hkey (by simpa using hlast)
    by_cases hx : x.template = .own
    · -- The places of a pod's template are those of the pod itself.
      have hz' : (restore h z (some x)).template = .own :=
        (template_restore x z).trans (htemplate.mpr hx)
      cases place with
      | own map => exact valueAt_restore_own x z map hkey
      | applied map => exact happlied map
      | template map =>
        rw [valueAt, valueAt, templateMaps_own hx, templateMaps_own hz']
        exact valueAt_restore_own x z map hkey
      | templateApplied map =>
        rw [valueAt, valueAt, templateMaps_own hx, templateMaps_own hz']
        exact happlied map
    · have hmaps := templateMaps_restore (h := h) (x := x) (mt htemplate.mp hx)
      cases place with
      | own map => exact valueAt_restore_own x z map hkey
      | applied map => exact happlied map
      | template map =>
        rw [valueAt, hmaps]
        exact (hall.2 hx map key hkey).1
      | templateApplied map =>
        rw [valueAt, hmaps]
        exact (hall.2 hx map key hkey).2

def labelledWorkload (template : StringMap) : Object Unit :=
  { metadata := { name := "web", labels := (∅ : StringMap).insert "kubezoo.io/tenant" "111111" }
    template := .nested template ∅
    body := () }

theorem restore_round_trip_workload :
    hides (some platformHidden) "kubezoo.io/tenant" = true ∧
    ∀ place key, hides (some platformHidden) key = true → valueAt (restore (some platformHidden)
        { strip (some platformHidden) (labelledWorkload ∅) with
          metadata := { name := "web", labels := (∅ : StringMap).insert "kubezoo.io/tenant" "222222" } }
        (some (labelledWorkload ∅))) place key = valueAt (labelledWorkload ∅) place key := by
  have hstrip : strip (some platformHidden) (labelledWorkload ∅) =
      { labelledWorkload ∅ with metadata := { name := "web" } } := by
    decide +kernel
  refine ⟨by decide +kernel,
    (restore_round_trip_iff (some platformHidden) (labelledWorkload ∅) _ ?_).mpr ⟨?_, ?_⟩⟩
  · rw [hstrip]
    refine ⟨rfl, rfl, addsHiddenTo_insert _ _ (by decide +kernel) _, ?_⟩
    exact ⟨fun _ _ => rfl, fun _ _ _ => rfl, fun _ => .none⟩
  · intro map key _ _
    rfl
  · intro _ map key _
    exact ⟨rfl, rfl⟩

theorem restore_leaves_planted_template_label :
    let x := labelledWorkload ((∅ : StringMap).insert "kubezoo.io/tenant" "111111")
    let z := labelledWorkload ((∅ : StringMap).insert "kubezoo.io/tenant" "222222")
    AddsHidden (some platformHidden) (strip (some platformHidden) x) z ∧
    hides (some platformHidden) "kubezoo.io/tenant" = true ∧
    valueAt x (.template .labels) "kubezoo.io/tenant" = some (.string "111111") ∧
    valueAt (restore (some platformHidden) z (some x)) (.template .labels) "kubezoo.io/tenant" =
      some (.string "222222") := by
  have hstrip : strip (some platformHidden)
      (labelledWorkload ((∅ : StringMap).insert "kubezoo.io/tenant" "111111")) =
      { labelledWorkload ∅ with metadata := { name := "web" } } := by
    decide +kernel
  refine ⟨?_, by decide +kernel, ?_, ?_⟩
  · rw [hstrip]
    exact ⟨rfl, rfl, addsHiddenTo_insert _ _ (by decide +kernel) _,
      addsHiddenTo_insert _ _ (by decide +kernel) _⟩
  · simp [valueAt, templateMaps, mapValue, labelledWorkload]
  · simp [valueAt, templateMaps, mapValue, labelledWorkload, restore]

end KubeZoo
