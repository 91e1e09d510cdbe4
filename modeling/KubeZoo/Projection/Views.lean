import KubeZoo.Lib.Selector
import KubeZoo.Projection.Model

/-! # A record and the ClusterRoleBinding it stands for -/

namespace KubeZoo

open Selector

/-- What is documented of `util.ProjectedBindingName` and of `util.TrimProjectedBindingName`. -/
structure Contract.ProjectsNames (c : Contract) : Prop where
  ne : ∀ name, c.projectedBindingName name ≠ ""
  trim : ∀ name, c.trimProjectedBindingName (c.projectedBindingName name) = name
  trim_empty : c.trimProjectedBindingName "" = ""

def BindingBody.Namespaced (b : BindingBody) : Prop :=
  ∀ s ∈ b.subjects, s.kind = "ServiceAccount" → s.namespace ≠ ""

structure Binding.Written (c : Contract) (crb : Binding) : Prop where
  named : crb.metadata.name ≠ "" ∨ crb.metadata.generateName ≠ ""
  cluster : crb.metadata.namespace = ""
  plain : crb.metadata.labels[c.projectedClusterRoleBindingLabelKey]? = none
  subjects : crb.body.Namespaced

/-- A record as the gateway writes them. -/
structure Binding.Recorded (c : Contract) (r : Binding) : Prop where
  named : ∃ name, name ≠ "" ∧ r.metadata.name = c.projectedBindingName name
  canonical : r.metadata.namespace = canonicalNamespace
  label : r.metadata.labels[c.projectedClusterRoleBindingLabelKey]? = some "true"
  subjects : r.body.Namespaced

variable {c : Contract} {b : Binding}

lemma erase_insert_of_none {m : StringMap} {k v : String} (h : m[k]? = none) :
    (m.insert k v).erase k = m := by
  refine Std.ExtTreeMap.ext_getElem? fun k' => ?_
  by_cases hk : k = k'
  · subst hk
    simp [h]
  · simp [Std.ExtTreeMap.getElem?_erase, Std.ExtTreeMap.getElem?_insert, hk]

lemma insert_erase_of_some {m : StringMap} {k v : String} (h : m[k]? = some v) :
    (m.erase k).insert k v = m := by
  refine Std.ExtTreeMap.ext_getElem? fun k' => ?_
  by_cases hk : k = k'
  · subst hk
    simp [h]
  · simp [Std.ExtTreeMap.getElem?_erase, Std.ExtTreeMap.getElem?_insert, hk]

lemma BindingBody.Namespaced.findIdx (h : b.body.Namespaced) :
    b.body.subjects.findIdx? (fun s => s.kind == "ServiceAccount" && s.namespace == "") = none := by
  rw [List.findIdx?_eq_none_iff]
  intro s hs
  have := h s hs
  grind

lemma asRoleBinding_written (h : b.body.Namespaced)
    (hnamed : b.metadata.name ≠ "" ∨ b.metadata.generateName ≠ "") :
    asRoleBinding c b = .ok { b with metadata := { b.metadata with
      name := if b.metadata.name ≠ "" then c.projectedBindingName b.metadata.name else ""
      generateName := if b.metadata.name ≠ "" then ""
        else c.projectedBindingName b.metadata.generateName
      «namespace» := canonicalNamespace
      labels := b.metadata.labels.insert c.projectedClusterRoleBindingLabelKey "true" } } := by
  unfold asRoleBinding
  rw [h.findIdx]
  by_cases hname : b.metadata.name = ""
  · have hgenerate : b.metadata.generateName ≠ "" := hnamed.resolve_left (not_not.mpr hname)
    simp only [hname, ne_eq, hgenerate]
    rfl
  · simp only [hname, ne_eq]
    rfl

/-- A ClusterRoleBinding comes back as it was written exactly if it has not both a name and a
`generateName`, and the update that changes nothing stores a record again exactly if upstream did not
generate its name. -/
theorem recordConversion_lossless_iff (hc : c.ProjectsNames) :
    (∀ crb : Binding, crb.Written c →
      ((asRoleBinding c crb).map (asClusterRoleBinding c) = .ok crb ↔
        crb.metadata.name = "" ∨ crb.metadata.generateName = "")) ∧
    ∀ r : Binding, r.Recorded c → ∀ preconditions,
      ((projectedUpdatedObject c ⟨preconditions, .ok⟩).updatedObject r = .ok r ↔
        r.metadata.generateName = "") := by
  constructor
  · intro crb h
    rw [asRoleBinding_written h.subjects h.named, Except.map]
    obtain ⟨⟨name, generateName, ns, uid, rv, labels, annotations⟩, template, body⟩ := crb
    obtain ⟨hnamed, rfl, hplain, -⟩ := h
    simp only [asClusterRoleBinding, erase_insert_of_none hplain]
    by_cases hname : name = ""
    · have hgenerate : generateName ≠ "" := hnamed.resolve_left (not_not.mpr hname)
      simp [hname, hc.trim, hc.trim_empty, hc.ne]
    · simp [hname, hc.trim]
  · intro r h preconditions
    obtain ⟨name, hname, hr⟩ := h.named
    have hview : (asClusterRoleBinding c r).metadata.name = name := by
      simp [asClusterRoleBinding, hr, hc.trim]
    show asRoleBinding c (asClusterRoleBinding c r) = _ ↔ _
    rw [asRoleBinding_written (b := asClusterRoleBinding c r) h.subjects (.inl (hview ▸ hname)),
      hview, if_pos hname, if_pos hname]
    obtain ⟨⟨rname, generateName, ns, uid, rv, labels, annotations⟩, template, body⟩ := r
    obtain ⟨-, rfl, hlabel, -⟩ := h
    simp [asClusterRoleBinding, ← hr, insert_erase_of_some hlabel]

theorem recordConversion_forgets_generateName :
    ∃ r r' : Binding, r.metadata.name = "kubezoo:clusterrolebinding:ops-x7k2p" ∧
      r.metadata.generateName = "kubezoo:clusterrolebinding:ops-" ∧
      (projectedUpdatedObject dashContract ⟨none, .ok⟩).updatedObject r = .ok r' ∧
      r' = { r with metadata := { r.metadata with generateName := "" } } :=
  ⟨{ metadata := { name := "kubezoo:clusterrolebinding:ops-x7k2p"
                   generateName := "kubezoo:clusterrolebinding:ops-"
                   «namespace» := canonicalNamespace
                   labels := Std.ExtTreeMap.ofList [("kubezoo.io/projected", "true")] }
     body := {} }, _, rfl, rfl, rfl, by decide +kernel⟩

lemma projectsNames_dashContract : dashContract.ProjectsNames where
  ne name h := absurd (congrArg String.toList h) (by simp [dashContract])
  trim name := by
    have hmarked : startsWith ("kubezoo:clusterrolebinding:" ++ name)
        "kubezoo:clusterrolebinding:" = true := by
      simp [startsWith, String.toList_append]
    refine (if_pos hmarked).trans ?_
    show String.ofList (List.drop 27 (String.toList ("kubezoo:clusterrolebinding:" ++ name))) = name
    rw [String.toList_append]
    exact String.ofList_toList
  trim_empty := rfl

theorem recordConversion_lossless_iff_named :
    ∃ crb : Binding, crb.Written dashContract ∧ crb.metadata.name = "kubezoo:clusterrolebinding:a" ∧
      (asRoleBinding dashContract crb).map (asClusterRoleBinding dashContract) = .ok crb :=
  have hwritten : Binding.Written dashContract
      { metadata := { name := "kubezoo:clusterrolebinding:a" }, body := {} } :=
    ⟨.inl (by decide), rfl, by decide +kernel, by simp [BindingBody.Namespaced]⟩
  ⟨_, hwritten, rfl, ((recordConversion_lossless_iff projectsNames_dashContract).1 _ hwritten).mpr
    (.inr rfl)⟩

/-- A term of a field selector: `field=value`, or `field!=value`. -/
structure FieldTerm where
  field : String
  value : String
  negated : Bool := false
deriving DecidableEq

def Binding.field (b : Binding) (field : String) : String :=
  if field = "metadata.name" then b.metadata.name
  else if field = "metadata.namespace" then b.metadata.namespace else ""

structure Selectors where
  labels : List (Requirement String String) := []
  fields : List FieldTerm := []

def Selectors.selects (s : Selectors) (b : Binding) : Bool :=
  decide (Matches s.labels fun key => b.metadata.labels[key]?) &&
    s.fields.all fun t => (b.field t.field == t.value) != t.negated

def FieldTerm.projected (c : Contract) (t : FieldTerm) : FieldTerm :=
  { t with value := if t.value ≠ "" then c.projectedBindingName t.value else t.value }

/-- The function `withProjectedSelector` has the terms transformed by. -/
def projectedTerm (c : Contract) (t : FieldTerm) : Except GoError FieldTerm :=
  if t.field = "metadata.name" then .ok (t.projected c)
  else if t.field = "metadata.namespace" then
    .error (.plain "metadata.namespace is not a field of a cluster-scoped clusterrolebinding")
  else .ok t

/-- `withProjectedSelector`, on selectors that are parsed. -/
def Selectors.withProjectedSelector (c : Contract) (s : Selectors) : Except GoError Selectors := do
  let fields ← (s.fields.mapM (projectedTerm c)).mapError fun e => .status (newBadRequest e.error)
  return { labels := .equals c.projectedClusterRoleBindingLabelKey "true" :: s.labels
           fields := fields }

def Binding.isRecord (c : Contract) (b : Binding) : Bool :=
  b.metadata.labels[c.projectedClusterRoleBindingLabelKey]? == some "true"

variable {s : Selectors}

lemma selects_labels (hs : Silent s.labels c.projectedClusterRoleBindingLabelKey) :
    Matches (.equals c.projectedClusterRoleBindingLabelKey "true" :: s.labels)
        (fun key => b.metadata.labels[key]?) ↔
      b.isRecord c = true ∧
        Matches s.labels fun key => (asClusterRoleBinding c b).metadata.labels[key]? := by
  have hsame : ∀ r ∈ s.labels,
      (asClusterRoleBinding c b).metadata.labels[r.key]? = b.metadata.labels[r.key]? := by
    intro r hr
    simp [asClusterRoleBinding, Std.ExtTreeMap.getElem?_erase, Ne.symm (hs r hr)]
  simp only [Matches, List.forall_mem_cons, Requirement.holds_equals, Binding.isRecord, beq_iff_eq]
  refine and_congr .rfl (forall₂_congr fun r hr => ?_)
  rw [hsame r hr]

/-- The name of the record is the projected value exactly if the name the tenant sees is the value.
No record has the empty name, which is not projected. -/
lemma field_projected (hc : c.ProjectsNames) {t : FieldTerm} (ht : t.field = "metadata.name")
    {name : String} (hname : name ≠ "") (hb : b.metadata.name = c.projectedBindingName name) :
    (b.field t.field == (t.projected c).value)
      = ((asClusterRoleBinding c b).field t.field == t.value) := by
  rw [Bool.eq_iff_iff, beq_iff_eq, beq_iff_eq]
  simp only [Binding.field, ht, if_true, FieldTerm.projected, asClusterRoleBinding, hb, hc.trim]
  by_cases hvalue : t.value = ""
  · simp [hvalue, hname, hc.ne]
  · rw [if_pos hvalue]
    exact ⟨fun h => by rw [← hc.trim name, h, hc.trim], fun h => by rw [h]⟩

/-- Of any RoleBindings, the projected selectors select the records of the ClusterRoleBindings the
client's selectors select, and nothing else. -/
theorem withProjectedSelector_exact (hc : c.ProjectsNames) (s : Selectors) (stored : List Binding)
    (hsilent : Silent s.labels c.projectedClusterRoleBindingLabelKey)
    (hstored : ∀ b ∈ stored, b.isRecord c = true →
      ∃ name, name ≠ "" ∧ b.metadata.name = c.projectedBindingName name) :
    ((∀ t ∈ s.fields, t.field = "metadata.name") → ∃ up, s.withProjectedSelector c = .ok up ∧
      stored.filter up.selects
        = stored.filter fun b => b.isRecord c && s.selects (asClusterRoleBinding c b)) ∧
    ((∃ t ∈ s.fields, t.field = "metadata.namespace") →
      ∃ message, s.withProjectedSelector c = .error (.status (newBadRequest message))) := by
  constructor
  · intro hfields
    have hmap : s.fields.mapM (projectedTerm c) = .ok (s.fields.map (FieldTerm.projected c)) := by
      rw [Except.mapM_eq_ok_iff, List.forall₂_map_right_iff, List.forall₂_same]
      exact fun t ht => if_pos (hfields t ht)
    refine ⟨_, by rw [Selectors.withProjectedSelector, hmap]; rfl, List.filter_congr fun b hb => ?_⟩
    cases hrecord : b.isRecord c with
    | false =>
      have hnot := mt (selects_labels (b := b) hsilent).mp (by simp [hrecord])
      simp only [Selectors.selects, decide_eq_false hnot, Bool.false_and]
    | true =>
      obtain ⟨name, hname, hb⟩ := hstored b hb hrecord
      have hall : (s.fields.map (FieldTerm.projected c)).all
          (fun t => (b.field t.field == t.value) != t.negated)
          = s.fields.all fun t => ((asClusterRoleBinding c b).field t.field == t.value) != t.negated := by
        rw [Bool.eq_iff_iff, List.all_eq_true, List.all_eq_true, List.forall_mem_map]
        refine forall₂_congr fun t ht => ?_
        rw [← field_projected hc (hfields t ht) hname hb]
        rfl
      simp only [Selectors.selects, hall, selects_labels hsilent, hrecord, true_and, Bool.true_and]
  · rintro ⟨t, ht, hns⟩
    cases hmap : s.fields.mapM (projectedTerm c) with
    | error e => exact ⟨e.error, by rw [Selectors.withProjectedSelector, hmap]; rfl⟩
    | ok fields =>
      obtain ⟨t', ht'⟩ := Except.exists_mapM_eq_ok_iff.mp ⟨fields, hmap⟩ t ht
      simp [projectedTerm, hns] at ht'

def keptRecord : Binding where
  metadata := { name := "kubezoo:clusterrolebinding:keep"
                labels := Std.ExtTreeMap.ofList [("kubezoo.io/projected", "true")] }
  body := {}

theorem withProjectedSelector_exact_spares :
    ∃ up, Selectors.withProjectedSelector dashContract
        { fields := [{ field := "metadata.name", value := "keep", negated := true }] } = .ok up ∧
      [keptRecord, { body := {} }].filter up.selects = [] := by
  obtain ⟨up, hup, hfilter⟩ := (withProjectedSelector_exact projectsNames_dashContract
    { fields := [{ field := "metadata.name", value := "keep", negated := true }] }
    [keptRecord, { body := {} }] (by simp [Silent]) (by
      intro b hb hrecord
      rcases List.mem_pair.mp hb with rfl | rfl
      · exact ⟨"keep", by decide, rfl⟩
      · exact absurd hrecord (by decide +kernel))).1 (by simp)
  refine ⟨up, hup, hfilter.trans ?_⟩
  decide +kernel

end KubeZoo
