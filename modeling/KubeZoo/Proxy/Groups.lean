import KubeZoo.Convert.AccessReview
import KubeZoo.Convert.Role

/-! # The groups a tenant names -/

namespace KubeZoo

open Tag

/-- `strings.Replace(s, old, new, 1)`. -/
def replaceOnce (old new : List Char) : List Char → List Char
  | [] => if old = [] then new else []
  | ch :: s =>
    if old.isPrefixOf (ch :: s) then new ++ (ch :: s).drop old.length
    else ch :: replaceOnce old new s

def customResourceGroupOf (isNativeAPIGroup : String → Bool) (groupVersionPath : String) :
    Option String :=
  match groupVersionPath.toList.splitOn '/' with
  | [apis, group, _] =>
    if String.ofList apis ≠ "apis" then none
    else if isNativeAPIGroup (String.ofList group) then none
    else some (String.ofList group)
  | _ => none

/-- The path `serveOpenAPIV3Document` fetches from upstream; none if the gateway answers itself. -/
def openAPIV3Path (c : Contract) (isNativeAPIGroup : String → Bool)
    (tid groupVersionPath : String) : Option String :=
  (customResourceGroupOf isNativeAPIGroup groupVersionPath).map fun group =>
    String.ofList (replaceOnce group.toList (c.addTenantIDPrefix tid group).toList
      groupVersionPath.toList)

def groupVersionPath (group version : String) : String := "apis/" ++ group ++ "/" ++ version

lemma replaceOnce_append {old : List Char} (hold : old ≠ []) (new s : List Char) :
    replaceOnce old new (old ++ s) = new ++ s := by
  obtain ⟨ch, rest, rfl⟩ := List.exists_cons_of_ne_nil hold
  rw [List.cons_append, replaceOnce, if_pos, ← List.cons_append, List.drop_left]
  rw [List.isPrefixOf_iff_prefix]
  exact List.prefix_append _ _

lemma not_prefix_of_dot {old p s : List Char} (hdot : '.' ∈ old) (hslash : '/' ∉ old)
    (hp : '.' ∉ p) : ¬ old <+: p ++ '/' :: s := by
  intro h
  have hpart : p ++ ['/'] <+: p ++ '/' :: s := by
    rw [List.prefix_append_right_inj]
    exact ⟨s, rfl⟩
  rcases List.prefix_or_prefix_of_prefix h hpart with h' | h'
  · have := h'.subset hdot
    simp [hp] at this
  · exact hslash (h'.subset (by simp))

lemma replaceOnce_skip {old new : List Char} (hdot : '.' ∈ old) (hslash : '/' ∉ old)
    {p : List Char} (hp : '.' ∉ p) (s : List Char) :
    replaceOnce old new (p ++ '/' :: s) = p ++ '/' :: replaceOnce old new s := by
  induction p with
  | nil =>
    rw [List.nil_append, List.nil_append, replaceOnce, if_neg]
    rw [List.isPrefixOf_iff_prefix]
    exact not_prefix_of_dot hdot hslash (p := []) (by simp)
  | cons ch p ih =>
    rw [List.cons_append, List.cons_append, replaceOnce, if_neg,
      ih fun h => hp (List.mem_cons_of_mem ch h)]
    rw [List.isPrefixOf_iff_prefix]
    exact not_prefix_of_dot hdot hslash hp

def DottedGroup (group : String) : Prop := '.' ∈ group.toList ∧ '/' ∉ group.toList

section

variable {c : Contract} {isNativeAPIGroup : String → Bool} {tid group version : String}

lemma toList_groupVersionPath :
    (groupVersionPath group version).toList =
      "apis".toList ++ '/' :: (group.toList ++ '/' :: version.toList) := by
  simp [groupVersionPath]

lemma splitOn_groupVersionPath (hgroup : '/' ∉ group.toList) (hversion : '/' ∉ version.toList) :
    (groupVersionPath group version).toList.splitOn '/' =
      ["apis".toList, group.toList, version.toList] := by
  have hparts : ∀ l ∈ ["apis".toList, group.toList, version.toList], '/' ∉ l := by
    simp only [List.mem_cons, List.not_mem_nil, or_false]
    rintro l (rfl | rfl | rfl)
    · decide
    · exact hgroup
    · exact hversion
  have hjoin : (groupVersionPath group version).toList =
      ['/'].intercalate ["apis".toList, group.toList, version.toList] := by
    rw [toList_groupVersionPath]
    simp [List.intercalate]
  rw [hjoin]
  exact List.splitOn_intercalate _ hparts (by simp)

lemma customResourceGroupOf_groupVersionPath (hgroup : '/' ∉ group.toList)
    (hversion : '/' ∉ version.toList) :
    customResourceGroupOf isNativeAPIGroup (groupVersionPath group version) =
      if isNativeAPIGroup group then none else some group := by
  simp only [customResourceGroupOf, splitOn_groupVersionPath hgroup hversion]
  simp

lemma openAPIV3Path_groupVersionPath (hgroup : DottedGroup group)
    (hversion : '/' ∉ version.toList) (hnative : isNativeAPIGroup group = false) :
    openAPIV3Path c isNativeAPIGroup tid (groupVersionPath group version) =
      some (groupVersionPath (c.addTenantIDPrefix tid group) version) := by
  rw [openAPIV3Path, customResourceGroupOf_groupVersionPath hgroup.2 hversion, hnative]
  simp only [Bool.false_eq_true, if_false, Option.map_some, Option.some.injEq]
  apply String.toList_injective
  rw [String.toList_ofList, toList_groupVersionPath, toList_groupVersionPath,
    replaceOnce_skip hgroup.1 hgroup.2 (by decide), replaceOnce_append]
  intro hempty
  have := hgroup.1
  rw [hempty] at this
  cases this

end

/-- Tenants define neither native groups nor shared ones. -/
structure ServedGroups (c : Contract) (tid : String) (crds : List CustomResourceDefinition)
    (isNativeAPIGroup isSharedGroup : String → Bool) : Prop where
  own : ∀ crd ∈ crds, ∃ group, crd.group = c.addTenantIDPrefix tid group ∧
    isNativeAPIGroup group = false ∧ isSharedGroup group = false ∧ DottedGroup group
  shared : ∀ group, isSharedGroup group = true → group ≠ ""
  star : isNativeAPIGroup "*" = false

/-- Every place that meets the group converts it to `upstream`. -/
structure GroupAgrees (c : Contract) (tid : String) (crds : List CustomResourceDefinition)
    (isNativeAPIGroup isSharedGroup : String → Bool) (group upstream : String) : Prop where
  star : group = "*" → upstream = group
  request : group ≠ "*" → ∀ {β : Type} (tp : TenantProxy β), tp.contract = c →
    tp.kind.group = group → tp.isCustomResource = (!isNativeAPIGroup group) →
    tp.upstreamGroup (some isSharedGroup) tid = upstream
  role : ∀ rule : PolicyRule, rule.apiGroups = [group] →
    (transformRuleToUpstream c crds tid rule).apiGroups = [upstream]
  accessReview : ∀ review review' : AccessReview,
    review.resourceAttributes.map (·.group) = some group →
    forwardAccessReview c isNativeAPIGroup tid review = .ok review' →
    review'.resourceAttributes.map (·.group) = some upstream
  openAPI : group ≠ "*" → isNativeAPIGroup group = false → ∀ version, '/' ∉ version.toList →
    openAPIV3Path c isNativeAPIGroup tid (groupVersionPath group version) =
      some (groupVersionPath upstream version)

section

variable {c : Contract} {tid : String} {crds : List CustomResourceDefinition}
  {isNativeAPIGroup isSharedGroup : String → Bool} {group : String}

lemma ServedGroups.of_hasGroup (hc : c.Dashes)
    (hserved : ServedGroups c tid crds isNativeAPIGroup isSharedGroup)
    (h : hasGroup crds (c.addTenantIDPrefix tid group) = true) :
    isNativeAPIGroup group = false ∧ isSharedGroup group = false ∧ DottedGroup group := by
  simp only [hasGroup, List.any_eq_true, beq_iff_eq] at h
  obtain ⟨crd, hcrd, heq⟩ := h
  obtain ⟨group', hgroup', hrest⟩ := hserved.own crd hcrd
  rw [heq, hc.add, hc.add, String.append_right_inj] at hgroup'
  rw [hgroup']
  exact hrest

lemma forwardAccessReview_group {review review' : AccessReview}
    (hgroup : review.resourceAttributes.map (·.group) = some group)
    (h : forwardAccessReview c isNativeAPIGroup tid review = .ok review') :
    review'.resourceAttributes.map (·.group) = some
      (if group ≠ "" ∧ !isNativeAPIGroup group then c.addTenantIDPrefix tid group else group) := by
  rw [resourceAttributes_forwardAccessReview h]
  obtain ⟨attributes, hattributes, rfl⟩ := Option.map_eq_some_iff.mp hgroup
  rw [hattributes]
  rfl

lemma not_agrees (hc : c.Dashes) (hne : group ≠ "") (hnative : isNativeAPIGroup group = false)
    (hnone : hasGroup crds (c.addTenantIDPrefix tid group) = false) :
    ¬ ∃ upstream, GroupAgrees c tid crds isNativeAPIGroup isSharedGroup group upstream := by
  intro ⟨upstream, h⟩
  have hrole := h.role { apiGroups := [group] } rfl
  have hreview := h.accessReview (.selfSubjectAccessReview (some { group := group })) _ rfl rfl
  simp only [AccessReview.resourceAttributes, Option.map_some, forwardResourceAttributes, hne,
    hnative, ne_eq, Option.some.injEq] at hreview
  simp only [transformRuleToUpstream, List.map_cons, List.map_nil, forwardAPIGroup, hnone,
    List.cons.injEq, and_true] at hrole
  rw [hc.add, ← hrole] at hreview
  exact append_ne (tenantPrefix_ne tid) group hreview

lemma agrees_of_native (hnative : isNativeAPIGroup group = true)
    (hnone : hasGroup crds (c.addTenantIDPrefix tid group) = false) :
    GroupAgrees c tid crds isNativeAPIGroup isSharedGroup group group where
  star _ := rfl
  request _ := by
    intro β tp _ hkind hcustom
    rw [TenantProxy.upstreamGroup, hcustom, hnative, hkind]
    rfl
  role rule hrule := by
    simp [transformRuleToUpstream, hrule, forwardAPIGroup, hnone]
  accessReview review review' hgroup h := by
    rw [forwardAccessReview_group hgroup h, hnative]
    simp
  openAPI _ hnot := by
    rw [hnative] at hnot
    cases hnot

lemma agrees_of_own (hnative : isNativeAPIGroup group = false) (hshared : isSharedGroup group = false)
    (hdotted : DottedGroup group)
    (hown : hasGroup crds (c.addTenantIDPrefix tid group) = true) :
    GroupAgrees c tid crds isNativeAPIGroup isSharedGroup group
      (c.addTenantIDPrefix tid group) where
  star h := by
    have := hdotted.1
    rw [h] at this
    exact absurd this (by decide)
  request _ := by
    intro β tp hcontract hkind hcustom
    rw [TenantProxy.upstreamGroup, hcustom, hnative, hkind, hcontract]
    simp [hshared]
  role rule hrule := by
    simp [transformRuleToUpstream, hrule, forwardAPIGroup, hown]
  accessReview review review' hgroup h := by
    have hne : group ≠ "" := by
      intro hempty
      have := hdotted.1
      rw [hempty] at this
      exact absurd this (by decide)
    rw [forwardAccessReview_group hgroup h, if_pos ⟨hne, by rw [hnative]; rfl⟩]
  openAPI _ _ version hversion := openAPIV3Path_groupVersionPath hdotted hversion hnative

/-- Which of the groups a tenant can name the four places agree on: all but the star, and the shared
groups that are not native. -/
theorem groups_agree_iff (hc : c.Dashes)
    (hserved : ServedGroups c tid crds isNativeAPIGroup isSharedGroup)
    (hgroup : hasGroup crds (c.addTenantIDPrefix tid group) = true ∨
      isSharedGroup group = true ∨ isNativeAPIGroup group = true ∨ group = "*") :
    (∃ upstream, GroupAgrees c tid crds isNativeAPIGroup isSharedGroup group upstream) ↔
      group ≠ "*" ∧ (isSharedGroup group = true → isNativeAPIGroup group = true) := by
  by_cases hown : hasGroup crds (c.addTenantIDPrefix tid group) = true
  · obtain ⟨hnative, hshared, hdotted⟩ := hserved.of_hasGroup hc hown
    refine iff_of_true ⟨_, agrees_of_own hnative hshared hdotted hown⟩ ⟨?_, by simp [hshared]⟩
    rintro rfl
    exact absurd hdotted.1 (by decide)
  · rw [Bool.not_eq_true] at hown
    by_cases hnative : isNativeAPIGroup group = true
    · refine iff_of_true ⟨_, agrees_of_native hnative hown⟩ ⟨?_, fun _ => hnative⟩
      rintro rfl
      rw [hserved.star] at hnative
      cases hnative
    · -- What is left is the star and the shared groups.
      rw [Bool.not_eq_true] at hnative
      simp only [hown, hnative, Bool.false_eq_true, false_or] at hgroup
      refine iff_of_false (not_agrees hc ?_ hnative hown) ?_
      · rcases hgroup with hgroup | hgroup
        · exact hserved.shared group hgroup
        · rw [hgroup]
          decide
      · rw [hnative]
        rintro ⟨hstar, hshared⟩
        rcases hgroup with hgroup | hgroup
        · exact absurd (hshared hgroup) (by decide)
        · exact hstar hgroup

end

def exampleCRDs : List CustomResourceDefinition :=
  [{ name := "widgets.111111-example.com", group := "111111-example.com", plural := "widgets" }]

lemma servedGroups_exampleCRDs :
    ServedGroups dashContract "111111" exampleCRDs (fun g => g == "" || g == "apps")
      sharedCRDGroup where
  own crd hcrd := by
    rw [List.mem_singleton.mp hcrd]
    exact ⟨"example.com", by decide, by decide, by decide, by decide, by decide⟩
  shared group hgroup := by
    rintro rfl
    exact absurd hgroup (by decide)
  star := by decide

theorem groups_agree_example :
    ∃ upstream, GroupAgrees dashContract "111111" exampleCRDs (fun g => g == "" || g == "apps")
      sharedCRDGroup "example.com" upstream :=
  (groups_agree_iff dashes_dashContract servedGroups_exampleCRDs (Or.inl (by decide))).mpr
    ⟨by decide, by decide⟩

theorem groups_disagree_snapshots :
    (customResources (tenantCRD "volumesnapshots" "snapshot.storage.k8s.io")).upstreamGroup
        (some sharedCRDGroup) "111111" = "snapshot.storage.k8s.io" ∧
    forwardAPIGroup dashContract exampleCRDs "111111" "snapshot.storage.k8s.io" =
      "snapshot.storage.k8s.io" ∧
    (forwardResourceAttributes dashContract (fun g => g == "" || g == "apps")
        { group := "snapshot.storage.k8s.io" } "111111").group = "111111-snapshot.storage.k8s.io" ∧
    openAPIV3Path dashContract (fun g => g == "" || g == "apps") "111111"
        (groupVersionPath "snapshot.storage.k8s.io" "v1") =
      some (groupVersionPath "111111-snapshot.storage.k8s.io" "v1") := by
  refine ⟨by decide, by decide, by decide, by decide +kernel⟩

end KubeZoo
