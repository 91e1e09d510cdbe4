import KubeZoo.Convert.Default

/-! # Role bindings -/

namespace KubeZoo

open Tag Except

inductive SubjectKind
  | user
  | group
  | serviceAccount
  | other
deriving DecidableEq

/-- `rbac.UserKind`, `rbac.GroupKind` and `rbac.ServiceAccountKind`. -/
def SubjectKind.ofString (kind : String) : SubjectKind :=
  if kind = "User" then user
  else if kind = "Group" then group
  else if kind = "ServiceAccount" then serviceAccount
  else other

/-- What a `RoleBinding` or a `ClusterRoleBinding` holds. -/
@[ext]
structure RoleBinding where
  subjects : List Subject := []
  roleRef : RoleRef := {}
deriving DecidableEq

def serviceAccountGroupPrefix : String := "system:serviceaccounts:"

def makeNamespaceGroupName (ns : String) : String := serviceAccountGroupPrefix ++ ns

def serviceAccountUsernamePrefix : String := "system:serviceaccount:"

def makeUsername (ns name : String) : String :=
  serviceAccountUsernamePrefix ++ ns ++ ":" ++ name

def forwardGroupName (c : Contract) (tid name : String) : String :=
  if startsWith name serviceAccountGroupPrefix ∧ serviceAccountGroupPrefix.length < name.length then
    makeNamespaceGroupName (c.addTenantIDPrefix tid (Tag.trim serviceAccountGroupPrefix name))
  else if name ≠ "" then c.addTenantIDPrefix tid name
  else name

def transformSubjectToUpstream (c : Contract) (tid : String) (subject : Subject) :
    Except GoError Subject :=
  match SubjectKind.ofString subject.kind with
  | .user =>
    if subject.name ≠ "" then
      .ok { subject with name := c.addTenantIDPrefix tid subject.name }
    else .ok subject
  | .serviceAccount =>
    if subject.namespace ≠ "" then
      .ok { subject with «namespace» := c.addTenantIDPrefix tid subject.namespace }
    else .ok subject
  | .group => .ok { subject with name := forwardGroupName c tid subject.name }
  | .other => .ok subject

def invalidSubject (what value tid : String) : GoError :=
  .plain ("invalid subject " ++ what ++ " " ++ value ++ ", should have tenant id " ++ tid ++
    " as prefix")

def transformSubjectToTenant (c : Contract) (tid : String) (subject : Subject) :
    Except GoError Subject :=
  match SubjectKind.ofString subject.kind with
  | .user =>
    if !startsWith subject.name tid then
      .error (invalidSubject "name" subject.name tid)
    else .ok { subject with name := c.trimTenantIDPrefix tid subject.name }
  | .serviceAccount =>
    if subject.namespace = "" then .ok subject
    else if !startsWith subject.namespace tid then
      .error (invalidSubject "namespace" subject.namespace tid)
    else .ok { subject with «namespace» := c.trimTenantIDPrefix tid subject.namespace }
  | .group =>
    if startsWith subject.name serviceAccountGroupPrefix then
      let ns := Tag.trim serviceAccountGroupPrefix subject.name
      if !startsWith ns tid then .error (invalidSubject "name" subject.name tid)
      else .ok { subject with name := makeNamespaceGroupName (c.trimTenantIDPrefix tid ns) }
    else if startsWith subject.name tid then
      .ok { subject with name := c.trimTenantIDPrefix tid subject.name }
    else .ok subject
  | .other => .ok subject

def subjectView (c : Contract) (tid : String) : View GoError Subject Subject where
  read := transformSubjectToTenant c tid
  write := transformSubjectToUpstream c tid

def forwardRoleRef (c : Contract) (tid : String) (ref : RoleRef) : RoleRef :=
  if ref.kind = "ClusterRole" ∧ ref.name ≠ "" then
    { ref with name := c.addTenantIDPrefix tid ref.name }
  else ref

def backwardRoleRef (trimName : String → String → String) (tid : String) (ref : RoleRef) :
    RoleRef :=
  if ref.kind = "ClusterRole" then { ref with name := trimName ref.name tid } else ref

def bindingTransformer (c : Contract) (called : Object (Owned RoleBinding) → String)
    (trimName : String → String → String) : ObjectTransformer (Owned RoleBinding) where
  forward o tid := do
    let subjects ← (o.body.spec.subjects.mapM (transformSubjectToUpstream c tid)).mapError
      (withMessage ("failed to transform subjects to upstream for " ++ called o))
    return o.withSpec { subjects, roleRef := forwardRoleRef c tid o.body.spec.roleRef }
  backward o tid := do
    let subjects ← (o.body.spec.subjects.mapM (transformSubjectToTenant c tid)).mapError
      (withMessage ("failed to transform subjects to tenant for " ++ called o))
    return o.withSpec { subjects, roleRef := backwardRoleRef trimName tid o.body.spec.roleRef }

def roleBindingTransformer (c : Contract) : ObjectTransformer (Owned RoleBinding) :=
  bindingTransformer c (fun o => "roleBinding " ++ o.metadata.namespace ++ "/" ++ o.metadata.name)
    (fun name tid =>
      if startsWith name tid then c.trimTenantIDPrefix tid name else name)

def clusterRoleBindingTransformer (c : Contract) : ObjectTransformer (Owned RoleBinding) :=
  bindingTransformer c (fun o => "clusterRoleBinding " ++ o.metadata.name) (trimIfAttributable c)

inductive BindingKind
  | roleBinding
  | clusterRoleBinding
deriving DecidableEq

namespace BindingKind

def namespaceScoped : BindingKind → Bool
  | roleBinding => true
  | clusterRoleBinding => false

def transformer (c : Contract) : BindingKind → ObjectTransformer (Owned RoleBinding)
  | roleBinding => roleBindingTransformer c
  | clusterRoleBinding => clusterRoleBindingTransformer c

def convertor (c : Contract) (checkGroupKind : CheckGroupKind) (kind : BindingKind) :
    Convertor (Owned RoleBinding) :=
  kindConvertor c checkGroupKind (kind.transformer c)

end BindingKind

variable {c : Contract} {tid : String}

section

variable {called : Object (Owned RoleBinding) → String} {trimName : String → String → String}
  {o o' : Object (Owned RoleBinding)}

lemma bindingTransformer_forward_ok :
    (bindingTransformer c called trimName).forward o tid = .ok o' ↔
      ∃ subjects, o.body.spec.subjects.mapM (transformSubjectToUpstream c tid) = .ok subjects ∧
        o' = o.withSpec { subjects, roleRef := forwardRoleRef c tid o.body.spec.roleRef } := by
  simp only [bindingTransformer, bind_eq_ok_iff, mapError_eq_ok_iff, pure_eq_ok_iff]

lemma bindingTransformer_backward_ok :
    (bindingTransformer c called trimName).backward o tid = .ok o' ↔
      ∃ subjects, o.body.spec.subjects.mapM (transformSubjectToTenant c tid) = .ok subjects ∧
        o' = o.withSpec
          { subjects, roleRef := backwardRoleRef trimName tid o.body.spec.roleRef } := by
  simp only [bindingTransformer, bind_eq_ok_iff, mapError_eq_ok_iff, pure_eq_ok_iff]

lemma BindingKind.transformer_eq (hc : c.Dashes) (kind : BindingKind) :
    ∃ called trimName, kind.transformer c = bindingTransformer c called trimName ∧
      ∀ name tid, trimName name tid = Tag.trim (tenantPrefix tid) name := by
  cases kind with
  | roleBinding => exact ⟨_, _, rfl, fun name tid => hc.trim_of_startsWith name tid⟩
  | clusterRoleBinding => exact ⟨_, _, rfl, fun name tid => hc.trimIfAttributable name tid⟩

lemma namesNamespace_iff {name : String} :
    (startsWith name serviceAccountGroupPrefix = true ∧
        serviceAccountGroupPrefix.length < name.length) ↔
      ∃ ns, ns ≠ "" ∧ name = makeNamespaceGroupName ns := by
  rw [startsWith_iff]
  constructor
  · intro ⟨⟨ns, hname⟩, hlength⟩
    refine ⟨ns, ?_, hname⟩
    intro hns
    rw [hname, hns, String.append_empty] at hlength
    exact lt_irrefl _ hlength
  · intro ⟨ns, hns, hname⟩
    refine ⟨⟨ns, hname⟩, ?_⟩
    rw [hname, makeNamespaceGroupName, String.length_append]
    have : ns.length ≠ 0 := fun h => hns (String.length_eq_zero_iff.mp h)
    omega

@[simp] lemma trim_makeNamespaceGroupName (ns : String) :
    Tag.trim serviceAccountGroupPrefix (makeNamespaceGroupName ns) = ns := trim_append _ _

lemma marked_makeNamespaceGroupName (ns : String) :
    Marked serviceAccountGroupPrefix (makeNamespaceGroupName ns) := marked_append _ _

lemma forwardGroupName_namespace (hc : c.Dashes) {ns : String} (hns : ns ≠ "") :
    forwardGroupName c tid (makeNamespaceGroupName ns) =
      makeNamespaceGroupName (tenantPrefix tid ++ ns) := by
  rw [forwardGroupName, if_pos (namesNamespace_iff.mpr ⟨ns, hns, rfl⟩), hc.add,
    trim_makeNamespaceGroupName]

lemma forwardGroupName_other (hc : c.Dashes) {name : String} (hname : name ≠ "")
    (hother : ¬ ∃ ns, ns ≠ "" ∧ name = makeNamespaceGroupName ns) :
    forwardGroupName c tid name = tenantPrefix tid ++ name := by
  rw [forwardGroupName, if_neg (mt namesNamespace_iff.mp hother), if_pos hname, hc.add]

end

lemma not_system {s : String} (hid : tid.length = 6)
    (hsystem : Marked "system:" s) : ¬ Marked (tenantPrefix tid) s := by
  intro hmarked
  -- Both are seven characters, and the last one is not the same.
  have heq : tenantPrefix tid = "system:" := by
    apply hmarked.unique hsystem
    rw [tenantPrefix, String.length_append, hid]
    decide
  have hlist := congrArg String.toList heq
  rw [tenantPrefix, String.toList_append] at hlist
  have hsplit : "system:".toList = "system".toList ++ ":".toList := by decide
  rw [hsplit] at hlist
  exact absurd (List.append_inj' hlist (by decide)).2 (by decide)

lemma marked_system_group (s : String) : Marked "system:" (serviceAccountGroupPrefix ++ s) := by
  refine ⟨"serviceaccounts:" ++ s, ?_⟩
  rfl

lemma marked_system_user (s : String) : Marked "system:" (serviceAccountUsernamePrefix ++ s) := by
  refine ⟨"serviceaccount:" ++ s, ?_⟩
  rfl

lemma not_group (hid : tid.length = 6) (name : String) :
    ¬ Marked serviceAccountGroupPrefix (tenantPrefix tid ++ name) := by
  intro ⟨rest, hrest⟩
  have hsystem := marked_system_group rest
  rw [← hrest] at hsystem
  exact not_system hid hsystem (marked_append _ _)

section

lemma startsWith_append_tenantPrefix (tid s : String) :
    startsWith (tenantPrefix tid ++ s) tid = true := startsWith_of_marked (marked_append _ _)

def Subject.Named (s : Subject) : Prop := s.name ≠ "" ∧ SubjectKind.ofString s.kind ≠ .other

variable (hc : c.Dashes) (hid : tid.length = 6)

include hc

lemma backwardRoleRef_forwardRoleRef {trimName : String → String → String}
    (htrim : ∀ name tid, trimName name tid = Tag.trim (tenantPrefix tid) name) (ref : RoleRef) :
    backwardRoleRef trimName tid (forwardRoleRef c tid ref) = ref := by
  unfold forwardRoleRef
  by_cases hname : ref.kind = "ClusterRole" ∧ ref.name ≠ ""
  · rw [if_pos hname, backwardRoleRef, if_pos hname.1, htrim, hc.add, trim_append]
  · rw [if_neg hname, backwardRoleRef]
    by_cases hkind : ref.kind = "ClusterRole"
    · have hempty : ref.name = "" := by
        by_contra h
        exact hname ⟨hkind, h⟩
      rw [if_pos hkind, htrim, hempty, trim_of_not (not_marked_empty (tenantPrefix_ne tid)),
        ← hempty]
    · rw [if_neg hkind]

include hid

lemma group_faithful {s : Subject} (hname : s.name ≠ "")
    (hkind : SubjectKind.ofString s.kind = .group) :
    (subjectView c tid).Faithful s := by
  refine ⟨{ s with name := forwardGroupName c tid s.name }, ?_, ?_⟩
  · simp only [subjectView, transformSubjectToUpstream, hkind]
  simp only [subjectView, transformSubjectToTenant, hkind]
  by_cases hgroup : ∃ ns, ns ≠ "" ∧ s.name = makeNamespaceGroupName ns
  · obtain ⟨ns, hns, hgroup⟩ := hgroup
    have hstarts : startsWith (makeNamespaceGroupName (tenantPrefix tid ++ ns))
        serviceAccountGroupPrefix = true := startsWith_iff.mpr (marked_makeNamespaceGroupName _)
    rw [hgroup, forwardGroupName_namespace hc hns, if_pos hstarts, trim_makeNamespaceGroupName,
      startsWith_append_tenantPrefix, hc.trim, trim_append, ← hgroup]
    rfl
  · have hstarts : ¬ startsWith (tenantPrefix tid ++ s.name) serviceAccountGroupPrefix = true := by
      rw [startsWith_iff]
      exact not_group hid _
    rw [forwardGroupName_other hc hname hgroup, if_neg hstarts,
      if_pos (startsWith_append_tenantPrefix _ _), hc.trim, trim_append]

lemma subject_faithful {s : Subject} (hs : s.Named) :
    (subjectView c tid).Faithful s := by
  obtain ⟨hname, hother⟩ := hs
  cases hkind : SubjectKind.ofString s.kind with
  | user =>
    refine ⟨{ s with name := tenantPrefix tid ++ s.name }, ?_, ?_⟩
    · simp [subjectView, transformSubjectToUpstream, hkind, hname, hc.add]
    · simp [subjectView, transformSubjectToTenant, hkind, hc.trim, startsWith_append_tenantPrefix]
  | serviceAccount =>
    by_cases hns : s.namespace = ""
    · refine ⟨s, ?_, ?_⟩
      · simp [subjectView, transformSubjectToUpstream, hkind, hns]
      · simp [subjectView, transformSubjectToTenant, hkind, hns]
    · refine ⟨{ s with «namespace» := tenantPrefix tid ++ s.namespace }, ?_, ?_⟩
      · simp [subjectView, transformSubjectToUpstream, hkind, hns, hc.add]
      · simp [subjectView, transformSubjectToTenant, hkind, hc.trim, startsWith_append_tenantPrefix,
          tenantPrefix_ne]
  | group => exact group_faithful hc hid hname hkind
  | other => exact absurd hkind hother

lemma binding_faithful (kind : BindingKind) {b : Object (Owned RoleBinding)}
    (hb : ∀ s ∈ b.body.spec.subjects, s.Named) :
    ∃ up, (kind.transformer c).forward b tid = .ok up ∧
      (kind.transformer c).backward up tid = .ok b := by
  obtain ⟨called, trimName, heq, htrim⟩ := kind.transformer_eq hc
  obtain ⟨subjects, hwrite, hread⟩ :=
    View.mapM_faithful fun s hs => subject_faithful hc hid (hb s hs)
  rw [heq]
  refine ⟨_, bindingTransformer_forward_ok.mpr ⟨subjects, hwrite, rfl⟩,
    bindingTransformer_backward_ok.mpr ⟨_, hread, ?_⟩⟩
  rw [Object.spec_withSpec, backwardRoleRef_forwardRoleRef hc htrim]
  rfl

end

section

def bindingView (c : Contract) (trimName : String → String → String) (tid : String) :
    View GoError RoleBinding RoleBinding where
  read b := do
    let subjects ← b.subjects.mapM (subjectView c tid).read
    return { subjects, roleRef := backwardRoleRef trimName tid b.roleRef }
  write b := do
    let subjects ← b.subjects.mapM (subjectView c tid).write
    return { subjects, roleRef := forwardRoleRef c tid b.roleRef }

variable {name : String} {trimName : String → String → String} {s : Subject}

lemma bindingTransformer_converts {called : Object (Owned RoleBinding) → String} :
    (bindingTransformer c called trimName).Converts tid (bindingView c trimName tid) where
  forward o o' := by
    rw [bindingTransformer_forward_ok]
    simp only [bindingView, subjectView, bind_eq_ok_iff, pure_eq_ok_iff]
    simp
  backward o o' := by
    rw [bindingTransformer_backward_ok]
    simp only [bindingView, subjectView, bind_eq_ok_iff, pure_eq_ok_iff]
    simp

def GroupKept (tid name : String) : Prop :=
  name = "" ∨
  (∃ ns, ns ≠ "" ∧ name = makeNamespaceGroupName (tenantPrefix tid ++ ns)) ∨
  ∃ rest, rest ≠ "" ∧ name = tenantPrefix tid ++ rest ∧
    ¬ Marked serviceAccountGroupPrefix name ∧ ¬ ∃ ns, ns ≠ "" ∧ rest = makeNamespaceGroupName ns

def Subject.Kept (tid : String) (s : Subject) : Prop :=
  match SubjectKind.ofString s.kind with
  | .user => Tag.Kept (tenantPrefix tid) true true s.name
  | .serviceAccount => Tag.Kept (tenantPrefix tid) true true s.namespace
  | .group => GroupKept tid s.name
  | .other => True

def RoleRef.Kept (tid : String) (ref : RoleRef) : Prop :=
  ref.kind = "ClusterRole" → Tag.Kept (tenantPrefix tid) true true ref.name

lemma prefixes_ne (tid s : String) :
    tenantPrefix tid ++ serviceAccountGroupPrefix ++ s ≠
      serviceAccountGroupPrefix ++ tenantPrefix tid ++ s := by
  intro h
  have hlist := congrArg String.toList ((String.append_left_inj s).mp h)
  have hdash : (serviceAccountGroupPrefix ++ tenantPrefix tid).toList =
      (serviceAccountGroupPrefix ++ tid).toList ++ ['-'] := by
    rw [tenantPrefix, ← String.append_assoc, String.toList_append]
    rfl
  have hcolon : (tenantPrefix tid ++ serviceAccountGroupPrefix).toList =
      (tenantPrefix tid ++ "system:serviceaccounts").toList ++ [':'] := by
    rw [String.toList_append, String.toList_append, List.append_assoc]
    rfl
  rw [hdash, hcolon] at hlist
  exact absurd (List.append_inj' hlist rfl).2 (by decide)

def shownGroupName (tid name : String) : String :=
  if Marked serviceAccountGroupPrefix name then
    makeNamespaceGroupName (Tag.trim (tenantPrefix tid) (Tag.trim serviceAccountGroupPrefix name))
  else Tag.trim (tenantPrefix tid) name

lemma forwardGroupName_empty : forwardGroupName c tid "" = "" := by
  have hnot : ¬ ∃ ns, ns ≠ "" ∧ "" = makeNamespaceGroupName ns := by
    intro ⟨ns, _, h⟩
    exact append_ne_empty (by decide) ns h.symm
  rw [forwardGroupName, if_neg (mt namesNamespace_iff.mp hnot), if_neg (by simp)]

lemma Subject.name_eq_iff : ({ s with name := name } : Subject) = s ↔ name = s.name :=
  ⟨congrArg Subject.name, fun h => h ▸ rfl⟩

lemma Subject.namespace_eq_iff {ns : String} :
    ({ s with «namespace» := ns } : Subject) = s ↔ ns = s.namespace :=
  ⟨congrArg Subject.namespace, fun h => h ▸ rfl⟩

variable (hc : c.Dashes)

include hc

lemma forwardGroupName_prefix :
    forwardGroupName c tid serviceAccountGroupPrefix =
      tenantPrefix tid ++ serviceAccountGroupPrefix := by
  apply forwardGroupName_other hc (by decide)
  intro ⟨ns, hns, h⟩
  have : serviceAccountGroupPrefix ++ "" = serviceAccountGroupPrefix ++ ns := by
    rw [String.append_empty]
    exact h
  exact hns ((String.append_right_inj _).mp this).symm

lemma groupName_kept_of_marked {rest : String} :
    forwardGroupName c tid (shownGroupName tid (makeNamespaceGroupName rest)) =
        makeNamespaceGroupName rest ↔
      ∃ ns, ns ≠ "" ∧ rest = tenantPrefix tid ++ ns := by
  have htag := tenantPrefix_ne tid
  rw [shownGroupName, if_pos (marked_makeNamespaceGroupName rest), trim_makeNamespaceGroupName]
  by_cases hshown : Tag.trim (tenantPrefix tid) rest = ""
  · -- The namespace is gone, and the group is not one of a namespace any more.
    rw [hshown, makeNamespaceGroupName, String.append_empty, forwardGroupName_prefix hc]
    refine iff_of_false ?_ ?_
    · intro h
      by_cases hmarked : Marked (tenantPrefix tid) rest
      · have hrest := append_trim hmarked
        rw [hshown] at hrest
        apply prefixes_ne tid ""
        rw [String.append_empty, String.append_empty, h, ← hrest, String.append_empty]
        rfl
      · rw [trim_of_not hmarked] at hshown
        rw [hshown, makeNamespaceGroupName, String.append_empty] at h
        exact append_ne htag _ h
    · rintro ⟨ns, hns, rfl⟩
      rw [trim_append] at hshown
      exact hns hshown
  · rw [forwardGroupName_namespace hc hshown, makeNamespaceGroupName, makeNamespaceGroupName,
      String.append_right_inj]
    constructor
    · intro h
      exact ⟨_, hshown, h.symm⟩
    · rintro ⟨ns, hns, rfl⟩
      rw [trim_append]

lemma groupName_kept_of_not (hname : ¬ Marked serviceAccountGroupPrefix name) :
    forwardGroupName c tid (shownGroupName tid name) = name ↔
      name = "" ∨ ∃ rest, rest ≠ "" ∧ name = tenantPrefix tid ++ rest ∧
        ¬ ∃ ns, ns ≠ "" ∧ rest = makeNamespaceGroupName ns := by
  have htag := tenantPrefix_ne tid
  rw [shownGroupName, if_neg hname]
  by_cases hmarked : Marked (tenantPrefix tid) name
  · obtain ⟨rest, rfl⟩ := hmarked
    rw [trim_append]
    by_cases hrest : rest = ""
    · rw [hrest, forwardGroupName_empty, String.append_empty]
      refine iff_of_false htag.symm ?_
      rintro (h | ⟨rest, hne, h, -⟩)
      · exact htag h
      · exact hne ((String.append_right_inj _).mp (h.symm.trans String.append_empty.symm))
    · by_cases hgroup : ∃ ns, ns ≠ "" ∧ rest = makeNamespaceGroupName ns
      · obtain ⟨ns, hns, rfl⟩ := hgroup
        rw [forwardGroupName_namespace hc hns]
        refine iff_of_false ?_ ?_
        · intro h
          apply prefixes_ne tid ns
          rw [String.append_assoc, String.append_assoc]
          exact h.symm
        · rintro (h | ⟨rest, -, h, hnot⟩)
          · exact append_ne_empty htag _ h
          · rw [String.append_right_inj] at h
            exact hnot ⟨ns, hns, h.symm⟩
      · rw [forwardGroupName_other hc hrest hgroup]
        exact iff_of_true rfl (Or.inr ⟨rest, hrest, rfl, hgroup⟩)
  · rw [trim_of_not hmarked]
    by_cases hempty : name = ""
    · simp [hempty, forwardGroupName_empty]
    · have hgroup : ¬ ∃ ns, ns ≠ "" ∧ name = makeNamespaceGroupName ns := by
        intro ⟨ns, _, h⟩
        exact hname (h ▸ marked_makeNamespaceGroupName ns)
      rw [forwardGroupName_other hc hempty hgroup]
      refine iff_of_false (append_ne htag name) ?_
      rintro (h | ⟨rest, -, h, -⟩)
      · exact hempty h
      · exact hmarked ⟨rest, h⟩

lemma groupName_kept_iff :
    forwardGroupName c tid (shownGroupName tid name) = name ↔ GroupKept tid name := by
  unfold GroupKept
  by_cases hname : Marked serviceAccountGroupPrefix name
  · obtain ⟨rest, rfl⟩ := hname
    have hne : serviceAccountGroupPrefix ++ rest ≠ "" := append_ne_empty (by decide) rest
    refine (groupName_kept_of_marked hc).trans ?_
    simp only [hne, false_or, marked_append, not_true_eq_false, false_and, and_false, exists_false,
      or_false, makeNamespaceGroupName, String.append_right_inj]
  · rw [groupName_kept_of_not hc hname]
    have hnot : ¬ ∃ ns, ns ≠ "" ∧ name = makeNamespaceGroupName (tenantPrefix tid ++ ns) := by
      intro ⟨ns, _, h⟩
      exact hname (h ▸ marked_makeNamespaceGroupName _)
    simp only [hnot, false_or, hname, not_false_eq_true, true_and]

lemma transformSubjectToTenant_ok {shown : Subject}
    (h : transformSubjectToTenant c tid s = .ok shown) :
    shown =
      match SubjectKind.ofString s.kind with
      | .user => { s with name := Tag.trim (tenantPrefix tid) s.name }
      | .serviceAccount => { s with «namespace» := Tag.trim (tenantPrefix tid) s.namespace }
      | .group => { s with name := shownGroupName tid s.name }
      | .other => s := by
  unfold transformSubjectToTenant at h
  cases hkind : SubjectKind.ofString s.kind with
  | user =>
    simp only [hkind, hc.trim] at h ⊢
    split_ifs at h
    exact (Except.ok.inj h).symm
  | serviceAccount =>
    simp only [hkind, hc.trim] at h ⊢
    split_ifs at h with hns
    · rw [hns, trim_of_not (not_marked_empty (tenantPrefix_ne tid)), ← Except.ok.inj h, ← hns]
    · exact (Except.ok.inj h).symm
  | group =>
    have hother := hc.trim_of_startsWith s.name tid
    simp only [hkind, hc.trim] at h hother ⊢
    unfold shownGroupName
    simp only [startsWith_iff] at h hother
    by_cases hgroup : Marked serviceAccountGroupPrefix s.name
    · simp only [hgroup, if_true] at h ⊢
      split_ifs at h
      exact (Except.ok.inj h).symm
    · simp only [hgroup, if_false] at h ⊢
      rw [← hother]
      split_ifs at h ⊢
      · exact (Except.ok.inj h).symm
      · exact (Except.ok.inj h).symm
  | other =>
    simp only [hkind] at h ⊢
    exact (Except.ok.inj h).symm

lemma transformSubjectToUpstream_eq (s : Subject) :
    transformSubjectToUpstream c tid s = .ok (match SubjectKind.ofString s.kind with
      | .user => { s with name := rewrite (tenantPrefix tid) false true s.name }
      | .serviceAccount =>
        { s with «namespace» := rewrite (tenantPrefix tid) false true s.namespace }
      | .group => { s with name := forwardGroupName c tid s.name }
      | .other => s) := by
  unfold transformSubjectToUpstream
  cases hkind : SubjectKind.ofString s.kind with
  | user =>
    by_cases hname : s.name = ""
    · have hkept : rewrite (tenantPrefix tid) false true s.name = s.name := by
        simp [rewrite, hname]
      rw [if_neg (not_not.mpr hname)]
      exact congrArg Except.ok (Subject.name_eq_iff.mpr hkept).symm
    · simp [rewrite, hname, hc.add]
  | serviceAccount =>
    by_cases hns : s.namespace = ""
    · have hkept : rewrite (tenantPrefix tid) false true s.namespace = s.namespace := by
        simp [rewrite, hns]
      rw [if_neg (not_not.mpr hns)]
      exact congrArg Except.ok (Subject.namespace_eq_iff.mpr hkept).symm
    · simp [rewrite, hns, hc.add]
  | group => rfl
  | other => rfl

lemma subject_neutral_iff {shown : Subject} (hshown : (subjectView c tid).read s = .ok shown) :
    (subjectView c tid).Neutral id s ↔ s.Kept tid := by
  have htag := tenantPrefix_ne tid
  have hsent : (subjectView c tid).Neutral id s ↔ ∃ sent,
      (subjectView c tid).write shown = .ok sent ∧ sent = s := by
    rw [View.neutral_iff hshown]
    simp [subjectView, transformSubjectToUpstream_eq hc]
  rw [hsent, transformSubjectToTenant_ok hc hshown]
  unfold Subject.Kept
  cases hkind : SubjectKind.ofString s.kind with
  | user =>
    simp only [subjectView, transformSubjectToUpstream_eq hc, hkind, Except.ok.injEq,
      exists_eq_left', ← rewrite_eq_iff htag]
    exact Subject.name_eq_iff
  | serviceAccount =>
    simp only [subjectView, transformSubjectToUpstream_eq hc, hkind, Except.ok.injEq,
      exists_eq_left', ← rewrite_eq_iff htag]
    exact Subject.namespace_eq_iff
  | group =>
    simp only [subjectView, transformSubjectToUpstream_eq hc, hkind, Except.ok.injEq,
      exists_eq_left', ← groupName_kept_iff hc]
    exact Subject.name_eq_iff
  | other => simp [subjectView, transformSubjectToUpstream_eq hc, hkind]

variable (htrim : ∀ name tid, trimName name tid = Tag.trim (tenantPrefix tid) name)

include htrim

lemma roleRef_kept_iff (ref : RoleRef) :
    forwardRoleRef c tid (backwardRoleRef trimName tid ref) = ref ↔ ref.Kept tid := by
  unfold RoleRef.Kept
  by_cases hkind : ref.kind = "ClusterRole"
  · simp only [hkind, true_implies, ← rewrite_eq_iff (tenantPrefix_ne tid)]
    have hrewrite : forwardRoleRef c tid (backwardRoleRef trimName tid ref) =
        { ref with name := rewrite (tenantPrefix tid) true true ref.name } := by
      unfold forwardRoleRef backwardRoleRef rewrite
      by_cases hname : Tag.trim (tenantPrefix tid) ref.name = ""
      · simp [hkind, htrim, hname]
      · simp [hkind, htrim, hname, hc.add]
    rw [hrewrite]
    exact ⟨congrArg RoleRef.name, fun h => by rw [h]⟩
  · simp [forwardRoleRef, backwardRoleRef, hkind]

lemma binding_neutral_iff {b shown : RoleBinding}
    (hshown : (bindingView c trimName tid).read b = .ok shown) :
    (bindingView c trimName tid).Writable b ∧ ((bindingView c trimName tid).Neutral id b ↔
        (∀ s ∈ b.subjects, s.Kept tid) ∧ b.roleRef.Kept tid) := by
  rw [View.writable_iff hshown, View.neutral_iff hshown]
  obtain ⟨subjects, hsubjects, hb⟩ := bind_eq_ok_iff.mp hshown
  obtain rfl := Except.ok.inj hb
  obtain ⟨sent, hsent⟩ : ∃ sent, subjects.mapM (subjectView c tid).write = .ok sent := by
    rw [exists_mapM_eq_ok_iff]
    intro s _
    exact ⟨_, transformSubjectToUpstream_eq hc s⟩
  have hwrite : (bindingView c trimName tid).write
      { subjects, roleRef := backwardRoleRef trimName tid b.roleRef } =
      .ok ⟨sent, forwardRoleRef c tid (backwardRoleRef trimName tid b.roleRef)⟩ := by
    simp only [bindingView, hsent]
    rfl
  have hkept : (∀ s ∈ b.subjects, s.Kept tid) ↔ sent = b.subjects := by
    rw [View.write_eq_iff hsubjects hsent]
    refine forall₂_congr fun s hs => ?_
    obtain ⟨s', hs'⟩ := exists_mapM_eq_ok_iff.mp ⟨subjects, hsubjects⟩ s hs
    exact (subject_neutral_iff hc hs').symm
  rw [hkept, ← roleRef_kept_iff hc htrim]
  refine ⟨⟨_, hwrite⟩, ?_⟩
  rw [hwrite]
  constructor
  · intro h
    have heq := h _ rfl
    exact ⟨congrArg RoleBinding.subjects heq, congrArg RoleBinding.roleRef heq⟩
  · intro h a' ha'
    rw [← Except.ok.inj ha', h.1, h.2]

end

end KubeZoo
