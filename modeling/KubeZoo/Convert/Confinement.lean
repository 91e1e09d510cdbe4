import KubeZoo.Convert.RoleBinding

/-! # Whom the tenants bind -/

namespace KubeZoo

open Tag BindingKind

inductive Identity
  | user (name : String)
  | group (name : String)
deriving DecidableEq

def Subject.identity (bindingNamespace : String) (s : Subject) : Option Identity :=
  match SubjectKind.ofString s.kind with
  | .user => some (.user s.name)
  | .group => some (.group s.name)
  | .serviceAccount =>
    let ns := if s.namespace = "" then bindingNamespace else s.namespace
    if ns = "" then none else some (.user (makeUsername ns s.name))
  | .other => none

/-- The identity a subject names is within the names of the tenant. -/
def Subject.InSpace (tid : String) (s : Subject) : Prop :=
  match SubjectKind.ofString s.kind with
  | .user => Marked (tenantPrefix tid) s.name
  | .group =>
    if Marked serviceAccountGroupPrefix s.name then
      Marked (tenantPrefix tid) (Tag.trim serviceAccountGroupPrefix s.name)
    else Marked (tenantPrefix tid) s.name
  | .serviceAccount => s.namespace ≠ "" → Marked (tenantPrefix tid) s.namespace
  | .other => False

def Identity.InSpace (tid : String) : Identity → Prop
  | .user name => Marked (tenantPrefix tid) name ∨
      Marked (serviceAccountUsernamePrefix ++ tenantPrefix tid) name
  | .group name => Marked (tenantPrefix tid) name ∨
      Marked (serviceAccountGroupPrefix ++ tenantPrefix tid) name

section

variable {c : Contract} {tid : String}

lemma inSpace_transformSubjectToUpstream (hc : c.Dashes) (hid : tid.length = 6)
    {s s' : Subject} (hs : s.Named) (h : transformSubjectToUpstream c tid s = .ok s') :
    s'.InSpace tid := by
  obtain ⟨hname, hother⟩ := hs
  unfold transformSubjectToUpstream at h
  unfold Subject.InSpace
  cases hkind : SubjectKind.ofString s.kind with
  | user =>
    simp only [hkind, hname, ne_eq] at h
    rw [← Except.ok.inj h, hc.add]
    simp only [hkind]
    exact marked_append _ _
  | serviceAccount =>
    by_cases hns : s.namespace = ""
    · simp only [hkind, hns] at h
      rw [← Except.ok.inj h]
      simp [hkind, hns]
    · simp only [hkind, hns, ne_eq] at h
      rw [← Except.ok.inj h, hc.add]
      simp only [hkind]
      exact fun _ => marked_append _ _
  | group =>
    simp only [hkind] at h
    rw [← Except.ok.inj h]
    simp only [hkind]
    by_cases hgroup : ∃ ns, ns ≠ "" ∧ s.name = makeNamespaceGroupName ns
    · obtain ⟨ns, hns, hgroup⟩ := hgroup
      rw [hgroup, forwardGroupName_namespace hc hns, trim_makeNamespaceGroupName,
        if_pos (marked_makeNamespaceGroupName _)]
      exact marked_append _ _
    · rw [forwardGroupName_other hc hname hgroup, if_neg (not_group hid _)]
      exact marked_append _ _
  | other => exact absurd hkind hother

lemma inSpace_identity {s : Subject} {ns : String} {i : Identity} (hs : s.InSpace tid)
    (hns : ns ≠ "" → Marked (tenantPrefix tid) ns) (h : s.identity ns = some i) :
    i.InSpace tid := by
  unfold Subject.InSpace at hs
  unfold Subject.identity at h
  cases hkind : SubjectKind.ofString s.kind with
  | user =>
    simp only [hkind] at hs h
    rw [← Option.some.inj h]
    exact Or.inl hs
  | group =>
    simp only [hkind] at hs h
    rw [← Option.some.inj h]
    by_cases hgroup : Marked serviceAccountGroupPrefix s.name
    · rw [if_pos hgroup] at hs
      obtain ⟨rest, hrest⟩ := hs
      refine Or.inr ⟨rest, ?_⟩
      rw [String.append_assoc, ← hrest, append_trim hgroup]
    · rw [if_neg hgroup] at hs
      exact Or.inl hs
  | serviceAccount =>
    simp only [hkind] at hs h
    -- The namespace is the subject's own or the binding's; either is of the space.
    have hmarked : (if s.namespace = "" then ns else s.namespace) ≠ "" →
        Marked (tenantPrefix tid) (if s.namespace = "" then ns else s.namespace) := by
      by_cases hown : s.namespace = ""
      · rw [if_pos hown]
        exact hns
      · rw [if_neg hown]
        exact hs
    by_cases hempty : (if s.namespace = "" then ns else s.namespace) = ""
    · rw [if_pos hempty] at h
      cases h
    · rw [if_neg hempty] at h
      rw [← Option.some.inj h]
      obtain ⟨rest, hrest⟩ := hmarked hempty
      refine Or.inr ⟨rest ++ ":" ++ s.name, ?_⟩
      rw [makeUsername, hrest]
      simp only [String.append_assoc]
  | other =>
    simp only [hkind] at h
    cases h

lemma Identity.InSpace.unique {tid' : String} (hid : tid.length = 6)
    (hid' : tid'.length = 6) {i : Identity} (h : i.InSpace tid)
    (h' : i.InSpace tid') : tid = tid' := by
  have hlength : (tenantPrefix tid).length = (tenantPrefix tid').length := by
    simp only [tenantPrefix, String.length_append, hid, hid']
  have hids : tenantPrefix tid = tenantPrefix tid' → tid = tid' := (String.append_left_inj "-").mp
  -- A name with a prefix of the system's in front of a tenant's is not one with a tenant's.
  have hcases : ∀ (p name : String), (∀ s, Marked "system:" (p ++ s)) →
      Marked (tenantPrefix tid) name ∨ Marked (p ++ tenantPrefix tid) name →
      Marked (tenantPrefix tid') name ∨ Marked (p ++ tenantPrefix tid') name →
      tid = tid' := by
    intro p name hp hm hm'
    have hsystem : ∀ q, Marked (p ++ q) name → Marked "system:" name := by
      rintro q ⟨rest, hrest⟩
      rw [hrest, String.append_assoc]
      exact hp _
    rcases hm with hm | hm
    · rcases hm' with hm' | hm'
      · exact hids (hm.unique hm' hlength)
      · exact absurd hm (not_system hid (hsystem _ hm'))
    · rcases hm' with hm' | hm'
      · exact absurd hm' (not_system hid' (hsystem _ hm))
      · apply hids
        have := hm.unique hm' (by rw [String.length_append, String.length_append, hlength])
        exact (String.append_right_inj p).mp this
  cases i with
  | user name => exact hcases _ name marked_system_user h h'
  | group name => exact hcases _ name marked_system_group h h'

end

structure BindingKind.WellFormed (kind : BindingKind) (b : Object (Owned RoleBinding)) : Prop where
  subjects : ∀ s ∈ b.body.spec.subjects, s.Named
  inNamespace : kind.namespaceScoped = true → b.metadata.namespace ≠ ""

def BindingKind.bindingNamespace (kind : BindingKind) (b : Object (Owned RoleBinding)) : String :=
  if kind.namespaceScoped then b.metadata.namespace else ""

section

variable {c : Contract} {checkGroupKind : CheckGroupKind} {tid : String} {kind : BindingKind}
  {b up : Object (Owned RoleBinding)}

lemma inSpace_convertor (hc : c.Dashes) (hid : tid.length = 6) (hb : kind.WellFormed b)
    (hup : (kind.convertor c checkGroupKind).convertTenantObjectToUpstreamObject b tid
      kind.namespaceScoped = .ok up) :
    (∀ s ∈ up.body.spec.subjects, s.InSpace tid) ∧ (kind.bindingNamespace up ≠ "" →
        Marked (tenantPrefix tid) (kind.bindingNamespace up)) := by
  obtain ⟨called, trimName, heq, -⟩ := kind.transformer_eq hc
  unfold convertor at hup
  rw [heq] at hup
  obtain ⟨owners, -, hforward⟩ := kindConvertor_forward_ok.mp hup
  obtain ⟨subjects, hsubjects, rfl⟩ := bindingTransformer_forward_ok.mp hforward
  refine ⟨?_, ?_⟩
  · intro s' hs'
    obtain ⟨s, hs, hss'⟩ := Except.exists_mem_of_mapM hsubjects hs'
    exact inSpace_transformSubjectToUpstream hc hid (hb.subjects s hs) hss'
  · unfold bindingNamespace
    by_cases hscope : kind.namespaceScoped = true
    · intro _
      have hns := hb.inNamespace hscope
      simp only [hscope, forwardMetadata, hns, ne_eq]
      rw [hc.upstream tid _ hns]
      by_cases hmarked : Marked (tenantPrefix tid) b.metadata.namespace
      · rwa [ensure_of_marked hmarked]
      · rw [ensure_of_not hmarked]
        exact marked_append _ _
    · rw [if_neg hscope]
      exact fun h => absurd rfl h

end

/-- Whom two tenants bind: what a tenant's binding becomes has subjects of the tenant's space only,
the bindings of two tenants bind no identity in common, and a tenant reads back the subjects and the
role it wrote. -/
theorem bindings_confined {c : Contract} (hc : c.Dashes) (checkGroupKind : CheckGroupKind)
    {tid tid' : String} (hid : tid.length = 6) (hid' : tid'.length = 6)
    (hne : tid ≠ tid') (kind kind' : BindingKind) {b b' : Object (Owned RoleBinding)}
    (hb : kind.WellFormed b) (hb' : kind'.WellFormed b') :
    (∀ up, (kind.convertor c checkGroupKind).convertTenantObjectToUpstreamObject b tid
        kind.namespaceScoped = .ok up →
      (∀ s ∈ up.body.spec.subjects, s.InSpace tid) ∧
      ∀ up', (kind'.convertor c checkGroupKind).convertTenantObjectToUpstreamObject b' tid'
          kind'.namespaceScoped = .ok up' →
        ∀ s ∈ up.body.spec.subjects, ∀ s' ∈ up'.body.spec.subjects, ∀ i,
          s.identity (kind.bindingNamespace up) = some i →
          s'.identity (kind'.bindingNamespace up') ≠ some i) ∧
    ∃ up, (kind.transformer c).forward b tid = .ok up ∧
      ∃ back, (kind.transformer c).backward up tid = .ok back ∧
        back.body.spec.subjects = b.body.spec.subjects ∧
        back.body.spec.roleRef = b.body.spec.roleRef := by
  refine ⟨?_, ?_⟩
  · intro up hup
    obtain ⟨hspace, hns⟩ := inSpace_convertor hc hid hb hup
    refine ⟨hspace, ?_⟩
    intro up' hup' s hs s' hs' i hi hi'
    obtain ⟨hspace', hns'⟩ := inSpace_convertor hc hid' hb' hup'
    have hin := inSpace_identity (hspace s hs) hns hi
    have hin' := inSpace_identity (hspace' s' hs') hns' hi'
    exact hne (hin.unique hid hid' hin')
  · obtain ⟨up, hforward, hbackward⟩ := binding_faithful hc hid kind hb.subjects
    exact ⟨up, hforward, b, hbackward, rfl, rfl⟩

def everySubject (ns : String) : Object (Owned RoleBinding) where
  metadata := { name := "everyone", «namespace» := ns }
  body := { spec := {
    subjects := [{ kind := "User", name := "ann" },
      { kind := "ServiceAccount", name := "build", «namespace» := "ci" },
      { kind := "ServiceAccount", name := "here" },
      { kind := "Group", name := "system:serviceaccounts:ci" },
      { kind := "Group", name := "system:serviceaccounts:" },
      { kind := "Group", name := "system:authenticated" }]
    roleRef := { kind := "ClusterRole", name := "view" } } }

lemma wellFormed_everySubject (kind : BindingKind) : kind.WellFormed (everySubject "apps") where
  subjects s hs := by
    have hall : (everySubject "apps").body.spec.subjects.all
        (fun s => s.name ≠ "" && SubjectKind.ofString s.kind ≠ .other) = true := by decide
    have := List.all_eq_true.mp hall s hs
    rw [Bool.and_eq_true, decide_eq_true_eq, decide_eq_true_eq] at this
    exact this
  inNamespace _ := by decide

def namespacedKinds : CheckGroupKind := fun _ _ _ _ => .ok (true, false)

theorem bindings_confined_everySubject :
    ((roleBinding.convertor dashContract namespacedKinds).convertTenantObjectToUpstreamObject
      (everySubject "apps") "111111" true).toOption.isSome = true ∧
    (∀ up, (roleBinding.convertor dashContract
        namespacedKinds).convertTenantObjectToUpstreamObject (everySubject "apps") "111111" true =
          .ok up →
      (∀ s ∈ up.body.spec.subjects, s.InSpace "111111") ∧
      ∀ up', (clusterRoleBinding.convertor dashContract
          namespacedKinds).convertTenantObjectToUpstreamObject (everySubject "apps") "222222" false =
            .ok up' →
        ∀ s ∈ up.body.spec.subjects, ∀ s' ∈ up'.body.spec.subjects, ∀ i,
          s.identity (roleBinding.bindingNamespace up) = some i →
          s'.identity (clusterRoleBinding.bindingNamespace up') ≠ some i) ∧
    ∃ up, (roleBinding.transformer dashContract).forward (everySubject "apps") "111111" =
        .ok up ∧
      ∃ back, (roleBinding.transformer dashContract).backward up "111111" = .ok back ∧
        back.body.spec.subjects = (everySubject "apps").body.spec.subjects ∧
        back.body.spec.roleRef = (everySubject "apps").body.spec.roleRef :=
  ⟨by decide +kernel, bindings_confined dashes_dashContract namespacedKinds (by decide) (by decide)
    (by decide) .roleBinding .clusterRoleBinding (wellFormed_everySubject _)
    (wellFormed_everySubject _)⟩

end KubeZoo
