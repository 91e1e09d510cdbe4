import KubeZoo.Convert.Confinement
import KubeZoo.Proxy.List

/-! # Listing role bindings -/

namespace KubeZoo

open Tag

def Subject.Attributable (tid : String) (s : Subject) : Prop :=
  match SubjectKind.ofString s.kind with
  | .user => startsWith s.name tid = true
  | .serviceAccount => s.namespace = "" ∨ startsWith s.namespace tid = true
  | .group => ∀ ns, s.name = makeNamespaceGroupName ns → startsWith ns tid = true
  | .other => True

section

variable {c : Contract} {tid : String}

lemma exists_transformSubjectToTenant_iff (s : Subject) :
    (∃ s', transformSubjectToTenant c tid s = .ok s') ↔ s.Attributable tid := by
  unfold transformSubjectToTenant Subject.Attributable
  cases hkind : SubjectKind.ofString s.kind with
  | user =>
    cases hstarts : startsWith s.name tid <;> simp
  | serviceAccount =>
    by_cases hns : s.namespace = ""
    · simp [hns]
    · cases hstarts : startsWith s.namespace tid <;> simp [hns]
  | group =>
    by_cases hgroup : Marked serviceAccountGroupPrefix s.name
    · obtain ⟨ns, hname⟩ := hgroup
      have hall : (∀ ns', s.name = makeNamespaceGroupName ns' → startsWith ns' tid = true) ↔
          startsWith ns tid = true := by
        simp [hname, makeNamespaceGroupName]
      have hstarts : startsWith s.name serviceAccountGroupPrefix = true :=
        startsWith_iff.mpr ⟨ns, hname⟩
      simp only [hall, hstarts]
      rw [hname, trim_append]
      cases startsWith ns tid <;> simp
    · have hnone : ∀ ns, s.name = makeNamespaceGroupName ns → startsWith ns tid = true := by
        intro ns h
        exact absurd ⟨ns, h⟩ hgroup
      have hstarts : ¬ startsWith s.name serviceAccountGroupPrefix = true := by
        rwa [startsWith_iff]
      refine iff_of_true ?_ hnone
      rw [if_neg hstarts]
      cases startsWith s.name tid <;> simp
  | other => simp

end

namespace TenantProxy

/-- The proxy of RoleBindings. -/
structure ServesRoleBindings (tp : TenantProxy (Owned RoleBinding))
    (checkGroupKind : CheckGroupKind) : Prop where
  convertor : tp.convertor = BindingKind.roleBinding.convertor tp.contract checkGroupKind
  namespaced : tp.namespaceScoped = true
  typed : tp.unstructured = false
  fromVersioned : ∀ o, tp.fromVersioned o = .ok o.body
  toVersioned : ∀ o, tp.toVersioned o = .ok o.body

section

variable {tp : TenantProxy (Owned RoleBinding)} {checkGroupKind : CheckGroupKind}
  {tid : String}

lemma exists_convertItem_iff (hserves : tp.ServesRoleBindings checkGroupKind)
    (ctx : RequestContext) {o : Object (Owned RoleBinding)}
    (howners : ∀ ref ∈ o.body.ownerReferences,
      ∃ namespaced custom, ref.Shown checkGroupKind tid namespaced custom) :
    (∃ shown, tp.convertItem ctx tid o = .ok shown) ↔
      ∀ s ∈ o.body.spec.subjects, s.Attributable tid := by
  -- The versioned forms are always there, so the convertor decides.
  have hitem : (∃ shown, tp.convertItem ctx tid o = .ok shown) ↔
      ∃ o', (BindingKind.roleBinding.convertor tp.contract
        checkGroupKind).convertUpstreamObjectToTenantObject o tid true = .ok o' := by
    simp only [convertItem, convertUnstructuredToOutput, convertUpstreamObjectToTenantObject,
      convertInternalObjectToUnstructuredObject, hserves.typed, hserves.fromVersioned,
      hserves.toVersioned, hserves.convertor, hserves.namespaced, Except.bind_eq_ok_iff]
    constructor
    · rintro ⟨_, _, ⟨rfl⟩, _, ⟨o', ho', _⟩, _⟩
      exact ⟨o', ho'⟩
    · intro ⟨o', ho'⟩
      exact ⟨_, _, rfl, _, ⟨o', ho', rfl⟩, rfl⟩
  have hsubjects : (∀ s ∈ o.body.spec.subjects, s.Attributable tid) ↔
      ∃ subjects, o.body.spec.subjects.mapM (transformSubjectToTenant tp.contract tid) =
        .ok subjects := by
    rw [Except.exists_mapM_eq_ok_iff]
    exact forall₂_congr fun s _ => (exists_transformSubjectToTenant_iff s).symm
  obtain ⟨owners, hread⟩ : ∃ owners, o.body.ownerReferences.mapM
      (ownerReferenceView tp.contract checkGroupKind tid).read = .ok owners := by
    rw [Except.exists_mapM_eq_ok_iff]
    intro ref href
    exact exists_ownerReferenceBackward_iff.mpr (howners ref href)
  rw [hitem, hsubjects]
  constructor
  · intro ⟨o', ho'⟩
    obtain ⟨_, _, spec, hspec, _⟩ := bindingTransformer_converts.backward_ok.mp ho'
    obtain ⟨subjects, hmap, _⟩ := Except.bind_eq_ok_iff.mp hspec
    exact ⟨subjects, hmap⟩
  · intro ⟨subjects, hmap⟩
    exact ⟨_, bindingTransformer_converts.backward_ok.mpr ⟨owners, hread, _,
      Except.bind_eq_ok_iff.mpr ⟨subjects, hmap, rfl⟩, rfl⟩⟩

/-- When the loop over the items of a list of bindings comes to its end: exactly if no binding has a
subject that cannot be attributed, whoever wrote it. -/
theorem list_shows_bindings_iff (hserves : tp.ServesRoleBindings checkGroupKind)
    (ctx : RequestContext) {list : UnstructuredList (Object (Owned RoleBinding))}
    (hnames : ∀ o ∈ list.items, tp.contract.isManagedBindingName o.metadata.name = false)
    (howners : ∀ o ∈ list.items, ∀ ref ∈ o.body.ownerReferences,
      ∃ namespaced custom, ref.Shown checkGroupKind tid namespaced custom) :
    (∃ items, (tp.hideProjections list).items.mapM (tp.convertItem ctx tid) = .ok items) ↔
      ∀ o ∈ list.items, ∀ s ∈ o.body.spec.subjects, s.Attributable tid := by
  have hall : (tp.hideProjections list).items = list.items := by
    unfold hideProjections
    split_ifs
    · rfl
    · exact List.filter_eq_self.mpr fun o ho => by rw [hnames o ho]; rfl
  rw [hall, Except.exists_mapM_eq_ok_iff]
  exact forall₂_congr fun o ho => exists_convertItem_iff hserves ctx (howners o ho)

end

end TenantProxy

def bindingStorage : TenantProxy (Owned RoleBinding) where
  kind := { group := "rbac.authorization.k8s.io", version := "v1", kind := "RoleBinding" }
  resource := "rolebindings"
  namespaceScoped := true
  hideProjected := true
  contract := dashContract
  convertor := BindingKind.roleBinding.convertor dashContract namespacedKinds

lemma serves_bindingStorage : bindingStorage.ServesRoleBindings namespacedKinds where
  convertor := rfl
  namespaced := rfl
  typed := rfl
  fromVersioned _ := rfl
  toVersioned _ := rfl

def listingApps : RequestContext where
  tenantID := some "111111"
  requestInfo := some { verb := "list", «namespace» := "apps" }

def storedBinding (name : String) (s : Subject) : Object (Owned RoleBinding) where
  metadata := { name := name, «namespace» := "111111-apps" }
  body := { spec := { subjects := [s], roleRef := { kind := "ClusterRole", name := "view" } } }

theorem list_shows_bindings_ownSubjects :
    ∃ items, (bindingStorage.hideProjections
      { items := [storedBinding "readers" { kind := "User", name := "111111-ann" }] }).items.mapM
        (bindingStorage.convertItem listingApps "111111") = .ok items := by
  refine (TenantProxy.list_shows_bindings_iff serves_bindingStorage listingApps ?_ ?_).mpr ?_
  · exact fun _ _ => rfl
  · intro o ho ref href
    rw [List.mem_singleton.mp ho] at href
    cases href
  · intro o ho s hs
    rw [List.mem_singleton.mp ho] at hs
    rw [List.mem_singleton.mp hs]
    show startsWith "111111-ann" "111111" = true
    decide

theorem list_fails_at_platformUser :
    (bindingStorage.hideProjections
      { items := [storedBinding "readers" { kind := "User", name := "111111-ann" },
        storedBinding "operators" { kind := "User", name := "operator" }] }).items.mapM
        (bindingStorage.convertItem listingApps "111111") =
      .error (.plain ("failed to transform subjects to tenant for roleBinding apps/operators: " ++
        "invalid subject name operator, should have tenant id 111111 as prefix")) := by
  have hend : ((bindingStorage.hideProjections
      { items := [storedBinding "readers" { kind := "User", name := "111111-ann" },
        storedBinding "operators" { kind := "User", name := "operator" }] }).items.mapM
        (bindingStorage.convertItem listingApps "111111")).observe (fun _ => .plain "") =
      .plain ("failed to transform subjects to tenant for roleBinding apps/operators: " ++
        "invalid subject name operator, should have tenant id 111111 as prefix") := by
    decide +kernel
  exact Except.eq_error_of_observe hend fun _ => by decide

end KubeZoo
