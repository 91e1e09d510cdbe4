import KubeZoo.Proxy.Model

/-! # References -/

namespace KubeZoo

structure ObjectReference where
  apiVersion : String := ""
  kind : String := ""
  «namespace» : String := ""
  name : String := ""
deriving DecidableEq

structure OwnerReference where
  apiVersion : String := ""
  kind : String := ""
  name : String := ""
deriving DecidableEq

structure Subject where
  kind : String := ""
  apiGroup : String := ""
  name : String := ""
  «namespace» : String := ""
deriving DecidableEq

structure RoleRef where
  apiGroup : String := ""
  kind : String := ""
  name : String := ""
deriving DecidableEq

/-- The group of `schema.ParseGroupVersion`. -/
def parseGroup (apiVersion : String) : Except GoError String :=
  if apiVersion = "" ∨ apiVersion = "/" then .ok ""
  else
    match apiVersion.toList.count '/' with
    | 0 => .ok ""
    | 1 => .ok (((cut apiVersion '/').map Prod.fst).getD "")
    | _ => .error (.plain ("unexpected GroupVersion string: " ++ apiVersion))

/-- `util.CheckGroupKindFunc`: whether a kind is namespaced, and whether it is a custom one. -/
abbrev CheckGroupKind := String → String → String → Bool → Except GoError (Bool × Bool)

/-- `objectReferenceTransformer.Forward`. -/
def objectReferenceForward (c : Contract) (checkGroupKind : CheckGroupKind) (tid : String) :
    Option ObjectReference → Except GoError (Option ObjectReference)
  | none => .ok none
  | some ref => do
    let group ← parseGroup ref.apiVersion
    match checkGroupKind group ref.kind tid true with
    | .error _ =>
      if ref.namespace ≠ "" then
        return some { ref with «namespace» := c.upstreamNamespace tid ref.namespace }
      else if ref.name ≠ "" then
        return some { ref with name := c.addTenantIDPrefix tid ref.name }
      else return some ref
    | .ok (namespaced, customResourceGroup) =>
      let name := if !namespaced && ref.name != "" then c.addTenantIDPrefix tid ref.name
        else ref.name
      let ns := if namespaced && ref.namespace != "" then
        c.upstreamNamespace tid ref.namespace else ref.namespace
      let apiVersion := if customResourceGroup && ref.apiVersion != "" then
        c.addTenantIDPrefix tid ref.apiVersion else ref.apiVersion
      return some { ref with apiVersion := apiVersion, «namespace» := ns, name := name }

/-- `ownerReferenceTransformer.Forward`. -/
def ownerReferenceForward (c : Contract) (checkGroupKind : CheckGroupKind) (tid : String)
    (ref : OwnerReference) : Except GoError OwnerReference := do
  let group ← parseGroup ref.apiVersion
  let (namespaced, customResourceGroup) ← checkGroupKind group ref.kind tid true
  let name := if !namespaced && ref.name != "" then c.addTenantIDPrefix tid ref.name else ref.name
  let apiVersion := if customResourceGroup && ref.apiVersion != "" then
    c.addTenantIDPrefix tid ref.apiVersion else ref.apiVersion
  return { ref with apiVersion := apiVersion, name := name }

variable {c : Contract} {checkGroupKind : CheckGroupKind} {tid : String}

lemma objectReferenceForward_some {ref : ObjectReference} {r : Option ObjectReference}
    (h : objectReferenceForward c checkGroupKind tid (some ref) = .ok r) :
    ∃ ref', r = some ref' ∧ ref'.kind = ref.kind ∧ (ref.name = "" → ref'.name = "") ∧
      (ref'.namespace = ref.namespace ∨
        ref.namespace ≠ "" ∧ ref'.namespace = c.upstreamNamespace tid ref.namespace) := by
  simp only [objectReferenceForward, Except.bind_eq_ok_iff] at h
  obtain ⟨group, -, h⟩ := h
  cases hcheck : checkGroupKind group ref.kind tid true with
  | error e =>
    simp only [hcheck] at h
    by_cases hns : ref.namespace ≠ ""
    · rw [if_pos hns] at h
      exact ⟨_, (Except.ok.inj h).symm, rfl, id, Or.inr ⟨hns, rfl⟩⟩
    · rw [if_neg hns] at h
      by_cases hname : ref.name ≠ ""
      · rw [if_pos hname] at h
        exact ⟨_, (Except.ok.inj h).symm, rfl, fun h => absurd h hname, Or.inl rfl⟩
      · rw [if_neg hname] at h
        exact ⟨_, (Except.ok.inj h).symm, rfl, id, Or.inl rfl⟩
  | ok found =>
    simp only [hcheck] at h
    refine ⟨_, (Except.ok.inj h).symm, rfl, ?_, ?_⟩
    · intro hname
      simp [hname]
    · by_cases hns : (found.1 && ref.namespace != "") = true
      · rw [Bool.and_eq_true, bne_iff_ne] at hns
        exact Or.inr ⟨hns.2, by simp [hns]⟩
      · exact Or.inl (if_neg hns)

end KubeZoo
