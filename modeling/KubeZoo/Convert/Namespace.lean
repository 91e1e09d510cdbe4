import KubeZoo.Lib.Rename
import KubeZoo.Proxy.Model

/-! # The namespace transformer -/

namespace KubeZoo

variable {β : Type} (c : Contract)

def namespaceLabels (tid : String) : StringMap :=
  ((∅ : StringMap).insert tenantNamespaceLabelKey tid
    |>.insert c.podSecurityEnforceLabelKey c.podSecurityLevel)
    |>.insert c.podSecurityEnforceVersionLabelKey c.podSecurityVersion

def pinPodSecurity (labels : StringMap) : StringMap :=
  (labels.insert c.podSecurityEnforceLabelKey c.podSecurityLevel).insert
    c.podSecurityEnforceVersionLabelKey c.podSecurityVersion

def labelProtected : GoError :=
  .plain ("namespace label " ++ tenantNamespaceLabelKey ++
    " is protected by kubezoo, can not be modified")

/-- `NamespaceTransformer.Forward`. -/
def namespaceForward (ns : Object β) (tid : String) : Except GoError (Object β) := do
  c.namespaceNameForTenant tid (c.trimTenantIDPrefix tid ns.metadata.name)
  if ns.metadata.labels[tenantNamespaceLabelKey]?.any (· != tid) then
    throw labelProtected
  else
    let labels := ns.metadata.labels.insert tenantNamespaceLabelKey tid
    return { ns with metadata := { ns.metadata with labels := pinPodSecurity c labels } }

variable {c}

variable {ns up : Object β} {tid : String}

lemma namespaceForward_ok (h : namespaceForward c ns tid = .ok up) :
    up = { ns with metadata := { ns.metadata with
      labels := pinPodSecurity c (ns.metadata.labels.insert tenantNamespaceLabelKey tid) } } := by
  rw [namespaceForward, Except.bind_eq_ok_iff] at h
  obtain ⟨_, -, h⟩ := h
  by_cases hlabel : ns.metadata.labels[tenantNamespaceLabelKey]?.any (· != tid)
  · rw [if_pos hlabel] at h
    cases h
  · rw [if_neg hlabel] at h
    exact (Except.ok.inj h).symm

lemma namespaceForward_name (h : namespaceForward c ns tid = .ok up) :
    c.namespaceNameForTenant tid (c.trimTenantIDPrefix tid ns.metadata.name) = .ok () := by
  rw [namespaceForward, Except.bind_eq_ok_iff] at h
  obtain ⟨_, hname, -⟩ := h
  exact hname

lemma getElem?_pinned (labels : StringMap) (tid k : String) :
    (pinPodSecurity c (labels.insert tenantNamespaceLabelKey tid))[k]? =
      (namespaceLabels c tid)[k]?.or labels[k]? := by
  simp only [pinPodSecurity, namespaceLabels, getElem?_insert_string]
  split_ifs <;> simp

end KubeZoo
