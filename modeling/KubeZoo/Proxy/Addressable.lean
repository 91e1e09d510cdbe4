import KubeZoo.Proxy.Create

/-! # The names of created namespaces -/

namespace KubeZoo

open Tag

variable {σ : Type}

def namespaceTransformer (c : Contract) : ObjectTransformer (Owned σ) where
  forward ns tid := namespaceForward c ns tid
  backward ns _ := .ok ns

/-- The name upstream stores an object under: the one it has, or its `generateName` with a suffix.
-/
def ObjectMeta.resolvedName (m : ObjectMeta) (suffix : String) : Option String :=
  if m.name ≠ "" then some m.name
  else if m.generateName ≠ "" then some (m.generateName ++ suffix)
  else none

/-- The proxy of namespaces. -/
structure ServesNamespaces (checkGroupKind : CheckGroupKind) (tp : TenantProxy (Owned σ)) :
    Prop where
  typed : tp.unstructured = false
  scope : tp.namespaceScoped = false
  convertor : tp.convertor = kindConvertor tp.contract checkGroupKind
    (namespaceTransformer tp.contract)

variable {tp : TenantProxy (Owned σ)} {checkGroupKind : CheckGroupKind}
  {g : Guards (Owned σ)} {pods : PodSteps (Owned σ)} {client : WriteClient (Owned σ)}
  {ctx : RequestContext} {tid : String} {obj : Object (Owned σ)} {options : WriteOptions}

lemma ServesNamespaces.sent (h : ServesNamespaces checkGroupKind tp) (hc : tp.contract.Dashes)
    (hpods : ∀ b, pods.isPod b = false) (htenant : ctx.tenantID = some tid)
    {sent : Sent (Owned σ)} (hsent : sent ∈ (tp.create g pods client ctx obj options).1) :
    sent.object.metadata.name = (if obj.metadata.name ≠ "" then
        tenantPrefix tid ++ obj.metadata.name else obj.metadata.name) ∧
      sent.object.metadata.generateName = (if obj.metadata.generateName ≠ "" then
        tenantPrefix tid ++ obj.metadata.generateName else obj.metadata.generateName) ∧
      tp.contract.namespaceNameForTenant tid obj.metadata.name = .ok () := by
  obtain ⟨tid', form, hprep⟩ := TenantProxy.sent_create hsent
  obtain ⟨htenant', up, hup, hmeta⟩ := TenantProxy.prepareCreate_typed h.typed hprep
  rw [htenant] at htenant'
  cases htenant'
  rw [TenantProxy.upstreamForm_of_notPod hpods, TenantProxy.convertTenantObjectToUpstreamObject,
    h.convertor, h.scope, kindConvertor_forward_ok] at hup
  obtain ⟨owners, -, hforward⟩ := hup
  have hname := namespaceForward_name hforward
  rw [hmeta, namespaceForward_ok hforward]
  simp only [forwardMetadata, Bool.false_eq_true, if_false, hc.add] at hname ⊢
  refine ⟨trivial, trivial, ?_⟩
  by_cases hempty : obj.metadata.name ≠ ""
  · rwa [if_pos hempty, hc.trim, trim_append] at hname
  · rw [if_neg hempty, hc.trim, not_not.mp hempty, trim_of_not (not_marked_empty (tenantPrefix_ne _))]
      at hname
    rw [not_not.mp hempty]
    exact hname

/-- The names `NamespaceNameForTenant` refuses are those with the tenant's prefix. -/
def Contract.RefusesOwnPrefix (c : Contract) : Prop :=
  ∀ tid name, c.namespaceNameForTenant tid name = .ok () ↔
    startsWith name (tenantPrefix tid) = false

lemma upstreamNamespace_trim_iff (c : Contract) (hc : c.Dashes) (tid : String) {name : String}
    (hname : name ≠ "") :
    c.upstreamNamespace tid (c.trimTenantIDPrefix tid (tenantPrefix tid ++ name)) =
        tenantPrefix tid ++ name ↔
      startsWith name (tenantPrefix tid) = false := by
  rw [hc.trim, trim_append, hc.upstream _ _ hname, eq_comm,
    append_eq_ensure_iff (tenantPrefix_ne tid), ← startsWith_iff, Bool.not_eq_true]

lemma startsWith_append_iff (tid name : String) {suffix : String} (hsuffix : '-' ∉ suffix.toList) :
    startsWith (name ++ suffix) (tenantPrefix tid) = false ↔
      startsWith name (tenantPrefix tid) = false := by
  have hlast : (tenantPrefix tid).toList.getLast? = some '-' := by
    rw [tenantPrefix, String.toList_append]
    exact List.getLast?_concat
  rw [← Bool.not_eq_true, ← Bool.not_eq_true, startsWith_iff, startsWith_iff,
    marked_append_iff_of_not_mem hlast hsuffix]

/-- A namespace is stored under the tenant's prefix, and the name its tenant sees leads back to it,
exactly if it was created by name, or by a `generateName` that makes no name with the prefix. -/
theorem created_namespace_addressable_iff (tp : TenantProxy (Owned σ))
    (checkGroupKind : CheckGroupKind) (htp : ServesNamespaces checkGroupKind tp)
    (hc : tp.contract.Dashes) (hrefuses : tp.contract.RefusesOwnPrefix) (g : Guards (Owned σ))
    (pods : PodSteps (Owned σ)) (hpods : ∀ b, pods.isPod b = false)
    (client : WriteClient (Owned σ)) (ctx : RequestContext) (tid : String)
    (htenant : ctx.tenantID = some tid) (obj : Object (Owned σ)) (options : WriteOptions)
    (sent : Sent (Owned σ)) (hsent : sent ∈ (tp.create g pods client ctx obj options).1)
    (suffix stored : String) (hstored : sent.object.metadata.resolvedName suffix = some stored) :
    startsWith stored (tenantPrefix tid) = true ∧
    (tp.contract.upstreamNamespace tid (tp.contract.trimTenantIDPrefix tid stored) = stored ↔
      obj.metadata.name ≠ "" ∨
        startsWith (obj.metadata.generateName ++ suffix) (tenantPrefix tid) = false) ∧
    ('-' ∉ suffix.toList →
      (tp.contract.upstreamNamespace tid (tp.contract.trimTenantIDPrefix tid stored) = stored ↔
        obj.metadata.name ≠ "" ∨
          startsWith obj.metadata.generateName (tenantPrefix tid) = false)) := by
  obtain ⟨hname, hgenerate, hallowed⟩ := htp.sent hc hpods htenant hsent
  -- Either way the stored name is the prefix before a name that is not empty.
  obtain ⟨name, hne, rfl, hshown⟩ : ∃ name, name ≠ "" ∧ stored = tenantPrefix tid ++ name ∧
      (startsWith name (tenantPrefix tid) = false ↔ obj.metadata.name ≠ "" ∨
        startsWith (obj.metadata.generateName ++ suffix) (tenantPrefix tid) = false) := by
    unfold ObjectMeta.resolvedName at hstored
    by_cases hempty : obj.metadata.name ≠ ""
    · rw [if_pos hempty] at hname
      rw [hname, if_pos (append_ne_empty (tenantPrefix_ne _) _)] at hstored
      refine ⟨obj.metadata.name, hempty, (Option.some.inj hstored).symm, ?_⟩
      exact iff_of_true ((hrefuses _ _).mp hallowed) (.inl hempty)
    · rw [if_neg hempty] at hname
      rw [hname] at hstored
      split_ifs at hstored with hsome
      rw [hgenerate] at hsome hstored
      have hgiven : obj.metadata.generateName ≠ "" := by
        intro hnone
        rw [if_neg (not_not.mpr hnone)] at hsome
        exact hsome hnone
      rw [if_pos hgiven, String.append_assoc] at hstored
      refine ⟨obj.metadata.generateName ++ suffix, ?_, (Option.some.inj hstored).symm, ?_⟩
      · exact append_ne_empty hgiven _
      · rw [or_iff_right hempty]
  have haddressed := upstreamNamespace_trim_iff tp.contract hc tid hne
  refine ⟨startsWith_iff.mpr (marked_append _ _), haddressed.trans hshown, fun hsuffix => ?_⟩
  rw [haddressed, hshown, startsWith_append_iff _ _ hsuffix]

section

private def ownerless : CheckGroupKind := fun _ _ _ _ => .ok (true, false)

private def namespaces : TenantProxy (Owned Unit) where
  kind := { version := "v1", kind := "Namespace" }
  resource := "namespaces"
  namespaceScoped := false
  contract := dashContract
  convertor := kindConvertor dashContract ownerless (namespaceTransformer dashContract)

private def requested (m : ObjectMeta) : Object (Owned Unit) := { metadata := m, body := ⟨[], ()⟩ }

private lemma refuses_dashContract : dashContract.RefusesOwnPrefix := by
  intro tid name
  simp only [dashContract, startsWith, tenantPrefix]
  split_ifs with h
  · rw [h]
    exact iff_of_false (by simp) (by simp)
  · rw [Bool.not_eq_true] at h
    exact iff_of_true rfl h

theorem created_namespace_addressable_web :
    ∃ sent ∈ (namespaces.create .permissive noPod echoClient webContext
        (requested { name := "web" }) {}).1,
      sent.object.metadata.resolvedName "abcde" = some "111111-web" ∧
      dashContract.upstreamNamespace "111111"
        (dashContract.trimTenantIDPrefix "111111" "111111-web") = "111111-web" := by
  obtain ⟨sent, hsent, hstored⟩ : ∃ sent ∈ (namespaces.create .permissive noPod echoClient webContext
      (requested { name := "web" }) {}).1,
      sent.object.metadata.resolvedName "abcde" = some "111111-web" := by
    decide +kernel
  have h := created_namespace_addressable_iff namespaces ownerless ⟨rfl, rfl, rfl⟩
    dashes_dashContract refuses_dashContract .permissive noPod (fun _ => rfl) echoClient webContext
    "111111" rfl (requested { name := "web" }) {} sent hsent "abcde" "111111-web" hstored
  exact ⟨sent, hsent, hstored, h.2.1.mpr (.inl (by decide))⟩

theorem generated_namespace_unreachable :
    ∃ sent ∈ (namespaces.create .permissive noPod echoClient webContext
        (requested { generateName := "111111-" }) {}).1,
      sent.object.metadata.resolvedName "abcde" = some "111111-111111-abcde" ∧
      dashContract.upstreamNamespace "111111"
        (dashContract.trimTenantIDPrefix "111111" "111111-111111-abcde") = "111111-abcde" := by
  decide +kernel

end

end KubeZoo
