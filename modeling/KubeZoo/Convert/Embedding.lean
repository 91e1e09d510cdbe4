import KubeZoo.Convert.Default

/-! # The tenant's form and the stored one -/

namespace KubeZoo

open Tag

variable {σ : Type} {c : Contract} {checkGroupKind : CheckGroupKind} {tid : String}

def OwnerReference.stored (tid : String) (ref : OwnerReference) (namespaced custom : Bool) :
    OwnerReference :=
  { ref with
    apiVersion := if custom && ref.apiVersion != "" then tenantPrefix tid ++ ref.apiVersion
      else ref.apiVersion
    name := if !namespaced && ref.name != "" then tenantPrefix tid ++ ref.name else ref.name }

def OwnerReference.Consistent (checkGroupKind : CheckGroupKind) (tid : String)
    (ref : OwnerReference) : Prop :=
  ∃ namespaced custom, ref.Sent checkGroupKind tid ref.apiVersion namespaced custom ∧
    (ref.stored tid namespaced custom).Shown checkGroupKind tid namespaced custom

lemma trim_rewritten (tag s : String) (adds : Bool) :
    (if adds then trim tag (if adds && s != "" then tag ++ s else s)
      else if adds && s != "" then tag ++ s else s) = s := by
  cases adds with
  | false => simp
  | true =>
    by_cases hs : s = ""
    · subst hs
      by_cases htag : tag = "" <;> simp [trim]
    · simp [hs]

lemma OwnerReference.Consistent.faithful {ref : OwnerReference} (hc : c.Dashes)
    (h : ref.Consistent checkGroupKind tid) :
    (ownerReferenceView c checkGroupKind tid).Faithful ref := by
  obtain ⟨namespaced, custom, hsent, hshown⟩ := h
  refine ⟨ref.stored tid namespaced custom,
    (ownerReferenceForward_ok hc).mpr ⟨namespaced, custom, hsent, rfl⟩,
    (ownerReferenceBackward_ok hc).mpr ⟨namespaced, custom, hshown, ?_⟩⟩
  have hversion := trim_rewritten (tenantPrefix tid) ref.apiVersion custom
  have hname := trim_rewritten (tenantPrefix tid) ref.name (!namespaced)
  simp only [OwnerReference.stored, OwnerReference.shownAPIVersion, hversion, hname]

lemma rewriteLastApplied_absent {annotations : StringMap} {isNamespaceScoped forward : Bool}
    (h : annotations[lastAppliedKey]? = none) :
    rewriteLastApplied c tid isNamespaceScoped forward annotations = annotations := by
  rw [rewriteLastApplied, h]

lemma backward_forwardMetadata (hc : c.Dashes) {m : ObjectMeta} (isNamespaceScoped : Bool)
    (hns : ¬ Marked (tenantPrefix tid) m.namespace)
    (happlied : m.annotations[lastAppliedKey]? = none) :
    backwardMetadata c tid isNamespaceScoped (forwardMetadata c tid isNamespaceScoped m) = m := by
  have hempty := trim_of_not (not_marked_empty (tenantPrefix_ne tid))
  have hname : ∀ name, trim (tenantPrefix tid)
      (if name ≠ "" then tenantPrefix tid ++ name else name) = name := by
    intro name
    split_ifs with h
    · rw [trim_append]
    · rw [not_not.mp h, hempty]
  cases isNamespaceScoped with
  | false =>
    simp only [backwardMetadata, forwardMetadata, Bool.false_eq_true, if_false,
      rewriteLastApplied_absent happlied, hc.trim, hc.add, hname]
  | true =>
    by_cases hnone : m.namespace = ""
    · simp only [backwardMetadata, forwardMetadata, if_true, hnone, ne_eq, not_true_eq_false, if_false,
        hc.trim, rewriteLastApplied_absent happlied, hempty]
      exact congrArg (fun ns => { m with «namespace» := ns }) hnone.symm
    · simp only [backwardMetadata, forwardMetadata, if_true, ne_eq, hnone, not_false_eq_true, hc.trim,
        hc.upstream tid _ hnone, ensure_of_not hns, rewriteLastApplied_absent happlied,
        trim_append]

def Convertor.rounds {β : Type} (d : Convertor β) (tid : String) (isNamespaceScoped : Bool) :
    ℕ → Object β → Except GoError (Object β)
  | 0, o => .ok o
  | n + 1, o => do
    let shown ← d.convertUpstreamObjectToTenantObject o tid isNamespaceScoped
    let o ← d.convertTenantObjectToUpstreamObject shown tid isNamespaceScoped
    rounds d tid isNamespaceScoped n o

lemma Convertor.rounds_of_embedded {β : Type} {d : Convertor β} {isNamespaceScoped : Bool}
    {x stored : Object β}
    (hforward : d.convertTenantObjectToUpstreamObject x tid isNamespaceScoped = .ok stored)
    (hbackward : d.convertUpstreamObjectToTenantObject stored tid isNamespaceScoped = .ok x)
    (n : ℕ) : d.rounds tid isNamespaceScoped n stored = .ok stored := by
  induction n with
  | zero => rfl
  | succ n ih =>
    rw [rounds, hbackward]
    show d.convertTenantObjectToUpstreamObject x tid isNamespaceScoped >>= _ = _
    rw [hforward]
    exact ih

/-- An object in the tenant's own spelling is read back as it was written, and stays as it is stored. -/
theorem default_conversion_embeds (hc : c.Dashes) (checkGroupKind : CheckGroupKind)
    (isNamespaceScoped : Bool) (x : Object (Owned σ))
    (hns : ¬ Marked (tenantPrefix tid) x.metadata.namespace)
    (happlied : x.metadata.annotations[lastAppliedKey]? = none)
    (howners : ∀ ref ∈ x.body.ownerReferences, ref.Consistent checkGroupKind tid) :
    ∃ stored, (defaultConvertor c checkGroupKind).convertTenantObjectToUpstreamObject x tid
        isNamespaceScoped = .ok stored ∧
      (defaultConvertor c checkGroupKind).convertUpstreamObjectToTenantObject stored tid
        isNamespaceScoped = .ok x ∧
      ∀ n, (defaultConvertor c checkGroupKind).rounds tid isNamespaceScoped n stored =
        .ok stored := by
  obtain ⟨owners, hwrite, hread⟩ := View.mapM_faithful fun ref href => (howners ref href).faithful hc
  let stored : Object (Owned σ) :=
    { x with
      metadata := forwardMetadata c tid isNamespaceScoped x.metadata
      body := { x.body with ownerReferences := owners } }
  have hforward : (defaultConvertor c checkGroupKind).convertTenantObjectToUpstreamObject x tid
      isNamespaceScoped = .ok stored := Except.bind_eq_ok_iff.mpr ⟨owners, hwrite, rfl⟩
  have hbackward : (defaultConvertor c checkGroupKind).convertUpstreamObjectToTenantObject stored
      tid isNamespaceScoped = .ok x := by
    refine Except.bind_eq_ok_iff.mpr ⟨x.body.ownerReferences, hread, ?_⟩
    simp only [stored, backward_forwardMetadata hc isNamespaceScoped hns happlied]
    rfl
  exact ⟨stored, hforward, hbackward, Convertor.rounds_of_embedded hforward hbackward⟩

private def widgetKinds : CheckGroupKind := fun group kind tid isTenantObject =>
  if kind = "Widget" ∧
      group = (if isTenantObject then "shop.example.com" else tid ++ "-shop.example.com") then
    .ok (false, true)
  else .error (.plain "no such kind")

private def ownedVolume : Object (Owned Unit) where
  metadata := { name := "111111-data" }
  body :=
    { ownerReferences := [{ apiVersion := "shop.example.com/v1", kind := "Widget", name := "w" }]
      spec := () }

theorem default_conversion_embeds_volume : ∃ stored,
    (defaultConvertor dashContract widgetKinds).convertTenantObjectToUpstreamObject ownedVolume
      "111111" false = .ok stored ∧
    (defaultConvertor dashContract widgetKinds).convertUpstreamObjectToTenantObject stored
      "111111" false = .ok ownedVolume ∧
    ∀ n, (defaultConvertor dashContract widgetKinds).rounds "111111" false n stored =
      .ok stored := by
  refine default_conversion_embeds dashes_dashContract widgetKinds false ownedVolume ?_
    (by decide +kernel) ?_
  · exact not_marked_empty (tenantPrefix_ne _)
  · rintro ref href
    rw [List.mem_singleton.mp href]
    exact ⟨false, true, ⟨"shop.example.com", by decide +kernel, by decide +kernel⟩,
      "111111-shop.example.com", by decide +kernel, by decide +kernel⟩

structure TenantProxy.NamesNamespace {β : Type} (tp : TenantProxy β) (tid : String) : Prop where
  isScoped : tp.namespaceScoped = true
  backward : ∀ o shown, tp.convertor.convertUpstreamObjectToTenantObject o tid true = .ok shown →
    shown.metadata.namespace = (backwardMetadata tp.contract tid true o.metadata).namespace
  forward : ∀ o up, tp.convertor.convertTenantObjectToUpstreamObject o tid true = .ok up →
    up.metadata.namespace = (forwardMetadata tp.contract tid true o.metadata).namespace
  view : ∀ o, (tp.showTenantClusterIP o).metadata.namespace = o.metadata.namespace

lemma TenantProxy.namesNamespace_default {tp : TenantProxy (Owned σ)}
    (hscoped : tp.namespaceScoped = true)
    (hconvertor : tp.convertor = defaultConvertor tp.contract checkGroupKind)
    (hview : ∀ o, (tp.showTenantClusterIP o).metadata.namespace = o.metadata.namespace) :
    tp.NamesNamespace tid where
  isScoped := hscoped
  backward := by
    rw [hconvertor]
    intro o shown h
    obtain ⟨owners, -, h⟩ := Except.bind_eq_ok_iff.mp h
    rw [← Except.ok.inj h]
  forward := by
    rw [hconvertor]
    intro o up h
    obtain ⟨owners, -, h⟩ := Except.bind_eq_ok_iff.mp h
    rw [← Except.ok.inj h]
  view := hview

namespace TenantProxy

variable {β : Type} {tp : TenantProxy β} {obj : Object β}

lemma namespace_applyTenantViews
    (hview : ∀ o, (tp.showTenantClusterIP o).metadata.namespace = o.metadata.namespace) :
    (tp.applyTenantViews obj).metadata.namespace = obj.metadata.namespace := by
  have hstrip : ∀ o : Object β,
      (HiddenMetadata.strip tp.hiddenMetadata o).metadata.namespace = o.metadata.namespace := by
    intro o
    unfold HiddenMetadata.strip HiddenMetadata.stripPodTemplate
    cases tp.hiddenMetadata with
    | none => rfl
    | some h => cases o.template <;> simp [HiddenMetadata.stripOwn]
  unfold applyTenantViews
  split_ifs
  · rfl
  · rw [hstrip, hview]

lemma namespace_echoRequestNamespace (tp : TenantProxy β) (obj : Object β)
    (tid requestNamespace : String) :
    (tp.echoRequestNamespace obj tid requestNamespace).metadata.namespace =
      if requestNamespace ≠ "" ∧ tp.contract.upstreamNamespace tid requestNamespace =
        tp.contract.upstreamNamespace tid obj.metadata.namespace then requestNamespace
      else obj.metadata.namespace := by
  unfold echoRequestNamespace
  simp only
  split_ifs <;> simp_all

end TenantProxy

/-- The answer to a request carries the namespace as the request names it, if that is the namespace the
object is stored in, and the tenant's name of it otherwise, which is then not what the request names; and
the answer is written back to where it came from. -/
theorem answer_echoes_namespace {β : Type} (tp : TenantProxy β) (tid : String) (hc : tp.contract.Dashes)
    (hnames : tp.NamesNamespace tid) (o shown : Object β) (r n : String) (hn : n ≠ "")
    (hown : ¬ Marked (tenantPrefix tid) n)
    (hstored : o.metadata.namespace = tenantPrefix tid ++ n)
    (hshown : tp.convertUpstreamObjectToTenantObject o tid r = .ok shown) :
    (if r ≠ "" ∧ tp.contract.upstreamNamespace tid r = o.metadata.namespace then
      shown.metadata.namespace = r
    else shown.metadata.namespace = n ∧ n ≠ r) ∧
    ∀ up, tp.convertTenantObjectToUpstreamObject shown tid = .ok up →
      up.metadata.namespace = o.metadata.namespace := by
  obtain ⟨obj, hobj, hecho⟩ := Except.bind_eq_ok_iff.mp hshown
  rw [hnames.isScoped] at hobj
  have hupstream : tp.contract.upstreamNamespace tid n = o.metadata.namespace := by
    rw [hc.upstream tid n hn, ensure_of_not hown, hstored]
  have hobjns : (tp.applyTenantViews obj).metadata.namespace = n := by
    rw [TenantProxy.namespace_applyTenantViews hnames.view, hnames.backward o obj hobj]
    simp only [backwardMetadata, if_true, hstored, hc.trim, trim_append]
  have hns : shown.metadata.namespace =
      if r ≠ "" ∧ tp.contract.upstreamNamespace tid r = o.metadata.namespace then r else n := by
    rw [← Except.ok.inj hecho, TenantProxy.namespace_echoRequestNamespace, hobjns, hupstream]
  -- Whichever name the answer carries, it is the same namespace upstream.
  have hback : shown.metadata.namespace ≠ "" ∧
      tp.contract.upstreamNamespace tid shown.metadata.namespace = o.metadata.namespace := by
    rw [hns]
    split_ifs with h
    · exact h
    · exact ⟨hn, hupstream⟩
  refine ⟨?_, ?_⟩
  · split_ifs with h
    · rw [hns, if_pos h]
    · refine ⟨by rw [hns, if_neg h], ?_⟩
      rintro rfl
      exact h ⟨hn, hupstream⟩
  · intro up hup
    rw [TenantProxy.convertTenantObjectToUpstreamObject, hnames.isScoped] at hup
    rw [hnames.forward _ up hup]
    simp only [forwardMetadata, if_true, ne_eq, hback.1, not_false_eq_true, hback.2]

private def plainSecrets : TenantProxy (Owned Unit) where
  kind := { version := "v1", kind := "Secret" }
  resource := "secrets"
  namespaceScoped := true
  contract := dashContract
  convertor := defaultConvertor dashContract widgetKinds

theorem answer_echoes_namespace_secret : ∃ shown, plainSecrets.convertUpstreamObjectToTenantObject
      { metadata := { name := "key", «namespace» := "111111-shop" }, body := { spec := () } }
      "111111" "111111-shop" = .ok shown ∧ shown.metadata.namespace = "111111-shop" :=
  ⟨_, rfl, by
    have hanswer := (answer_echoes_namespace plainSecrets "111111" dashes_dashContract
      (TenantProxy.namesNamespace_default rfl rfl fun _ => rfl)
      { metadata := { name := "key", «namespace» := "111111-shop" }, body := { spec := () } } _
      "111111-shop" "shop" (by decide) (by rw [← startsWith_iff]; decide +kernel)
      (by decide +kernel) rfl).1
    rwa [if_pos (by decide +kernel)] at hanswer⟩

end KubeZoo
