import KubeZoo.Convert.Namespace
import KubeZoo.Quota.Upstream

/-! # The quota of one namespace -/

namespace KubeZoo.Quota

open Calls ResourceQuota

variable {srv : Apiserver} {S S' : State} {Q : ClusterResourceQuota} {q : ResourceQuota}

def ResourceQuota.byCluster (q : ResourceQuota) : Bool :=
  q.controller.any (·.kind = clusterResourceQuotaKind)

/-- The controller of the quota is the cluster quota, of this uid. -/
def ResourceQuota.ControlledBy (q : ResourceQuota) (Q : ClusterResourceQuota) : Prop :=
  ∃ owner, q.controller = some owner ∧ owner.kind = clusterResourceQuotaKind ∧
    owner.name = Q.name ∧ owner.uid = Q.uid

/-- The quota carries the label of the cluster quota. -/
def Reconciler.Carries (r : Reconciler) (Q : ClusterResourceQuota) (q : ResourceQuota) : Prop :=
  q.labels[r.clusterResourceQuotaCreatedby]? = some Q.name

structure Leaves (S : State) (P : ResourceQuota → Prop) (S' : State) : Prop where
  clusterQuotas : S'.clusterQuotas = S.clusterQuotas
  namespaces : S'.namespaces = S.namespaces
  quotas : ∀ q, q ∈ S'.quotas ↔ P q

variable {a : ResourceQuota} {P P' : ResourceQuota → Prop}

lemma Leaves.trans {S₁ : State} (h : Leaves S P S₁) (h' : Leaves S₁ P' S') : Leaves S P' S' :=
  ⟨h'.clusterQuotas.trans h.clusterQuotas, h'.namespaces.trans h.namespaces, h'.quotas⟩

lemma Leaves.congr (h : Leaves S P S') (hP : ∀ q, P q ↔ P' q) : Leaves S P' S' :=
  ⟨h.clusterQuotas, h.namespaces, fun q => (h.quotas q).trans (hP q)⟩

lemma leaves_update (h : S.update q = (S', .ok a)) :
    ∃ old ∈ S.quotas, old.key = q.key ∧ a = q.updated old ∧
      Leaves S (fun c => c = q.updated old ∨ c ∈ S.quotas ∧ c.key ≠ q.key) S' := by
  obtain ⟨old, hold, hkey, ha, rfl⟩ := update_eq_ok h
  have hupdated : old.key = (q.updated old).key := hkey
  exact ⟨old, hold, hkey, ha, rfl, rfl, fun c => Table.mem_replace hold hupdated⟩

lemma leaves_delete {key : String × String} {a : Unit} (h : S.delete key = (S', .ok a)) :
    Leaves S (fun c => c ∈ S.quotas ∧ c.key ≠ key) S' := by
  obtain rfl := delete_eq_ok h
  exact ⟨rfl, rfl, fun c => Table.mem_erase⟩

lemma leaves_create (h : S.create srv q = (S', .ok a)) :
    a = S.created srv q ∧ Leaves S (fun c => c ∈ S.quotas ∨ c = a) S' := by
  obtain ⟨hfind, rfl, rfl⟩ := create_eq_ok h
  exact ⟨rfl, rfl, rfl, fun c => Table.mem_insert hfind⟩

namespace Reconciler

variable {r : Reconciler} {ns : String} {L : List ResourceQuota} {matched m : Option ResourceQuota}

lemma matchedQuota_of_byCluster (h : q.byCluster = true) :
    r.matchedQuota matched (q :: L) =
      if matched = none then r.matchedQuota (some q) L
      else (Call.deleteQuota q.key).attempt >>= fun _ => r.matchedQuota matched L := by
  rw [matchedQuota]
  unfold byCluster at h
  cases hq : q.controller with
  | none => simp [hq] at h
  | some owner => simp_all

lemma matchedQuota_of_not (h : q.byCluster = false) :
    r.matchedQuota matched (q :: L) =
      (Call.updateQuota (r.unlabelled q)).attempt >>= fun _ => r.matchedQuota matched L := by
  rw [matchedQuota]
  unfold byCluster at h
  cases hq : q.controller with
  | none => simp
  | some owner => simp_all

def stripped (r : Reconciler) (q : ResourceQuota) : ResourceQuota := (r.unlabelled q).updated q

lemma leaves_matchedQuota (h : Client.Succeeds (r.matchedQuota matched L) srv S S' m)
    (hL : ∀ p ∈ L, p ∈ S.quotas) (hkeys : (L.map key).Nodup)
    (hmatched : ∀ m₀, matched = some m₀ → ∀ p ∈ L, p.key ≠ m₀.key) :
    m = matched.or (L.find? byCluster) ∧
      Leaves S (fun q => (q ∈ S.quotas ∧ ∀ p ∈ L, p.key = q.key → m = some p) ∨
        ∃ p ∈ L, p.byCluster = false ∧ q = r.stripped p) S' := by
  induction L generalizing S matched with
  | nil =>
    obtain ⟨rfl, rfl⟩ := Fallible.succeeds_pure.mp h
    exact ⟨by simp, rfl, rfl, by simp⟩
  | cons p L ih =>
    obtain ⟨hp, hkeys⟩ := List.nodup_cons.mp hkeys
    have hne : ∀ p' ∈ L, p'.key ≠ p.key := fun p' hp' heq =>
      hp (List.mem_map.mpr ⟨p', hp', heq⟩)
    have hpS := hL p List.mem_cons_self
    have hLS : ∀ p' ∈ L, p' ∈ S.quotas := fun p' hp' => hL p' (List.mem_cons_of_mem p hp')
    have htail : ∀ m₀, matched = some m₀ → ∀ p' ∈ L, p'.key ≠ m₀.key := fun m₀ hm₀ p' hp' =>
      hmatched m₀ hm₀ p' (List.mem_cons_of_mem p hp')
    cases hby : p.byCluster with
    | false =>
      rw [matchedQuota_of_not hby] at h
      obtain ⟨S₁, _, hwrite, hrest⟩ := Fallible.succeeds_bind.mp h
      obtain ⟨a, hwrite⟩ := Client.Succeeds.of_attempt rfl hwrite
      obtain ⟨old, hold, hkey, -, hS₁⟩ := leaves_update hwrite
      have hsame : old = p := Table.eq_of_key hold hpS hkey
      rw [hsame] at hS₁
      obtain ⟨hm, hS'⟩ := ih hrest
        (fun p' hp' => (hS₁.quotas p').mpr (.inr ⟨hLS p' hp', hne p' hp'⟩)) hkeys htail
      rw [List.find?_cons_of_neg (by simp [hby])]
      have hmp : m ≠ some p := by
        rw [hm]
        intro hor
        obtain hor | ⟨-, hor⟩ := Option.or_eq_some_iff.mp hor
        · exact hmatched p hor p List.mem_cons_self rfl
        · rw [List.find?_some hor] at hby
          cases hby
      refine ⟨hm, (hS₁.trans hS').congr fun c => ?_⟩
      have hstripped : (r.stripped p).key = p.key := rfl
      have hc := hS₁.quotas c
      change c ∈ S₁.quotas ↔ c = r.stripped p ∨ c ∈ S.quotas ∧ c.key ≠ p.key at hc
      grind
    | true =>
      rw [matchedQuota_of_byCluster hby] at h
      split_ifs at h with hnone
      · subst hnone
        obtain ⟨hm, hS'⟩ := ih h hLS hkeys fun m₀ hm₀ p' hp' => by
          cases hm₀
          exact hne p' hp'
        refine ⟨by rw [hm, List.find?_cons_of_pos hby]; rfl, hS'.congr fun c => ?_⟩
        grind
      · obtain ⟨S₁, _, hwrite, hrest⟩ := Fallible.succeeds_bind.mp h
        obtain ⟨a, hwrite⟩ := Client.Succeeds.of_attempt rfl hwrite
        have hS₁ := leaves_delete hwrite
        obtain ⟨hm, hS'⟩ := ih hrest (fun p' hp' => (hS₁.quotas p').mpr ⟨hLS p' hp', hne p' hp'⟩)
          hkeys htail
        obtain ⟨m₀, rfl⟩ := Option.ne_none_iff_exists'.mp hnone
        refine ⟨by rw [hm]; rfl, (hS₁.trans hS').congr fun c => ?_⟩
        have hc := hS₁.quotas c
        grind

lemma stored_entries (l : ResourceList) : l.stored.entries = l.entries := by
  cases l with
  | none => rfl
  | some m =>
    show ResourceList.entries (if m.isEmpty then none else some m) = m
    split_ifs with hempty
    · exact (Std.ExtTreeMap.isEmpty_iff.mp hempty).symm
    · rfl

lemma equals_stored (spec : ResourceQuotaSpec) : spec.equals spec.stored = true := by
  simp [ResourceQuotaSpec.equals, ResourceQuotaSpec.stored, ResourceList.equals, stored_entries]

lemma carries_withLabels (labels : StringMap) :
    (r.withLabels Q labels)[r.clusterResourceQuotaCreatedby]? = some Q.name := by
  rw [withLabels, getElem?_insert_string, if_neg r.createdby_ne.symm, getElem?_insert_string,
    if_pos rfl]

lemma autoUpdate_withLabels (labels : StringMap) :
    (r.withLabels Q labels)[labelClusterResourceQuotaAutoUpdate]? = some "true" := by
  rw [withLabels, getElem?_insert_string, if_pos rfl]

lemma not_dirty_iff (hcarries : r.Carries Q q) :
    (specDirty Q q || r.labelsDirty Q q) = false ↔
      Q.spec.equals q.spec = true ∧ q.labels[labelClusterResourceQuotaAutoUpdate]? = some "true" := by
  have hlabel : (q.labels[labelClusterResourceQuotaAutoUpdate]?).getD "" = "true" ↔
      q.labels[labelClusterResourceQuotaAutoUpdate]? = some "true" := by
    cases q.labels[labelClusterResourceQuotaAutoUpdate]? with
    | none => simp
    | some v => simp
  unfold Carries at hcarries
  simp [specDirty, labelsDirty, hcarries, hlabel]

lemma not_dirty_of_equals (hcarries : r.Carries Q q) (h : q.equals (r.repaired Q q) = true) :
    (specDirty Q q || r.labelsDirty Q q) = false := by
  simp only [equals, Bool.and_eq_true] at h
  obtain ⟨⟨⟨⟨-, hlabels⟩, -⟩, hspec⟩, -⟩ := h
  have hlabels := of_decide_eq_true hlabels
  refine (not_dirty_iff hcarries).mpr ⟨?_, ?_⟩
  · simp only [ResourceQuotaSpec.equals, ResourceList.equals, Bool.and_eq_true,
      decide_eq_true_eq] at hspec ⊢
    exact ⟨⟨hspec.1.1.symm, hspec.1.2.symm⟩, hspec.2.symm⟩
  · rw [hlabels]
    exact autoUpdate_withLabels _

def keptOwner (Q : ClusterResourceQuota) (quotas : List ResourceQuota) : ControllerReference :=
  ((quotas.find? byCluster).bind controller).getD (newControllerRef Q)

structure Kept (r : Reconciler) (Q : ClusterResourceQuota) (ns : String)
    (owner : ControllerReference) (S : State) (row : ResourceQuota) : Prop where
  mem : row ∈ S.quotas
  «namespace» : row.namespace = ns
  carries : r.Carries Q row
  unique : ∀ q ∈ S.quotas, q.namespace = ns → r.Carries Q q → q = row
  autoUpdate : row.labels[labelClusterResourceQuotaAutoUpdate]? = some "true"
  spec : Q.spec.equals row.spec = true
  controller : row.controller = some owner

def SameIn (ns : String) (S S' : State) : Prop :=
  ∀ q : ResourceQuota, q.namespace = ns → (q ∈ S'.quotas ↔ q ∈ S.quotas)

lemma Kept.congr {owner : ControllerReference} {row : ResourceQuota}
    (h : r.Kept Q ns owner S row) (hsame : SameIn ns S S') : r.Kept Q ns owner S' row :=
  { h with
    mem := (hsame row h.namespace).mpr h.mem
    unique := fun q hq hns => h.unique q ((hsame q hns).mp hq) hns }

structure OnlyIn (P : String → Prop) (S S' : State) : Prop where
  clusterQuotas : S'.clusterQuotas = S.clusterQuotas
  namespaces : S'.namespaces = S.namespaces
  same : ∀ ns, ¬ P ns → SameIn ns S S'

lemma OnlyIn.refl (P : String → Prop) (S : State) : OnlyIn P S S :=
  ⟨rfl, rfl, fun _ _ _ _ => Iff.rfl⟩

lemma OnlyIn.trans {P : String → Prop} {S₁ : State} (h : OnlyIn P S S₁) (h' : OnlyIn P S₁ S') :
    OnlyIn P S S' :=
  ⟨h'.clusterQuotas.trans h.clusterQuotas, h'.namespaces.trans h.namespaces,
    fun ns hns q hq => (h'.same ns hns q hq).trans (h.same ns hns q hq)⟩

lemma OnlyIn.mono {P P' : String → Prop} (h : OnlyIn P S S') (hP : ∀ ns, P ns → P' ns) :
    OnlyIn P' S S' :=
  ⟨h.clusterQuotas, h.namespaces, fun ns hns => h.same ns fun hp => hns (hP ns hp)⟩

section

variable (hL : ∀ p, p ∈ L ↔ p ∈ S.quotas ∧ p.namespace = ns ∧ r.Carries Q p)
  (hkeys : (L.map key).Nodup)

include hL hkeys in
lemma carries_matchedQuota (h : Client.Succeeds (r.matchedQuota none L) srv S S' m) :
    m = L.find? byCluster ∧ OnlyIn (· = ns) S S' ∧
      ∀ q, q.namespace = ns → r.Carries Q q → (q ∈ S'.quotas ↔ m = some q) := by
  obtain ⟨hm, hS'⟩ := leaves_matchedQuota h (fun p hp => ((hL p).mp hp).1) hkeys
    fun m₀ hm₀ => by cases hm₀
  refine ⟨hm, ⟨hS'.clusterQuotas, hS'.namespaces, fun ns' hns' q hq => ?_⟩, fun q hns hq => ?_⟩
  · -- What the loop writes or deletes is in the namespace.
    have hns : ∀ p ∈ L, p.namespace ≠ q.namespace := fun p hp => by
      rw [((hL p).mp hp).2.1, hq]
      exact fun heq => hns' heq.symm
    rw [hS'.quotas]
    constructor
    · rintro (⟨hmem, -⟩ | ⟨p, hp, -, rfl⟩)
      · exact hmem
      · exact absurd rfl (hns p hp)
    · exact fun hmem => .inl ⟨hmem, fun p hp hkey => absurd (congrArg Prod.fst hkey) (hns p hp)⟩
  · rw [hS'.quotas]
    constructor
    · rintro (⟨hmem, hkept⟩ | ⟨p, -, -, rfl⟩)
      · exact hkept q ((hL q).mpr ⟨hmem, hns, hq⟩) rfl
      · exact absurd hq (by simp [Carries, stripped, unlabelled, updated])
    · intro hmq
      have hmem := ((hL q).mp (List.mem_of_find?_eq_some (hm.symm.trans hmq))).1
      refine .inl ⟨hmem, fun p hp hkey => ?_⟩
      rw [hmq, Table.eq_of_key ((hL p).mp hp).1 hmem hkey]

lemma keptOwner_of_find (h : L.find? byCluster = some q) :
    q.controller = some (keptOwner Q L) := by
  have hby := List.find?_some h
  unfold keptOwner
  rw [h, Option.bind_some]
  cases hq : q.controller with
  | none => simp [byCluster, hq] at hby
  | some owner => rfl

include hL hkeys in
lemma kept_ensure {quota : ResourceQuota}
    (h : Client.Succeeds (r.ensureResourceQuotaInNamespace Q ns L) srv S S' quota) :
    OnlyIn (· = ns) S S' ∧
      ∃ row, r.Kept Q ns (keptOwner Q L) S' row ∧ row.status = quota.status := by
  obtain ⟨S₁, m, hloop, h⟩ := Fallible.succeeds_bind.mp h
  obtain ⟨hm, hS₁, hcarries⟩ := carries_matchedQuota hL hkeys hloop
  cases m with
  | none =>
    -- A quota is created.
    obtain ⟨ha, hS'⟩ := leaves_create (Client.Succeeds.of_send (c := .createQuota _) h)
    have hns : quota.namespace = ns := by rw [ha]; rfl
    refine ⟨hS₁.trans ⟨hS'.clusterQuotas, hS'.namespaces, fun ns' hns' q hq => ?_⟩, quota, ?_, rfl⟩
    · rw [hS'.quotas]
      exact or_iff_left fun heq => hns' (by rw [← hq, heq, hns])
    · refine ⟨(hS'.quotas _).mpr (.inr rfl), hns, ?_, fun q hq hqns hqcarries => ?_, ?_, ?_, ?_⟩
      · rw [ha]
        exact carries_withLabels ∅
      · obtain hq | rfl := (hS'.quotas q).mp hq
        · cases (hcarries q hqns hqcarries).mp hq
        · rfl
      · rw [ha]
        exact autoUpdate_withLabels ∅
      · rw [ha]
        exact equals_stored Q.spec
      · rw [ha]
        unfold keptOwner
        rw [← hm]
        rfl
  | some row =>
    obtain ⟨-, hns, hrow⟩ := (hL row).mp (List.mem_of_find?_eq_some hm.symm)
    have hmem := (hcarries row hns hrow).mpr rfl
    have howner := keptOwner_of_find (Q := Q) hm.symm
    have hunique : ∀ q ∈ S₁.quotas, q.namespace = ns → r.Carries Q q → q = row :=
      fun q hq hqns hqcarries => (Option.some.inj ((hcarries q hqns hqcarries).mp hq)).symm
    change Client.Succeeds (if (specDirty Q row || r.labelsDirty Q row) = true then
      objectUpdater.updateOnConflict (r.repaired Q) row else pure row) srv S₁ S' quota at h
    split_ifs at h with hdirty
    · -- It is brought in line.
      obtain ⟨hequals, -⟩ | ⟨-, h⟩ := Updater.succeeds_updateOnConflict rfl
        (fun _ _ => succeeds_send_of_answered rfl) h
      · rw [not_dirty_of_equals hrow hequals] at hdirty
        cases hdirty
      · obtain ⟨old, hold, hkey, rfl, hS'⟩ :=
          leaves_update (Client.Succeeds.of_send (c := .updateQuota _) h)
        refine ⟨hS₁.trans ⟨hS'.clusterQuotas, hS'.namespaces, fun ns' hns' q hq => ?_⟩, _, ?_, rfl⟩
        · rw [hS'.quotas]
          constructor
          · rintro (rfl | ⟨hq, -⟩)
            · exact absurd (hq.symm.trans hns) hns'
            · exact hq
          · refine fun hmem => .inr ⟨hmem, fun hkey => hns' ?_⟩
            rw [← hq, ← hns]
            exact congrArg Prod.fst hkey
        · refine ⟨(hS'.quotas _).mpr (.inl rfl), hns, carries_withLabels _,
            fun q hq hqns hqcarries => ?_, autoUpdate_withLabels _, equals_stored Q.spec, howner⟩
          obtain hq | ⟨hq, hne⟩ := (hS'.quotas q).mp hq
          · exact hq
          · rw [hunique q hq hqns hqcarries] at hne
            exact absurd rfl hne
    · -- It is in line.
      obtain ⟨rfl, rfl⟩ := Fallible.succeeds_pure.mp h
      obtain ⟨hspec, hauto⟩ := (not_dirty_iff hrow).mp (by simpa using hdirty)
      exact ⟨hS₁, row, ⟨hmem, hns, hrow, hunique, hauto, hspec, howner⟩, rfl⟩

end

end Reconciler

end KubeZoo.Quota
