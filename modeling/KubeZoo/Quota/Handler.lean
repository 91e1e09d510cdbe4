import KubeZoo.Quota.Reconcile

/-! # Namespaces that are created -/

namespace KubeZoo.Quota

open Calls

namespace Reconciler

variable {r : Reconciler} {Q : ClusterResourceQuota} {ns : Namespace}

def «matches» (r : Reconciler) (quota : ClusterResourceQuota) (ns : Namespace) : Bool :=
  match r.asSelector quota.namespaceSelector with
  | .error _ => false
  | .ok selector => selector ns.labels || quota.namespaces.contains ns.name

/-- `Create`: the names of the requests that are added. `quotaList` is what the cache lists; the
object is none if it is no namespace. -/
def handleCreate (r : Reconciler) (quotaList : Except GoError (List ClusterResourceQuota)) :
    Option Namespace → List String
  | none => []
  | some ns =>
    match quotaList with
    | .error _ => []
    | .ok quotas => (quotas.filter fun quota => r.«matches» quota ns).map ClusterResourceQuota.name

lemma matches_iff {existing : List Namespace} (hnames : (existing.map Namespace.name).Nodup)
    {selector : StringMap → Bool} (hselector : r.asSelector Q.namespaceSelector = .ok selector)
    (hns : ns ∈ existing) : r.«matches» Q ns = true ↔ r.Matches Q existing ns.name := by
  simp only [«matches», hselector, Bool.or_eq_true, List.contains_iff_mem, Matches,
    selects_of_asSelector hselector]
  constructor
  · exact fun h => ⟨ns, hns, rfl, h⟩
  · rintro ⟨n, hn, hname, h⟩
    obtain rfl := List.inj_on_of_nodup_map hnames hn hns hname
    exact h

lemma mem_handleCreate_iff {S : State} (hQ : S.clusterQuotas.find? Q.name = some Q) :
    Q.name ∈ r.handleCreate (.ok S.clusterQuotas.rows) (some ns) ↔ r.«matches» Q ns = true := by
  obtain ⟨hmem, -⟩ := Table.find?_eq_some_iff.mp hQ
  simp only [handleCreate, List.mem_map, List.mem_filter]
  constructor
  · rintro ⟨Q', ⟨hmem', hmatches⟩, hname⟩
    rwa [← Table.eq_of_key hmem' hmem hname]
  · exact fun hmatches => ⟨Q, ⟨hmem, hmatches⟩, rfl⟩

/-- `matches` says of a namespace that exists whether `GetNamespacesForClusterQuota` finds it: the
quota is enqueued when the namespace is created exactly if a pass leaves a quota there. -/
theorem create_enqueues_iff (r : Reconciler) (srv : Apiserver) (hsrv : srv.Reads) (S : State)
    (hnames : (S.namespaces.map Namespace.name).Nodup) (Q : ClusterResourceQuota)
    (hQ : S.clusterQuotas.find? Q.name = some Q)
    (hvalid : ∃ selector, r.asSelector Q.namespaceSelector = .ok selector) (ns : Namespace)
    (hns : ns ∈ S.namespaces) :
    (∃ namespaces, Program.run (serve srv) (r.getNamespacesForClusterQuota Q).run S =
        (S, .ok namespaces) ∧ (r.«matches» Q ns = true ↔ ns.name ∈ namespaces)) ∧
    (Q.name ∈ r.handleCreate (.ok S.clusterQuotas.rows) (some ns) ↔ r.«matches» Q ns = true) ∧
    ∀ S', Client.Succeeds (r.reconcile Q.name) srv S S' () →
      (Q.name ∈ r.handleCreate (.ok S.clusterQuotas.rows) (some ns) ↔
        ∃ q ∈ S'.quotas, q.namespace = ns.name ∧ r.Carries Q q) := by
  obtain ⟨selector, hselector⟩ := hvalid
  have hmatches := matches_iff hnames hselector hns
  refine ⟨?_, mem_handleCreate_iff hQ, fun S' h => ?_⟩
  · obtain ⟨namespaces, hrun, hmem⟩ := run_getNamespaces (r := r) (Q := Q) (S := S) hsrv
    rw [hselector] at hrun
    exact ⟨_, hrun, hmatches.trans ((hmem selector hselector).2 ns.name).symm⟩
  · obtain ⟨⟨_, _, _, hdone⟩, hcarriers⟩ := reconciled_reconcile hsrv hQ h
    rw [mem_handleCreate_iff hQ, hmatches]
    constructor
    · intro hmatch
      obtain ⟨row, hrow⟩ := hdone.exists_kept hmatch
      exact ⟨row, hrow.mem, hrow.namespace, hrow.carries⟩
    · rintro ⟨q, hq, hqns, hcarries⟩
      exact hqns ▸ hcarriers q hq hcarries

end Reconciler

theorem create_enqueues_web :
    tenantQuota.name ∈ plainReconciler.handleCreate (.ok (webStore []).clusterQuotas.rows)
      (some { name := "111111-web" }) ∧
    ∃ q ∈ (afterPass (webStore [])).quotas, q.namespace = "111111-web" ∧
      plainReconciler.Carries tenantQuota q := by
  obtain ⟨-, -, hplaced⟩ := Reconciler.create_enqueues_iff plainReconciler plainServer
    reads_plainServer (webStore []) (by decide) tenantQuota (by decide +kernel) ⟨_, rfl⟩
    { name := "111111-web" } (by decide)
  have henqueued : tenantQuota.name ∈ plainReconciler.handleCreate
      (.ok (webStore []).clusterQuotas.rows) (some { name := "111111-web" }) := by decide +kernel
  exact ⟨henqueued, (hplaced _ ⟨Prod.ext rfl (by decide +kernel), by decide +kernel⟩).mp henqueued⟩

end KubeZoo.Quota
