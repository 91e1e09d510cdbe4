import KubeZoo.Quota.Upstream

/-! # The quotas the webhook evaluates -/

namespace KubeZoo.Quota

open Calls

/-- A quota as `GetQuotas` shows it, if it does. -/
def State.shown (S : State) (quota : ResourceQuota) : Option ResourceQuota :=
  quota.controller.bind fun owner =>
    if owner.kind = clusterResourceQuotaKind then
      (S.clusterQuotas.find? owner.name).map fun Q =>
        { quota with status := Q.status, name := "clusterresourcequota/" ++ Q.name }
    else none

variable {srv : Apiserver} {S : State} {q : ResourceQuota}

lemma run_find_getClusterQuota (hsrv : srv.Reads) (name : String) :
    Program.run (serve srv) (Call.getClusterQuota name).find.run S =
      (S, .ok (S.clusterQuotas.find? name)) := run_find hsrv rfl rfl rfl

lemma run_withClusterStatus (hsrv : srv.Reads) (quotas : List ResourceQuota) :
    Program.run (serve srv) (withClusterStatus quotas).run S =
      (S, .ok (quotas.filterMap S.shown)) := by
  induction quotas with
  | nil => rfl
  | cons quota quotas ih =>
    rw [withClusterStatus, List.filterMap_cons]
    unfold State.shown
    cases hcontroller : quota.controller with
    | none => exact ih
    | some owner =>
      by_cases hkind : owner.kind = clusterResourceQuotaKind
      · simp only [hkind, ne_eq, not_true_eq_false, if_false, Option.bind_some]
        rw [ExceptT.run_bind, Program.run_bind, run_find_getClusterQuota hsrv]
        cases S.clusterQuotas.find? owner.name with
        | none => exact ih
        | some Q =>
          simp only [Option.map_some]
          rw [ExceptT.run_bind, Program.run_bind, ih]
          rfl
      · simp only [hkind, ne_eq, Option.bind_some]
        exact ih

lemma run_getQuotas (hsrv : srv.Reads) (ns : String) :
    Program.run (serve srv) (getQuotas ns).run S =
      (S, .ok ((S.listed ns labelClusterResourceQuotaAutoUpdate "true").filterMap S.shown)) := by
  have hlist : Program.run (serve srv)
      (Call.listQuotas ns labelClusterResourceQuotaAutoUpdate "true").send.run S =
      (S, .ok (S.listed ns labelClusterResourceQuotaAutoUpdate "true")) := serve_read hsrv rfl
  rw [getQuotas, ExceptT.run_bind, Program.run_bind, hlist]
  exact run_withClusterStatus hsrv _

lemma exists_mem_getQuotas {owner : ControllerReference} {Q : ClusterResourceQuota}
    (hq : q ∈ S.quotas) (hlabel : q.labels[labelClusterResourceQuotaAutoUpdate]? = some "true")
    (howner : q.controller = some owner) (hkind : owner.kind = clusterResourceQuotaKind)
    (hQ : S.clusterQuotas.find? owner.name = some Q) :
    ∃ e ∈ (S.listed q.namespace labelClusterResourceQuotaAutoUpdate "true").filterMap S.shown,
      e.status = Q.status := by
  refine ⟨{ q with status := Q.status, name := "clusterresourcequota/" ++ Q.name },
    List.mem_filterMap.mpr ⟨q, List.mem_filter.mpr ⟨hq, by simp [hlabel]⟩, ?_⟩, rfl⟩
  unfold State.shown
  rw [howner, Option.bind_some, if_pos hkind, hQ, Option.map_some]

end KubeZoo.Quota
