import KubeZoo.Quota.Ensure
import KubeZoo.Quota.Namespaces
import KubeZoo.Quota.Webhook

/-! # What a reconciliation leaves -/

namespace KubeZoo.Quota

open Calls

variable {srv : Apiserver} {S S' : State} {Q : ClusterResourceQuota} {q : ResourceQuota}

namespace Reconciler

variable {r : Reconciler} {ns : String}

def Lists (r : Reconciler) (Q : ClusterResourceQuota) (S : State)
    (quotas : String → List ResourceQuota) (ns : String) : Prop :=
  (∀ p, p ∈ quotas ns ↔ p ∈ S.quotas ∧ p.namespace = ns ∧ r.Carries Q p) ∧
    ((quotas ns).map ResourceQuota.key).Nodup

lemma Lists.congr {quotas : String → List ResourceQuota} (h : r.Lists Q S quotas ns)
    (hsame : SameIn ns S S') : r.Lists Q S' quotas ns := by
  refine ⟨fun p => (h.1 p).trans ⟨?_, ?_⟩, h.2⟩
  · rintro ⟨hp, hns, hcarries⟩
    exact ⟨(hsame p hns).mpr hp, hns, hcarries⟩
  · rintro ⟨hp, hns, hcarries⟩
    exact ⟨(hsame p hns).mp hp, hns, hcarries⟩

variable {expectedQuotas : List ResourceQuota} {namespaces : List String} {row : ResourceQuota}
  {status : ResourceQuotaStatus}

lemma kept_ensureAll {quotas : String → List ResourceQuota}
    (h : Client.Succeeds (r.ensureAll Q quotas namespaces) srv S S' expectedQuotas)
    (hnodup : namespaces.Nodup) (hquotas : ∀ ns ∈ namespaces, r.Lists Q S quotas ns) :
    OnlyIn (· ∈ namespaces) S S' ∧
      List.Forall₂ (fun ns quota => ∃ row, r.Kept Q ns (keptOwner Q (quotas ns)) S' row ∧
        row.status = quota.status) namespaces expectedQuotas := by
  induction namespaces generalizing S expectedQuotas with
  | nil =>
    obtain ⟨rfl, rfl⟩ := Fallible.succeeds_pure.mp h
    exact ⟨.refl _ _, .nil⟩
  | cons ns namespaces ih =>
    obtain ⟨hns, hnodup⟩ := List.nodup_cons.mp hnodup
    obtain ⟨S₁, quota, hensure, h⟩ := Fallible.succeeds_bind.mp h
    obtain ⟨S₂, quotas', hrest, h⟩ := Fallible.succeeds_bind.mp h
    obtain ⟨rfl, rfl⟩ := Fallible.succeeds_pure.mp h
    obtain ⟨hlists, hkeys⟩ := hquotas ns List.mem_cons_self
    obtain ⟨hS₁, row, hrow, hstatus⟩ := kept_ensure hlists hkeys hensure
    have hother : ∀ ns' ∈ namespaces, r.Lists Q S₁ quotas ns' := fun ns' hns' =>
      (hquotas ns' (List.mem_cons_of_mem ns hns')).congr (hS₁.same ns' fun heq => hns (heq ▸ hns'))
    obtain ⟨hS₂, hrows⟩ := ih hrest hnodup hother
    refine ⟨(hS₁.mono ?_).trans (hS₂.mono fun ns' => List.mem_cons_of_mem ns), .cons ?_ hrows⟩
    · rintro ns' rfl
      exact List.mem_cons_self
    · exact ⟨row, hrow.congr (hS₂.same ns hns), hstatus⟩

variable {quotas : List ResourceQuota} {u : Unit}

lemma leaves_deleteAll (h : Client.Succeeds (deleteAll quotas) srv S S' u) :
    Leaves S (fun q => q ∈ S.quotas ∧ ∀ p ∈ quotas, p.key ≠ q.key) S' := by
  induction quotas generalizing S with
  | nil =>
    obtain ⟨rfl, -⟩ := Fallible.succeeds_pure.mp h
    exact ⟨rfl, rfl, by simp⟩
  | cons p quotas ih =>
    obtain ⟨S₁, _, hwrite, h⟩ := Fallible.succeeds_bind.mp h
    obtain ⟨a, hwrite⟩ := Client.Succeeds.of_attempt rfl hwrite
    have hS₁ := leaves_delete hwrite
    refine (hS₁.trans (ih h)).congr fun c => ?_
    rw [hS₁.quotas, List.forall_mem_cons, and_assoc, ne_comm]

lemma onlyIn_deleteAll (h : Client.Succeeds (deleteAll quotas) srv S S' u) :
    OnlyIn (fun ns => ∃ p ∈ quotas, p.namespace = ns) S S' := by
  have hS' := leaves_deleteAll h
  refine ⟨hS'.clusterQuotas, hS'.namespaces, fun ns hns q hq => ?_⟩
  rw [hS'.quotas]
  exact and_iff_left fun p hp hkey => hns ⟨p, hp, (congrArg Prod.fst hkey).trans hq⟩

lemma getElem?_add (a b : ResourceList) (k : String) :
    (a.add b).entries[k]? = (a.entries[k]?.map (· + b.quantity k)).or b.entries[k]? := by
  show (b.entries ∪ a.entries.map _)[k]? = _
  rw [Std.ExtTreeMap.getElem?_union, Std.ExtTreeMap.getElem?_map]

lemma entries_add_empty (l : ResourceList) : (ResourceList.add (some ∅) l).entries = l.entries := by
  refine Std.ExtTreeMap.ext_getElem? fun k => ?_
  rw [getElem?_add]
  simp [ResourceList.entries]

lemma succeeds_syncStatus (hQ : S.clusterQuotas.find? Q.name = some Q)
    (h : Client.Succeeds (syncStatus Q quotas) srv S S' u) :
    S'.quotas = S.quotas ∧ S'.namespaces = S.namespaces ∧
      ∃ status, S'.clusterQuotas.find? Q.name = some { Q with status := status } ∧
        status.equals (usage Q quotas) = true := by
  unfold syncStatus at h
  split_ifs at h with hdirty
  · obtain ⟨S₁, Q', hupdate, h⟩ := Fallible.succeeds_bind.mp h
    obtain ⟨rfl, -⟩ := Fallible.succeeds_pure.mp h
    obtain ⟨hequals, rfl, -⟩ | ⟨-, hwrite⟩ := Updater.succeeds_updateOnConflict rfl
      (fun _ _ => succeeds_send_of_answered rfl) hupdate
    · refine ⟨rfl, rfl, Q.status, hQ, ?_⟩
      simp only [statusUpdater, ClusterResourceQuota.equals, Bool.and_eq_true] at hequals
      exact hequals.2
    · obtain ⟨old, hold, hname, rfl⟩ :=
        updateStatus_eq_ok (Client.Succeeds.of_send (c := .updateClusterQuotaStatus _) hwrite)
      obtain ⟨hmem, -⟩ := Table.find?_eq_some_iff.mp hQ
      obtain rfl : old = Q := Table.eq_of_key hold hmem hname
      refine ⟨rfl, rfl, (usage old quotas).stored, ?_, ?_⟩
      · exact Table.find?_replace (a := ClusterResourceQuota.statusOf _ old) hold rfl
      · simp [ResourceQuotaStatus.equals, ResourceQuotaStatus.stored, ResourceList.equals,
          stored_entries]
  · obtain ⟨rfl, -⟩ := Fallible.succeeds_pure.mp h
    refine ⟨rfl, rfl, Q.status, hQ, ?_⟩
    have hhard : (usage Q quotas).hard.entries = Q.spec.hard.entries := entries_add_empty _
    simp only [statusDirty, ResourceList.equals, Bool.or_eq_true, not_or, Bool.not_eq_eq_eq_not,
      Bool.not_true, decide_eq_false_iff_not, not_not] at hdirty
    simp only [ResourceQuotaStatus.equals, ResourceList.equals, Bool.and_eq_true,
      decide_eq_true_eq, hhard]
    exact ⟨hdirty.1.1.1.symm, hdirty.2⟩

def labelled (r : Reconciler) (Q : ClusterResourceQuota) (S : State) (ns : String) :
    List ResourceQuota :=
  (S.listed "" r.clusterResourceQuotaCreatedby Q.name).filter (·.namespace = ns)

lemma lists_labelled (ns : String) : r.Lists Q S (r.labelled Q S) ns := by
  refine ⟨fun p => ?_, ?_⟩
  · simp [labelled, State.listed, Carries, Table.mem_rows]
  · exact S.quotas.nodup.sublist ((List.filter_sublist.trans List.filter_sublist).map _)

structure Reconciled (r : Reconciler) (Q : ClusterResourceQuota) (S S' : State)
    (namespaces : List String) (expectedQuotas : List ResourceQuota)
    (status : ResourceQuotaStatus) : Prop where
  existing : S'.namespaces = S.namespaces
  nodup : namespaces.Nodup
  mem_iff : ∀ ns, ns ∈ namespaces ↔ r.Matches Q S.namespaces ns
  kept : List.Forall₂ (fun ns quota => ∃ row, r.Kept Q ns (keptOwner Q (r.labelled Q S ns)) S' row ∧
    row.status = quota.status) namespaces expectedQuotas
  clusterQuota : S'.clusterQuotas.find? Q.name = some { Q with status := status }
  status : status.equals (usage Q expectedQuotas) = true

lemma Reconciled.exists_kept (h : r.Reconciled Q S S' namespaces expectedQuotas status)
    (hns : r.Matches Q S.namespaces ns) :
    ∃ row, r.Kept Q ns (keptOwner Q (r.labelled Q S ns)) S' row := by
  obtain ⟨i, rfl⟩ := List.get_of_mem ((h.mem_iff ns).mpr hns)
  obtain ⟨hlength, hget⟩ := List.forall₂_iff_get.mp h.kept
  obtain ⟨row, hrow, -⟩ := hget i.1 i.2 (hlength ▸ i.2)
  exact ⟨row, hrow⟩

lemma succeeds_getResourceQuota {x : List String × (String → List ResourceQuota)}
    (h : Client.Succeeds (r.getResourceQuotaForClusterQuota Q) srv S S' x) :
    S = S' ∧ x = (((S.listed "" r.clusterResourceQuotaCreatedby Q.name).map
      ResourceQuota.namespace).dedup, r.labelled Q S) := by
  obtain ⟨S₁, quotaList, hlist, h⟩ := Fallible.succeeds_bind.mp h
  obtain ⟨rfl, rfl⟩ := Fallible.succeeds_pure.mp h
  obtain ⟨rfl, hquotas⟩ := Prod.mk.inj (Client.Succeeds.of_send (c := .listQuotas _ _ _) hlist)
  obtain rfl := Except.ok.inj hquotas
  exact ⟨rfl, rfl⟩

/-- A pass ensures the quotas of the namespaces that match, deletes those of the others, and writes
the status. -/
lemma phases_reconcileQuota (hsrv : srv.Reads)
    (h : Client.Succeeds (r.reconcileQuota Q) srv S S' u) :
    ∃ namespaces expectedQuotas others S₁ S₂, namespaces.Nodup ∧
      (∀ ns, ns ∈ namespaces ↔ r.Matches Q S.namespaces ns) ∧
      (∀ q, q ∈ others ↔ q ∈ S.quotas ∧ r.Carries Q q ∧ q.namespace ∉ namespaces) ∧
      Client.Succeeds (r.ensureAll Q (r.labelled Q S) namespaces) srv S S₁ expectedQuotas ∧
      Client.Succeeds (deleteAll others) srv S₁ S₂ () ∧
      Client.Succeeds (syncStatus Q expectedQuotas) srv S₂ S' u := by
  obtain ⟨S₁, namespaces, hnamespaces, h⟩ := Fallible.succeeds_bind.mp h
  obtain ⟨rfl, hnodup, hmem⟩ := succeeds_getNamespaces hsrv hnamespaces
  obtain ⟨S₁, _, hquotas, h⟩ := Fallible.succeeds_bind.mp h
  obtain ⟨rfl, rfl⟩ := succeeds_getResourceQuota hquotas
  obtain ⟨S₁, expectedQuotas, hensure, h⟩ := Fallible.succeeds_bind.mp h
  obtain ⟨S₂, _, hdelete, hsync⟩ := Fallible.succeeds_bind.mp h
  have hsorted : ∀ ns, ns ∈ sortStrings namespaces ↔ ns ∈ namespaces := fun ns =>
    (sortStrings_perm namespaces).mem_iff
  refine ⟨sortStrings namespaces, expectedQuotas, _, S₁, S₂,
    (sortStrings_perm namespaces).nodup_iff.mpr hnodup, fun ns => (hsorted ns).trans (hmem ns),
    fun q => ?_, hensure, hdelete, hsync⟩
  simp only [List.mem_flatMap, (sortStrings_perm _).mem_iff, List.mem_filter, List.mem_dedup,
    List.mem_map, (lists_labelled _).1, decide_eq_true_eq]
  constructor
  · rintro ⟨ns, ⟨-, hns⟩, hq, rfl, hcarries⟩
    exact ⟨hq, hcarries, hns⟩
  · rintro ⟨hq, hcarries, hns⟩
    refine ⟨_, ⟨⟨q, List.mem_filter.mpr ⟨hq, ?_⟩, rfl⟩, hns⟩, hq, rfl, hcarries⟩
    exact decide_eq_true hcarries

lemma reconciled_reconcileQuota (hsrv : srv.Reads) (hQ : S.clusterQuotas.find? Q.name = some Q)
    (h : Client.Succeeds (r.reconcileQuota Q) srv S S' u) :
    (∃ namespaces expectedQuotas status, r.Reconciled Q S S' namespaces expectedQuotas status) ∧
      ∀ q ∈ S'.quotas, r.Carries Q q → r.Matches Q S.namespaces q.namespace := by
  obtain ⟨namespaces, expectedQuotas, others, S₁, S₂, hnodup, hmem, hothers, hensure, hdelete,
    hsync⟩ := phases_reconcileQuota hsrv h
  obtain ⟨hS₁, hkept⟩ := kept_ensureAll hensure hnodup fun ns _ => lists_labelled ns
  have hS₂ := onlyIn_deleteAll hdelete
  have hQ₂ : S₂.clusterQuotas.find? Q.name = some Q := by
    rw [hS₂.clusterQuotas, hS₁.clusterQuotas, hQ]
  obtain ⟨hS', hexisting, status, hstatus, hequals⟩ := succeeds_syncStatus hQ₂ hsync
  -- The quotas that are deleted are in other namespaces.
  have hsame : ∀ ns ∈ namespaces, SameIn ns S₁ S' := by
    intro ns hns q hq
    rw [hS']
    refine hS₂.same ns ?_ q hq
    rintro ⟨p, hp, rfl⟩
    exact ((hothers p).mp hp).2.2 hns
  refine ⟨⟨namespaces, expectedQuotas, status, ?_, hnodup, hmem, ?_, hstatus, hequals⟩, ?_⟩
  · rw [hexisting, hS₂.namespaces, hS₁.namespaces]
  · obtain ⟨hlength, hzip⟩ := List.forall₂_iff_zip.mp hkept
    refine List.forall₂_iff_zip.mpr ⟨hlength, fun hpair => ?_⟩
    obtain ⟨row, hrow, hrowStatus⟩ := hzip hpair
    exact ⟨row, hrow.congr (hsame _ (List.of_mem_zip hpair).1), hrowStatus⟩
  · intro q hq hcarries
    rw [hS', (leaves_deleteAll hdelete).quotas] at hq
    by_contra hns
    rw [← hmem] at hns
    have hold := (hS₁.same _ hns q rfl).mp hq.1
    exact hq.2 q ((hothers q).mpr ⟨hold, hcarries, hns⟩) rfl

lemma reconciled_reconcile (hsrv : srv.Reads) (hQ : S.clusterQuotas.find? Q.name = some Q)
    (h : Client.Succeeds (r.reconcile Q.name) srv S S' u) :
    (∃ namespaces expectedQuotas status, r.Reconciled Q S S' namespaces expectedQuotas status) ∧
      ∀ q ∈ S'.quotas, r.Carries Q q → r.Matches Q S.namespaces q.namespace := by
  obtain ⟨S₁, found, hfind, h⟩ := Fallible.succeeds_bind.mp h
  obtain ⟨rfl, hfound⟩ := Prod.mk.inj ((run_find_getClusterQuota hsrv Q.name).symm.trans hfind.1)
  rw [hQ] at hfound
  obtain rfl := Except.ok.inj hfound
  exact reconciled_reconcileQuota hsrv hQ h

structure Enforced (r : Reconciler) (srv : Apiserver) (Q : ClusterResourceQuota) (S : State)
    (ns : String) : Prop where
  one : ∃ row ∈ S.quotas, row.namespace = ns ∧ r.Carries Q row ∧
    (∀ q ∈ S.quotas, q.namespace = ns → r.Carries Q q → q = row) ∧
    row.ControlledBy Q ∧ Q.spec.equals row.spec = true
  shown : ∃ quotas, (Program.run (serve srv) (getQuotas ns).run S).2 = .ok quotas ∧
    ∃ e ∈ quotas, ∃ Q', S.clusterQuotas.find? Q.name = some Q' ∧ e.status = Q'.status

lemma controlledBy_keptOwner_iff (hrow : row.controller = some (keptOwner Q quotas)) :
    row.ControlledBy Q ↔ ∀ q, quotas.find? ResourceQuota.byCluster = some q → q.ControlledBy Q := by
  cases hfind : quotas.find? ResourceQuota.byCluster with
  | none =>
    have howner : keptOwner Q quotas = newControllerRef Q := by
      unfold keptOwner
      rw [hfind]
      rfl
    rw [howner] at hrow
    exact ⟨fun _ q h => (by cases h), fun _ => ⟨_, hrow, rfl, rfl, rfl⟩⟩
  | some q =>
    have hq := keptOwner_of_find (Q := Q) hfind
    simp only [Option.some.injEq, forall_eq', ResourceQuota.ControlledBy, hq, hrow]

lemma Kept.enforced (hsrv : srv.Reads) {owner : ControllerReference} (h : r.Kept Q ns owner S row)
    (hrow : row.ControlledBy Q)
    (hQ : S.clusterQuotas.find? Q.name = some { Q with status := status }) :
    r.Enforced srv Q S ns := by
  obtain ⟨owner', howner', hkind, hname, huid⟩ := hrow
  refine ⟨⟨row, h.mem, h.namespace, h.carries, h.unique, ⟨owner', howner', hkind, hname, huid⟩,
    h.spec⟩, _, congrArg Prod.snd (run_getQuotas hsrv ns), ?_⟩
  obtain ⟨e, he, hstatus⟩ := exists_mem_getQuotas h.mem h.autoUpdate howner' hkind (hname ▸ hQ)
  rw [h.namespace] at he
  exact ⟨e, he, _, hQ, hstatus⟩

/-- A pass that returns no error and in which no write failed leaves every namespace that matches
enforced, if in each of them the first quota with the label that a ClusterResourceQuota controls was
controlled by this one. -/
theorem reconcile_enforces_iff (r : Reconciler) (srv : Apiserver) (hsrv : srv.Reads) (S S' : State)
    (Q : ClusterResourceQuota) (hQ : S.clusterQuotas.find? Q.name = some Q)
    (h : Client.Succeeds (r.reconcile Q.name) srv S S' ()) :
    (∀ ns, r.Matches Q S.namespaces ns → r.Enforced srv Q S' ns) ↔
      ∀ ns, r.Matches Q S.namespaces ns → ∀ q,
        (r.labelled Q S ns).find? ResourceQuota.byCluster = some q → q.ControlledBy Q := by
  obtain ⟨⟨namespaces, expectedQuotas, status, hdone⟩, -⟩ := reconciled_reconcile hsrv hQ h
  refine forall₂_congr fun ns hns => ?_
  obtain ⟨row, hrow⟩ := hdone.exists_kept hns
  rw [← controlledBy_keptOwner_iff hrow.controller]
  constructor
  · intro henforced
    obtain ⟨row', hmem, hns', hcarries, -, hcontrolled, -⟩ := henforced.one
    rwa [← hrow.unique row' hmem hns' hcarries]
  · exact fun hcontrolled => hrow.enforced hsrv hcontrolled hdone.clusterQuota

end Reconciler

def plainReconciler : Reconciler where
  clusterResourceQuotaCreatedby := "clusterresourcequota.quota.kubezoo.io/created-by"
  createdby_ne := by decide
  labelSelectorAsSelector l := .ok fun labels =>
    l.matchLabels.toList.all fun (key, value) => labels[key]? = some value

def plainServer : Apiserver := { suffix := fun _ => "abcde" }

lemma reads_plainServer : plainServer.Reads := fun _ _ _ => rfl

def tenantQuota : ClusterResourceQuota where
  name := "kubezoo-tenant-quota-111111"
  uid := "1"
  spec := { hard := some ((∅ : Quantities).insert "pods" 2) }
  namespaces := ["111111-web"]

def webQuota (name : String) (ownerReferences : List ControllerReference) : ResourceQuota where
  «namespace» := "111111-web"
  name := name
  labels := (∅ : StringMap).insert plainReconciler.clusterResourceQuotaCreatedby tenantQuota.name
  ownerReferences := ownerReferences

def webStore (quotas : List ResourceQuota) : State where
  clusterQuotas := Table.ofList [tenantQuota]
  namespaces := [{ name := "111111-web" }]
  quotas := Table.ofList quotas

def afterPass (S : State) : State :=
  (Program.run (serve plainServer) (plainReconciler.reconcile tenantQuota.name).run S).1

def strayDecoys : State :=
  webStore [webQuota "a-decoy" [],
    webQuota "b-decoy" [{ kind := "Deployment", name := "web", controller := true }],
    webQuota "quota" [newControllerRef tenantQuota]]

theorem reconcile_enforces_past_decoys :
    plainReconciler.Enforced plainServer tenantQuota (afterPass strayDecoys) "111111-web" := by
  refine (Reconciler.reconcile_enforces_iff plainReconciler plainServer reads_plainServer _ _
    tenantQuota (by decide +kernel) ⟨Prod.ext rfl ?_, ?_⟩).mpr ?_ "111111-web" ?_
  · decide +kernel
  · decide +kernel
  · rintro ns ⟨_, -, -, hselects | hns⟩ q hq
    · cases hselects
    · obtain rfl := List.mem_singleton.mp hns
      have hfirst : (plainReconciler.labelled tenantQuota strayDecoys "111111-web").find?
          ResourceQuota.byCluster = some (webQuota "quota" [newControllerRef tenantQuota]) := by
        decide +kernel
      rw [← Option.some.inj (hfirst.symm.trans hq)]
      exact ⟨_, rfl, rfl, rfl, rfl⟩
  · decide +kernel

theorem reconcile_keeps_first_decoy :
    let S := webStore [webQuota "a-decoy"
      [{ kind := "ClusterResourceQuota", name := "other", uid := "2", controller := true }],
      webQuota "quota" [newControllerRef tenantQuota]]
    Client.Succeeds (plainReconciler.reconcile tenantQuota.name) plainServer S (afterPass S) () ∧
    plainReconciler.Matches tenantQuota S.namespaces "111111-web" ∧
    (afterPass S).quotas.rows.map (fun q => (q.name, q.controller.map (·.name))) =
      [("a-decoy", some "other")] ∧
    (Program.run (serve plainServer) (getQuotas "111111-web").run (afterPass S)).2 = .ok [] ∧
    ¬ plainReconciler.Enforced plainServer tenantQuota (afterPass S) "111111-web" := by
  intro S
  have hnone : (Program.run (serve plainServer) (getQuotas "111111-web").run (afterPass S)).2 =
      .ok [] := by decide +kernel
  refine ⟨⟨Prod.ext rfl (by decide +kernel), by decide +kernel⟩,
    by decide +kernel, by decide +kernel, hnone, ?_⟩
  intro henforced
  obtain ⟨quotas, hquotas, e, he, -⟩ := henforced.shown
  obtain rfl := Except.ok.inj (hnone.symm.trans hquotas)
  cases he

end KubeZoo.Quota
