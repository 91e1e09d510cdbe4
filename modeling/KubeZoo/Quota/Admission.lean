import KubeZoo.Lib.Transition
import KubeZoo.Quota.Reconcile

/-! # Admission against a cluster quota -/

namespace KubeZoo.Quota

open Calls Reconciler Fallible.Sound

structure Pod where
  «namespace» : String
  usage : Quantities
deriving DecidableEq

def usageOf (pods : List Pod) (resource : String) : Int :=
  (pods.map fun p => (p.usage[resource]?).getD 0).sum

def fits (usage : Quantities) (status : ResourceQuotaStatus) : Bool :=
  status.hard.entries.toList.all fun (resource, hard) =>
    status.used.quantity resource + (usage[resource]?).getD 0 ≤ hard

def recordUsage (usage : Quantities) : List ResourceQuota → Client Unit
  | [] => return ()
  | quota :: quotas => do
    updateQuotaStatus
      { quota with status := { quota.status with used := quota.status.used.add (some usage) } }
    recordUsage usage quotas

def evaluate (ns : String) (usage : Quantities) : Client Bool := do
  let quotas ← getQuotas ns
  if quotas.all fun quota => fits usage quota.status then
    recordUsage usage quotas
    return true
  else return false

def recomputed (pods : List Pod) (q : ResourceQuota) : ResourceQuota :=
  { q with status :=
    { hard := q.spec.hard
      used := some (q.spec.hard.entries.map fun resource _ =>
        usageOf (pods.filter (·.namespace = q.namespace)) resource) } }

abbrev Pass := Program Call (Answer GoError Call.Result) (Except GoError Unit)

structure World where
  store : State
  pods : List Pod
  passes : List Pass

inductive Action
  | admission (ns : String) (usage : Quantities)
  | recompute (key : String × String)
  | start
  | call (i : ℕ)
deriving DecidableEq

namespace World

variable (r : Reconciler) (srv : Apiserver) (Q : ClusterResourceQuota)

def step (w : World) : Action → Option World
  | .admission ns usage =>
    match Program.run (serve srv) (evaluate ns usage).run w.store with
    | (store, .ok true) => some { w with store := store, pods := ⟨ns, usage⟩ :: w.pods }
    | _ => none
  | .recompute key =>
    (w.store.quotas.find? key).map fun q =>
      { w with store := { w.store with quotas := w.store.quotas.replace (recomputed w.pods q) } }
  | .start => some { w with passes := w.passes ++ [(r.reconcile Q.name).run] }
  | .call i =>
    match w.passes[i]? with
    | some (.call c next) =>
      some { w with
        store := (serve srv w.store c).1
        passes := w.passes.set i (next (serve srv w.store c).2) }
    | _ => none

def total (w : World) (resource : String) : Int :=
  usageOf (w.pods.filter fun p => r.Matches Q w.store.namespaces p.namespace) resource

def Within (w : World) : Prop :=
  ∀ resource hard, Q.spec.hard.entries[resource]? = some hard → w.total r Q resource ≤ hard

def counted (w : World) : Bool :=
  (w.store.clusterQuotas.find? Q.name).all fun Q' =>
    Q.spec.hard.entries.toList.all fun (resource, _) =>
      w.total r Q resource ≤ Q'.status.used.quantity resource

def caughtUp (w : World) : Action → Bool
  | .admission _ _ => w.counted r Q
  | _ => true

end World

structure InSync (r : Reconciler) (Q : ClusterResourceQuota) (existing : List Namespace)
    (S : State) : Prop where
  namespaces : S.namespaces = existing
  clusterQuota : ∃ status, S.clusterQuotas.find? Q.name = some { Q with status := status } ∧
    status.hard.entries = Q.spec.hard.entries
  kept : ∀ ns, r.Matches Q existing ns → ∃ owner row, r.Kept Q ns owner S row ∧ row.ControlledBy Q
  matched : ∀ q ∈ S.quotas, r.Carries Q q → r.Matches Q existing q.namespace

namespace World

def system (r : Reconciler) (srv : Apiserver) (Q : ClusterResourceQuota)
    (existing : List Namespace) : Transition.System World Action :=
  Transition.ofStep (step r srv Q) fun w =>
    InSync r Q existing w.store ∧ w.counted r Q = true ∧ w.Within r Q ∧ w.passes = []

end World

section

variable {r : Reconciler} {srv : Apiserver} {Q : ClusterResourceQuota} {existing : List Namespace}
  {S : State} {ns : String} {q : ResourceQuota} (hsrv : srv.Reads) (hS : InSync r Q existing S)

lemma inSync_withStatus (status : ResourceQuotaStatus) :
    InSync r { Q with status := status } existing = InSync r Q existing := by
  have hkept : ∀ S ns owner row, r.Kept { Q with status := status } ns owner S row ↔
      r.Kept Q ns owner S row := fun S ns owner row =>
    ⟨fun h => ⟨h.mem, h.namespace, h.carries, h.unique, h.autoUpdate, h.spec, h.controller⟩,
      fun h => ⟨h.mem, h.namespace, h.carries, h.unique, h.autoUpdate, h.spec, h.controller⟩⟩
  funext S
  refine propext ⟨fun h => ⟨h.namespaces, h.clusterQuota, fun ns hns => ?_, h.matched⟩,
    fun h => ⟨h.namespaces, h.clusterQuota, fun ns hns => ?_, h.matched⟩⟩
  · obtain ⟨owner, row, hrow, hcontrolled⟩ := h.kept ns hns
    exact ⟨owner, row, (hkept _ _ _ _).mp hrow, hcontrolled⟩
  · obtain ⟨owner, row, hrow, hcontrolled⟩ := h.kept ns hns
    exact ⟨owner, row, (hkept _ _ _ _).mpr hrow, hcontrolled⟩

lemma InSync.replace_status (h : InSync r Q existing S) (hq : q ∈ S.quotas)
    (status : ResourceQuotaStatus) :
    InSync r Q existing { S with quotas := S.quotas.replace { q with status := status } } := by
  -- Each quota has its successor, which differs in its status at most.
  let next : ResourceQuota → ResourceQuota := fun b =>
    if b.key = q.key then { q with status := status } else b
  have hmem : ∀ c, c ∈ S.quotas.replace { q with status := status } ↔ ∃ b ∈ S.quotas, next b = c :=
    fun c => List.mem_map
  have hnext : ∀ b ∈ S.quotas, ∃ status', next b = { b with status := status' } := by
    intro b hb
    by_cases hkey : b.key = q.key
    · obtain rfl := Table.eq_of_key hb hq hkey
      exact ⟨status, if_pos rfl⟩
    · exact ⟨b.status, if_neg hkey⟩
  refine ⟨h.namespaces, h.clusterQuota, fun ns hns => ?_, fun c hc hcarries => ?_⟩
  · obtain ⟨owner, row, hrow, hcontrolled⟩ := h.kept ns hns
    obtain ⟨status', hstatus'⟩ := hnext row hrow.mem
    refine ⟨owner, { row with status := status' }, ⟨(hmem _).mpr ⟨row, hrow.mem, hstatus'⟩,
      hrow.namespace, hrow.carries, fun c hc hcns hcarries => ?_, hrow.autoUpdate, hrow.spec,
      hrow.controller⟩, hcontrolled⟩
    obtain ⟨b, hb, rfl⟩ := (hmem c).mp hc
    obtain ⟨status'', hstatus''⟩ := hnext b hb
    rw [hstatus''] at hcns hcarries
    rw [hrow.unique b hb hcns hcarries, hstatus']
  · obtain ⟨b, hb, rfl⟩ := (hmem c).mp hc
    obtain ⟨status', hstatus'⟩ := hnext b hb
    rw [hstatus'] at hcarries ⊢
    exact h.matched b hb hcarries

include hS

lemma labelled_of_matches (hns : r.Matches Q existing ns) :
    ∃ row, r.labelled Q S ns = [row] ∧ row.byCluster = true ∧
      (specDirty Q row || r.labelsDirty Q row) = false := by
  obtain ⟨owner, row, hrow, owner', howner', hkind, -⟩ := hS.kept ns hns
  obtain ⟨hmem, hkeys⟩ := lists_labelled (r := r) (Q := Q) (S := S) ns
  have hperm : (r.labelled Q S ns).Perm [row] := by
    refine (List.perm_ext_iff_of_nodup hkeys.of_map (List.nodup_singleton row)).mpr fun p => ?_
    rw [hmem, List.mem_singleton]
    constructor
    · rintro ⟨hp, hpns, hcarries⟩
      exact hrow.unique p hp hpns hcarries
    · rintro rfl
      exact ⟨hrow.mem, hrow.namespace, hrow.carries⟩
  refine ⟨row, List.perm_singleton.mp hperm, ?_, ?_⟩
  · simp [ResourceQuota.byCluster, howner', hkind]
  · exact (not_dirty_iff hrow.carries).mpr ⟨hrow.spec, hrow.autoUpdate⟩

lemma labelled_of_not_matches (hns : ¬ r.Matches Q existing ns) :
    r.labelled Q S ns = [] := by
  refine List.eq_nil_iff_forall_not_mem.mpr fun p hp => hns ?_
  obtain ⟨hmem, rfl, hcarries⟩ := ((lists_labelled ns).1 p).mp hp
  exact hS.matched p hmem hcarries

lemma ensureAll_eq_pure {namespaces : List String}
    (h : ∀ ns ∈ namespaces, r.Matches Q existing ns) :
    ∃ expectedQuotas, r.ensureAll Q (r.labelled Q S) namespaces = pure expectedQuotas := by
  induction namespaces with
  | nil => exact ⟨[], rfl⟩
  | cons ns namespaces ih =>
    obtain ⟨expectedQuotas, hrest⟩ := ih fun ns' hns' => h ns' (List.mem_cons_of_mem ns hns')
    obtain ⟨row, hlabelled, hby, hdirty⟩ := labelled_of_matches hS (h ns List.mem_cons_self)
    have hensure : r.ensureResourceQuotaInNamespace Q ns [row] = pure row := by
      unfold ensureResourceQuotaInNamespace
      rw [matchedQuota_of_byCluster hby]
      show (if (specDirty Q row || r.labelsDirty Q row) = true then
        objectUpdater.updateOnConflict (r.repaired Q) row else pure row) = pure row
      rw [hdirty]
      rfl
    refine ⟨row :: expectedQuotas, ?_⟩
    rw [ensureAll, hlabelled, hensure, hrest]
    rfl

lemma InSync.updateStatus {o : ClusterResourceQuota} (hname : o.name = Q.name)
    (hhard : o.status.hard.entries = Q.spec.hard.entries) :
    InSync r Q existing (S.updateStatus o).1 := by
  obtain ⟨status, hQ, -⟩ := hS.clusterQuota
  unfold State.updateStatus
  rw [hname, hQ]
  refine ⟨hS.namespaces, ⟨o.status.stored, ?_, (stored_entries _).trans hhard⟩,
    fun ns hns => ?_, hS.matched⟩
  · obtain ⟨hmem, -⟩ := Table.find?_eq_some_iff.mp hQ
    exact Table.find?_replace (a := o.statusOf { Q with status := status }) hmem rfl
  · obtain ⟨owner, row, hrow, hcontrolled⟩ := hS.kept ns hns
    exact ⟨owner, row, hrow.congr fun _ _ => Iff.rfl, hcontrolled⟩

include hsrv

lemma sound_getNamespaces :
    Fallible.Sound (serve srv) (InSync r Q existing)
      (fun namespaces => ∀ ns, ns ∈ namespaces ↔ r.Matches Q existing ns)
      (r.getNamespacesForClusterQuota Q) := by
  have honly := r.only_getNamespaces Q
  refine (honly.sound ?_ hS).mono fun result hresult namespaces hok => ?_
  · -- The namespaces are the same wherever the store is in sync.
    intro c hc s s' hs hs'
    have hnamespaces : s.namespaces = s'.namespaces := hs.namespaces.trans hs'.namespaces.symm
    cases c with
    | listNamespaces selector | getNamespace name =>
      rw [serve_read hsrv rfl, serve_read hsrv rfl]
      simp only [State.answer, hnamespaces, and_self]
    | _ => cases hc
  · have hanswered : Program.Answered (serve srv) WritesSucceed
        (r.getNamespacesForClusterQuota Q).run S := by
      refine honly.answered (fun c hc _ hwrite => ?_) S
      cases c with
      | listNamespaces selector => cases hwrite
      | getNamespace name => cases hwrite
      | _ => cases hc
    rw [hok] at hresult
    obtain ⟨-, -, hmem⟩ := succeeds_getNamespaces hsrv ⟨hresult, hanswered⟩
    rwa [hS.namespaces] at hmem

omit hS in
lemma sound_syncStatus (quotas : List ResourceQuota) :
    Fallible.Sound (serve srv) (InSync r Q existing) (fun _ => True)
      (syncStatus Q quotas) := by
  unfold syncStatus
  split_ifs
  · refine bind (Q := fun _ => True) ?_ fun _ _ => Fallible.sound_pure trivial
    refine Updater.sound_updateOnConflict (J := fun o => o.name = Q.name) rfl ?_ fun o ho => ?_
    · refine Fallible.sound_send fun S hS => ?_
      rw [serve_read hsrv rfl]
      refine ⟨hS, fun o ho => ?_⟩
      have ho : (S.clusterQuotas.find? Q.name).elim (.error (clusterQuotaNotFound Q.name)) .ok =
        Except.ok o := ho
      obtain ⟨status, hQ, -⟩ := hS.clusterQuota
      rw [hQ] at ho
      rw [← Except.ok.inj ho]
    · refine Fallible.sound_send fun S hS => ⟨?_, fun _ _ => trivial⟩
      unfold serve
      cases srv.deny S (.updateClusterQuotaStatus { o with status := usage Q quotas }) with
      | some e => exact hS
      | none => exact hS.updateStatus ho (entries_add_empty _)
  · exact Fallible.sound_pure trivial

lemma sound_reconcileQuota :
    Fallible.Sound (serve srv) (InSync r Q existing) (fun _ => True) (r.reconcileQuota Q) := by
  refine (sound_getNamespaces hsrv hS).bind fun namespaces hnamespaces => ?_
  -- What is listed is in sync when it is listed.
  refine bind (Q := fun x => ∃ S₁, InSync r Q existing S₁ ∧
    x = (((S₁.listed "" r.clusterResourceQuotaCreatedby Q.name).map ResourceQuota.namespace).dedup,
      r.labelled Q S₁)) ?_ ?_
  · refine bind (Q := fun l => ∃ S₁, InSync r Q existing S₁ ∧
      l = S₁.listed "" r.clusterResourceQuotaCreatedby Q.name) ?_ ?_
    · refine Fallible.sound_send fun S₁ hS₁ => ?_
      rw [serve_read hsrv rfl]
      exact ⟨hS₁, fun l hl => ⟨S₁, hS₁, (Except.ok.inj hl).symm⟩⟩
    · rintro _ ⟨S₁, hS₁, rfl⟩
      exact Fallible.sound_pure ⟨S₁, hS₁, rfl⟩
  · rintro _ ⟨S₁, hS₁, rfl⟩
    have hsorted : ∀ ns ∈ sortStrings namespaces, r.Matches Q existing ns := fun ns hns =>
      (hnamespaces ns).mp ((sortStrings_perm namespaces).mem_iff.mp hns)
    obtain ⟨expectedQuotas, hensure⟩ := ensureAll_eq_pure hS₁ hsorted
    -- No quota is in a namespace that does not match.
    have hunmatched : ∀ l : List String, (∀ ns ∈ l, ns ∉ namespaces) →
        l.flatMap (r.labelled Q S₁) = [] := by
      intro l hl
      refine List.flatMap_eq_nil_iff.mpr fun ns hns => ?_
      exact labelled_of_not_matches hS₁ fun hmatch => hl ns hns ((hnamespaces ns).mpr hmatch)
    refine bind (Q := fun _ => True) (p := r.ensureAll Q (r.labelled Q S₁) _) ?_ ?_
    · rw [hensure]
      exact Fallible.sound_pure trivial
    · intro expectedQuotas _
      refine bind (Q := fun _ => True) ?_ fun _ _ => sound_syncStatus hsrv _
      rw [hunmatched]
      · exact Fallible.sound_pure trivial
      · intro ns hns
        have := (List.mem_filter.mp ((sortStrings_perm _).mem_iff.mp hns)).2
        simpa using this

lemma sound_reconcile :
    Fallible.Sound (serve srv) (InSync r Q existing) (fun _ => True) (r.reconcile Q.name) := by
  refine bind (Q := fun found => ∃ status, found = some { Q with status := status })
    ?_ ?_
  · refine Fallible.sound_find fun S₁ hS₁ => ?_
    obtain ⟨status, hQ, -⟩ := hS₁.clusterQuota
    obtain ⟨hstate, hfound⟩ := Prod.mk.inj (run_find_getClusterQuota (S := S₁) hsrv Q.name)
    refine ⟨hstate.symm ▸ hS₁, fun found h => ⟨status, ?_⟩⟩
    rw [← hQ]
    exact (Except.ok.inj (hfound.symm.trans h)).symm
  · rintro _ ⟨status, rfl⟩
    rw [← inSync_withStatus status] at hS ⊢
    exact sound_reconcileQuota hsrv hS

end

section

variable {r : Reconciler} {srv : Apiserver} {Q : ClusterResourceQuota} {existing : List Namespace}
  {S : State} {ns : String} {usage : Quantities} {w w' : World}

lemma run_recordUsage (quotas : List ResourceQuota) :
    Program.run (serve srv) (recordUsage usage quotas).run S = (S, .ok ()) := by
  induction quotas with
  | nil => rfl
  | cons quota quotas ih => exact ih

lemma run_evaluate (hsrv : srv.Reads) :
    Program.run (serve srv) (evaluate ns usage).run S =
      (S, .ok (((S.listed ns labelClusterResourceQuotaAutoUpdate "true").filterMap S.shown).all
        fun quota => fits usage quota.status)) := by
  rw [evaluate, ExceptT.run_bind, Program.run_bind, run_getQuotas hsrv]
  dsimp only
  split_ifs with hfits
  · rw [ExceptT.run_bind, Program.run_bind, run_recordUsage, hfits]
    rfl
  · rw [Bool.not_eq_true] at hfits
    rw [hfits]
    rfl

lemma usageOf_cons (p : Pod) (pods : List Pod) (resource : String) :
    usageOf (p :: pods) resource = (p.usage[resource]?).getD 0 + usageOf pods resource := by
  simp [usageOf]

lemma fits_iff {status : ResourceQuotaStatus} :
    fits usage status = true ↔ ∀ resource hard, status.hard.entries[resource]? = some hard →
      status.used.quantity resource + (usage[resource]?).getD 0 ≤ hard := by
  simp only [fits, List.all_eq_true, Prod.forall, Std.ExtTreeMap.mem_toList_iff_getElem?_eq_some,
    decide_eq_true_eq]

lemma counted_iff {Q' : ClusterResourceQuota} (hQ : w.store.clusterQuotas.find? Q.name = some Q') :
    w.counted r Q = true ↔ ∀ resource hard, Q.spec.hard.entries[resource]? = some hard →
      w.total r Q resource ≤ Q'.status.used.quantity resource := by
  simp only [World.counted, hQ, Option.all_some, List.all_eq_true, Prod.forall,
    Std.ExtTreeMap.mem_toList_iff_getElem?_eq_some, decide_eq_true_eq]

structure World.Ordered (r : Reconciler) (srv : Apiserver) (Q : ClusterResourceQuota)
    (existing : List Namespace) (w : World) : Prop where
  inSync : InSync r Q existing w.store
  within : w.Within r Q
  passes : ∀ p ∈ w.passes, Program.Sound (serve srv) (InSync r Q existing) (fun _ => True) p

lemma fits_of_matches (hS : InSync r Q existing S) (hns : r.Matches Q existing ns)
    {Q' : ClusterResourceQuota} (hQ : S.clusterQuotas.find? Q.name = some Q')
    (hall : ((S.listed ns labelClusterResourceQuotaAutoUpdate "true").filterMap S.shown).all
      (fun quota => fits usage quota.status) = true) : fits usage Q'.status = true := by
  obtain ⟨owner, row, hrow, owner', howner', hkind, hname, -⟩ := hS.kept ns hns
  obtain ⟨e, he, hstatus⟩ :=
    exists_mem_getQuotas hrow.mem hrow.autoUpdate howner' hkind (hname ▸ hQ)
  rw [hrow.namespace] at he
  rw [← hstatus]
  exact List.all_eq_true.mp hall e he

lemma within_of_admit (hsrv : srv.Reads) (h : w.Ordered r srv Q existing)
    (hcounted : w.counted r Q = true) (hstep : w.step r srv Q (.admission ns usage) = some w') :
    w'.store = w.store ∧ w'.passes = w.passes ∧ w'.Within r Q := by
  simp only [World.step, run_evaluate hsrv] at hstep
  cases hall : ((w.store.listed ns labelClusterResourceQuotaAutoUpdate "true").filterMap
      w.store.shown).all (fun quota => fits usage quota.status) with
  | false =>
    rw [hall] at hstep
    cases hstep
  | true =>
    rw [hall] at hstep
    obtain rfl := Option.some.inj hstep
    refine ⟨rfl, rfl, fun resource hard hhard => ?_⟩
    by_cases hns : r.Matches Q w.store.namespaces ns
    · obtain ⟨status, hQ, hlimits⟩ := h.inSync.clusterQuota
      have hfits := fits_iff.mp
        (fits_of_matches h.inSync (h.inSync.namespaces ▸ hns) hQ hall) resource hard
        (by rw [hlimits, hhard])
      have htotal := (counted_iff hQ).mp hcounted resource hard hhard
      have hsum : World.total r Q { w with pods := ⟨ns, usage⟩ :: w.pods } resource =
          (usage[resource]?).getD 0 + w.total r Q resource := by
        unfold World.total
        rw [List.filter_cons_of_pos (by simpa using hns), usageOf_cons]
      omega
    · have hsum : World.total r Q { w with pods := ⟨ns, usage⟩ :: w.pods } resource =
          w.total r Q resource := by
        unfold World.total
        rw [List.filter_cons_of_neg (by simpa using hns)]
      rw [hsum]
      exact h.within resource hard hhard

lemma World.Ordered.step (hsrv : srv.Reads) (h : w.Ordered r srv Q existing) {a : Action}
    (ha : w.caughtUp r Q a = true) (hstep : w.step r srv Q a = some w') :
    w'.Ordered r srv Q existing := by
  cases a with
  | admission ns usage =>
    obtain ⟨hstore, hpasses, hwithin⟩ := within_of_admit hsrv h ha hstep
    exact ⟨hstore ▸ h.inSync, hwithin, hpasses ▸ h.passes⟩
  | recompute key =>
    obtain ⟨q, hq, rfl⟩ := Option.map_eq_some_iff.mp hstep
    obtain ⟨hmem, -⟩ := Table.find?_eq_some_iff.mp hq
    exact ⟨h.inSync.replace_status hmem _, h.within, h.passes⟩
  | start =>
    obtain rfl := Option.some.inj hstep
    refine ⟨h.inSync, h.within, fun p hp => ?_⟩
    rcases List.mem_append.mp hp with hp | hp
    · exact h.passes p hp
    · rw [List.mem_singleton.mp hp]
      exact Program.Sound.mono (sound_reconcile hsrv h.inSync) fun _ _ => trivial
  | call i =>
    simp only [World.step] at hstep
    cases hpass : w.passes[i]? with
    | none =>
      rw [hpass] at hstep
      cases hstep
    | some p =>
      rw [hpass] at hstep
      cases p with
      | done result => cases hstep
      | call c next =>
        obtain rfl := Option.some.inj hstep
        have hsound := h.passes _ (List.mem_of_getElem? hpass)
        obtain ⟨hinSync, hnext⟩ := hsound w.store h.inSync
        have hnamespaces : (serve srv w.store c).1.namespaces = w.store.namespaces :=
          hinSync.namespaces.trans h.inSync.namespaces.symm
        refine ⟨hinSync, fun resource hard hhard => ?_, fun p hp => ?_⟩
        · unfold World.total
          rw [hnamespaces]
          exact h.within resource hard hhard
        · obtain hp | rfl := List.mem_or_eq_of_mem_set hp
          · exact h.passes p hp
          · exact hnext

/-- In a run that starts in sync and admits each pod only while the status counts those before it,
the pods of the namespaces that match never use more than the limits, whatever is recomputed and
however the calls of any number of passes fall. -/
theorem aggregate_within_hard (r : Reconciler) (srv : Apiserver) (hsrv : srv.Reads)
    (Q : ClusterResourceQuota) (existing : List Namespace) (w : World)
    (h : ((World.system r srv Q existing).restrict fun w a => w.caughtUp r Q a = true).Reachable w)
    (resource : String) (hard : Int) (hhard : Q.spec.hard.entries[resource]? = some hard) :
    w.total r Q resource ≤ hard := by
  have hordered : w.Ordered r srv Q existing := by
    refine h.invariant (P := fun w => w.Ordered r srv Q existing) ?_ ?_
    · rintro w ⟨hinSync, -, hwithin, hpasses⟩
      refine ⟨hinSync, hwithin, fun p hp => ?_⟩
      rw [hpasses] at hp
      cases hp
    · rintro w a w' - hw ⟨hstep, ha⟩
      exact hw.step hsrv ha hstep
  exact hordered.within resource hard hhard

end

def somePods (n : Int) : Quantities := (∅ : Quantities).insert "pods" n

def pairQuota : ClusterResourceQuota where
  name := "kubezoo-tenant-quota-111111"
  uid := "1"
  spec := { hard := some (somePods 2) }
  namespaces := ["111111-web", "111111-db"]
  status := { hard := some (somePods 2), used := some (somePods 0) }

def pairRow (ns : String) : ResourceQuota where
  «namespace» := ns
  name := "quota"
  labels := plainReconciler.withLabels pairQuota ∅
  ownerReferences := [newControllerRef pairQuota]
  spec := pairQuota.spec
  status := pairQuota.status

def pairStart : World where
  store :=
    { clusterQuotas := Table.ofList [pairQuota]
      namespaces := [{ name := "111111-web" }, { name := "111111-db" }]
      quotas := Table.ofList [pairRow "111111-web", pairRow "111111-db"] }
  pods := []
  passes := []

lemma inSync_pairStart :
    InSync plainReconciler pairQuota [{ name := "111111-web" }, { name := "111111-db" }]
      pairStart.store := by
  have hrows : pairStart.store.quotas.rows = [pairRow "111111-web", pairRow "111111-db"] := by
    decide +kernel
  have hmem : ∀ q, q ∈ pairStart.store.quotas ↔ ∃ ns ∈ pairQuota.namespaces, q = pairRow ns := by
    intro q
    rw [← Table.mem_rows, hrows]
    simp [pairQuota]
  refine ⟨rfl, ⟨pairQuota.status, by decide +kernel, rfl⟩, fun ns hns => ?_, fun q hq _ => ?_⟩
  · have hns : ns ∈ pairQuota.namespaces := by
      obtain ⟨n, -, -, hselects | hns⟩ := hns
      · cases hselects
      · exact hns
    refine ⟨newControllerRef pairQuota, pairRow ns, ⟨(hmem _).mpr ⟨ns, hns, rfl⟩, rfl,
      carries_withLabels ∅, fun q hq hqns _ => ?_, autoUpdate_withLabels ∅,
      (by decide +kernel : pairQuota.spec.equals pairQuota.spec = true), rfl⟩,
      newControllerRef pairQuota, rfl, rfl, rfl, rfl⟩
    obtain ⟨ns', -, rfl⟩ := (hmem q).mp hq
    rw [show ns' = ns from hqns]
  · obtain ⟨ns, hns, rfl⟩ := (hmem q).mp hq
    obtain rfl | rfl : ns = "111111-web" ∨ ns = "111111-db" := by simpa [pairQuota] using hns
    · show plainReconciler.Matches pairQuota _ "111111-web"
      decide +kernel
    · show plainReconciler.Matches pairQuota _ "111111-db"
      decide +kernel

def pairSystem : Transition.System World Action :=
  World.system plainReconciler plainServer pairQuota
    [{ name := "111111-web" }, { name := "111111-db" }]

lemma init_pairStart : pairSystem.Init pairStart := by
  refine ⟨inSync_pairStart, by decide +kernel, fun resource hard hhard => ?_, rfl⟩
  have hhard : (somePods 2)[resource]? = some hard := hhard
  rw [somePods, Std.ExtTreeMap.getElem?_insert] at hhard
  split_ifs at hhard with hresource
  · rw [← Option.some.inj hhard]
    show (0 : Int) ≤ 2
    decide
  · simp at hhard

theorem aggregate_within_hard_pair :
    ∃ w, (pairSystem.restrict
        fun w a => w.caughtUp plainReconciler pairQuota a = true).Reachable w ∧
      w.pods.length = 2 ∧ w.total plainReconciler pairQuota "pods" ≤ 2 := by
  have hrun : (Transition.exec (fun (w : World) a =>
      if w.caughtUp plainReconciler pairQuota a then w.step plainReconciler plainServer pairQuota a
      else none) pairStart [.admission "111111-web" (somePods 1), .recompute ("111111-web", "quota"),
        .start, .call 0, .call 0, .call 0, .call 0, .call 0,
        .admission "111111-db" (somePods 1)]).map (·.pods.length) = some 2 := by
    decide +kernel
  obtain ⟨w, hw, hpods⟩ := Option.map_eq_some_iff.mp hrun
  have hreachable : (pairSystem.restrict
      fun w a => w.caughtUp plainReconciler pairQuota a = true).Reachable w :=
    Transition.reachable_of_exec_restrict (.init init_pairStart) hw
  exact ⟨w, hreachable, hpods, aggregate_within_hard plainReconciler plainServer reads_plainServer
    pairQuota _ w hreachable "pods" 2 (by decide +kernel)⟩

theorem aggregate_exceeds_hard :
    pairQuota.spec.hard.entries["pods"]? = some 2 ∧
    ∃ w, pairSystem.Reachable w ∧ w.total plainReconciler pairQuota "pods" = 3 := by
  have hrun : (Transition.exec (World.step plainReconciler plainServer pairQuota) pairStart
      [.admission "111111-web" (somePods 1), .admission "111111-db" (somePods 1),
        .admission "111111-web" (somePods 1)]).map
          (fun w => w.total plainReconciler pairQuota "pods") = some 3 := by
    decide +kernel
  obtain ⟨w, hw, htotal⟩ := Option.map_eq_some_iff.mp hrun
  exact ⟨by decide +kernel, w, Transition.reachable_of_exec (.init init_pairStart) hw, htotal⟩

end KubeZoo.Quota
