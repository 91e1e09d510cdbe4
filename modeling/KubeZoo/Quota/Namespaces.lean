import KubeZoo.Quota.Upstream

/-! # The namespaces of a cluster quota -/

namespace KubeZoo.Quota

open Calls Fallible Program

namespace Reconciler

variable {srv : Apiserver} {S S' : State} {Q : ClusterResourceQuota} {r : Reconciler}

def selects (r : Reconciler) (labelSelector : Option LabelSelector) (labels : StringMap) : Bool :=
  labelSelector.any fun l => (r.labelSelectorAsSelector l).toOption.any fun selector =>
    selector labels

/-- The namespace exists and is selected, or named, by the cluster quota. -/
def Matches (r : Reconciler) (Q : ClusterResourceQuota) (existing : List Namespace) (ns : String) :
    Prop :=
  ∃ n ∈ existing, n.name = ns ∧ (r.selects Q.namespaceSelector n.labels = true ∨ ns ∈ Q.namespaces)

instance (existing : List Namespace) (ns : String) : Decidable (r.Matches Q existing ns) :=
  inferInstanceAs (Decidable (∃ n ∈ existing, _))

/-- `LabelSelectorAsSelector`, where a nil selector selects nothing. -/
def asSelector (r : Reconciler) : Option LabelSelector → Except GoError (StringMap → Bool)
  | none => .ok fun _ => false
  | some l => r.labelSelectorAsSelector l

lemma selects_of_asSelector {labelSelector : Option LabelSelector} {selector : StringMap → Bool}
    (h : r.asSelector labelSelector = .ok selector) (labels : StringMap) :
    r.selects labelSelector labels = selector labels := by
  cases labelSelector with
  | none => exact congrFun (Except.ok.inj h) labels
  | some l =>
    have h : r.labelSelectorAsSelector l = .ok selector := h
    simp [selects, h, Except.toOption]

lemma run_find_getNamespace (hsrv : srv.Reads) (name : String) :
    run (serve srv) (Call.getNamespace name).find.run S =
      (S, .ok (S.namespaces.find? (·.name = name))) := run_find hsrv rfl rfl rfl

lemma run_existing (hsrv : srv.Reads) (names : List String) :
    run (serve srv) (existing names).run S =
      (S, .ok (names.filter fun name => (S.namespaces.find? (·.name = name)).isSome)) := by
  induction names with
  | nil => rfl
  | cons name names ih =>
    rw [existing, ExceptT.run_bind, run_bind, run_find_getNamespace hsrv, List.filter_cons]
    cases S.namespaces.find? (·.name = name) with
    | none => exact ih
    | some n =>
      show run (serve srv) (existing names >>= fun rest => pure (name :: rest)).run S = _
      rw [ExceptT.run_bind, run_bind, ih]
      rfl

lemma run_selected (hsrv : srv.Reads) (labelSelector : Option LabelSelector) :
    run (serve srv) (r.selected labelSelector).run S =
      (S, (r.asSelector labelSelector).map fun selector =>
        (S.namespaces.filter (selector ·.labels)).map Namespace.name) := by
  cases labelSelector with
  | none =>
    show (S, Except.ok []) = (S, Except.ok ((S.namespaces.filter fun _ => false).map Namespace.name))
    rw [List.filter_false, List.map_nil]
  | some l =>
    rw [selected, asSelector]
    cases r.labelSelectorAsSelector l with
    | error e => rfl
    | ok selector =>
      have hlist : run (serve srv) (Call.listNamespaces selector).send.run S =
          (S, .ok (S.namespaces.filter (selector ·.labels))) := serve_read hsrv rfl
      show run (serve srv) ((Call.listNamespaces selector).send >>= fun nsList =>
        pure (nsList.map Namespace.name)).run S = _
      rw [ExceptT.run_bind, run_bind, hlist]
      rfl

lemma run_getNamespaces (hsrv : srv.Reads) :
    ∃ namespaces : (StringMap → Bool) → List String,
      run (serve srv) (r.getNamespacesForClusterQuota Q).run S =
        (S, (r.asSelector Q.namespaceSelector).map namespaces) ∧
      ∀ selector, r.asSelector Q.namespaceSelector = .ok selector → (namespaces selector).Nodup ∧
        ∀ ns, ns ∈ namespaces selector ↔ r.Matches Q S.namespaces ns := by
  refine ⟨fun selector => ((S.namespaces.filter (selector ·.labels)).map Namespace.name ++
    Q.namespaces.filter fun name => (S.namespaces.find? (·.name = name)).isSome).dedup, ?_,
    fun selector hselector => ⟨List.nodup_dedup _, fun ns => ?_⟩⟩
  · rw [getNamespacesForClusterQuota, ExceptT.run_bind, run_bind, run_selected hsrv]
    cases r.asSelector Q.namespaceSelector with
    | error e => rfl
    | ok selector =>
      show run (serve srv) (existing Q.namespaces >>= fun names => pure _).run S = _
      rw [ExceptT.run_bind, run_bind, run_existing hsrv]
      rfl
  · simp only [List.mem_dedup, List.mem_append, List.mem_map, List.mem_filter, List.find?_isSome,
      decide_eq_true_eq, Matches, selects_of_asSelector hselector]
    constructor
    · rintro (⟨n, ⟨hn, hselects⟩, hname⟩ | ⟨hns, n, hn, hname⟩)
      · exact ⟨n, hn, hname, .inl hselects⟩
      · exact ⟨n, hn, hname, .inr hns⟩
    · rintro ⟨n, hn, hname, hselects | hns⟩
      · exact .inl ⟨n, ⟨hn, hselects⟩, hname⟩
      · exact .inr ⟨hns, n, hn, hname⟩

lemma succeeds_getNamespaces (hsrv : srv.Reads) {namespaces : List String}
    (h : Client.Succeeds (r.getNamespacesForClusterQuota Q) srv S S' namespaces) :
    S = S' ∧ namespaces.Nodup ∧ ∀ ns, ns ∈ namespaces ↔ r.Matches Q S.namespaces ns := by
  obtain ⟨namespaces', hrun, hmem⟩ := run_getNamespaces (r := r) (Q := Q) (S := S) hsrv
  obtain ⟨rfl, hok⟩ := Prod.mk.inj (hrun.symm.trans h.1)
  obtain ⟨selector, hselector, rfl⟩ := Except.map_eq_ok_iff.mp hok
  exact ⟨rfl, hmem selector hselector⟩

def ReadsNamespaces : Call → Prop
  | .listNamespaces _ | .getNamespace _ => True
  | _ => False

lemma only_getNamespaces (r : Reconciler) (Q : ClusterResourceQuota) :
    Program.Only ReadsNamespaces (r.getNamespacesForClusterQuota Q).run := by
  have hexisting : ∀ names, Program.Only ReadsNamespaces (existing names).run := by
    intro names
    induction names with
    | nil => exact only_pure
    | cons name names ih =>
      refine only_bind (only_find trivial) fun found => ?_
      cases found with
      | none => exact ih
      | some _ => exact only_bind ih fun _ => only_pure
  have hselected : Program.Only ReadsNamespaces (r.selected Q.namespaceSelector).run := by
    cases Q.namespaceSelector with
    | none => exact only_pure
    | some l =>
      refine only_bind only_ofExcept fun selector => ?_
      exact only_bind (only_send trivial) fun _ => only_pure
  exact only_bind hselected fun _ =>
    only_bind (hexisting _) fun _ => only_pure

end Reconciler

end KubeZoo.Quota
