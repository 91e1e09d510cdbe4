import KubeZoo.Projection.Model

/-! # The copies of a record -/

namespace KubeZoo

open Cluster

open Calls (Program)
open Cluster (serve)

def asCopy (record b : Binding) : Binding :=
  { record with
    metadata := { record.metadata with
      «namespace» := b.metadata.namespace, uid := b.metadata.uid
      resourceVersion := b.metadata.resourceVersion }
    body := { record.body with
      deletionTimestamp := b.body.deletionTimestamp, creationTimestamp := b.body.creationTimestamp
      managedFields := b.body.managedFields } }

def CopyOf (record b : Binding) : Prop := asCopy record b = b

lemma CopyOf.fields {record b : Binding} (h : CopyOf record b) :
    b.metadata.name = record.metadata.name ∧ b.body.roleRef = record.body.roleRef ∧
      b.body.subjects = record.body.subjects ∧ b.metadata.labels = record.metadata.labels ∧
      b.metadata.annotations = record.metadata.annotations ∧
      b.body.finalizers = record.body.finalizers := by
  rw [← show asCopy record b = b from h]
  exact ⟨rfl, rfl, rfl, rfl, rfl, rfl⟩

variable {S : Cluster} {srv : Apiserver} {record b : Binding} {ns name : String}

namespace Cluster

def copyIn (S : Cluster) (record : Binding) (ns : String) : Cluster :=
  match S.binding ns record.metadata.name with
  | none =>
    S.set ns record.metadata.name
      (some (S.created ns record.metadata.name (Projection.copied record ns "")))
  | some b =>
    if b.body.roleRef = record.body.roleRef then
      (S.commit ns record.metadata.name b (asCopy record b)).1
    else S

def remove (S : Cluster) (ns name : String) : Cluster := (S.delete ns name {}).1

lemma admitUpdate_copied (h : b.body.roleRef = record.body.roleRef) :
    admitUpdate b (Projection.copied record ns b.metadata.resourceVersion) =
      .ok (asCopy record b) := by
  unfold admitUpdate Projection.copied asCopy
  simp [h]

lemma admitUpdate_copied_of_ne (ns : String) (h : b.body.roleRef ≠ record.body.roleRef) :
    ∃ e, admitUpdate b (Projection.copied record ns b.metadata.resourceVersion) = .error e := by
  unfold admitUpdate Projection.copied
  simp only [ne_eq, not_true_eq_false, and_false]
  rw [if_pos (fun heq => h heq.symm)]
  exact ⟨_, rfl⟩

lemma binding_copyIn_of_none (h : S.binding ns record.metadata.name = none) :
    ∃ b, (S.copyIn record ns).binding ns record.metadata.name = some b ∧ CopyOf record b ∧
      b.body.deletionTimestamp = false := by
  refine ⟨S.created ns record.metadata.name (Projection.copied record ns ""), ?_, rfl, rfl⟩
  unfold copyIn
  rw [h]
  exact binding_set_self

lemma binding_copyIn_of_some (h : S.binding ns record.metadata.name = some b)
    (hrole : b.body.roleRef = record.body.roleRef)
    (hkept : b.body.deletionTimestamp = true → record.body.finalizers ≠ []) :
    ∃ b', (S.copyIn record ns).binding ns record.metadata.name = some b' ∧ CopyOf record b' ∧
      b'.body.deletionTimestamp = b.body.deletionTimestamp := by
  unfold copyIn
  rw [h]
  simp only [if_pos hrole]
  unfold commit
  rw [if_neg fun hempty => hkept hempty.1 hempty.2]
  split_ifs with heq
  · exact ⟨b, h, heq, rfl⟩
  · exact ⟨_, binding_set_self, rfl, rfl⟩

lemma sameOutside_copyIn :
    SameOutside (fun ns' name' => ns' = ns ∧ name' = record.metadata.name) S
      (S.copyIn record ns) := by
  unfold copyIn
  split
  · exact sameOutside_set
  · split_ifs
    · unfold commit
      split_ifs
      · exact sameOutside_set
      · exact .refl _ _
      · exact sameOutside_set
    · exact .refl _ _

lemma binding_remove (ns name : String) :
    (S.remove ns name).binding ns name = none ∧
      (∀ b, S.binding ns name = some b → b.body.finalizers = []) ∨
    ∃ old b, S.binding ns name = some old ∧ old.body.finalizers ≠ [] ∧
      (S.remove ns name).binding ns name = some b ∧ b.body.deletionTimestamp = true ∧
      b.body.finalizers = old.body.finalizers ∧ (old.body.deletionTimestamp = true → b = old) := by
  unfold remove
  obtain ⟨hnone, h⟩ | ⟨old, hold, _, ⟨hdry, _⟩ | ⟨_, hempty, h⟩ | ⟨hmark, hne, h⟩ | ⟨_, hne, hold', h⟩⟩ :=
    delete_cases S ns name {}
  · left
    rw [h, hnone]
    exact ⟨rfl, fun _ hb => nomatch hb⟩
  · cases hdry
  · left
    rw [h, hold]
    refine ⟨binding_set_self, fun b hb => ?_⟩
    rw [← Option.some.inj hb]
    exact (List.append_eq_nil_iff.mp hempty).1
  · right
    rw [h]
    exact ⟨old, old, hold, hne, hold, hmark, rfl, fun _ => rfl⟩
  · right
    rw [h]
    have hfinalizers : old.body.finalizers ++ ({} : DeleteOptions).propagation.toList =
        old.body.finalizers := List.append_nil _
    rw [hfinalizers] at hne h ⊢
    refine ⟨old, S.marked old old.body.finalizers, hold, hne, binding_set_self, rfl, rfl, ?_⟩
    exact fun hmark => absurd rfl (hold' hmark)

lemma sameOutside_remove :
    SameOutside (fun ns' name' => ns' = ns ∧ name' = name) S (S.remove ns name) :=
  sameOutside_delete {}

end Cluster

namespace Projection

variable {p : Projection} {names : List String}

lemma namespacesOf_ok (h : names.length ≤ maxFannedNamespaces) :
    p.namespacesOf (.ok names) = .ok (sortStrings names) := by
  unfold namespacesOf tenantNamespaces
  have hlen : ¬ names.length > maxFannedNamespaces := not_lt.mpr h
  simp [Except.map, hlen, pure, Except.pure, bind, Except.bind]

lemma namespacesOf_error (h : maxFannedNamespaces < names.length) :
    p.namespacesOf (.ok names) = .error (tooManyNamespaces names.length) := by
  unfold namespacesOf tenantNamespaces
  simp [Except.map, h, bind, Except.bind, throw, throwThe, MonadExceptOf.throw]

lemma mem_sortStrings : ns ∈ sortStrings names ↔ ns ∈ names :=
  (sortStrings_perm names).mem_iff

variable (hsrv : srv.Permits)

include hsrv

lemma run_copyInto (hrecord : record.metadata.name = name) (hname : name ≠ "") :
    ((p.copyInto record name ns).run (serve srv) S).1 =
      if ns = p.upstreamRecord then S else S.copyIn record ns := by
  subst hrecord
  unfold copyInto copyIn
  split_ifs with hns
  · rfl
  rw [Call.run_ask_bind hsrv]
  cases hb : S.binding ns record.metadata.name with
  | none =>
    have hcreate : S.answer srv (.create ns (copied record ns "") {}) = _ :=
      create_of_none (b := copied record ns "") hname rfl hb
    rw [hcreate]
    rfl
  | some b =>
    obtain ⟨e, he⟩ : ∃ e, S.answer srv (.create ns (copied record ns "") {}) = (S, .error e) :=
      create_of_some (b := copied record ns "") hname hb
    have hupdate : (S.answer srv (.update ns (copied record ns b.metadata.resourceVersion) {})).1 =
          if b.body.roleRef = record.body.roleRef then
            (S.commit ns record.metadata.name b (asCopy record b)).1 else S := by
      show (S.update srv ns (copied record ns b.metadata.resourceVersion) false).1 = _
      by_cases hrole : b.body.roleRef = record.body.roleRef
      · rw [if_pos hrole, update_of_admitted (b := copied record ns _) hb
          (admitUpdate_copied hrole)]
        rfl
      · obtain ⟨e, he⟩ := admitUpdate_copied_of_ne ns hrole
        rw [if_neg hrole, update_of_refused (b := copied record ns _) hb he]
    rw [he]
    show Prod.fst (Program.run (serve srv) ((Call.get ns record.metadata.name).ask >>= _) S) = _
    rw [Call.run_ask_bind hsrv, answer_get_of_some hb]
    show Prod.fst (Program.run (serve srv) ((Call.update ns _ {}).ask >>= _) S) = _
    rw [Call.run_ask_bind hsrv]
    exact hupdate

section

lemma run_project_of_none (h : S.binding p.upstreamRecord name = none) :
    ((p.project name).run (serve srv) S).1 = S := by
  unfold project
  rw [Call.run_ask_bind hsrv, answer_listNamespaces]
  cases p.namespacesOf (.ok S.namespaces) with
  | error e => rfl
  | ok namespaces =>
    show Prod.fst (Program.run (serve srv) ((Call.get p.upstreamRecord name).ask >>= _) S) = S
    rw [Call.run_ask_bind hsrv, answer_get_of_none h]
    rfl

lemma run_project_of_many (h : maxFannedNamespaces < S.namespaces.length) :
    ((p.project name).run (serve srv) S).1 = S := by
  unfold project
  rw [Call.run_ask_bind hsrv, answer_listNamespaces]
  rw [namespacesOf_error h]
  rfl

variable (hlen : S.namespaces.length ≤ maxFannedNamespaces) (hS : S.Keyed)
  (hrecord : S.binding p.upstreamRecord name = some record)

include hlen hrecord in
lemma run_project_of_some :
    ((p.project name).run (serve srv) S).1 =
      ((forM (sortStrings S.namespaces) (p.copyInto record name)).run (serve srv) S).1 := by
  unfold project
  rw [Call.run_ask_bind hsrv, answer_listNamespaces]
  rw [namespacesOf_ok hlen]
  show Prod.fst (Program.run (serve srv) ((Call.get p.upstreamRecord name).ask >>= _) S) = _
  rw [Call.run_ask_bind hsrv, answer_get_of_some hrecord]

include hS hrecord in
lemma run_copyInto_record (S' : Cluster) (ns : String) :
    ((p.copyInto record name ns).run (serve srv) S').1 =
      if ns = p.upstreamRecord then S' else S'.copyIn record ns :=
  run_copyInto hsrv (hS _ _ _ hrecord).1 (hS _ _ _ hrecord).2

include hS in
lemma sameOutside_project (name : String) :
    Cluster.SameOutside (fun ns name' => ns ∈ S.namespaces ∧ ns ≠ p.upstreamRecord ∧ name' = name) S
      ((p.project name).run (serve srv) S).1 := by
  cases hr : S.binding p.upstreamRecord name with
  | none =>
    rw [run_project_of_none hsrv hr]
    exact .refl _ _
  | some record =>
    by_cases hlen : S.namespaces.length ≤ maxFannedNamespaces
    · rw [run_project_of_some hsrv hlen hr]
      refine Program.run_forM_keeps (I := fun S' => Cluster.SameOutside _ S S')
        (fun S' hS' ns hns => ?_) (.refl _ _)
      rw [run_copyInto_record hsrv hS hr]
      split_ifs with hrec
      · exact hS'
      · refine hS'.trans (sameOutside_copyIn.mono ?_)
        rintro ns' name' ⟨rfl, rfl⟩
        exact ⟨mem_sortStrings.mp hns, hrec, (hS _ _ _ hr).1⟩
    · rw [run_project_of_many hsrv (not_le.mp hlen)]
      exact .refl _ _

include hlen hS hrecord

lemma binding_project (hns : ns ∈ S.namespaces) (hne : ns ≠ p.upstreamRecord) :
    ∃ S₁ : Cluster, S₁.binding ns name = S.binding ns name ∧
      ((p.project name).run (serve srv) S).1.binding ns name =
        (S₁.copyIn record ns).binding ns name := by
  rw [run_project_of_some hsrv hlen hrecord]
  have hown : ∀ (S' : Cluster) (ns ns' : String), ns' ≠ ns →
      ((p.copyInto record name ns).run (serve srv) S').1.binding ns' name = S'.binding ns' name := by
    intro S' ns ns' hne'
    rw [run_copyInto_record hsrv hS hrecord]
    split_ifs
    · rfl
    · exact sameOutside_copyIn.binding ns' name fun h => hne' h.1
  obtain ⟨S₁, hget, hrun⟩ := Program.run_forM_own (s := S) (serve srv) (p.copyInto record name)
    (fun S ns => S.binding ns name) hown ((sortStrings_perm _).nodup_iff.mpr S.nodup)
    (mem_sortStrings.mpr hns)
  rw [run_copyInto_record hsrv hS hrecord, if_neg hne] at hrun
  exact ⟨S₁, hget, hrun⟩

lemma copies_project (hmark : record.body.deletionTimestamp = false)
    (hcopies : ∀ ns ∈ S.namespaces, ns ≠ p.upstreamRecord → ∀ b, S.binding ns name = some b →
      b.body.roleRef = record.body.roleRef ∧ b.body.deletionTimestamp = false)
    (hns : ns ∈ S.namespaces) :
    ∃ b, ((p.project name).run (serve srv) S).1.binding ns name = some b ∧ CopyOf record b ∧
      b.body.deletionTimestamp = false := by
  by_cases hne : ns = p.upstreamRecord
  · subst hne
    refine ⟨record, ?_, rfl, hmark⟩
    rw [(sameOutside_project hsrv hS name).binding _ _ fun h => h.2.1 rfl]
    exact hrecord
  · obtain ⟨S₁, hget, hrun⟩ := binding_project hsrv hlen hS hrecord hns hne
    have hname := (hS _ _ _ hrecord).1
    rw [hrun, ← hname]
    cases hb : S₁.binding ns record.metadata.name with
    | none => exact binding_copyIn_of_none hb
    | some b =>
      obtain ⟨hrole, hunmarked⟩ := hcopies ns hns hne b (by rw [← hget, ← hname, hb])
      obtain ⟨b', hb', hcopy, hmark'⟩ := binding_copyIn_of_some hb hrole
        fun h => absurd (hunmarked.symm.trans h) Bool.false_ne_true
      exact ⟨b', hb', hcopy, hmark'.trans hunmarked⟩

end

section

lemma run_removeFrom :
    ((removeFrom name ns).run (serve srv) S).1 = S.remove ns name := by
  unfold removeFrom
  rw [Call.run_ask_bind hsrv]
  rfl

lemma run_unproject_of_many (h : maxFannedNamespaces < S.namespaces.length) :
    ((p.unproject name).run (serve srv) S).1 = S := by
  unfold unproject
  rw [Call.run_ask_bind hsrv, answer_listNamespaces]
  rw [namespacesOf_error h]
  rfl

variable (hlen : S.namespaces.length ≤ maxFannedNamespaces)

include hlen in
lemma run_unproject :
    ((p.unproject name).run (serve srv) S).1 =
      ((forM (sortStrings S.namespaces) (removeFrom name)).run (serve srv) S).1 := by
  unfold unproject
  rw [Call.run_ask_bind hsrv, answer_listNamespaces]
  rw [namespacesOf_ok hlen]

lemma sameOutside_unproject (name : String) :
    Cluster.SameOutside (fun ns name' => ns ∈ S.namespaces ∧ name' = name) S
      ((p.unproject name).run (serve srv) S).1 := by
  by_cases hlen : S.namespaces.length ≤ maxFannedNamespaces
  · rw [run_unproject hsrv hlen]
    refine Program.run_forM_keeps (I := fun S' => Cluster.SameOutside _ S S')
      (fun S' hS' ns hns => ?_) (.refl _ _)
    rw [run_removeFrom hsrv]
    refine hS'.trans (sameOutside_remove.mono fun ns' name' h => ?_)
    exact ⟨h.1 ▸ mem_sortStrings.mp hns, h.2⟩
  · rw [run_unproject_of_many hsrv (not_le.mp hlen)]
    exact .refl _ _

include hlen

lemma binding_unproject (hns : ns ∈ S.namespaces) :
    ∃ S₁ : Cluster, S₁.binding ns name = S.binding ns name ∧
      ((p.unproject name).run (serve srv) S).1.binding ns name =
        (S₁.remove ns name).binding ns name := by
  rw [run_unproject hsrv hlen]
  have hown : ∀ (S' : Cluster) (ns ns' : String), ns' ≠ ns →
      ((removeFrom name ns).run (serve srv) S').1.binding ns' name = S'.binding ns' name := by
    intro S' ns ns' hne
    rw [run_removeFrom hsrv]
    exact sameOutside_remove.binding ns' name fun h => hne h.1
  obtain ⟨S₁, hget, hrun⟩ := Program.run_forM_own (s := S) (serve srv) (removeFrom name)
    (fun S ns => S.binding ns name) hown ((sortStrings_perm _).nodup_iff.mpr S.nodup)
    (mem_sortStrings.mpr hns)
  rw [run_removeFrom hsrv] at hrun
  exact ⟨S₁, hget, hrun⟩

lemma gone_unproject
    (hempty : ∀ ns ∈ S.namespaces, ∀ b, S.binding ns name = some b → b.body.finalizers = [])
    (hns : ns ∈ S.namespaces) : ((p.unproject name).run (serve srv) S).1.binding ns name = none := by
  obtain ⟨S₁, hget, hrun⟩ := binding_unproject (p := p) hsrv hlen hns
  rw [hrun]
  obtain ⟨hnone, _⟩ | ⟨old, _, hold, hne, _⟩ := binding_remove (S := S₁) ns name
  · exact hnone
  · exact absurd (hempty ns hns old (hget ▸ hold)) hne

end

end Projection

end KubeZoo
