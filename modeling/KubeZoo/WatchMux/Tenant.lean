import KubeZoo.WatchMux.ReplayEnd
import KubeZoo.Lib.Replica

/-! # A tenant's objects and namespaces over time -/

namespace KubeZoo

variable {β : Type}

def Event.key (event : Event β) : String × String :=
  match event.object.accessor with
  | none => ("", "")
  | some m => (m.namespace, m.name)

def Event.value (event : Event β) : Option (RuntimeObject β) :=
  if event.type = .deleted then none else some event.object

namespace History

def log (H : History β) : List (Event β) := H.events.map Prod.snd

/-- What a list at revision `v` returns. -/
def listAt (H : History β) (v : ℕ) : String × String → Option (RuntimeObject β) :=
  Replica.storeAt Event.key Event.value eventRevision H.log v

def now (H : History β) : String × String → Option (RuntimeObject β) :=
  Replica.replay Event.key Event.value (fun _ => none) H.log

def Placed (H : History β) : Prop :=
  ∀ h ∈ H.events, ∃ m body, h.2.object = .object m body ∧ m.namespace = h.1

variable {H : History β} {ns : String} {v : ℕ}

lemma log_ordered (H : History β) :
    H.log.Pairwise fun e e' => eventRevision e < eventRevision e' := by
  rw [log, List.pairwise_map]
  exact H.ordered

lemma Placed.key_fst (hp : H.Placed) {h : String × Event β} (hh : h ∈ H.events) :
    h.2.key.1 = h.1 := by
  obtain ⟨m, body, hobj, hns⟩ := hp h hh
  unfold Event.key
  rw [hobj]
  exact hns

lemma Placed.after_eq (hp : H.Placed) (ns : String) (v : ℕ) : H.after ns v =
    (H.log.filter fun e => decide (v < eventRevision e)).filter fun e => e.key.1 == ns := by
  rw [after, log, List.filter_filter, List.filter_map]
  congr 1
  refine List.filter_congr fun h hh => ?_
  show (h.1 == ns && decide (v < eventRevision h.2)) =
    (h.2.key.1 == ns && decide (v < eventRevision h.2))
  rw [hp.key_fst hh]

lemma Placed.key_of_mem_after (hp : H.Placed) {e : Event β} (he : e ∈ H.after ns v) :
    e.key.1 = ns := by
  rw [hp.after_eq, List.mem_filter] at he
  exact beq_iff_eq.mp he.2

theorem Placed.replay_after (hp : H.Placed) (v : ℕ) (ns name : String) :
    Replica.replay Event.key Event.value (H.listAt v) (H.after ns v) (ns, name) =
      H.now (ns, name) := by
  rw [hp.after_eq, Replica.replay_filter, listAt, Replica.replay_storeAt H.log_ordered]
  · rfl
  · intro e _ hk
    rw [hk]
    exact beq_self_eq_true ns

lemma listAt_eq_now (hv : 2 ^ 64 ≤ v) : H.listAt v = H.now := by
  unfold listAt now Replica.storeAt
  rw [List.filter_eq_self.mpr]
  intro e _
  have := eventRevision_lt e
  simp only [decide_eq_true_eq]
  omega

end History

structure Tenant (β : Type) where
  objects : History β
  namespaces : History β
  objects_placed : objects.Placed
  namespaces_placed : namespaces.Placed
  clusterScoped : ∀ h ∈ namespaces.events, h.1 = ""
  /-- An object is in a namespace that exists. -/
  housed : ∀ v ns name, namespaces.listAt v ("", ns) = none → objects.listAt v (ns, name) = none
  /-- A namespace is created when it does not exist. -/
  created : ∀ h ∈ namespaces.events, h.2.type = .added →
    namespaces.listAt (eventRevision h.2 - 1) h.2.key = none
  /-- A namespace is modified when it does. -/
  modified : ∀ h ∈ namespaces.events, h.2.type = .modified →
    namespaces.listAt (eventRevision h.2 - 1) h.2.key ≠ none
  /-- Each revision is one write. -/
  apart : ∀ h ∈ objects.events, ∀ n ∈ namespaces.events, eventRevision h.2 ≠ eventRevision n.2

namespace Tenant

variable {T : Tenant β} {v : ℕ} {ns : String}

/-- The namespace exists at the revision. -/
def existsAt (T : Tenant β) (v : ℕ) (ns : String) : Prop := T.namespaces.listAt v ("", ns) ≠ none

/-- The namespace is created after the revision. -/
def CreatedAfter (T : Tenant β) (v : ℕ) (ns : String) : Prop :=
  ∃ event ∈ T.namespaces.after "" v, event.type = .added ∧ event.key = ("", ns)

lemma listAt_of_created {event : Event β} (he : event ∈ T.namespaces.after "" v)
    (ha : event.type = .added) (hk : event.key = ("", ns)) (name : String) :
    T.objects.listAt (eventRevision event) (ns, name) = none := by
  obtain ⟨hmem, hlt⟩ := History.mem_after.mp he
  have hbefore : T.objects.listAt (eventRevision event - 1) (ns, name) = none := by
    refine T.housed _ ns name ?_
    rw [← hk]
    exact T.created _ hmem ha
  -- no object is written at the namespace's own revision
  have hsame : T.objects.log.filter (fun e => decide (eventRevision e ≤ eventRevision event)) =
      T.objects.log.filter (fun e => decide (eventRevision e ≤ eventRevision event - 1)) := by
    refine List.filter_congr fun e he => ?_
    obtain ⟨h, hh, rfl⟩ := List.mem_map.mp he
    have hne : eventRevision h.2 ≠ eventRevision event := T.apart h hh _ hmem
    by_cases hle : eventRevision h.2 ≤ eventRevision event - 1
    · simp only [hle]
      simpa using (by omega : eventRevision h.2 ≤ eventRevision event)
    · simp only [hle]
      simpa using (by omega : ¬ eventRevision h.2 ≤ eventRevision event)
  unfold History.listAt Replica.storeAt at hbefore ⊢
  rw [hsame]
  exact hbefore

lemma now_of_gone (h0 : ¬ T.existsAt v ns) (hc : ¬ T.CreatedAfter v ns) (name : String) :
    T.objects.now (ns, name) = none := by
  have hgone : T.namespaces.now ("", ns) = none := by
    by_contra hnow
    obtain ⟨e, he, hlt, hk, hval, hfree⟩ :=
      Replica.exists_write_of_appears T.namespaces.log_ordered (not_not.mp h0) hnow
    obtain ⟨h, hh, rfl⟩ := List.mem_map.mp he
    have hobj := T.namespaces.objects h hh
    have hmem : h.2 ∈ T.namespaces.after "" v := by
      rw [History.mem_after, ← T.clusterScoped h hh]
      exact ⟨hh, hlt⟩
    cases hty : h.2.type with
    | added => exact hc ⟨h.2, hmem, hty, hk⟩
    | modified => exact T.modified h hh hty (by rw [hk]; exact hfree)
    | deleted => exact hval (by rw [Event.value, if_pos hty])
    | bookmark => rw [Event.isObject, hty] at hobj; cases hobj
    | error => rw [Event.isObject, hty] at hobj; cases hobj
  rw [← History.listAt_eq_now (le_refl (2 ^ 64))] at hgone ⊢
  exact T.housed _ ns name hgone

lemma CreatedAfter.mono {v' : ℕ} (hv : v ≤ v') (h : T.CreatedAfter v' ns) :
    T.CreatedAfter v ns := by
  obtain ⟨event, he, ha, hk⟩ := h
  obtain ⟨hmem, hlt⟩ := History.mem_after.mp he
  exact ⟨event, History.mem_after.mpr ⟨hmem, by omega⟩, ha, hk⟩

end Tenant

end KubeZoo
