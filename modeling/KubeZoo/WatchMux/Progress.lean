import KubeZoo.WatchMux.Safety

/-! # Following one goroutine through a run -/

namespace KubeZoo
namespace WatchMux

open Transition

variable {β : Type}

inductive Kind
  | «open»
  | forward
  | follow
  | join
  | stopper
  | closer
deriving DecidableEq

def Task.kind : Task β → Kind
  | .open _ => .open
  | .forward _ _ => .forward
  | .follow _ => .follow
  | .join _ _ _ => .join
  | .stopper _ => .stopper
  | .closer _ => .closer

section

variable {c : Config β} {i : ℕ} {t t' : Task β} {choice : Choice β} {sh sh' : Shared β}
  {tasks started : List (Task β)}

lemma Move.kind (h : Move c sh tasks i t choice sh' t' started) : t'.kind = t.kind := by
  cases h <;> rfl

lemma Move.started_kind (h : Move c sh tasks i t choice sh' t' started) {u : Task β}
    (hu : u ∈ started) : (u.kind = .follow → t.opening = true) ∧
      (u.kind = .join → t.kind = .follow ∧ t.counted = true) ∧
      (u.kind = .forward → t.opening = true ∨ t.kind = .join ∧ t.counted = true) := by
  cases h with
  | «open» h =>
    cases h with
    | added h => cases h <;> simp_all [Task.kind, Task.opening]
    | _ => simp_all [Task.kind, Task.opening]
  | follow h =>
    cases h with
    | _ => simp_all [Task.kind, Task.counted]
  | join h =>
    cases h with
    | joined h => cases h <;> simp_all [Task.kind, Task.counted]
    | _ => simp_all
  | _ => simp_all

lemma getElem?_of_moved {j : ℕ} {u' : Task β} (h : (tasks.set j u' ++ started)[i]? = some t) :
    (i ≠ j ∧ tasks[i]? = some t) ∨ (i = j ∧ t = u') ∨ (tasks.length ≤ i ∧ t ∈ started) := by
  by_cases hi : i < tasks.length
  · rw [List.getElem?_append_left (by simpa using hi)] at h
    by_cases hij : j = i
    · subst hij
      rw [List.getElem?_set_self hi] at h
      cases h
      exact .inr (.inl ⟨rfl, rfl⟩)
    · rw [List.getElem?_set_ne hij] at h
      exact .inl ⟨fun h => hij h.symm, h⟩
  · rw [List.getElem?_append_right (by simpa using hi)] at h
    exact .inr (.inr ⟨by omega, List.mem_of_getElem? h⟩)

lemma getElem?_of_clientStop (h : (tasks ++ [.stopper (some .enter)])[i]? = some t) :
    tasks[i]? = some t ∨ t = .stopper (some .enter) := by
  by_cases hi : i < tasks.length
  · rw [List.getElem?_append_left hi] at h
    exact .inl h
  · rw [List.getElem?_append_right (by omega)] at h
    exact .inr (List.mem_singleton.mp (List.mem_of_getElem? h))

end

/-- Goroutine `i` moves. -/
def Moves (i : ℕ) (_ : State β) (a : Action β) : Prop := ∃ choice, a = .task i choice

section

variable {c : Config β} (r : Run (system c)) {n : ℕ} {i : ℕ} {t : Task β}

lemma getElem?_step {st st' : State β} {a : Action β} (h : step c st a = some st')
    (ht : st.tasks[i]? = some t) :
    st'.tasks[i]? = some t ∨ ∃ choice sh' t' started, a = .task i choice ∧
      Move c st.shared st.tasks i t choice sh' t' started ∧
      st' = ⟨sh', st.tasks.set i t' ++ started⟩ := by
  have hi : i < st.tasks.length := (List.getElem?_eq_some_iff.mp ht).1
  rcases step_cases h with ⟨j, choice, u, sh', u', started, rfl, hu, hm, rfl⟩ | ⟨-, -, rfl⟩
  · by_cases hij : j = i
    · subst hij
      rw [ht] at hu
      cases hu
      exact .inr ⟨choice, sh', u', started, rfl, hm, rfl⟩
    · left
      show (st.tasks.set j u' ++ started)[i]? = some t
      rw [List.getElem?_append_left (by simpa using hi), List.getElem?_set_ne hij]
      exact ht
  · left
    show (st.tasks ++ _)[i]? = some t
    rw [List.getElem?_append_left hi]
    exact ht

lemma getElem?_moved {tasks : List (Task β)} (ht : tasks[i]? = some t) (t' : Task β)
    (started : List (Task β)) : (tasks.set i t' ++ started)[i]? = some t' := by
  have hi : i < tasks.length := (List.getElem?_eq_some_iff.mp ht).1
  rw [List.getElem?_append_left (by simpa using hi), List.getElem?_set_self hi]

/-- Goroutine `i` takes the step `Move` from `t` at moment `n`. -/
structure MovesAt (n i : ℕ) (t t' : Task β) (choice : Choice β) : Prop where
  before : (r.state n).tasks[i]? = some t
  after : (r.state (n + 1)).tasks[i]? = some t'
  label : r.label n = some (.task i choice)
  move : ∃ started, Move c (r.state n).shared (r.state n).tasks i t choice
    (r.state (n + 1)).shared t' started ∧
      (r.state (n + 1)).tasks = (r.state n).tasks.set i t' ++ started

variable {choice : Choice β} {P : Task β → Prop} {m : ℕ}

lemma movesAt_of_label (hl : r.label n = some (.task i choice))
    (ht : (r.state n).tasks[i]? = some t) : ∃ t', MovesAt r n i t t' choice := by
  rcases r.next n with ⟨hnone, -⟩ | ⟨b, hb, hs⟩
  · rw [hl] at hnone
    cases hnone
  · rw [hl] at hb
    cases hb
    rcases step_cases hs with ⟨j, ch, u, sh', u', started, he, hu, hmv, hst⟩ | ⟨he, -⟩
    · cases he
      rw [ht] at hu
      cases hu
      refine ⟨u', ht, ?_, hl, started, ?_, ?_⟩
      · rw [hst]; exact getElem?_moved ht _ _
      · rw [hst]; exact hmv
      · rw [hst]
    · cases he

lemma stays_or_moves (hm : n ≤ m) (ht : (r.state n).tasks[i]? = some t) :
    (r.state m).tasks[i]? = some t ∨
      ∃ k, n ≤ k ∧ k < m ∧ ∃ t' choice, MovesAt r k i t t' choice := by
  induction m, hm using Nat.le_induction with
  | base => exact .inl ht
  | succ m hm ih =>
    rcases ih with hst | ⟨k, hk, hkm, hmv⟩
    · rcases r.next m with ⟨-, hs⟩ | ⟨a, ha, hs⟩
      · rw [hs]; exact .inl hst
      · rcases getElem?_step hs hst with h | ⟨choice, sh', t', started, rfl, -, -⟩
        · exact .inl h
        · obtain ⟨t', hmv⟩ := movesAt_of_label r ha hst
          exact .inr ⟨m, hm, by omega, t', choice, hmv⟩
    · exact .inr ⟨k, hk, by omega, hmv⟩

lemma moves_of_scheduled (ht : (r.state n).tasks[i]? = some t)
    (hsched : (∀ m, n ≤ m → (r.state m).tasks[i]? = some t) →
      ∃ m, n ≤ m ∧ ∃ choice, r.label m = some (.task i choice)) :
    ∃ m, n ≤ m ∧ ∃ t' choice, MovesAt r m i t t' choice := by
  by_contra hno
  push Not at hno
  have hall : ∀ m, n ≤ m → (r.state m).tasks[i]? = some t := by
    intro m hm
    refine (stays_or_moves r hm ht).resolve_right ?_
    rintro ⟨k, hk, -, t', choice, hmv⟩
    exact hno k hk t' choice hmv
  obtain ⟨m, hm, choice, hl⟩ := hsched hall
  obtain ⟨t', hmv⟩ := movesAt_of_label r hl (hall m hm)
  exact hno m hm t' choice hmv

lemma moves_of_ready {E : State β → Prop} (hf : r.WeakFair E (Moves i))
    (ht : (r.state n).tasks[i]? = some t)
    (hE : ∀ m, n ≤ m → (r.state m).tasks[i]? = some t → E (r.state m)) :
    ∃ m, n ≤ m ∧ ∃ t' choice, MovesAt r m i t t' choice := by
  refine moves_of_scheduled r ht fun hall => ?_
  obtain ⟨m, hm, a, ha, choice, rfl⟩ := hf n fun m hm => hE m hm (hall m hm)
  exact ⟨m, hm, choice, ha⟩

lemma MovesAt.toMove {r : Run (system c)} {t' : Task β} (h : MovesAt r n i t t' choice) :
    ∃ sh' started, Move c (r.state n).shared (r.state n).tasks i t choice sh' t' started := by
  obtain ⟨started, hm, -⟩ := h.move
  exact ⟨_, started, hm⟩

lemma task_stable
    (hP : ∀ {sh tasks t choice sh' t' started}, Move c sh tasks i t choice sh' t' started →
      P t → P t') (hm : n ≤ m) (ht : (r.state n).tasks[i]? = some t) (h : P t) :
    ∃ u, (r.state m).tasks[i]? = some u ∧ P u := by
  refine r.stable (P := fun st => ∃ u, st.tasks[i]? = some u ∧ P u) ?_ hm ⟨t, ht, h⟩
  rintro st a st' - ⟨u, hu, hPu⟩ hs
  rcases getElem?_step hs hu with h | ⟨choice, sh', u', started, -, hmv, rfl⟩
  · exact ⟨u, h, hPu⟩
  · exact ⟨u', getElem?_moved hu _ _, hP hmv hPu⟩

lemma exists_getElem? (hm : n ≤ m) (ht : (r.state n).tasks[i]? = some t) :
    ∃ u, (r.state m).tasks[i]? = some u := by
  obtain ⟨u, hu, -⟩ := task_stable r (P := fun _ => True) (fun _ h => h) hm ht trivial
  exact ⟨u, hu⟩

lemma kind_stable (hm : n ≤ m) (ht : (r.state n).tasks[i]? = some t) {u : Task β}
    (hu : (r.state m).tasks[i]? = some u) : u.kind = t.kind := by
  obtain ⟨v, hv, hk⟩ := task_stable r (P := fun v => v.kind = t.kind)
    (fun hmv hk => hmv.kind.trans hk) hm ht rfl
  rw [hu] at hv
  cases hv
  exact hk

theorem kind_eventually {k : Kind} (hk : k ≠ .stopper)
    (hnew : ∀ m, n ≤ m → ∀ j t choice sh' t' started, r.label m = some (.task j choice) →
      (r.state m).tasks[j]? = some t →
      Move c (r.state m).shared (r.state m).tasks j t choice sh' t' started →
      ∀ u ∈ started, u.kind ≠ k)
    (hall : ∀ (i : ℕ) (t : Task β), (r.state n).tasks[i]? = some t → t.kind = k →
      ∃ m, n ≤ m ∧ ∀ l, m ≤ l → ∀ u, (r.state l).tasks[i]? = some u → P u) :
    ∃ m, n ≤ m ∧ ∀ l, m ≤ l → ∀ t ∈ (r.state l).tasks, t.kind = k → P t := by
  -- the goroutines that are not there yet are of other kinds
  have hlate : ∀ m, n ≤ m → ∀ i, (r.state n).tasks.length ≤ i →
      ∀ t, (r.state m).tasks[i]? = some t → t.kind ≠ k := by
    intro m hm
    induction m, hm using Nat.le_induction with
    | base =>
      intro i hi t ht
      rw [List.getElem?_eq_none hi] at ht
      cases ht
    | succ m hm ih =>
      intro i hi t ht
      rcases r.next m with ⟨-, hs⟩ | ⟨a, ha, hs⟩
      · rw [hs] at ht; exact ih i hi t ht
      rcases step_cases hs with ⟨j, choice, u, sh', u', started, rfl, hu, hmv, hst⟩ | ⟨-, -, hst⟩
      · rw [hst] at ht
        rcases getElem?_of_moved ht with ⟨-, h⟩ | ⟨rfl, rfl⟩ | ⟨-, hmem⟩
        · exact ih i hi t h
        · rw [hmv.kind]; exact ih i hi u hu
        · exact hnew m hm j u choice sh' u' started ha hu hmv t hmem
      · rw [hst] at ht
        rcases getElem?_of_clientStop ht with ht | rfl
        · exact ih i hi t ht
        · exact hk.symm
  obtain ⟨m, hm, hfin⟩ := exists_forall_of_finite
    (P := fun i m => ∀ u, (r.state m).tasks[i]? = some u → u.kind = k → P u)
    (List.range (r.state n).tasks.length) (n := n) (by
      intro i hi
      obtain ⟨t, ht⟩ : ∃ t, (r.state n).tasks[i]? = some t :=
        ⟨_, List.getElem?_eq_getElem (by simpa using hi)⟩
      by_cases hkind : t.kind = k
      · obtain ⟨m, hm, h⟩ := hall i _ ht hkind
        exact ⟨m, hm, fun l hl u hu _ => h l hl u hu⟩
      · refine ⟨n, le_rfl, fun l hl u hu huk => ?_⟩
        exact absurd ((kind_stable r hl ht hu).symm.trans huk) hkind)
  refine ⟨m, hm, fun l hl t ht htk => ?_⟩
  obtain ⟨i, hi⟩ := List.mem_iff_getElem?.mp ht
  by_cases hlt : i < (r.state n).tasks.length
  · exact hfin l hl i (by simpa using hlt) t hi htk
  · exact absurd htk (hlate l (by omega) i (by omega) t hi)

end

end WatchMux
end KubeZoo
