import KubeZoo.Lib.Watcher
import KubeZoo.WatchMux.Liveness

/-! # The multiplexer as a watcher -/

namespace KubeZoo
namespace WatchMux

open Transition

variable {β : Type}

/-- The call of `Stop` from outside has returned, if the goroutine is one. -/
def Task.back : Task β → Bool
  | .stopper (some _) => false
  | _ => true

def handed (st : State β) (i : ℕ) : Choice β → Option (Event β)
  | .deliver => (st.tasks[i]?).bind Task.offered
  | _ => none

def watcher (c : Config β) : Watcher (Event β) where
  State := State β
  Action := ℕ × Choice β
  Init st := st = initial c
  step st a := step c st (.task a.1 a.2)
  call st := step c st .clientStop
  gives st a := handed st a.1 a.2
  ready st := st.shared.returned
  calls st := st.tasks.countP fun t => t.kind == .stopper
  returned st := st.tasks.all Task.back
  closed st := st.shared.closed
  panicked st := st.shared.panicked
  ended st := st.shared.closed = true ∧ ∀ t ∈ st.tasks, t.counted = false

def action : Option (ℕ × Choice β) → Action β
  | some a => .task a.1 a.2
  | none => .clientStop

variable {c : Config β}

lemma next_eq (st : State β) (a : Option (ℕ × Choice β)) :
    (watcher c).next st a = step c st (action a) := by
  cases a <;> rfl

def asMux (r : Run (watcher c).system) : Run (system c) :=
  r.view (fun st : State β => st) (fun _ a => some (action a)) (fun _ h => h)
    fun st a _ h => .inr ⟨action a, rfl, (next_eq st a).symm.trans h⟩

variable (c) in
/-- A fair run of the multiplexer that the watcher is on. -/
def FairWatch (r : Run (watcher c).system) : Prop := Fair c (asMux r)

variable {st st' : State β}

lemma reachable_of_watcher (h : (watcher c).system.Reachable st) : (system c).Reachable st := by
  induction h with
  | init h => exact .init h
  | @step s s' a h hs ih => exact ih.step (a := action a) ((next_eq s a).symm.trans hs)

section

variable {r : Run (system c)} {n i : ℕ}

lemma Move.started_ne_stopper {sh sh' : Shared β} {tasks started : List (Task β)} {t t' : Task β}
    {choice : Choice β} (h : Move c sh tasks i t choice sh' t' started) {u : Task β}
    (hu : u ∈ started) : u.kind ≠ .stopper := by
  rcases h.started_cases hu with ⟨_, _, rfl⟩ | rfl | ⟨_, _, rfl⟩ | rfl
  all_goals nofun

lemma Safe.enter_of_done (hi : Safe st) (hd : st.shared.stopOnce = .done)
    {p : StopPc} {t : Task β} (ht : st.tasks[i]? = some t) (hp : t.stopPc = some p) :
    p = .enter := by
  have hs := hi.stop
  unfold StopInv at hs
  rw [hd, hi.stop_of_done hd] at hs
  have hnone : ∀ q, st.tasks.countP (Task.stopping q) = 0 → p ≠ q := by
    rintro q hq rfl
    have hpos := countP_pos_of_getElem? (Task.stopping p) ht (by simp [Task.stopping, hp])
    omega
  cases p with
  | enter => rfl
  | close => exact absurd rfl (hnone _ hs.1)
  | teardown => exact absurd rfl (hnone _ hs.2)

lemma stopper_returns (hf : Fair c r) {p : StopPc}
    (ht : (r.state n).tasks[i]? = some (.stopper (some p))) :
    ∃ m, n ≤ m ∧ (r.state m).tasks[i]? = some (.stopper none) := by
  obtain ⟨k, hk, hdone⟩ := stopOnce_done hf ht rfl
  obtain ⟨u, hu⟩ := exists_getElem? r hk ht
  have hkind := kind_stable r hk ht hu
  cases u with
  | stopper q =>
    cases q with
    | none => exact ⟨k, hk, hu⟩
    | some q =>
      have hq : q = .enter := (safe_of_reachable (r.reachable k)).enter_of_done hdone hu rfl
      obtain ⟨m, hm, t', choice, hmv⟩ := moves_of_ready r (hf.scheduled i) hu fun m hm hum =>
        ready_of_stopPc hum rfl fun _ => by rw [stopOnce_stable hdone hm]; nofun
      have hd := stopOnce_stable hdone hm
      obtain ⟨sh', started, hmove⟩ := hmv.toMove
      have hafter := hmv.after
      cases hmove with
      | stopper h =>
        subst hq
        cases h with
        | first hfresh => rw [hd] at hfresh; cases hfresh
        | late _ => exact ⟨m + 1, by omega, hafter⟩
  | _ => cases hkind

end

lemma countP_stopper_step {a : ℕ × Choice β} (h : step c st (.task a.1 a.2) = some st') :
    st'.tasks.countP (fun t => t.kind == .stopper) =
      st.tasks.countP fun t => t.kind == .stopper := by
  rcases step_cases h with ⟨i, choice, t, sh', t', started, -, ht, hm, rfl⟩ | ⟨hc, -⟩
  · have hcount := countP_step (fun t : Task β => t.kind == .stopper) ht t' started
    have hstarted : started.countP (fun t : Task β => t.kind == .stopper) = 0 :=
      List.countP_eq_zero.mpr fun u hu => by simpa using hm.started_ne_stopper hu
    rw [hm.kind] at hcount
    show (st.tasks.set i t' ++ started).countP _ = _
    omega
  · cases hc

lemma call_eq_some (h : (watcher c).call st = some st') :
    st.shared.returned = true ∧ st' = { st with tasks := st.tasks ++ [.stopper (some .enter)] } := by
  have hstep : step c st .clientStop = some st' := h
  rcases step_cases hstep with ⟨i, choice, t, sh', t', started, hc, -⟩ | ⟨-, hreturned, hst⟩
  · cases hc
  · exact ⟨hreturned, hst⟩

section

variable {r : Run (watcher c).system} {n i : ℕ}

lemma call_at (hn : r.label n = some none) :
    (watcher c).call (r.state n) = some (r.state (n + 1)) := by
  rcases r.next n with ⟨hnone, -⟩ | ⟨a, ha, hs⟩
  · rw [hn] at hnone
    cases hnone
  · rw [hn] at ha
    cases ha
    exact hs

lemma only_stopper (honce : (watcher c).StoppedOnce r)
    (hi : ∃ t, (State.tasks (r.state n))[i]? = some t ∧ t.kind = .stopper)
    (honly : ∀ j t, (State.tasks (r.state n))[j]? = some t → t.kind = .stopper → j = i) {m : ℕ}
    (hm : n ≤ m) : ∀ j t, (State.tasks (r.state m))[j]? = some t → t.kind = .stopper → j = i := by
  have hboth : (∃ t, (State.tasks (r.state m))[i]? = some t ∧ t.kind = .stopper) ∧
      ∀ j t, (State.tasks (r.state m))[j]? = some t → t.kind = .stopper → j = i := by
    induction m, hm using Nat.le_induction with
    | base => exact ⟨hi, honly⟩
    | succ m hm ih =>
      obtain ⟨⟨u, hu, huk⟩, honly⟩ := ih
      rcases r.next m with ⟨-, hs⟩ | ⟨a, ha, hs⟩
      · rw [hs]
        exact ⟨⟨u, hu, huk⟩, honly⟩
      · cases a with
        | none =>
          -- A second call would find the first one counted.
          have hzero : (State.tasks (r.state m)).countP (fun t => t.kind == .stopper) = 0 := honce m ha
          have hpos := countP_pos_of_getElem? (fun t : Task β => t.kind == .stopper) hu
            (by simpa using huk)
          omega
        | some a =>
          have hstep : step c (r.state m) (.task a.1 a.2) = some (r.state (m + 1)) := hs
          rcases step_cases hstep with ⟨k, choice, t, sh', t', started, -, ht, hmv, hst⟩ | ⟨hc, -⟩
          · rw [hst]
            constructor
            · by_cases hki : k = i
              · subst hki
                rw [ht] at hu
                cases hu
                exact ⟨t', getElem?_moved ht _ _, hmv.kind.trans huk⟩
              · have hlt : i < (State.tasks (r.state m)).length :=
                  (List.getElem?_eq_some_iff.mp hu).1
                refine ⟨u, ?_, huk⟩
                rw [List.getElem?_append_left (by simpa using hlt), List.getElem?_set_ne hki]
                exact hu
            · intro j w hw hwk
              rcases getElem?_of_moved hw with ⟨-, h⟩ | ⟨rfl, rfl⟩ | ⟨-, hmem⟩
              · exact honly j w h hwk
              · exact honly j t ht (hmv.kind.symm.trans hwk)
              · exact absurd hwk (hmv.started_ne_stopper hmem)
          · cases hc
  exact hboth.2

lemma stopper_none_stays {r : Run (system c)} (h : (r.state n).tasks[i]? = some (.stopper none))
    {m : ℕ} (hm : n ≤ m) : (r.state m).tasks[i]? = some (.stopper none) := by
  rcases stays_or_moves r hm h with h | ⟨k, -, -, t', choice, hmv⟩
  · exact h
  · obtain ⟨sh', started, hmove⟩ := hmv.toMove
    cases hmove

lemma returns_of_stop (hf : FairWatch c r) (honce : (watcher c).StoppedOnce r)
    (hn : r.label n = some none) :
    ∃ m, n ≤ m ∧ ∀ k, m ≤ k → (State.tasks (r.state k)).all Task.back = true := by
  have hzero : (State.tasks (r.state n)).countP (fun t => t.kind == .stopper) = 0 := honce n hn
  have hnone : ∀ t ∈ State.tasks (r.state n), t.kind ≠ .stopper := fun t ht => by
    simpa using List.countP_eq_zero.mp hzero t ht
  obtain ⟨i, hi, honly⟩ : ∃ i : ℕ,
      (State.tasks (r.state (n + 1)))[i]? = some (Task.stopper (some .enter) : Task β) ∧
      ∀ (j : ℕ) (t : Task β), (State.tasks (r.state (n + 1)))[j]? = some t →
        t.kind = .stopper → j = i := by
    rw [(call_eq_some (call_at hn)).2]
    refine ⟨(State.tasks (r.state n)).length, List.getElem?_concat_length, fun j t ht hk => ?_⟩
    by_contra hne
    rw [List.getElem?_append] at ht
    split_ifs at ht with hlt
    · exact hnone t (List.mem_of_getElem? ht) hk
    · rw [List.getElem?_eq_none (by simp; omega)] at ht
      cases ht
  obtain ⟨m, hm, hback⟩ := stopper_returns (r := asMux r) hf hi
  refine ⟨m, by omega, fun k hk => List.all_eq_true.mpr fun t ht => ?_⟩
  obtain ⟨j, hj⟩ := List.mem_iff_getElem?.mp ht
  cases t with
  | stopper q =>
    have hji := only_stopper honce ⟨_, hi, rfl⟩ honly (by omega) j _ hj rfl
    have hstays := stopper_none_stays (r := asMux r) hback hk
    rw [← hji] at hstays
    cases hj.symm.trans hstays
    rfl
  | _ => rfl

end

theorem sound_watcher (c : Config β) : (watcher c).Sound (FairWatch c) where
  init := by
    rintro s rfl
    rfl
  calls_step _ _ _ h := countP_stopper_step h
  calls_call s s' h := by
    obtain ⟨-, rfl⟩ := call_eq_some h
    exact List.countP_append
  ready_next s a s' h hready := returned_step ((next_eq s a).symm.trans h) hready
  callable s hready := by
    have hcall : step c s .clientStop = some { s with tasks := s.tasks ++ [.stopper (some .enter)] } :=
      if_pos hready
    exact ⟨_, hcall⟩
  calm s h := (safe_of_reachable (reachable_of_watcher h.mono)).calm
  stays r n m hm h := by
    have hclosed : ((asMux r).state m).shared.closed = true :=
      (asMux r).stable (P := fun st => st.shared.closed = true)
        (fun _ _ _ _ h hs => closed_step hs h) hm h.1
    exact ⟨hclosed, (safe_of_reachable ((asMux r).reachable m)).uncounted_of_closed hclosed⟩
  stops r hf _ n hn := by
    obtain ⟨hreturned, hst⟩ := call_eq_some (call_at hn)
    have hr : ((asMux r).state (n + 1)).shared.returned = true := by
      show (State.shared (r.state (n + 1))).returned = true
      rw [hst]
      exact hreturned
    have hi : ((asMux r).state (n + 1)).tasks[(State.tasks (r.state n)).length]? =
        some (.stopper (some .enter)) := by
      show (State.tasks (r.state (n + 1)))[_]? = _
      rw [hst]
      exact List.getElem?_concat_length
    obtain ⟨m, hm, hclosed⟩ := closes_of_stop hf hr hi rfl
    exact ⟨m, by omega, hclosed,
      (safe_of_reachable ((asMux r).reachable m)).uncounted_of_closed hclosed⟩
  returns r hf honce n hn := returns_of_stop hf honce hn

end WatchMux
end KubeZoo
