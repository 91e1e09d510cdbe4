import KubeZoo.WatchMux.Progress

/-! # The multiplexer closes its channel once it is stopped -/

namespace KubeZoo
namespace WatchMux

open Transition

variable {β : Type}

def Choice.own : Choice β → Bool
  | .receive _ => false
  | .ended => false
  | .deliver => false
  | _ => true

/-- Goroutine `i` can go on by itself. -/
def Ready (c : Config β) (i : ℕ) (st : State β) : Prop :=
  ∃ choice : Choice β, choice.own = true ∧ (step c st (.task i choice)).isSome

/-- Goroutine `i` is at the select of a forwarder or of the follower, and `m.stop` is
closed. -/
def SeesStop (i : ℕ) (st : State β) : Prop :=
  st.shared.stop = true ∧
    ((∃ s, st.tasks[i]? = some (.forward s .select)) ∨ st.tasks[i]? = some (.follow .select))

structure Fair (c : Config β) (r : Run (system c)) : Prop where
  scheduled : ∀ i, r.WeakFair (Ready c i) (Moves i)
  seesStop : ∀ i, r.StrongFair (SeesStop i) fun st a => SeesStop i st ∧ a = .task i .stopped

lemma fair_of_rest {c : Config β} (r : Run (system c)) (N : ℕ)
    (hrest : ∀ n, N ≤ n → ∀ i choice, step c (r.state n) (.task i choice) = none) : Fair c r where
  scheduled := by
    intro i
    refine r.weakFair_of_rest (N := N) fun n hn => ?_
    rintro ⟨choice, -, h⟩
    rw [hrest n hn] at h
    cases h
  seesStop := by
    intro i
    refine r.strongFair_of_rest (N := N) fun n hn => ?_
    rintro ⟨hstop, ⟨s, ht⟩ | ht⟩
    · have h := hrest n hn i .stopped
      simp only [step, ht, taskStep, forwardStep, if_pos hstop] at h
      cases h
    · have h := hrest n hn i .stopped
      simp only [step, ht, taskStep, followStep, if_pos hstop] at h
      cases h

section

variable {c : Config β} {r : Run (system c)} {n m k i : ℕ} {t t' : Task β} {st st' : State β}
  {a : Action β} {choice : Choice β} {started tasks : List (Task β)} {sh sh' : Shared β}
  {ns rv : String} (hf : Fair c r) (hd : (r.state n).shared.stopOnce = .done)
  (hr : (r.state n).shared.returned = true) (ht : (r.state n).tasks[i]? = some t)

lemma stopOnce_done_step (h : step c st a = some st') (hd : st.shared.stopOnce = .done) :
    st'.shared.stopOnce = .done := by
  refine step_induction (P := fun st => st.shared.stopOnce = .done) h hd ?_
  intro i choice t sh' t' started ht hm
  rcases hm.stop_profile.1 with ⟨p, q, s, -, -, hs, -, honce⟩ | ⟨-, -, -, honce⟩
  · show sh'.stopOnce = .done
    rw [honce]
    cases hs with
    | first ho => rw [hd] at ho; cases ho
    | teardown => rfl
    | _ => exact hd
  · show sh'.stopOnce = .done
    rw [honce, hd]

lemma Safe.stop_of_done (hi : Safe st) (hd : st.shared.stopOnce = .done) :
    st.shared.stop = true := by
  have hs := hi.stop
  unfold StopInv at hs
  rw [hd] at hs
  cases hstop : st.shared.stop with
  | false => rw [hstop] at hs; exact hs.elim
  | true => rfl

lemma ready_of_expireStep {p : ExpirePc} (choice : Choice β) (ht : st.tasks[i]? = some t)
    (hp : t.expirePc = some p) (hown : choice.own = true)
    (h : ∀ reason, ∃ q, expireStep st.shared reason p choice = some q) : Ready c i st := by
  refine ⟨choice, hown, ?_⟩
  simp only [step, ht]
  -- the three goroutines that call `expire` go on with the same step of it
  rcases Task.expirePc_eq_some.mp hp with ⟨s, rfl⟩ | ⟨reason, rfl⟩ | ⟨ns, rv, rfl⟩
  · obtain ⟨⟨sh, q⟩, hq⟩ := h (endedReason s.namespace)
    simp only [taskStep, forwardStep, hq]
    cases q <;> rfl
  · obtain ⟨⟨sh, q⟩, hq⟩ := h reason
    simp only [taskStep, followStep, hq]
    cases q <;> rfl
  · obtain ⟨⟨sh, q⟩, hq⟩ := h (notJoinedReason ns)
    simp only [taskStep, joinStep, hq]
    cases q <;> rfl

variable {p : StopPc}

lemma stopStep_isSome (hw : p = .enter → sh.stopOnce ≠ .running) :
    ∃ q, stopStep sh p = some q := by
  cases p with
  | enter =>
    have := hw rfl
    simp only [stopStep]
    cases ho : sh.stopOnce with
    | running => exact absurd ho this
    | _ => exact ⟨_, rfl⟩
  | close =>
    by_cases hs : sh.stop = true
    · exact ⟨_, if_pos hs⟩
    · exact ⟨_, if_neg hs⟩
  | teardown => exact ⟨_, rfl⟩

lemma expireStep_isSome (sh : Shared β) (p : ExpirePc) (hstop : p = .send → sh.stop = true)
    (hw : p = .enter → sh.expiring ≠ .running) (hs : p = .stop .enter → sh.stopOnce ≠ .running) :
    ∃ choice : Choice β, choice.own = true ∧
      ∀ reason, ∃ q, expireStep sh reason p choice = some q := by
  cases p with
  | enter =>
    refine ⟨.run, rfl, fun reason => ?_⟩
    have := hw rfl
    simp only [expireStep]
    cases ho : sh.expiring with
    | running => exact absurd ho this
    | _ => exact ⟨_, rfl⟩
  | check =>
    refine ⟨.run, rfl, fun reason => ?_⟩
    by_cases h : sh.stop = true
    · exact ⟨_, if_pos h⟩
    · exact ⟨_, if_neg h⟩
  | send => exact ⟨.stopped, rfl, fun reason => ⟨_, if_pos (hstop rfl)⟩⟩
  | stop p =>
    refine ⟨.run, rfl, fun reason => ?_⟩
    obtain ⟨⟨sh', q⟩, hq⟩ := stopStep_isSome (p := p) fun hp => hs (by rw [hp])
    simp only [expireStep, hq]
    cases q <;> exact ⟨_, rfl⟩

lemma ready_of_stopPc (ht : st.tasks[i]? = some t) (hp : t.stopPc = some p)
    (hw : p = .enter → st.shared.stopOnce ≠ .running) : Ready c i st := by
  obtain ⟨⟨sh, q⟩, hq⟩ := stopStep_isSome hw
  -- `Stop` is called from outside, by `newWatchMux` after a failure, and by `expire`
  have hexpire : ∀ {e : ExpirePc}, t.expirePc = some e → e.stopPc = some p → Ready c i st := by
    intro e he hep
    cases e <;> cases hep
    refine ready_of_expireStep .run ht he rfl fun reason => ?_
    simp only [expireStep, hq]
    cases q <;> exact ⟨_, rfl⟩
  cases t with
  | «open» pc =>
    cases pc <;> cases hp
    refine ⟨.run, rfl, ?_⟩
    simp only [step, ht, taskStep, openStep, hq]
    cases q <;> rfl
  | stopper pc =>
    cases hp
    refine ⟨.run, rfl, ?_⟩
    simp only [step, ht, taskStep, stopperStep, hq]
    rfl
  | closer pc => cases hp
  | forward | follow | join =>
    obtain ⟨e, he, hep⟩ := Option.bind_eq_some_iff.mp hp
    exact hexpire he hep

lemma MovesAt.stopMove (h : MovesAt r n i t t' choice) (hp : t.stopPc = some p) :
    ∃ q s, t'.stopPc = q ∧ StopMove (r.state n).shared p s q ∧
      (r.state (n + 1)).shared.stop = s.stop ∧ (r.state (n + 1)).shared.stopOnce = s.stopOnce := by
  obtain ⟨started, hm, -⟩ := h.move
  rcases hm.stop_profile.1 with ⟨p', q, s, hp', hq, hs, hstop, honce⟩ | ⟨hnone, -⟩
  · rw [hp] at hp'
    cases hp'
    exact ⟨q, s, hq, hs, hstop, honce⟩
  · rw [hp] at hnone
    cases hnone

include hf ht in
lemma stopOnce_of_runner (hp : t.stopPc = some p) (hne : p ≠ .enter) :
    ∃ m, n ≤ m ∧ (r.state m).shared.stopOnce = .done := by
  have hteardown : ∀ {n t}, (r.state n).tasks[i]? = some t → t.stopPc = some .teardown →
      ∃ m, n ≤ m ∧ (r.state m).shared.stopOnce = .done := by
    intro n t ht hp
    obtain ⟨m, hm, t', choice, hmv⟩ := moves_of_ready r (hf.scheduled i) ht
      fun m _ htm => ready_of_stopPc htm hp nofun
    obtain ⟨q, s, -, hs, -, honce⟩ := hmv.stopMove hp
    refine ⟨m + 1, by omega, ?_⟩
    cases hs with
    | teardown => exact honce
  cases p with
  | enter => exact absurd rfl hne
  | teardown => exact hteardown ht hp
  | close =>
    obtain ⟨m, hm, t', choice, hmv⟩ := moves_of_ready r (hf.scheduled i) ht
      fun m _ htm => ready_of_stopPc htm hp nofun
    obtain ⟨q, s, hq, hs, -, -⟩ := hmv.stopMove hp
    have hopen := (safe_of_reachable (r.reachable m)).stop_of_closing hmv.before hp
    cases hs with
    | close => exact exists_of_later (by omega) (hteardown hmv.after hq)
    | closeTwice hc => rw [hopen] at hc; cases hc

lemma Safe.exists_runner (hi : Safe st) (hr : st.shared.stopOnce = .running) :
    ∃ (i : ℕ) (t : Task β) (p : StopPc),
      st.tasks[i]? = some t ∧ t.stopPc = some p ∧ p ≠ .enter := by
  have hs := hi.stop
  unfold StopInv at hs
  rw [hr] at hs
  have key : ∀ p, p ≠ .enter → 0 < st.tasks.countP (Task.stopping p) →
      ∃ (i : ℕ) (t : Task β) (p : StopPc),
        st.tasks[i]? = some t ∧ t.stopPc = some p ∧ p ≠ .enter := by
    intro p hp hpos
    obtain ⟨t, ht, hst⟩ := List.countP_pos_iff.mp hpos
    obtain ⟨i, hi⟩ := List.mem_iff_getElem?.mp ht
    exact ⟨i, t, p, hi, by simpa [Task.stopping] using hst, hp⟩
  cases hstop : st.shared.stop with
  | false =>
    rw [hstop] at hs
    exact key .close (by decide) (by rw [hs.1]; omega)
  | true =>
    rw [hstop] at hs
    exact key .teardown (by decide) (by rw [hs.2]; omega)

include hf ht in
theorem stopOnce_done (hp : t.stopPc = some p) :
    ∃ m, n ≤ m ∧ (r.state m).shared.stopOnce = .done := by
  by_cases hne : p = .enter
  · subst hne
    -- somebody gets into the `Once`: this goroutine, if nobody else does
    have hstart : ∃ m, n ≤ m ∧ (r.state m).shared.stopOnce ≠ .fresh := by
      by_contra hno
      push Not at hno
      obtain ⟨m, hm, t', choice, hmv⟩ := moves_of_ready r (hf.scheduled i) ht
        fun m hm htm => ready_of_stopPc htm hp fun _ => by rw [hno m hm]; nofun
      obtain ⟨q, s, -, hs, -, honce⟩ := hmv.stopMove hp
      have hfresh := hno (m + 1) (by omega)
      cases hs with
      | first => rw [honce] at hfresh; cases hfresh
      | late hd => rw [hno m hm] at hd; cases hd
    obtain ⟨m, hm, hstart⟩ := hstart
    cases ho : (r.state m).shared.stopOnce with
    | fresh => exact absurd ho hstart
    | done => exact ⟨m, hm, ho⟩
    | running =>
      obtain ⟨j, u, q, hu, hq, hqe⟩ := (safe_of_reachable (r.reachable m)).exists_runner ho
      exact exists_of_later hm (stopOnce_of_runner hf hu hq hqe)
  · exact stopOnce_of_runner hf ht hp hne

def Task.exiting : Task β → Bool
  | .forward _ .exit => true
  | .follow .exit => true
  | .join _ _ .exit => true
  | _ => false

variable {p : ExpirePc} (hp : t.expirePc = some p)

include hd in
lemma stopOnce_stable (hm : n ≤ m) : (r.state m).shared.stopOnce = .done :=
  r.stable (P := fun st => st.shared.stopOnce = .done)
    (fun _ _ _ _ h hs => stopOnce_done_step hs h) hm hd

include hd in
lemma stop_stable (hm : n ≤ m) : (r.state m).shared.stop = true :=
  (safe_of_reachable (r.reachable m)).stop_of_done (stopOnce_stable hd hm)

lemma expiring_done_step (h : step c st a = some st') (hd : st.shared.expiring = .done) :
    st'.shared.expiring = .done := by
  refine step_induction (P := fun st => st.shared.expiring = .done) h hd ?_
  intro i choice t sh' t' started ht hm
  rcases hm.expire_profile.1 with ⟨reason, p, q, -, -, he⟩ | ⟨-, -, he⟩
  · show sh'.expiring = .done
    cases he with
    | first ho => rw [hd] at ho; cases ho
    | sent h =>
      obtain ⟨o, b, rfl⟩ := h.frame
      exact hd
    | stopping h =>
      obtain ⟨s, o, b, rfl⟩ := h.frame
      exact hd
    | stopped h => rfl
    | tornDown => rfl
    | _ => exact hd
  · show sh'.expiring = .done
    rw [he, hd]

lemma Move.exiting_of_expire (h : Move c sh tasks i t choice sh' t' started)
    (hp : t.expirePc = some p) (hq : t'.expirePc = none) : t'.exiting = true := by
  cases h with
  | «open» h => cases hp
  | stopper h => cases hp
  | closer h => cases hp
  | forward h | follow h | join h =>
    cases h with
    | expiring h => cases hq
    | expired h => rfl
    | _ => cases hp

lemma MovesAt.expireMove (h : MovesAt r n i t t' choice) (hp : t.expirePc = some p) :
    ∃ reason q, t'.expirePc = q ∧ (q = none → t'.exiting = true) ∧
      ExpireMove (r.state n).shared reason p choice (r.state (n + 1)).shared q := by
  obtain ⟨started, hm, -⟩ := h.move
  rcases hm.expire_profile.1 with ⟨reason, p', q, hp', hq, he⟩ | ⟨hnone, -⟩
  · rw [hp] at hp'
    cases hp'
    exact ⟨reason, q, hq, fun h => hm.exiting_of_expire hp (by rw [hq, h]), he⟩
  · rw [hp] at hnone
    cases hnone

include hf hd ht hp in
lemma expire_runner_leaves (hne : p ≠ .enter) :
    ∃ m, n ≤ m ∧ (r.state m).shared.expiring = .done ∧
      ∃ u, (r.state m).tasks[i]? = some u ∧ u.exiting = true := by
  -- one step from a place in `expire`, once `Stop` has finished
  have hstep : ∀ {n t p}, (r.state n).shared.stopOnce = .done → (r.state n).tasks[i]? = some t →
      t.expirePc = some p → p ≠ .enter → ∃ m, n ≤ m ∧ (r.state m).shared.stopOnce = .done ∧
        ∃ t' choice, MovesAt r m i t t' choice := by
    intro n t p hd ht hp hne
    obtain ⟨m, hm, t', choice, hmv⟩ := moves_of_ready r (hf.scheduled i) ht (by
      intro m hm htm
      obtain ⟨choice, hown, he⟩ := expireStep_isSome (r.state m).shared p
        (fun _ => stop_stable hd hm) (fun h => absurd h hne)
        (fun _ => by rw [stopOnce_stable hd hm]; nofun)
      exact ready_of_expireStep choice htm hp hown he)
    exact ⟨m, hm, stopOnce_stable hd hm, t', choice, hmv⟩
  have hlast : ∀ {n t}, (r.state n).shared.stopOnce = .done → (r.state n).tasks[i]? = some t →
      t.expirePc = some (.stop .enter) → ∃ m, n ≤ m ∧ (r.state m).shared.expiring = .done ∧
        ∃ u, (r.state m).tasks[i]? = some u ∧ u.exiting = true := by
    intro n t hd ht hp
    obtain ⟨m, hm, hdm, t', choice, hmv⟩ := hstep hd ht hp nofun
    obtain ⟨reason, q, -, hexit, he⟩ := hmv.expireMove hp
    refine ⟨m + 1, by omega, ?_⟩
    generalize hsh : (r.state (m + 1)).shared = sh at he
    cases he with
    | stopping h =>
      cases h with
      | first ho => rw [hdm] at ho; cases ho
    | stopped h => exact ⟨rfl, t', hmv.after, hexit rfl⟩
  obtain ⟨m, hm, hdm, t', choice, hmv⟩ := hstep hd ht hp hne
  obtain ⟨reason, q, hq, hexit, he⟩ := hmv.expireMove hp
  have hstop := stop_stable hdm le_rfl
  generalize hsh : (r.state (m + 1)).shared = sh at he
  cases he with
  | first => exact absurd rfl hne
  | late => exact absurd rfl hne
  | tornDown | stopped h =>
    refine ⟨m + 1, by omega, ?_, t', hmv.after, hexit rfl⟩
    rw [hsh]
  | goOn ho => rw [hstop] at ho; cases ho
  | sent h | notSent h =>
    exact exists_of_later (by omega) (hlast (stopOnce_stable hdm (by omega)) hmv.after hq)
  | stopping h =>
    cases h with
    | first ho => rw [hdm] at ho; cases ho
    | close ho => rw [hstop] at ho; cases ho

lemma Safe.exists_expirer (hi : Safe st) (hr : st.shared.expiring = .running) :
    ∃ (i : ℕ) (t : Task β) (p : ExpirePc),
      st.tasks[i]? = some t ∧ t.expirePc = some p ∧ p ≠ .enter := by
  have hcount : st.tasks.countP Task.expiring = _ := hi.expire
  rw [hr] at hcount
  have hpos : 0 < st.tasks.countP Task.expiring := by
    rw [hcount]
    decide
  obtain ⟨t, ht, hex⟩ := List.countP_pos_iff.mp hpos
  obtain ⟨i, hi⟩ := List.mem_iff_getElem?.mp ht
  unfold Task.expiring at hex
  split at hex
  · cases hex
  · cases hex
  · next p hne hp => exact ⟨i, t, p, hi, hp, hne⟩

include hf hd ht hp in
lemma expire_leaves :
    ∃ m, n ≤ m ∧ ∃ u, (r.state m).tasks[i]? = some u ∧ u.exiting = true := by
  by_cases hne : p = .enter
  swap
  · obtain ⟨m, hm, -, hu⟩ := expire_runner_leaves hf hd ht hp hne
    exact ⟨m, hm, hu⟩
  subst hne
  -- one step from the entry: this goroutine is the runner now, or it leaves
  have hentry : ∀ {k t'} {choice : Choice β}, n ≤ k → MovesAt r k i t t' choice →
      ∃ m, n ≤ m ∧ ∃ u, (r.state m).tasks[i]? = some u ∧ u.exiting = true := by
    intro k t' choice hk hmv
    obtain ⟨reason, q, hq, hexit, he⟩ := hmv.expireMove hp
    generalize (r.state (k + 1)).shared = sh at he
    cases he with
    | first =>
      obtain ⟨m, hm, -, hu⟩ := expire_runner_leaves hf
        (stopOnce_stable hd (by omega : n ≤ k + 1)) hmv.after hq nofun
      exact ⟨m, by omega, hu⟩
    | late => exact ⟨k + 1, by omega, t', hmv.after, hexit rfl⟩
  have hready : ∀ m, n ≤ m → (r.state m).shared.expiring ≠ .running →
      (r.state m).tasks[i]? = some t → Ready c i (r.state m) := by
    intro m hm hnr htm
    obtain ⟨choice, hown, he⟩ := expireStep_isSome (r.state m).shared .enter
      nofun (fun _ => hnr) nofun
    exact ready_of_expireStep choice htm hp hown he
  by_cases hdone : ∃ m, n ≤ m ∧ (r.state m).shared.expiring = .done
  · obtain ⟨m, hm, hdm⟩ := hdone
    have hstable : ∀ k, m ≤ k → (r.state k).shared.expiring = .done := fun k hk =>
      r.stable (P := fun st => st.shared.expiring = .done)
        (fun _ _ _ _ h hs => expiring_done_step hs h) hk hdm
    rcases stays_or_moves r hm ht with hst | ⟨k, hk, -, t', choice, hmv⟩
    · obtain ⟨k, hk, t', choice, hmv⟩ := moves_of_ready r (hf.scheduled i) hst
        fun k hk htk => hready k (by omega) (by rw [hstable k hk]; nofun) htk
      exact hentry (by omega) hmv
    · exact hentry hk hmv
  · -- nobody has finished, so nobody has started, so this goroutine may start
    push Not at hdone
    have hfresh : ∀ m, n ≤ m → (r.state m).shared.expiring ≠ .running := by
      intro m hm hrun
      obtain ⟨j, u, q, hu, hq, hqe⟩ := (safe_of_reachable (r.reachable m)).exists_expirer hrun
      obtain ⟨k, hk, hdk, -⟩ := expire_runner_leaves hf (stopOnce_stable hd hm) hu hq hqe
      exact hdone k (by omega) hdk
    obtain ⟨k, hk, t', choice, hmv⟩ := moves_of_ready r (hf.scheduled i) ht
      fun k hk htk => hready k hk (hfresh k hk) htk
    exact hentry hk hmv

lemma Move.uncounted_stays (h : Move c sh tasks i t choice sh' t' started)
    (hc : t.counted = false) : t'.counted = false := by
  cases h with
  | forward h | follow h | join h => cases h <;> cases hc
  | _ => rfl

lemma uncounted_stable (r : Run (system c)) (hm : n ≤ m)
    (ht : (r.state n).tasks[i]? = some t) (hc : t.counted = false) :
    ∀ u, (r.state m).tasks[i]? = some u → u.counted = false := by
  obtain ⟨u, hu, huc⟩ := task_stable r (P := fun u => u.counted = false)
    Move.uncounted_stays hm ht hc
  intro u' hu'
  rw [hu] at hu'
  cases hu'
  exact huc

lemma Move.uncounted_of_exiting (h : Move c sh tasks i t choice sh' t' started)
    (hx : t.exiting = true) : t'.counted = false := by
  cases h with
  | forward h | follow h | join h => cases h <;> first | rfl | cases hx
  | _ => cases hx

include hf ht in
lemma exiting_leaves (hx : t.exiting = true) :
    ∃ m, n ≤ m ∧ ∃ u, (r.state m).tasks[i]? = some u ∧ u.counted = false := by
  obtain ⟨m, hm, t', choice, hmv⟩ := moves_of_ready r (hf.scheduled i) ht (by
    intro m _ htm
    refine ⟨.run, rfl, ?_⟩
    simp only [step, htm]
    cases t with
    | forward s pc | follow pc | join ns rv pc => cases pc <;> cases hx; rfl
    | _ => cases hx)
  obtain ⟨sh', started, hmove⟩ := hmv.toMove
  exact ⟨m + 1, by omega, t', hmv.after, hmove.uncounted_of_exiting hx⟩

include hf hd ht hp in
lemma expire_retires :
    ∃ m, n ≤ m ∧ ∃ u, (r.state m).tasks[i]? = some u ∧ u.counted = false := by
  obtain ⟨m, hm, u, hu, hx⟩ := expire_leaves hf hd ht hp
  exact exists_of_later hm (exiting_leaves hf hu hx)

def JoinPc.rank : JoinPc → ℕ
  | .attempt k => 2 * (attempts - k) + 1
  | .wait k => 2 * (attempts - k)
  | _ => 0

lemma ready_of_attempt (ht : st.tasks[i]? = some (.join ns rv (.attempt k))) : Ready c i st := by
  by_cases hw : watched st.tasks ns = true
  · refine ⟨.run, rfl, ?_⟩
    simp only [step, ht, taskStep, joinStep, add]
    rw [if_pos hw]
    rfl
  · refine ⟨.refused true, rfl, ?_⟩
    simp only [step, ht, taskStep, joinStep, add]
    rw [if_neg hw]
    rfl

lemma ready_of_wait (ht : st.tasks[i]? = some (.join ns rv (.wait k))) : Ready c i st := by
  refine ⟨.elapsed, rfl, ?_⟩
  simp only [step, ht, taskStep, joinStep]
  by_cases hk : k + 1 < attempts
  · rw [if_pos hk]; rfl
  · rw [if_neg hk]; rfl

lemma join_retires (hf : Fair c r) {N : ℕ}
    (hexp : ∀ m p, N ≤ m → (r.state m).tasks[i]? = some (.join ns rv (.expire p)) →
      ∃ k, m ≤ k ∧ ∃ u, (r.state k).tasks[i]? = some u ∧ u.counted = false) (d : ℕ) :
    ∀ n pc, pc.rank = d → N ≤ n → (r.state n).tasks[i]? = some (.join ns rv pc) →
      ∃ m, n ≤ m ∧ ∃ u, (r.state m).tasks[i]? = some u ∧ u.counted = false := by
  induction d using Nat.strong_induction_on with
  | _ d ih =>
  intro n pc hrank hn ht
  cases pc with
  | attempt k =>
    obtain ⟨m, hm, t', choice, hmv⟩ := moves_of_ready r (hf.scheduled i) ht
      fun m _ htm => ready_of_attempt htm
    have hnext := hmv.after
    obtain ⟨sh', started, hmove⟩ := hmv.toMove
    refine exists_of_later (by omega : n ≤ m + 1) ?_
    cases hmove with
    | join h =>
      cases h with
      | joined h => exact exiting_leaves hf hnext rfl
      | forbidden h =>
        refine ih _ ?_ (m + 1) (.wait k) rfl (by omega) hnext
        simp only [JoinPc.rank] at hrank ⊢
        omega
      | refused h => exact hexp (m + 1) _ (by omega) hnext
  | wait k =>
    obtain ⟨m, hm, t', choice, hmv⟩ := moves_of_ready r (hf.scheduled i) ht
      fun m _ htm => ready_of_wait htm
    have hnext := hmv.after
    obtain ⟨sh', started, hmove⟩ := hmv.toMove
    refine exists_of_later (by omega : n ≤ m + 1) ?_
    cases hmove with
    | join h =>
      cases h with
      | stopped h => exact exiting_leaves hf hnext rfl
      | again hk =>
        refine ih _ ?_ (m + 1) (.attempt (k + 1)) rfl (by omega) hnext
        simp only [JoinPc.rank] at hrank ⊢
        omega
      | gaveUp h => exact hexp (m + 1) _ (by omega) hnext
  | expire p => exact hexp n p hn ht
  | exit => exact exiting_leaves hf ht rfl
  | retired => exact ⟨n, le_rfl, _, ht, rfl⟩

def Task.looping : Task β → Bool
  | .forward _ pc => match pc with
    | .expire _ => false
    | .exit => false
    | .retired => false
    | _ => true
  | .follow .select => true
  | _ => false

def ForwardPc.rank : ForwardPc β → ℕ
  | .bookmark _ => 2
  | .send _ => 2
  | .sendBookmark _ => 1
  | .record _ => 1
  | _ => 0

lemma ready_of_forward {s : Stream} {pc : ForwardPc β} (hstop : st.shared.stop = true)
    (hl : (Task.forward s pc).looping = true) (ht : st.tasks[i]? = some (.forward s pc)) :
    Ready c i st := by
  cases pc with
  | select | sendBookmark merged | send event =>
    refine ⟨.stopped, rfl, ?_⟩
    simp only [step, ht, taskStep, forwardStep, if_pos hstop]
    rfl
  | bookmark event =>
    refine ⟨.run, rfl, ?_⟩
    simp only [step, ht, taskStep, forwardStep]
    split <;> rfl
  | record revision =>
    refine ⟨.run, rfl, ?_⟩
    simp only [step, ht]
    rfl
  | _ => cases hl

lemma forward_returns (hf : Fair c r) (d : ℕ) :
    ∀ n s pc, pc.rank = d → (r.state n).shared.stopOnce = .done →
      (r.state n).tasks[i]? = some (.forward s pc) →
      ∃ m, n ≤ m ∧ ∃ s' pc', (r.state m).tasks[i]? = some (.forward s' pc') ∧
        (pc' = .select ∨ (Task.forward s' pc').looping = false) := by
  induction d using Nat.strong_induction_on with
  | _ d ih =>
  intro n s pc hrank hd ht
  by_cases hl : (Task.forward s pc).looping = true
  swap
  · exact ⟨n, le_rfl, s, pc, ht, .inr (by simpa using hl)⟩
  by_cases hsel : pc = .select
  · exact ⟨n, le_rfl, s, pc, ht, .inl hsel⟩
  obtain ⟨m, hm, t', choice, hmv⟩ := moves_of_ready r (hf.scheduled i) ht
    fun m hm htm => ready_of_forward (stop_stable hd hm) hl htm
  have hdm : (r.state (m + 1)).shared.stopOnce = .done := stopOnce_stable hd (by omega)
  have hnext := hmv.after
  obtain ⟨sh', started, hmove⟩ := hmv.toMove
  have hgo : ∀ s' pc', t' = .forward s' pc' → pc'.rank < pc.rank →
      ∃ m, n ≤ m ∧ ∃ s' pc', (r.state m).tasks[i]? = some (.forward s' pc') ∧
        (pc' = .select ∨ (Task.forward s' pc').looping = false) := by
    rintro s' pc' rfl hlt
    exact exists_of_later (by omega) (ih _ (by omega) (m + 1) s' pc' rfl hdm hnext)
  cases hmove with
  | forward h =>
    cases h with
    | stopped | gotBookmark | gotEvent | ended => exact absurd rfl hsel
    | dropped => exact ⟨m + 1, by omega, _, _, hnext, .inr rfl⟩
    | expiring | expired | left => cases hl
    | _ => exact hgo _ _ rfl (by simp [ForwardPc.rank])

include hf hd ht in
lemma looping_leaves :
    ∃ m, n ≤ m ∧ ∃ u, (r.state m).tasks[i]? = some u ∧ u.looping = false := by
  by_contra hno
  push Not at hno
  have hback : ∀ k, n ≤ k → ∃ m, k ≤ m ∧ SeesStop i (r.state m) := by
    intro k hk
    obtain ⟨u, hu⟩ := exists_getElem? r hk ht
    have hl := hno k hk u hu
    cases u with
    | forward s pc =>
      obtain ⟨m, hm, s', pc', hu', rfl | hx⟩ :=
        forward_returns hf _ k s pc rfl (stopOnce_stable hd hk) hu
      · exact ⟨m, hm, stop_stable hd (by omega), .inl ⟨s', hu'⟩⟩
      · exact absurd hx (hno m (by omega) _ hu')
    | follow pc =>
      cases pc with
      | select => exact ⟨k, le_rfl, stop_stable hd hk, .inr hu⟩
      | _ => exact absurd rfl hl
    | _ => exact absurd rfl hl
  obtain ⟨m, hm, a, ha, hsees, rfl⟩ := hf.seesStop i n hback
  -- the stop branch leaves the loop
  rcases hsees.2 with ⟨s, hsel⟩ | hsel
  · obtain ⟨u, hmv⟩ := movesAt_of_label r ha hsel
    obtain ⟨sh', started, hmove⟩ := hmv.toMove
    refine hno (m + 1) (by omega) u hmv.after ?_
    cases hmove with
    | forward h => cases h; rfl
  · obtain ⟨u, hmv⟩ := movesAt_of_label r ha hsel
    obtain ⟨sh', started, hmove⟩ := hmv.toMove
    refine hno (m + 1) (by omega) u hmv.after ?_
    cases hmove with
    | follow h => cases h; rfl

lemma Task.counted_cases (hc : t.counted = true) : t.looping = true ∨
    (∃ p, t.expirePc = some p) ∨ t.exiting = true ∨ ∃ ns rv pc, t = .join ns rv pc := by
  cases t with
  | forward s pc =>
    cases pc with
    | expire p => exact .inr (.inl ⟨p, rfl⟩)
    | exit => exact .inr (.inr (.inl rfl))
    | retired => cases hc
    | _ => exact .inl rfl
  | follow pc =>
    cases pc with
    | select => exact .inl rfl
    | expire reason p => exact .inr (.inl ⟨p, rfl⟩)
    | exit => exact .inr (.inr (.inl rfl))
    | retired => cases hc
  | join ns rv pc => exact .inr (.inr (.inr ⟨ns, rv, pc, rfl⟩))
  | _ => cases hc

include hf hd ht in
theorem retires :
    ∃ m, n ≤ m ∧ ∀ k, m ≤ k → ∀ u, (r.state k).tasks[i]? = some u → u.counted = false := by
  have hout : ∀ {n t}, (r.state n).shared.stopOnce = .done → (r.state n).tasks[i]? = some t →
      t.looping = false →
      ∃ m, n ≤ m ∧ ∃ u, (r.state m).tasks[i]? = some u ∧ u.counted = false := by
    intro n t hd ht hl
    by_cases hc : t.counted = true
    · rcases Task.counted_cases hc with h | ⟨p, hp⟩ | hx | ⟨ns, rv, pc, rfl⟩
      · rw [hl] at h; cases h
      · exact expire_retires hf hd ht hp
      · exact exiting_leaves hf ht hx
      · exact join_retires hf
          (fun m p hm htm => expire_retires hf (stopOnce_stable hd hm) htm rfl) _ n pc rfl le_rfl ht
    · exact ⟨n, le_rfl, t, ht, by simpa using hc⟩
  obtain ⟨m, hm, u, hu, hl⟩ := looping_leaves hf hd ht
  obtain ⟨k, hk, v, hv, hc⟩ := hout (stopOnce_stable hd hm) hu hl
  exact ⟨k, by omega, fun l hl => uncounted_stable r hl hv hc⟩

lemma returned_step (h : step c st a = some st') (hr : st.shared.returned = true) :
    st'.shared.returned = true := by
  refine step_induction (P := fun st => st.shared.returned = true) h hr ?_
  intro i choice t sh' t' started ht hm
  rcases hm.closer_profile with ⟨p, q, -, -, -, hcl⟩ | ⟨-, -, -, ⟨-, -, -, rfl⟩ | ⟨hret, -, -⟩⟩
  · cases hcl with
    | _ => exact hr
  · rfl
  · exact hret.trans hr

include hr in
lemma returned_stable (hm : n ≤ m) : (r.state m).shared.returned = true :=
  r.stable (P := fun st => st.shared.returned = true) (fun _ _ _ _ h hs => returned_step hs h) hm hr

lemma Safe.opening_of_returned (hi : Safe st) (hr : st.shared.returned = true)
    (ht : st.tasks[i]? = some t) : t.opening = false := by
  by_contra hne
  have hpos := countP_pos_of_getElem? Task.opening ht (by simpa using hne)
  rw [hi.closer.opening, hr] at hpos
  cases hpos

include hf hd hr in
theorem group_empties :
    ∃ m, n ≤ m ∧ ∀ k, m ≤ k → (r.state k).shared.forwarder = 0 := by
  have hopen : ∀ m, n ≤ m → ∀ {j : ℕ} {t : Task β},
      (r.state m).tasks[j]? = some t → t.opening ≠ true := by
    intro m hm j t ht
    rw [(safe_of_reachable (r.reachable m)).opening_of_returned (returned_stable hr hm) ht]
    nofun
  obtain ⟨n₁, hn₁, h₁⟩ := kind_eventually r (k := .follow) nofun (P := fun t => t.counted = false)
    (by
      intro m hm j t choice sh' t' started _ ht hmv u hu huk
      exact hopen m hm ht ((hmv.started_kind hu).1 huk))
    fun i t ht _ => retires hf hd ht
  obtain ⟨n₂, hn₂, h₂⟩ := kind_eventually r (k := .join) nofun (P := fun t => t.counted = false) (by
      intro m hm j t choice sh' t' started _ ht hmv u hu huk
      obtain ⟨hkind, hcount⟩ := (hmv.started_kind hu).2.1 huk
      rw [h₁ m hm t (List.mem_of_getElem? ht) hkind] at hcount
      cases hcount)
    fun i t ht _ => retires hf (stopOnce_stable hd hn₁) ht
  obtain ⟨n₃, hn₃, h₃⟩ := kind_eventually r (k := .forward) nofun (P := fun t => t.counted = false)
    (by
      intro m hm j t choice sh' t' started _ ht hmv u hu huk
      rcases (hmv.started_kind hu).2.2 huk with ho | ⟨hkind, hcount⟩
      · exact hopen m (by omega) ht ho
      · rw [h₂ m hm t (List.mem_of_getElem? ht) hkind] at hcount
        cases hcount)
    fun i t ht _ => retires hf (stopOnce_stable hd (hn₁.trans hn₂)) ht
  refine ⟨n₃, by omega, fun k hk => ?_⟩
  have hcount : (r.state k).shared.forwarder = _ := (safe_of_reachable (r.reachable k)).count
  rw [hcount, List.countP_eq_zero]
  intro t ht hc
  have hkind : t.kind = .follow ∨ t.kind = .join ∨ t.kind = .forward := by
    cases t <;> simp_all [Task.kind, Task.counted]
  rcases hkind with hkind | hkind | hkind
  · rw [h₁ k (by omega) t ht hkind] at hc; cases hc
  · rw [h₂ k (by omega) t ht hkind] at hc; cases hc
  · rw [h₃ k hk t ht hkind] at hc; cases hc

include hf hr in
lemma closes_of_empty (h0 : ∀ k, n ≤ k → (r.state k).shared.forwarder = 0) :
    ∃ m, n ≤ m ∧ (r.state m).shared.closed = true := by
  have hclose : ∀ {n i : ℕ}, (r.state n).tasks[i]? = some (.closer .close) →
      ∃ m, n ≤ m ∧ (r.state m).shared.closed = true := by
    intro n i ht
    obtain ⟨m, hm, t', choice, hmv⟩ := moves_of_ready r (hf.scheduled i) ht (by
      intro m _ htm
      refine ⟨.run, rfl, ?_⟩
      simp only [step, htm, taskStep, closerStep]
      split <;> rfl)
    refine ⟨m + 1, by omega, ?_⟩
    obtain ⟨started, hmove, -⟩ := hmv.move
    generalize (r.state (m + 1)).shared = sh at hmove ⊢
    cases hmove with
    | closer h =>
      cases h with
      | closed => rfl
      | closedTwice hc => exact hc
  by_cases hc : (r.state n).shared.closed = true
  · exact ⟨n, le_rfl, hc⟩
  have hun := (safe_of_reachable (r.reachable n)).closer.unclosed
  rw [hr, Bool.eq_false_iff.mpr hc] at hun
  have hpos : 0 < (r.state n).tasks.countP Task.unclosed := by rw [hun]; decide
  obtain ⟨t, ht, hut⟩ := List.countP_pos_iff.mp hpos
  obtain ⟨i, hi⟩ := List.mem_iff_getElem?.mp ht
  cases t with
  | closer pc =>
    cases pc with
    | wait =>
      obtain ⟨m, hm, t', choice, hmv⟩ := moves_of_ready r (hf.scheduled i) hi (by
        intro m hm htm
        refine ⟨.run, rfl, ?_⟩
        simp only [step, htm, taskStep, closerStep, if_pos (h0 m hm)]
        rfl)
      have hnext := hmv.after
      obtain ⟨sh', started, hmove⟩ := hmv.toMove
      cases hmove with
      | closer h =>
        cases h with
        | waited => exact exists_of_later (by omega) (hclose hnext)
    | close => exact hclose hi
    | done => cases hut
  | _ => cases hut

lemma closed_step (h : step c st a = some st') (hc : st.shared.closed = true) :
    st'.shared.closed = true := by
  refine step_induction (P := fun st => st.shared.closed = true) h hc ?_
  intro i choice t sh' t' started ht hm
  rcases hm.closer_profile with ⟨p, q, -, -, -, hcl⟩ | ⟨-, -, hcl, -⟩
  · cases hcl with
    | closed => rfl
    | _ => exact hc
  · exact hcl.trans hc

include hf hr ht in
theorem closes_of_stop {p : StopPc} (hp : t.stopPc = some p) :
    ∃ m, n ≤ m ∧ (r.state m).shared.closed = true := by
  obtain ⟨n₁, hn₁, hd⟩ := stopOnce_done hf ht hp
  obtain ⟨n₂, hn₂, h0⟩ := group_empties hf hd (returned_stable hr hn₁)
  exact exists_of_later (hn₁.trans hn₂) (closes_of_empty hf (returned_stable hr (by omega)) h0)

end

/-- `m.result` is never sent on after it is closed, is closed once and only after every
forwarder, the follower and every join have retired, nothing panics; and once a goroutine is
inside `Stop` the channel is closed under fair scheduling, whether the client reads or not. -/
theorem result_channel_safe (c : Config β) :
    (∀ st, (system c).Reachable st → st.shared.panicked = false ∧
      (∀ i st', step c st (.task i .deliver) = some st' → st.shared.closed = false) ∧
      (∀ i choice st', st.tasks[i]? = some (.closer .close) →
        step c st (.task i choice) = some st' → st.shared.closed = false) ∧
      (∀ a st', step c st a = some st' → st.shared.closed = true → st'.shared.closed = true) ∧
      (st.shared.closed = true → ∀ t ∈ st.tasks, t.counted = false)) ∧
    ∀ r : Run (system c), Fair c r → ∀ n, (r.state n).shared.returned = true →
      (∃ t ∈ (r.state n).tasks, t.stopPc ≠ none) →
      ∃ m, n ≤ m ∧ (r.state m).shared.closed = true := by
  constructor
  · intro st hst
    have hi := safe_of_reachable hst
    refine ⟨hi.calm, ?_, ?_, ?_, hi.uncounted_of_closed⟩
    · intro i st' h
      exact open_of_deliver hi h
    · intro i choice st' ht _
      exact hi.open_of_closing ht
    · intro a st' h hc
      exact closed_step h hc
  · rintro r hf n hr ⟨t, ht, hp⟩
    obtain ⟨i, hi⟩ := List.mem_iff_getElem?.mp ht
    obtain ⟨p, hp⟩ := Option.ne_none_iff_exists'.mp hp
    exact closes_of_stop hf hr hi hp

section

private def oneNamespace : Config Unit where
  options := {}
  namespaces := ["team-a"]
  describe := fun _ => ""

/-- The multiplexer is opened, the client calls `Stop`, and everybody leaves. -/
private def stopSchedule : List (Action Unit) :=
  [.task 0 .opened, .task 0 .run, .task 0 .opened, .task 0 .run, .clientStop,
    .task 4 .run, .task 4 .run, .task 4 .run,
    .task 1 .stopped, .task 1 .run, .task 2 .stopped, .task 2 .run, .task 3 .run, .task 3 .run]

private def stopFinal : State Unit where
  shared := { stop := true, stopOnce := .done, returned := true, closed := true }
  tasks := [.open .returned, .forward ⟨"team-a", "", 0, false⟩ .retired, .follow .retired,
    .closer .done, .stopper none]

private theorem run_stopSchedule :
    exec (step oneNamespace) (initial oneNamespace) stopSchedule = some stopFinal := by
  decide

private def stopRun : Run (system oneNamespace) := Run.ofExec rfl run_stopSchedule

private theorem stopFinal_rests (i : ℕ) (choice : Choice Unit) :
    step oneNamespace stopFinal (.task i choice) = none := by
  match i with
  | 0 | 1 | 2 | 3 | 4 => cases choice <;> rfl
  | i + 5 => rfl

private theorem fair_stopRun : Fair oneNamespace stopRun := by
  refine fair_of_rest stopRun 14 fun n hn => ?_
  rw [stopRun, Run.ofExec_state _ _ hn]
  exact stopFinal_rests

theorem result_channel_safe_stopRun :
    Fair oneNamespace stopRun ∧ (∃ t ∈ (stopRun.state 5).tasks, t.stopPc ≠ none) ∧
      ∃ m, 5 ≤ m ∧ (stopRun.state m).shared.closed = true := by
  have hstop : ∃ t ∈ (stopRun.state 5).tasks, t.stopPc ≠ none :=
    ⟨.stopper (some .enter), by decide, by decide⟩
  exact ⟨fair_stopRun, hstop,
    (result_channel_safe oneNamespace).2 stopRun fair_stopRun 5 (by decide) hstop⟩

end

end WatchMux
end KubeZoo
