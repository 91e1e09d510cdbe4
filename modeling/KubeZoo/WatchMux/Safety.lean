import KubeZoo.WatchMux.Profiles

/-! # Channel safety of the multiplexer -/

namespace KubeZoo
namespace WatchMux

variable {β : Type}

variable {tasks : List (Task β)} {t : Task β} {i : ℕ}

lemma countP_step (p : Task β → Bool) (ht : tasks[i]? = some t) (t' : Task β)
    (started : List (Task β)) :
    (tasks.set i t' ++ started).countP p + (p t).toNat =
      tasks.countP p + (p t').toNat + started.countP p := by
  obtain ⟨hi, rfl⟩ := List.getElem?_eq_some_iff.mp ht
  have hle : (p tasks[i]).toNat ≤ tasks.countP p := by
    cases h : p tasks[i] with
    | false => simp
    | true => exact List.countP_pos_iff.mpr ⟨_, List.getElem_mem hi, h⟩
  rw [List.countP_append, List.countP_set hi]
  generalize tasks.countP p = n at hle ⊢
  cases h : p tasks[i] <;> cases h' : p t' <;> simp [h] at hle ⊢ <;> omega

lemma countP_pos_of_getElem? (p : Task β → Bool) (ht : tasks[i]? = some t) (hp : p t = true) :
    0 < tasks.countP p :=
  List.countP_pos_iff.mpr ⟨t, List.mem_of_getElem? ht, hp⟩

/-- The goroutine has closed, or is about to close, `m.stop`, as the one runner of
`stopOnce`. -/
def Task.stopping (p : StopPc) (t : Task β) : Bool := decide (t.stopPc = some p)

/-- The goroutine is the runner of `expiring`. -/
def Task.expiring (t : Task β) : Bool :=
  match t.expirePc with
  | none => false
  | some .enter => false
  | some _ => true

/-- The goroutine that closes `m.result` has seen the counter at zero. -/
def Task.closing (t : Task β) : Bool := decide (t.closerPc = some .close)

/-- The goroutine that closes `m.result` has not closed it yet. -/
def Task.unclosed (t : Task β) : Bool :=
  decide (t.closerPc = some .wait ∨ t.closerPc = some .close)

/-- `stopOnce`, the channel `m.stop`, and how many goroutines are about to close it or have
just closed it: one runner while the `Once` runs. -/
def RunsOnce (once : Once) (stop : Bool) (closing tearing : ℕ) : Prop :=
  match once, stop with
  | .fresh, false => closing = 0 ∧ tearing = 0
  | .running, false => closing = 1 ∧ tearing = 0
  | .running, true => closing = 0 ∧ tearing = 1
  | .done, true => closing = 0 ∧ tearing = 0
  | .fresh, true => False
  | .done, false => False

/-- `m.stop` is closed once, by the runner of `stopOnce`. -/
def StopInv (st : State β) : Prop :=
  RunsOnce st.shared.stopOnce st.shared.stop (st.tasks.countP (Task.stopping .close))
    (st.tasks.countP (Task.stopping .teardown))

/-- `expiring` has one runner while it runs. -/
def ExpireInv (st : State β) : Prop :=
  st.tasks.countP Task.expiring = (decide (st.shared.expiring = .running)).toNat

/-- The counter of the `WaitGroup` is the number of goroutines it counts. -/
def CountInv (st : State β) : Prop := st.shared.forwarder = st.tasks.countP Task.counted

/-- One goroutine closes `m.result`, started when `newWatchMux` returned; once it is past
`Wait` nothing is counted any more. -/
structure CloserInv (st : State β) : Prop where
  opening : st.tasks.countP Task.opening = (!st.shared.returned).toNat
  unclosed : st.tasks.countP Task.unclosed = (st.shared.returned && !st.shared.closed).toNat
  returned : st.shared.closed = true → st.shared.returned = true
  waited : 0 < st.tasks.countP Task.closing ∨ st.shared.closed = true → st.shared.forwarder = 0

section

variable {c : Config β} {st st' : State β} {a : Action β}

lemma step_induction {P : State β → Prop} (h : step c st a = some st')
    (hclient : P { st with tasks := st.tasks ++ [.stopper (some .enter)] })
    (hmove : ∀ i choice t sh' t' started, st.tasks[i]? = some t →
      Move c st.shared st.tasks i t choice sh' t' started →
      P ⟨sh', st.tasks.set i t' ++ started⟩) : P st' := by
  rcases step_cases h with ⟨i, choice, t, sh', t', started, -, ht, hm, rfl⟩ | ⟨-, -, rfl⟩
  · exact hmove i choice t sh' t' started ht hm
  · exact hclient

lemma stopInv_step (h : step c st a = some st') (hi : StopInv st) : StopInv st' := by
  refine step_induction h ?_ ?_
  · simpa [StopInv, Task.stopping, Task.stopPc] using hi
  · intro i choice t sh' t' started ht hm
    obtain ⟨hp, hnew⟩ := hm.stop_profile
    have h0 : ∀ p, started.countP (Task.stopping p) = 0 := by
      intro p
      rw [List.countP_eq_zero]
      intro u hu
      simp [Task.stopping, hnew u hu]
    have hclose := countP_step (Task.stopping .close) ht t' started
    have htear := countP_step (Task.stopping .teardown) ht t' started
    rw [h0, Task.stopping, Task.stopping] at hclose htear
    show RunsOnce sh'.stopOnce sh'.stop _ _
    -- from here on the counts are numbers
    unfold StopInv at hi
    generalize (st.tasks.set i t' ++ started).countP (Task.stopping .close) = n' at *
    generalize (st.tasks.set i t' ++ started).countP (Task.stopping .teardown) = m' at *
    generalize st.tasks.countP (Task.stopping .close) = n at *
    generalize st.tasks.countP (Task.stopping .teardown) = m at *
    rcases hp with ⟨p, q, s, htp, htq, hs, hstop, honce⟩ | ⟨htp, htq, hstop, honce⟩
    · rw [htp] at hclose htear
      revert hi
      cases hs <;> cases ho : st.shared.stopOnce <;> cases hs : st.shared.stop <;>
        simp_all [RunsOnce] <;> omega
    · rw [hstop, honce]
      rw [htp] at hclose htear
      have hn : n' = n := by rcases htq with htq | htq <;> simpa [htq] using hclose
      have hm : m' = m := by rcases htq with htq | htq <;> simpa [htq] using htear
      rw [hn, hm]
      exact hi

lemma expireInv_step (h : step c st a = some st') (hi : ExpireInv st) : ExpireInv st' := by
  refine step_induction h ?_ ?_
  · simpa [ExpireInv, Task.expiring, Task.expirePc] using hi
  · intro i choice t sh' t' started ht hm
    obtain ⟨hp, hnew⟩ := hm.expire_profile
    have h0 : started.countP Task.expiring = 0 := by
      rw [List.countP_eq_zero]
      intro u hu
      simp [Task.expiring, hnew u hu]
    have hcount := countP_step Task.expiring ht t' started
    rw [h0, Task.expiring, Task.expiring] at hcount
    show _ = (decide (sh'.expiring = .running)).toNat
    unfold ExpireInv at hi
    generalize (st.tasks.set i t' ++ started).countP Task.expiring = n' at *
    generalize st.tasks.countP Task.expiring = n at *
    rcases hp with ⟨reason, p, q, htp, htq, he⟩ | ⟨htp, htq, hs⟩
    · rw [htp, htq] at hcount
      have hle : (decide (st.shared.expiring = .running)).toNat ≤ 1 := Bool.toNat_le _
      -- the runner stays the runner until it sets the `Once` to done
      cases he with
      | first ho => simp_all
      | late ho => simp_all
      | tornDown | stopped h => simp at hcount ⊢; omega
      | goOn | notSent => simpa [hi] using hcount
      | sent h =>
        obtain ⟨o, b, rfl⟩ := h.frame
        simpa [hi] using hcount
      | stopping h =>
        obtain ⟨s, o, b, rfl⟩ := h.frame
        simpa [hi] using hcount
    · rw [htp] at hcount
      have hn : n' = n := by rcases htq with htq | htq <;> simpa [htq] using hcount
      rw [hn, hs]
      exact hi

lemma countInv_step (h : step c st a = some st') (hi : CountInv st) : CountInv st' := by
  refine step_induction h ?_ ?_
  · simpa [CountInv, Task.counted] using hi
  · intro i choice t sh' t' started ht hm
    have hpos : t.counted = true → 0 < st.shared.forwarder := by
      intro hc
      rw [show st.shared.forwarder = _ from hi]
      exact countP_pos_of_getElem? _ ht hc
    have hprof := hm.forwarder_profile hpos
    have hcount := countP_step Task.counted ht t' started
    have hi' : st.shared.forwarder = st.tasks.countP Task.counted := hi
    show sh'.forwarder = (st.tasks.set i t' ++ started).countP Task.counted
    omega

lemma countP_closing_le (tasks : List (Task β)) :
    tasks.countP Task.closing ≤ tasks.countP Task.unclosed := by
  apply List.countP_mono_left
  intro t _ ht
  simp only [Task.closing, Task.unclosed, decide_eq_true_eq] at ht ⊢
  exact .inr ht

lemma forwarder_zero_step {choice : Choice β} {t' : Task β} {sh' : Shared β}
    {started : List (Task β)} (hc : CountInv st) (hi : CloserInv st)
    (hret : st.shared.returned = true) (h0 : st.shared.forwarder = 0)
    (ht : st.tasks[i]? = some t)
    (hm : Move c st.shared st.tasks i t choice sh' t' started) : sh'.forwarder = 0 := by
  have hcounted : t.counted = false := by
    by_contra hne
    have := countP_pos_of_getElem? Task.counted ht (by simpa using hne)
    rw [← show st.shared.forwarder = _ from hc] at this
    omega
  have hopening : t.opening = false := by
    by_contra hne
    have := countP_pos_of_getElem? Task.opening ht (by simpa using hne)
    rw [hi.opening, hret] at this
    simp at this
  have hprof := hm.forwarder_profile (by rw [hcounted]; simp)
  obtain ⟨ht', hs⟩ := hm.uncounted hcounted hopening
  rw [hcounted, ht', hs, h0] at hprof
  simpa using hprof

lemma CloserInv.returned_of_waited (hi : CloserInv st)
    (h : 0 < st.tasks.countP Task.closing ∨ st.shared.closed = true) :
    st.shared.returned = true := by
  rcases h with h | h
  · have hle := countP_closing_le st.tasks
    have hun := hi.unclosed
    by_contra hne
    rw [Bool.eq_false_iff.mpr hne] at hun
    simp only [Bool.false_and, Bool.toNat_false] at hun
    omega
  · exact hi.returned h

lemma closerInv_step (h : step c st a = some st') (hc : CountInv st) (hi : CloserInv st) :
    CloserInv st' := by
  obtain ⟨hopening, hunclosed, hreturned, hwaited⟩ := id hi
  refine step_induction h ?_ ?_
  · constructor
    · simpa [Task.opening] using hopening
    · simpa [Task.unclosed, Task.closerPc] using hunclosed
    · exact hreturned
    · simpa [Task.closing, Task.closerPc] using hwaited
  · intro i choice t sh' t' started ht hm
    have hop := countP_step Task.opening ht t' started
    have hun := countP_step Task.unclosed ht t' started
    have hcl := countP_step Task.closing ht t' started
    rcases hm.closer_profile with ⟨p, q, rfl, rfl, rfl, hmove⟩ |
      ⟨hn, hn', hclosed, ⟨rfl, rfl, rfl, rfl⟩ | ⟨hret, hsame, hnew⟩⟩
    · -- the goroutine that closes the channel moves
      have hpos := countP_pos_of_getElem? Task.unclosed ht
      have hpos' := countP_pos_of_getElem? Task.closing ht
      simp only [Task.unclosed, Task.closing, Task.opening, Task.closerPc,
        List.countP_nil] at hop hun hcl hpos hpos'
      cases hmove with
      | waited h0 =>
        simp at hop hun hcl
        constructor <;> dsimp only
        · rw [List.append_nil, hop, hopening]
        · rw [List.append_nil, hun, hunclosed]
        · exact hreturned
        · intro _; exact h0
      | closed hc0 =>
        have h0 := hwaited (.inl (hpos' (by simp)))
        have hr := hi.returned_of_waited (.inl (hpos' (by simp)))
        rw [hr, hc0] at hunclosed
        rw [hunclosed] at hun
        simp only [Bool.toNat_false, Nat.add_zero] at hop
        constructor <;> dsimp only
        · rw [hop, hopening]
        · rw [hr]
          simpa using hun
        · intro _; exact hr
        · intro _; exact h0
      | closedTwice hc1 =>
        have hpos1 := hpos (by simp)
        rw [hunclosed, hc1, Bool.not_true, Bool.and_false] at hpos1
        cases hpos1
    · -- `newWatchMux` returns and starts that goroutine
      have hpos := countP_pos_of_getElem? Task.opening ht rfl
      have hr : st.shared.returned = false := by
        by_contra hne
        simp only [Bool.not_eq_false] at hne
        rw [hopening, hne] at hpos
        cases hpos
      have hc0 : st.shared.closed = false := by
        by_contra hne
        simp only [Bool.not_eq_false] at hne
        rw [hreturned hne] at hr
        cases hr
      rw [hr] at hopening hunclosed
      rw [hopening] at hop
      rw [hunclosed] at hun
      constructor <;> dsimp only
      · simpa [Task.opening] using hop
      · rw [hc0]
        simpa [Task.unclosed, Task.closerPc] using hun
      · intro _; rfl
      · intro hw
        apply hwaited
        rcases hw with hw | hw
        · left
          rwa [show List.countP Task.closing _ = _ from hcl] at hw
        · exact .inr hw
    · have hs : started.countP Task.opening = 0 ∧ started.countP Task.unclosed = 0 ∧
          started.countP Task.closing = 0 := by
        simp only [List.countP_eq_zero]
        refine ⟨fun u hu => ?_, fun u hu => ?_, fun u hu => ?_⟩
        · simp [(hnew u hu).2]
        · simp [Task.unclosed, (hnew u hu).1]
        · simp [Task.closing, (hnew u hu).1]
      rw [hsame] at hop
      rw [hs.2.1, Task.unclosed, Task.unclosed, hn, hn'] at hun
      rw [hs.2.2, Task.closing, Task.closing, hn, hn'] at hcl
      simp only [reduceCtorEq, or_self, decide_false, Bool.toNat_false, Nat.add_zero] at hun hcl
      constructor <;> dsimp only
      · rw [hret]
        omega
      · rw [hun, hret, hclosed, hunclosed]
      · rw [hret, hclosed]
        exact hreturned
      · rw [hcl, hclosed]
        intro hw
        exact forwarder_zero_step hc hi (hi.returned_of_waited hw) (hwaited hw) ht hm

structure Safe (st : State β) : Prop where
  stop : StopInv st
  expire : ExpireInv st
  count : CountInv st
  closer : CloserInv st
  calm : st.shared.panicked = false

lemma safe_initial (c : Config β) : Safe (initial c) where
  stop := ⟨rfl, rfl⟩
  expire := rfl
  count := rfl
  closer := ⟨rfl, rfl, nofun, fun _ => rfl⟩
  calm := rfl

namespace Safe

lemma stop_of_closing (hi : Safe st) (ht : st.tasks[i]? = some t)
    (hp : t.stopPc = some .close) : st.shared.stop = false := by
  have hpos := countP_pos_of_getElem? (Task.stopping .close) ht (by simp [Task.stopping, hp])
  have hs := hi.stop
  unfold StopInv at hs
  cases ho : st.shared.stopOnce <;> cases hstop : st.shared.stop <;>
    simp only [RunsOnce, ho, hstop] at hs ⊢ <;> omega

lemma uncounted_of_closed (hi : Safe st) (hc : st.shared.closed = true) :
    ∀ t ∈ st.tasks, t.counted = false := by
  have h0 := hi.closer.waited (.inr hc)
  have hcount : st.shared.forwarder = st.tasks.countP Task.counted := hi.count
  rw [h0] at hcount
  intro t ht
  simpa using List.countP_eq_zero.mp hcount.symm t ht

lemma open_of_counted (hi : Safe st) (ht : st.tasks[i]? = some t)
    (hp : t.counted = true) : 0 < st.shared.forwarder ∧ st.shared.closed = false := by
  constructor
  · rw [show st.shared.forwarder = _ from hi.count]
    exact countP_pos_of_getElem? _ ht hp
  · by_contra hc
    have := hi.uncounted_of_closed (by simpa using hc) t (List.mem_of_getElem? ht)
    rw [hp] at this
    cases this

lemma open_of_closing (hi : Safe st) (ht : st.tasks[i]? = some (.closer .close)) :
    st.shared.closed = false := by
  have hpos := countP_pos_of_getElem? Task.unclosed ht rfl
  rw [hi.closer.unclosed] at hpos
  by_contra hc
  simp only [Bool.not_eq_false] at hc
  rw [hc, Bool.not_true, Bool.and_false] at hpos
  cases hpos

end Safe

lemma safe_step (h : step c st a = some st') (hi : Safe st) : Safe st' where
  stop := stopInv_step h hi.stop
  expire := expireInv_step h hi.expire
  count := countInv_step h hi.count
  closer := closerInv_step h hi.count hi.closer
  calm := by
    refine step_induction (P := fun st => st.shared.panicked = false) h hi.calm ?_
    intro i choice t sh' t' started ht hm
    refine hm.not_panicked hi.calm (hi.stop_of_closing ht) (hi.open_of_counted ht) ?_
    rintro rfl
    exact hi.open_of_closing ht

theorem safe_of_reachable (h : (system c).Reachable st) : Safe st := by
  refine h.invariant ?_ ?_
  · rintro _ rfl
    exact safe_initial c
  · intro s a s' _ hs hstep
    exact safe_step hstep hs

lemma Move.counted_of_deliver {sh sh' : Shared β} {started : List (Task β)}
    {t' : Task β} (h : Move c sh tasks i t .deliver sh' t' started) : t.counted = true := by
  cases h with
  | «open» h =>
    cases h with
    | added h | refused h => cases h
  | forward h | follow h =>
    cases h with
    | _ => rfl
  | join h =>
    cases h with
    | joined h | forbidden h | refused h => cases h
    | _ => rfl
  | closer h => cases h

theorem open_of_deliver (hi : Safe st) (h : step c st (.task i .deliver) = some st') :
    st.shared.closed = false := by
  rcases step_cases h with ⟨j, choice, t, sh', t', started, he, ht, hm, rfl⟩ | ⟨he, -⟩
  · cases he
    exact (hi.open_of_counted ht hm.counted_of_deliver).2
  · cases he

end

end WatchMux
end KubeZoo
