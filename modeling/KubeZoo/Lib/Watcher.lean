import KubeZoo.Lib.Transition

/-! # Watchers in layers -/

open Transition

/-- A watcher that hands out events `ε`. `call` is a call of `Stop` from outside, `calls` how many there
were and `returned` says that they have returned; `ready` says that the watcher has been handed out,
`ended` that nothing of it is left. -/
structure Watcher (ε : Type) where
  State : Type
  Action : Type
  Init : State → Prop
  step : State → Action → Option State
  call : State → Option State
  /-- The event that an action hands to the reader. -/
  gives : State → Action → Option ε
  ready : State → Bool
  calls : State → ℕ
  returned : State → Bool
  closed : State → Bool
  panicked : State → Bool
  ended : State → Prop

namespace Watcher

variable {ε δ : Type}

section

variable (W : Watcher ε)

/-- A step of the watcher, or a call of `Stop`. -/
def next (s : W.State) : Option W.Action → Option W.State
  | some a => W.step s a
  | none => W.call s

def system : System W.State (Option W.Action) := ofStep W.next W.Init

/-- `Stop` is called at most once. -/
def Once (s : W.State) (a : Option W.Action) : Prop := a = none → W.calls s = 0

/-- In the run, `Stop` is called at most once. -/
def StoppedOnce (r : Run W.system) : Prop := ∀ n, r.label n = some none → W.calls (r.state n) = 0

/-- A watcher that may be stopped once. In the runs that are fair, in the sense of `F`, a call of `Stop`
returns and the watcher comes to its end. -/
structure Sound (F : Run W.system → Prop) : Prop where
  init : ∀ s, W.Init s → W.calls s = 0
  calls_step : ∀ s a s', W.step s a = some s' → W.calls s' = W.calls s
  calls_call : ∀ s s', W.call s = some s' → W.calls s' = W.calls s + 1
  ready_next : ∀ s a s', W.next s a = some s' → W.ready s = true → W.ready s' = true
  callable : ∀ s, W.ready s = true → ∃ s', W.call s = some s'
  calm : ∀ s, (W.system.restrict W.Once).Reachable s → W.panicked s = false
  stays : ∀ r : Run W.system, ∀ n m, n ≤ m → W.ended (r.state n) → W.ended (r.state m)
  stops : ∀ r : Run W.system, F r → W.StoppedOnce r → ∀ n, r.label n = some none →
    ∃ m, n ≤ m ∧ W.ended (r.state m)
  returns : ∀ r : Run W.system, F r → W.StoppedOnce r → ∀ n, r.label n = some none →
    ∃ m, n ≤ m ∧ ∀ k, m ≤ k → W.returned (r.state k) = true

/-- As long as `Stop` is called at most once: nothing panics, and once it is called the watcher comes to
its end, for good, in every run that is fair. -/
def SafeShutdown (F : Run W.system → Prop) : Prop :=
  (∀ s, (W.system.restrict W.Once).Reachable s → W.panicked s = false) ∧
    ∀ r : Run W.system, F r → W.StoppedOnce r → ∀ n, r.label n = some none →
      ∃ m, n ≤ m ∧ ∀ k, m ≤ k → W.ended (r.state k)

variable {W}

variable {r : Run W.system} {F : Run W.system → Prop}

lemma Sound.safeShutdown (hW : W.Sound F) : W.SafeShutdown F := by
  refine ⟨hW.calm, fun r hf honce n hn => ?_⟩
  obtain ⟨m, hm, hended⟩ := hW.stops r hf honce n hn
  exact ⟨m, hm, fun k hk => hW.stays r m k hk hended⟩

lemma Sound.called (hW : W.Sound F) {n : ℕ} (h : W.calls (r.state n) ≠ 0) :
    ∃ k, k ≤ n ∧ r.label k = some none := by
  induction n with
  | zero => exact absurd (hW.init _ r.init) h
  | succ n ih =>
    rcases r.next n with ⟨-, hs⟩ | ⟨a, ha, hs⟩
    · rw [hs] at h
      obtain ⟨k, hk, hlabel⟩ := ih h
      exact ⟨k, hk.trans n.le_succ, hlabel⟩
    · cases a with
      | none => exact ⟨n, n.le_succ, ha⟩
      | some a =>
        rw [hW.calls_step _ _ _ hs] at h
        obtain ⟨k, hk, hlabel⟩ := ih h
        exact ⟨k, hk.trans n.le_succ, hlabel⟩

lemma StoppedOnce.reachable (h : W.StoppedOnce r) (n : ℕ) :
    (W.system.restrict W.Once).Reachable (r.state n) := by
  induction n with
  | zero => exact .init r.init
  | succ n ih =>
    rcases r.next n with ⟨-, hs⟩ | ⟨a, ha, hs⟩
    · rw [hs]
      exact ih
    · refine ih.step (a := a) ⟨hs, fun hnone => h n ?_⟩
      rw [ha, hnone]

end

inductive Handling (δ : Type)
  | skip
  | send (event : δ)
  | last (event : δ)
  | leave

/-- A layer. `guarded` says that its `Stop` closes the stop channel once only and then stops the watcher
below; otherwise the pump stops the watcher below when it leaves. `leavesOnStop` says that the pump
leaves if it is stopped while it hands on an event. -/
structure Layer (ε δ : Type) where
  handle : ε → Handling δ
  guarded : Bool
  leavesOnStop : Bool

/-- `sync.Once`. -/
inductive Guard
  | fresh
  | running
  | done
deriving DecidableEq

inductive PumpPc (δ : Type)
  | fresh
  | select
  | send (event : δ) (last : Bool)
  | stop
  | stopping
  | close
  | done
deriving DecidableEq

/-- Where a call of `Stop` is: entering the `Once`, about to close the stop channel, about to stop the
watcher below, in that call, or back. -/
inductive StopPc
  | enter
  | close
  | pass
  | wait
  | done
deriving DecidableEq

namespace Layer

/-- A layer over a watcher in state `inner`. -/
structure State (σ δ : Type) where
  inner : σ
  pump : PumpPc δ := .fresh
  stop : Bool := false
  stopOnce : Guard := .fresh
  stoppers : List StopPc := []
  closed : Bool := false
  panicked : Bool := false
deriving DecidableEq

/-- A step: one of the watcher below, one of the pump, or one of a call of `Stop`. -/
inductive Action (α : Type)
  | inner (a : α)
  | start
  | receive (a : α)
  | ended
  | stopped
  | deliver
  | call
  | returned
  | close
  | stopper (i : ℕ)
deriving DecidableEq

variable (L : Layer ε δ) (W : Watcher ε)

def exit : PumpPc δ := if L.guarded then .close else .stop

def handled : Handling δ → PumpPc δ
  | .skip => .select
  | .send event => .send event false
  | .last event => .send event true
  | .leave => L.exit

/-- A step of the call `i` of `Stop`. -/
def stopStep (s : State W.State δ) (i : ℕ) : StopPc → Option (State W.State δ)
  | .enter =>
    match s.stopOnce with
    | .fresh => some { s with stopOnce := .running, stoppers := s.stoppers.set i .close }
    | .running => none
    | .done => some { s with stoppers := s.stoppers.set i .pass }
  | .close =>
    if s.stop then some { s with panicked := true, stoppers := s.stoppers.set i .done }
    else some { s with
      stop := true
      stopOnce := .done
      stoppers := s.stoppers.set i (if L.guarded then .pass else .done) }
  | .pass =>
    (W.call s.inner).map fun inner => { s with inner := inner, stoppers := s.stoppers.set i .wait }
  | .wait => if W.returned s.inner then some { s with stoppers := s.stoppers.set i .done } else none
  | .done => none

def step (s : State W.State δ) : Action W.Action → Option (State W.State δ)
  | .inner a =>
    match W.gives s.inner a with
    | some _ => none
    | none => (W.step s.inner a).map fun inner => { s with inner := inner }
  | .start =>
    match s.pump with
    | .fresh => if W.ready s.inner then some { s with pump := .select } else none
    | _ => none
  | .receive a =>
    match s.pump, W.gives s.inner a with
    | .select, some event =>
      (W.step s.inner a).map fun inner =>
        { s with inner := inner, pump := L.handled (L.handle event) }
    | _, _ => none
  | .ended =>
    match s.pump with
    | .select => if W.closed s.inner then some { s with pump := L.exit } else none
    | _ => none
  | .stopped =>
    match s.pump with
    | .select => if s.stop then some { s with pump := L.exit } else none
    | .send _ last =>
      if s.stop then some { s with pump := if last || L.leavesOnStop then L.exit else .select }
      else none
    | _ => none
  | .deliver =>
    match s.pump with
    | .send _ last =>
      if s.closed then some { s with panicked := true }
      else some { s with pump := if last then L.exit else .select }
    | _ => none
  | .call =>
    match s.pump with
    | .stop => (W.call s.inner).map fun inner => { s with inner := inner, pump := .stopping }
    | _ => none
  | .returned =>
    match s.pump with
    | .stopping => if W.returned s.inner then some { s with pump := .close } else none
    | _ => none
  | .close =>
    match s.pump with
    | .close =>
      if s.closed then some { s with panicked := true }
      else some { s with closed := true, pump := .done }
    | _ => none
  | .stopper i =>
    match s.stoppers[i]? with
    | some p => L.stopStep W s i p
    | none => none

def atop : Watcher δ where
  State := State W.State δ
  Action := Action W.Action
  Init s := ∃ inner, W.Init inner ∧ s = { inner := inner }
  step := L.step W
  call s :=
    match s.pump with
    | .fresh => none
    | _ => some { s with stoppers := s.stoppers ++ [if L.guarded then .enter else .close] }
  gives s a :=
    match a, s.pump with
    | .deliver, .send event _ => some event
    | _, _ => none
  ready s :=
    match s.pump with
    | .fresh => false
    | _ => true
  calls s := s.stoppers.length
  returned s := s.stoppers.all (· == .done)
  closed s := s.closed
  panicked s := s.panicked || W.panicked s.inner
  ended s := s.pump = .done ∧ s.closed = true ∧ W.ended s.inner

inductive Move (s : State W.State δ) : Option (Action W.Action) → State W.State δ → Prop
  | inner {a : W.Action} {i : W.State} (hgives : W.gives s.inner a = none)
      (h : W.step s.inner a = some i) : Move s (some (.inner a)) { s with inner := i }
  | start (hpump : s.pump = .fresh) (hready : W.ready s.inner = true) :
      Move s (some .start) { s with pump := .select }
  | receive {a : W.Action} {event : ε} {i : W.State} (hpump : s.pump = .select)
      (hgives : W.gives s.inner a = some event) (h : W.step s.inner a = some i) :
      Move s (some (.receive a)) { s with inner := i, pump := L.handled (L.handle event) }
  | ended (hpump : s.pump = .select) (hclosed : W.closed s.inner = true) :
      Move s (some .ended) { s with pump := L.exit }
  | stopped (hpump : s.pump = .select) (hstop : s.stop = true) :
      Move s (some .stopped) { s with pump := L.exit }
  | unsent {event : δ} {last : Bool} (hpump : s.pump = .send event last) (hstop : s.stop = true) :
      Move s (some .stopped) { s with pump := if last || L.leavesOnStop then L.exit else .select }
  | delivered {event : δ} {last : Bool} (hpump : s.pump = .send event last)
      (hclosed : s.closed = false) :
      Move s (some .deliver) { s with pump := if last then L.exit else .select }
  | deliveredClosed {event : δ} {last : Bool} (hpump : s.pump = .send event last)
      (hclosed : s.closed = true) : Move s (some .deliver) { s with panicked := true }
  | call {i : W.State} (hpump : s.pump = .stop) (h : W.call s.inner = some i) :
      Move s (some .call) { s with inner := i, pump := .stopping }
  | returned (hpump : s.pump = .stopping) (hreturned : W.returned s.inner = true) :
      Move s (some .returned) { s with pump := .close }
  | close (hpump : s.pump = .close) (hclosed : s.closed = false) :
      Move s (some .close) { s with closed := true, pump := .done }
  | closeTwice (hpump : s.pump = .close) (hclosed : s.closed = true) :
      Move s (some .close) { s with panicked := true }
  | enter {i : ℕ} (hi : s.stoppers[i]? = some .enter) (honce : s.stopOnce = .fresh) :
      Move s (some (.stopper i))
        { s with stopOnce := .running, stoppers := s.stoppers.set i .close }
  | enterLate {i : ℕ} (hi : s.stoppers[i]? = some .enter) (honce : s.stopOnce = .done) :
      Move s (some (.stopper i)) { s with stoppers := s.stoppers.set i .pass }
  | closeStop {i : ℕ} (hi : s.stoppers[i]? = some .close) (hstop : s.stop = false) :
      Move s (some (.stopper i)) { s with
        stop := true
        stopOnce := .done
        stoppers := s.stoppers.set i (if L.guarded then .pass else .done) }
  | closeStopTwice {i : ℕ} (hi : s.stoppers[i]? = some .close) (hstop : s.stop = true) :
      Move s (some (.stopper i)) { s with panicked := true, stoppers := s.stoppers.set i .done }
  | pass {i : ℕ} {j : W.State} (hi : s.stoppers[i]? = some .pass) (h : W.call s.inner = some j) :
      Move s (some (.stopper i)) { s with inner := j, stoppers := s.stoppers.set i .wait }
  | back {i : ℕ} (hi : s.stoppers[i]? = some .wait) (hreturned : W.returned s.inner = true) :
      Move s (some (.stopper i)) { s with stoppers := s.stoppers.set i .done }
  | stop (hpump : s.pump ≠ .fresh) :
      Move s none { s with stoppers := s.stoppers ++ [if L.guarded then .enter else .close] }

variable {L W} {s s' : State W.State δ} {a : Option (Action W.Action)}

variable {b : Action W.Action} {p : StopPc} {i : ℕ}

lemma move_of_stopStep (hi : s.stoppers[i]? = some p) (h : L.stopStep W s i p = some s') :
    L.Move W s (some (.stopper i)) s' := by
  cases p with
  | enter =>
    simp only [stopStep] at h
    split at h
    · next honce => rw [← Option.some.inj h]; exact .enter hi honce
    · cases h
    · next honce => rw [← Option.some.inj h]; exact .enterLate hi honce
  | close =>
    simp only [stopStep] at h
    by_cases hstop : s.stop = true
    · rw [if_pos hstop] at h
      rw [← Option.some.inj h]
      exact .closeStopTwice hi hstop
    · rw [if_neg hstop] at h
      rw [← Option.some.inj h]
      exact .closeStop hi (by simpa using hstop)
  | pass =>
    obtain ⟨j, hj, rfl⟩ := Option.map_eq_some_iff.mp h
    exact .pass hi hj
  | wait =>
    simp only [stopStep] at h
    split_ifs at h with hreturned
    rw [← Option.some.inj h]
    exact .back hi hreturned
  | done => cases h

lemma move_of_step {a : Action W.Action} (h : L.step W s a = some s') :
    L.Move W s (some a) s' := by
  cases a with
  | inner a =>
    simp only [step] at h
    split at h
    · cases h
    · next hgives =>
      obtain ⟨i, hi, rfl⟩ := Option.map_eq_some_iff.mp h
      exact .inner hgives hi
  | start =>
    simp only [step] at h
    split at h
    · next hpump =>
      split_ifs at h with hready
      rw [← Option.some.inj h]
      exact .start hpump hready
    · cases h
  | receive a =>
    simp only [step] at h
    split at h
    · next event hpump hgives =>
      obtain ⟨i, hi, rfl⟩ := Option.map_eq_some_iff.mp h
      exact .receive hpump hgives hi
    · cases h
  | ended =>
    simp only [step] at h
    split at h
    · next hpump =>
      split_ifs at h with hclosed
      rw [← Option.some.inj h]
      exact .ended hpump hclosed
    · cases h
  | stopped =>
    simp only [step] at h
    split at h
    · next hpump =>
      split_ifs at h with hstop
      rw [← Option.some.inj h]
      exact .stopped hpump hstop
    · next event last hpump =>
      by_cases hstop : s.stop = true
      · rw [if_pos hstop] at h
        rw [← Option.some.inj h]
        exact .unsent hpump hstop
      · rw [if_neg hstop] at h
        cases h
    · cases h
  | deliver =>
    simp only [step] at h
    split at h
    · next event last hpump =>
      by_cases hclosed : s.closed = true
      · rw [if_pos hclosed] at h
        rw [← Option.some.inj h]
        exact .deliveredClosed hpump hclosed
      · rw [if_neg hclosed] at h
        rw [← Option.some.inj h]
        exact .delivered hpump (by simpa using hclosed)
    · cases h
  | call =>
    simp only [step] at h
    split at h
    · next hpump =>
      obtain ⟨i, hi, rfl⟩ := Option.map_eq_some_iff.mp h
      exact .call hpump hi
    · cases h
  | returned =>
    simp only [step] at h
    split at h
    · next hpump =>
      split_ifs at h with hreturned
      rw [← Option.some.inj h]
      exact .returned hpump hreturned
    · cases h
  | close =>
    simp only [step] at h
    split at h
    · next hpump =>
      split_ifs at h with hclosed
      · rw [← Option.some.inj h]; exact .closeTwice hpump hclosed
      · rw [← Option.some.inj h]; exact .close hpump (by simpa using hclosed)
    · cases h
  | stopper i =>
    simp only [step] at h
    split at h
    · next p hi => exact move_of_stopStep hi h
    · cases h

lemma move_of_next (h : (L.atop W).next s a = some s') : L.Move W s a s' := by
  cases a with
  | some a => exact move_of_step h
  | none =>
    simp only [next, atop] at h
    split at h
    · cases h
    · next hpump =>
      rw [← Option.some.inj h]
      exact .stop hpump

lemma exit_ne_send (event : δ) (last : Bool) : L.exit ≠ .send event last := by
  unfold exit
  split_ifs
  · exact nofun
  · exact nofun

lemma handled_of_pump (h : (L.atop W).system.Reachable s) :
    ∀ event last, s.pump = .send event last →
      ∃ e, L.handle e = .send event ∨ L.handle e = .last event := by
  refine h.invariant (P := fun s : State W.State δ => ∀ event last, s.pump = .send event last →
    ∃ e, L.handle e = .send event ∨ L.handle e = .last event) ?_ ?_
  · rintro s ⟨inner, -, rfl⟩ event last hpump
    cases hpump
  · intro s a s' _ ih hnext event last hpump
    cases move_of_next hnext with
    | @receive _ e _ _ _ _ =>
      refine ⟨e, ?_⟩
      cases hhandle : L.handle e with
      | skip =>
        rw [hhandle] at hpump
        cases hpump
      | send event' =>
        rw [hhandle] at hpump
        cases hpump
        exact .inl rfl
      | last event' =>
        rw [hhandle] at hpump
        cases hpump
        exact .inr rfl
      | leave =>
        rw [hhandle] at hpump
        exact absurd hpump (exit_ne_send event last)
    | start _ _ | call _ _ | returned _ _ | close _ _ => cases hpump
    | ended _ _ | stopped _ _ => exact absurd hpump (exit_ne_send event last)
    | unsent _ _ | delivered _ _ =>
      split_ifs at hpump
      exact absurd hpump (exit_ne_send event last)
    | _ => exact ih event last hpump

lemma handled_of_gives (h : (L.atop W).system.Reachable s) {a : Action W.Action} {event : δ}
    (hgives : (L.atop W).gives s a = some event) :
    ∃ e, L.handle e = .send event ∨ L.handle e = .last event := by
  simp only [atop] at hgives
  split at hgives
  · next event' last hpump =>
    cases hgives
    exact handled_of_pump h _ last hpump
  · cases hgives

/-- How far the one call of `Stop` is, with the `Once` and the stop channel of the layer. -/
inductive Stage : Bool → List StopPc → Guard → Bool → Prop
  | idle {guarded : Bool} : Stage guarded [] .fresh false
  | enter : Stage true [.enter] .fresh false
  | closeGuarded : Stage true [.close] .running false
  | pass : Stage true [.pass] .done true
  | wait : Stage true [.wait] .done true
  | doneGuarded : Stage true [.done] .done true
  | close : Stage false [.close] .fresh false
  | done : Stage false [.done] .done true

/-- The watcher below has been stopped by the call of `Stop`. -/
def passedOn : List StopPc → ℕ
  | [.wait] => 1
  | [.done] => 1
  | _ => 0

def pumpPassedOn : PumpPc δ → ℕ
  | .stopping => 1
  | .close => 1
  | .done => 1
  | _ => 0

variable (L W) in
structure Orderly (s : State W.State δ) : Prop where
  inner : (W.system.restrict W.Once).Reachable s.inner
  calm : s.panicked = false
  closed : s.closed = true ↔ s.pump = .done
  fresh : s.pump = .fresh → s.stoppers = []
  ready : s.pump ≠ .fresh → W.ready s.inner = true
  stage : Stage L.guarded s.stoppers s.stopOnce s.stop
  guarded : L.guarded = true →
    s.pump ≠ .stop ∧ s.pump ≠ .stopping ∧ W.calls s.inner = passedOn s.stoppers
  unguarded : L.guarded = false → W.calls s.inner = pumpPassedOn s.pump

variable {F : Run W.system → Prop}

lemma exit_ne_done : L.exit ≠ .done := by
  unfold exit
  split_ifs <;> simp

lemma exit_ne_fresh : L.exit ≠ .fresh := by
  unfold exit
  split_ifs <;> simp

namespace Orderly

lemma setInner (hW : W.Sound F) (hs : L.Orderly W s) {b : W.Action} {i : W.State}
    (h : W.step s.inner b = some i) : L.Orderly W { s with inner := i } where
  inner := hs.inner.step (a := some b) ⟨h, nofun⟩
  calm := hs.calm
  closed := hs.closed
  fresh := hs.fresh
  ready hpump := hW.ready_next _ (some b) _ h (hs.ready hpump)
  stage := hs.stage
  guarded hg := by
    obtain ⟨hstop, hstopping, hcalls⟩ := hs.guarded hg
    exact ⟨hstop, hstopping, (hW.calls_step _ _ _ h).trans hcalls⟩
  unguarded hg := (hW.calls_step _ _ _ h).trans (hs.unguarded hg)

lemma setPump (hs : L.Orderly W s) (hready : W.ready s.inner = true)
    (hloop : s.pump = .fresh ∨ s.pump = .select ∨ ∃ event last, s.pump = .send event last)
    {pc : PumpPc δ} (hpc : pc = .select ∨ (∃ event last, pc = .send event last) ∨ pc = L.exit) :
    L.Orderly W { s with pump := pc } := by
  have hopen : ¬ s.closed = true := by
    rw [hs.closed]
    rcases hloop with h | h | ⟨event, last, h⟩
    · rw [h]; simp
    · rw [h]; simp
    · rw [h]; simp
  have hcalls : pumpPassedOn s.pump = 0 := by
    rcases hloop with h | h | ⟨event, last, h⟩
    · rw [h]; rfl
    · rw [h]; rfl
    · rw [h]; rfl
  have hne : pc ≠ .fresh ∧ pc ≠ .done ∧ (L.guarded = true → pc ≠ .stop ∧ pc ≠ .stopping) ∧
      (L.guarded = false → pumpPassedOn pc = 0) := by
    rcases hpc with rfl | ⟨event, last, rfl⟩ | rfl
    · simp [pumpPassedOn]
    · simp [pumpPassedOn]
    · refine ⟨exit_ne_fresh, exit_ne_done, fun hg => ?_, fun hg => ?_⟩
      · simp [exit, hg]
      · simp [exit, hg, pumpPassedOn]
  exact { hs with
    closed := ⟨fun h => absurd h hopen, fun h => absurd h hne.2.1⟩
    fresh := fun h => absurd h hne.1
    ready := fun _ => hready
    guarded := fun hg => ⟨(hne.2.2.1 hg).1, (hne.2.2.1 hg).2, (hs.guarded hg).2.2⟩
    unguarded := fun hg => by rw [hs.unguarded hg, hcalls, hne.2.2.2 hg] }

lemma setStoppers (hs : L.Orderly W s) {stoppers : List StopPc} {stopOnce : Guard} {stop : Bool}
    (hstage : Stage L.guarded stoppers stopOnce stop) (hne : s.stoppers ≠ [])
    (hpassed : L.guarded = true → passedOn stoppers = passedOn s.stoppers) :
    L.Orderly W { s with stoppers := stoppers, stopOnce := stopOnce, stop := stop } where
  inner := hs.inner
  calm := hs.calm
  closed := hs.closed
  fresh hpump := absurd (hs.fresh hpump) hne
  ready := hs.ready
  stage := hstage
  guarded hg := by
    obtain ⟨hstop, hstopping, hcalls⟩ := hs.guarded hg
    exact ⟨hstop, hstopping, hcalls.trans (hpassed hg).symm⟩
  unguarded := hs.unguarded

end Orderly

lemma handled_cases (h : Handling δ) : L.handled h = .select ∨
    (∃ event last, L.handled h = .send event last) ∨ L.handled h = L.exit := by
  cases h with
  | skip => exact .inl rfl
  | send event => exact .inr (.inl ⟨event, false, rfl⟩)
  | last event => exact .inr (.inl ⟨event, true, rfl⟩)
  | leave => exact .inr (.inr rfl)

lemma Stage.only {guarded stop : Bool} {stoppers : List StopPc} {stopOnce : Guard}
    (h : Stage guarded stoppers stopOnce stop) (hi : stoppers[i]? = some p) :
    i = 0 ∧ stoppers = [p] := by
  have hone : stoppers = [] ∨ ∃ q, stoppers = [q] := by
    cases h with
    | idle => exact .inl rfl
    | _ => exact .inr ⟨_, rfl⟩
  rcases hone with rfl | ⟨q, rfl⟩
  · cases hi
  · cases i with
    | zero => exact ⟨rfl, by rw [Option.some.inj hi]⟩
    | succ i => cases hi

section

variable {guarded stop : Bool} {stopOnce : Guard}

lemma Stage.of_nil (h : Stage guarded [] stopOnce stop) : stopOnce = .fresh ∧ stop = false := by
  cases h
  exact ⟨rfl, rfl⟩

lemma Stage.of_enter (h : Stage guarded [.enter] stopOnce stop) :
    guarded = true ∧ stopOnce = .fresh ∧ stop = false := by
  cases h
  exact ⟨rfl, rfl, rfl⟩

lemma Stage.of_close (h : Stage guarded [.close] stopOnce stop) : stop = false := by
  cases h with
  | closeGuarded => rfl
  | close => rfl

lemma Stage.of_pass (h : Stage guarded [.pass] stopOnce stop) :
    guarded = true ∧ stopOnce = .done ∧ stop = true := by
  cases h
  exact ⟨rfl, rfl, rfl⟩

lemma Stage.of_wait (h : Stage guarded [.wait] stopOnce stop) :
    guarded = true ∧ stopOnce = .done ∧ stop = true := by
  cases h
  exact ⟨rfl, rfl, rfl⟩

lemma Stage.of_done (h : Stage guarded [.done] stopOnce stop) : stop = true := by
  cases h with
  | doneGuarded => rfl
  | done => rfl

end

lemma orderly_move (hW : W.Sound F) (hs : L.Orderly W s) (h : L.Move W s a s')
    (honce : a = none → s.stoppers = []) : L.Orderly W s' := by
  cases h with
  | inner hgives h => exact hs.setInner hW h
  | start hpump hready => exact hs.setPump hready (.inl hpump) (.inl rfl)
  | receive hpump hgives h =>
    have hready := hs.ready (by rw [hpump]; simp)
    exact (hs.setInner hW h).setPump (hW.ready_next _ (some _) _ h hready) (.inr (.inl hpump))
      (handled_cases _)
  | ended hpump _ | stopped hpump _ =>
    exact hs.setPump (hs.ready (by rw [hpump]; simp)) (.inr (.inl hpump)) (.inr (.inr rfl))
  | @unsent event last hpump _ | @delivered event last hpump _ =>
    refine hs.setPump (hs.ready (by rw [hpump]; simp)) (.inr (.inr ⟨event, last, hpump⟩)) ?_
    split_ifs
    · exact .inr (.inr rfl)
    · exact .inl rfl
  | deliveredClosed hpump hclosed =>
    -- The channel is closed only once the pump is gone.
    rw [hs.closed.mp hclosed] at hpump
    cases hpump
  | @call i hpump h =>
    have hready := hs.ready (by rw [hpump]; simp)
    have hg : L.guarded = false := by
      by_contra hg
      exact (hs.guarded (by simpa using hg)).1 hpump
    have hcalls : W.calls s.inner = 0 := by rw [hs.unguarded hg, hpump]; rfl
    exact { hs with
      inner := hs.inner.step (a := none) ⟨h, fun _ => hcalls⟩
      closed := ⟨fun hc => absurd (hs.closed.mp hc) (by rw [hpump]; simp), nofun⟩
      fresh := nofun
      ready := fun _ => hW.ready_next _ none _ h hready
      guarded := fun hg' => by rw [hg] at hg'; cases hg'
      unguarded := fun _ => by rw [hW.calls_call _ _ h, hcalls]; rfl }
  | returned hpump _ =>
    have hg : L.guarded = false := by
      by_contra hg
      exact (hs.guarded (by simpa using hg)).2.1 hpump
    exact { hs with
      closed := ⟨fun hc => absurd (hs.closed.mp hc) (by rw [hpump]; simp), nofun⟩
      fresh := nofun
      ready := fun _ => hs.ready (by rw [hpump]; simp)
      guarded := fun hg' => by rw [hg] at hg'; cases hg'
      unguarded := fun _ => by rw [hs.unguarded hg, hpump]; rfl }
  | close hpump _ =>
    exact { hs with
      closed := ⟨fun _ => rfl, fun _ => rfl⟩
      fresh := nofun
      ready := fun _ => hs.ready (by rw [hpump]; simp)
      guarded := fun hg => ⟨nofun, nofun, (hs.guarded hg).2.2⟩
      unguarded := fun hg => by rw [hs.unguarded hg, hpump]; rfl }
  | closeTwice hpump hclosed =>
    rw [hs.closed.mp hclosed] at hpump
    cases hpump
  | enter hi _ =>
    obtain ⟨rfl, hone⟩ := hs.stage.only hi
    obtain ⟨hg, -, hstop⟩ := (hone ▸ hs.stage).of_enter
    rw [hone]
    refine hs.setStoppers ?_ (by simp [hone]) fun _ => by rw [hone]; rfl
    rw [hg, hstop]
    exact .closeGuarded
  | enterLate hi honce' =>
    obtain ⟨rfl, hone⟩ := hs.stage.only hi
    obtain ⟨-, hfresh, -⟩ := (hone ▸ hs.stage).of_enter
    rw [hfresh] at honce'
    cases honce'
  | closeStop hi hstop =>
    obtain ⟨rfl, hone⟩ := hs.stage.only hi
    rw [hone]
    refine hs.setStoppers ?_ (by simp [hone]) fun hg => by rw [hone, if_pos hg]; rfl
    cases hg : L.guarded with
    | true => exact .pass
    | false => exact .done
  | closeStopTwice hi hstop =>
    obtain ⟨rfl, hone⟩ := hs.stage.only hi
    have hstage := hs.stage
    rw [hone] at hstage
    rw [hstage.of_close] at hstop
    cases hstop
  | @pass i j hi h =>
    obtain ⟨rfl, hone⟩ := hs.stage.only hi
    obtain ⟨hg, honce', hstop⟩ := (hone ▸ hs.stage).of_pass
    have hpump : s.pump ≠ .fresh := fun hp => by rw [hs.fresh hp] at hone; cases hone
    obtain ⟨hstopNe, hstoppingNe, hcalls⟩ := hs.guarded hg
    rw [hone] at hcalls
    have hzero : W.calls s.inner = 0 := hcalls
    exact { hs with
      inner := hs.inner.step (a := none) ⟨h, fun _ => hzero⟩
      fresh := fun hp => absurd hp hpump
      ready := fun _ => hW.ready_next _ none _ h (hs.ready hpump)
      stage := by
        show Stage L.guarded (s.stoppers.set 0 .wait) s.stopOnce s.stop
        rw [hone, hg, honce', hstop]
        exact .wait
      guarded := fun _ => by
        refine ⟨hstopNe, hstoppingNe, ?_⟩
        show W.calls j = passedOn (s.stoppers.set 0 .wait)
        rw [hW.calls_call _ _ h, hzero, hone]
        rfl
      unguarded := fun hg' => by rw [hg] at hg'; cases hg' }
  | back hi _ =>
    obtain ⟨rfl, hone⟩ := hs.stage.only hi
    obtain ⟨hg, honce', hstop⟩ := (hone ▸ hs.stage).of_wait
    rw [hone]
    refine hs.setStoppers ?_ (by simp [hone]) fun _ => by rw [hone]; rfl
    rw [hg, honce', hstop]
    exact .doneGuarded
  | stop hpump =>
    have hnone := honce rfl
    obtain ⟨hfresh, hstop⟩ := (hnone ▸ hs.stage).of_nil
    exact { hs with
      fresh := fun hp => absurd hp hpump
      stage := by
        show Stage L.guarded (s.stoppers ++ [if L.guarded then .enter else .close]) s.stopOnce s.stop
        rw [hnone, hfresh, hstop]
        cases L.guarded with
        | true => exact .enter
        | false => exact .close
      guarded := fun hg => by
        obtain ⟨hstopNe, hstoppingNe, hcalls⟩ := hs.guarded hg
        refine ⟨hstopNe, hstoppingNe, ?_⟩
        show W.calls s.inner = passedOn (s.stoppers ++ [if L.guarded then .enter else .close])
        rw [hcalls, hnone, if_pos hg]
        rfl }

lemma orderly_of_reachable (hW : W.Sound F)
    (h : ((L.atop W).system.restrict (L.atop W).Once).Reachable s) : L.Orderly W s := by
  refine h.invariant (P := fun s => L.Orderly W s) ?_ ?_
  · intro s ⟨i, hi, hs⟩
    rw [hs]
    exact {
      inner := .init hi
      calm := rfl
      closed := ⟨nofun, nofun⟩
      fresh := fun _ => rfl
      ready := fun hne => absurd rfl hne
      stage := .idle
      guarded := fun _ => ⟨nofun, nofun, hW.init _ hi⟩
      unguarded := fun _ => hW.init _ hi }
  · intro s a s' _ hs hstep
    exact orderly_move hW hs (move_of_next hstep.1) fun ha => List.eq_nil_of_length_eq_zero (hstep.2 ha)

def seen (s : State W.State δ) : Option (Action W.Action) → Option (Option W.Action)
  | some (.inner a) => some (some a)
  | some (.receive a) => some (some a)
  | some .call => some none
  | some (.stopper i) => if s.stoppers[i]? = some .pass then some none else none
  | _ => none

lemma seen_move (h : L.Move W s a s') : (seen s a = none ∧ s'.inner = s.inner) ∨
    ∃ b, seen s a = some b ∧ W.next s.inner b = some s'.inner := by
  cases h with
  | inner _ h | receive _ _ h | call _ h => exact .inr ⟨_, rfl, h⟩
  | pass hi h => exact .inr ⟨none, if_pos hi, h⟩
  | enter hi _ | enterLate hi _ | closeStop hi _ | closeStopTwice hi _ | back hi _ =>
    exact .inl ⟨if_neg (by rw [hi]; simp), rfl⟩
  | _ => exact .inl ⟨rfl, rfl⟩

def below (r : Run (L.atop W).system) : Run W.system :=
  r.view (fun s : State W.State δ => s.inner) seen
    (fun s hs => by obtain ⟨i, hi, rfl⟩ := hs; exact hi)
    fun _ _ _ h => seen_move (move_of_next h)

def Action.pump {α : Type} : Action α → Bool
  | .inner _ => false
  | .stopper _ => false
  | _ => true

def Action.own {α : Type} : Action α → Bool
  | .inner _ => false
  | .stopper _ => false
  | .receive _ => false
  | .deliver => false
  | _ => true

variable (L W F) in
/-- Fair scheduling: below, of the pump and of every call of `Stop`; and a select whose stop branch is
ready again and again takes it, whatever else is ready. -/
structure Fair (r : Run (L.atop W).system) : Prop where
  below : F (below r)
  pump : r.WeakFair
    (fun s : State W.State δ => ∃ a : Action W.Action, a.own = true ∧ (L.step W s a).isSome = true)
    fun _ a => ∃ b : Action W.Action, a = some b ∧ b.pump = true
  seesStop : r.StrongFair (fun s : State W.State δ => s.pump = .select ∧ s.stop = true)
    fun (s : State W.State δ) a => s.pump = .select ∧ a = some Action.stopped
  stopper : ∀ i, r.WeakFair (fun s : State W.State δ => (L.step W s (.stopper i)).isSome = true)
    fun _ a => a = some (Action.stopper i)

lemma Move.pump_eq (h : L.Move W s a s')
    (ha : ¬ ∃ b : Action W.Action, a = some b ∧ b.pump = true) : s'.pump = s.pump := by
  cases h with
  | inner _ _ | enter _ _ | enterLate _ _ | closeStop _ _ | closeStopTwice _ _ | pass _ _
  | back _ _ | stop _ => rfl
  | _ => exact absurd ⟨_, rfl, rfl⟩ ha

lemma Move.done_stays (h : L.Move W s a s') (hpump : s.pump = .done) (hclosed : s.closed = true) :
    s'.pump = .done ∧ s'.closed = true := by
  cases h with
  | inner _ _ | enter _ _ | enterLate _ _ | closeStop _ _ | closeStopTwice _ _ | pass _ _
  | back _ _ | stop _ => exact ⟨hpump, hclosed⟩
  | start h _ | receive h _ _ | ended h _ | stopped h _ | unsent h _ | delivered h _
  | deliveredClosed h _ | call h _ | returned h _ | close h _ | closeTwice h _ =>
    rw [hpump] at h; cases h

lemma Orderly.calls_of_seen (hs : L.Orderly W s) (h : L.Move W s a s')
    (hseen : seen s a = some none) : W.calls s.inner = 0 := by
  cases h with
  | call hpump h =>
    have hg : L.guarded = false := by
      by_contra hg
      exact (hs.guarded (by simpa using hg)).1 hpump
    rw [hs.unguarded hg, hpump]
    rfl
  | pass hi h =>
    obtain ⟨-, hone⟩ := hs.stage.only hi
    have hstage := hs.stage
    rw [hone] at hstage
    rw [(hs.guarded hstage.of_pass.1).2.2, hone]
    rfl
  | enter hi _ | enterLate hi _ | closeStop hi _ | closeStopTwice hi _ | back hi _ =>
    rw [seen, hi] at hseen; cases hseen
  | _ => cases hseen

variable (L) in
inductive Goes : PumpPc δ → PumpPc δ → Prop
  | start : Goes .fresh .select
  | handled (h : Handling δ) : Goes .select (L.handled h)
  | leave : Goes .select L.exit
  | again (event : δ) (last : Bool) : Goes (.send event last) .select
  | sent (event : δ) (last : Bool) : Goes (.send event last) L.exit
  | call : Goes .stop .stopping
  | returned : Goes .stopping .close
  | close : Goes .close .done

lemma Orderly.goes (hs : L.Orderly W s) (h : L.Move W s (some b) s') (hb : b.pump = true) :
    L.Goes s.pump s'.pump := by
  cases h with
  | start hpump _ => rw [hpump]; exact .start
  | receive hpump _ _ => rw [hpump]; exact .handled _
  | ended hpump _ | stopped hpump _ => rw [hpump]; exact .leave
  | unsent hpump _ | delivered hpump _ =>
    rw [hpump]
    split_ifs
    · exact .sent _ _
    · exact .again _ _
  | deliveredClosed hpump hclosed | closeTwice hpump hclosed =>
    rw [hs.closed.mp hclosed] at hpump; cases hpump
  | call hpump _ => rw [hpump]; exact .call
  | returned hpump _ => rw [hpump]; exact .returned
  | close hpump _ => rw [hpump]; exact .close
  | _ => cases hb

lemma Move.pump_of_stopped (h : L.Move W s (some .stopped) s') (hpump : s.pump = .select) :
    s'.pump = L.exit := by
  cases h with
  | stopped _ _ => rfl
  | unsent h _ => rw [hpump] at h; cases h

variable (L) in
/-- Where the call of `Stop` goes next. -/
def after : StopPc → StopPc
  | .enter => .close
  | .close => if L.guarded then .pass else .done
  | .pass => .wait
  | .wait => .done
  | .done => .done

lemma Orderly.stoppers_next (hs : L.Orderly W s) (hp : s.stoppers = [p]) (h : L.Move W s a s')
    (ha : a ≠ none) :
    (a ≠ some (.stopper 0) ∧ s'.stoppers = [p]) ∨
      (a = some (.stopper 0) ∧ s'.stoppers = [L.after p]) := by
  have hstage := hs.stage
  cases h with
  | enter hi _ | closeStop hi _ | pass hi _ | back hi _ =>
    obtain ⟨rfl, hone⟩ := hs.stage.only hi
    cases hp.symm.trans hone
    exact .inr ⟨rfl, by rw [hp]; rfl⟩
  | enterLate hi hlate =>
    obtain ⟨-, hone⟩ := hs.stage.only hi
    rw [hone] at hstage
    rw [hstage.of_enter.2.1] at hlate
    cases hlate
  | closeStopTwice hi hstop =>
    obtain ⟨-, hone⟩ := hs.stage.only hi
    rw [hone] at hstage
    rw [hstage.of_close] at hstop
    cases hstop
  | stop _ => exact absurd rfl ha
  | _ => exact .inl ⟨nofun, hp⟩

lemma Orderly.stopper_enabled (hW : W.Sound F) (hs : L.Orderly W s) (hp : s.stoppers = [p])
    (hdone : p ≠ .done) (hwait : p = .wait → W.returned s.inner = true) :
    (L.step W s (.stopper 0)).isSome = true := by
  have hstage := hs.stage
  rw [hp] at hstage
  simp only [step, hp, List.getElem?_cons_zero]
  cases p with
  | enter => simp [stopStep, hstage.of_enter.2.1]
  | close => simp [stopStep, hstage.of_close]
  | pass =>
    have hpump : s.pump ≠ .fresh := fun hfresh => by rw [hs.fresh hfresh] at hp; cases hp
    obtain ⟨i, hi⟩ := hW.callable _ (hs.ready hpump)
    simp [stopStep, hi]
  | wait => simp [stopStep, hwait rfl]
  | done => exact absurd rfl hdone

lemma Move.stoppers_of_stop (h : L.Move W s none s') :
    s'.stoppers = s.stoppers ++ [if L.guarded then .enter else .close] := by
  cases h with
  | stop _ => rfl

def Looping : PumpPc δ → Prop
  | .select => True
  | .send _ _ => True
  | _ => False

lemma not_looping_exit : ¬ Looping (L.exit : PumpPc δ) := by
  unfold exit
  split_ifs <;> exact id

section

variable {r : Run (L.atop W).system} {n : ℕ}

lemma move_at (ha : r.label n = some a) : L.Move W (r.state n) a (r.state (n + 1)) := by
  rcases r.next n with ⟨hnone, -⟩ | ⟨b, hb, hs⟩
  · rw [ha] at hnone
    cases hnone
  · rw [ha] at hb
    cases hb
    exact move_of_next hs

lemma keeps {P : State W.State δ → Prop}
    (hP : ∀ s a s', L.Move W s a s' → P s → P s') {m : ℕ} (hm : n ≤ m) (h : P (r.state n)) :
    P (r.state m) :=
  r.stable (P := P) (fun s a s' _ hs hstep => hP s a s' (move_of_next hstep) hs) hm h

variable (hW : W.Sound F) (honce : (L.atop W).StoppedOnce r) (hf : L.Fair W F r)

include hW honce

lemma orderly_at (n : ℕ) : L.Orderly W (r.state n) := orderly_of_reachable hW (honce.reachable n)

lemma stoppers_step (hp : State.stoppers (r.state n) = [p]) :
    State.stoppers (r.state (n + 1)) = [p] ∨
      (r.label n = some (some (.stopper 0)) ∧ State.stoppers (r.state (n + 1)) = [L.after p]) := by
  rcases r.next n with ⟨-, hs⟩ | ⟨a, ha, hs⟩
  · rw [hs]
    exact .inl hp
  · have hne : a ≠ none := by
      rintro rfl
      have hzero : (State.stoppers (r.state n)).length = 0 := honce n ha
      rw [hp] at hzero
      cases hzero
    rcases (orderly_at hW honce n).stoppers_next hp (move_of_next hs) hne with ⟨-, h⟩ | ⟨h0, h⟩
    · exact .inl h
    · exact .inr ⟨ha.trans (congrArg some h0), h⟩

lemma stoppers_done_stays (hp : State.stoppers (r.state n) = [.done]) {m : ℕ} (hm : n ≤ m) :
    State.stoppers (r.state m) = [.done] := by
  induction m, hm using Nat.le_induction with
  | base => exact hp
  | succ m _ ih =>
    rcases stoppers_step hW honce ih with h | ⟨-, h⟩
    · exact h
    · exact h

lemma below_stoppedOnce : W.StoppedOnce (below r) := by
  intro n hn
  obtain ⟨a, ha, hseen⟩ := Option.bind_eq_some_iff.mp hn
  exact (orderly_at hW honce n).calls_of_seen (move_at ha) hseen

include hf

lemma below_returns (h : W.calls (State.inner (r.state n)) ≠ 0) :
    ∃ m, n ≤ m ∧ ∀ k, m ≤ k → W.returned (State.inner (r.state k)) = true := by
  obtain ⟨k, -, hk⟩ := hW.called (r := below r) h
  obtain ⟨m, -, hm⟩ := hW.returns _ hf.below (below_stoppedOnce hW honce) k hk
  exact ⟨max n m, le_max_left _ _, fun j hj => hm j ((le_max_right _ _).trans hj)⟩

lemma below_ends (h : W.calls (State.inner (r.state n)) ≠ 0) :
    ∃ m, n ≤ m ∧ W.ended (State.inner (r.state m)) := by
  obtain ⟨k, -, hk⟩ := hW.called (r := below r) h
  obtain ⟨m, -, hm⟩ := hW.stops _ hf.below (below_stoppedOnce hW honce) k hk
  exact ⟨max n m, le_max_left _ _, hW.stays (below r) m _ (le_max_right _ _) hm⟩

lemma stopper_advances (hp : State.stoppers (r.state n) = [p]) (hdone : p ≠ .done)
    (hwait : ∃ k, n ≤ k ∧ ∀ m, k ≤ m → p = .wait → W.returned (State.inner (r.state m)) = true) :
    ∃ m, n ≤ m ∧ State.stoppers (r.state m) = [L.after p] := by
  obtain ⟨k, hk, hreturned⟩ := hwait
  obtain ⟨m, hm, hpm, a, ha, rfl⟩ := r.leads_of_weakFair (hf.stopper 0)
    (P := fun s : State W.State δ => s.stoppers = [p])
    ⟨k, hk, fun m hm hpm => (orderly_at hW honce m).stopper_enabled hW hpm hdone (hreturned m hm)⟩
    (by
      intro m _ hpm hno
      rcases stoppers_step hW honce hpm with hsame | ⟨hl, -⟩
      · exact hsame
      · exact absurd ⟨_, hl, rfl⟩ hno) hp
  rcases (orderly_at hW honce m).stoppers_next hpm (move_at ha) nofun with ⟨h0, -⟩ | ⟨-, h⟩
  · exact absurd rfl h0
  · exact ⟨m + 1, by omega, h⟩

lemma stopper_done_of_wait (hp : State.stoppers (r.state n) = [.wait]) :
    ∃ m, n ≤ m ∧ State.stoppers (r.state m) = [.done] := by
  have hs := orderly_at hW honce n
  have hstage := hs.stage
  rw [hp] at hstage
  have hcalls : W.calls (State.inner (r.state n)) ≠ 0 := by
    rw [(hs.guarded hstage.of_wait.1).2.2, hp]
    exact one_ne_zero
  obtain ⟨k, hk, hreturned⟩ := below_returns hW honce hf hcalls
  exact stopper_advances hW honce hf hp nofun ⟨k, hk, fun m hm _ => hreturned m hm⟩

lemma stopper_done (hn : r.label n = some none) :
    ∃ m, n ≤ m ∧ State.stoppers (r.state m) = [.done] := by
  have hnil : State.stoppers (r.state n) = [] := List.eq_nil_of_length_eq_zero (honce n hn)
  have hfirst := (move_at hn).stoppers_of_stop
  rw [hnil] at hfirst
  have goes : ∀ {m p}, State.stoppers (r.state m) = [p] → p ≠ .done → p ≠ .wait →
      ∃ k, m ≤ k ∧ State.stoppers (r.state k) = [L.after p] := fun hp hdone hwait =>
    stopper_advances hW honce hf hp hdone ⟨_, le_rfl, fun _ _ h => absurd h hwait⟩
  cases hg : L.guarded with
  | false =>
    rw [hg, if_neg (by simp)] at hfirst
    obtain ⟨m, hm, hdone⟩ := goes hfirst nofun nofun
    rw [after, hg] at hdone
    exact ⟨m, by omega, hdone⟩
  | true =>
    rw [hg] at hfirst
    obtain ⟨m₁, hm₁, hclose⟩ := goes hfirst nofun nofun
    obtain ⟨m₂, hm₂, hpass⟩ := goes (p := .close) hclose nofun nofun
    rw [after, hg] at hpass
    obtain ⟨m₃, hm₃, hwait⟩ := goes hpass nofun nofun
    obtain ⟨m₄, hm₄, hdone⟩ := stopper_done_of_wait hW honce hf hwait
    exact ⟨m₄, by omega, hdone⟩

lemma pump_goes {pc : PumpPc δ} (hpc : State.pump (r.state n) = pc)
    (hready : ∃ k, n ≤ k ∧ ∀ m, k ≤ m → State.pump (r.state m) = pc →
      ∃ a : Action W.Action, a.own = true ∧ (L.step W (r.state m) a).isSome = true) :
    ∃ m, n ≤ m ∧ L.Goes pc (State.pump (r.state m)) := by
  obtain ⟨m, hm, hpump, a, ha, b, rfl, hb⟩ := r.leads_of_weakFair hf.pump
    (P := fun s : State W.State δ => s.pump = pc) hready (by
      intro m _ hpump hno
      rcases r.next m with ⟨-, hs⟩ | ⟨a, ha, hs⟩
      · rw [hs]
        exact hpump
      · exact ((move_of_next hs).pump_eq fun hb => hno ⟨a, ha, hb⟩).trans hpump) hpc
  have hgoes := (orderly_at hW honce m).goes (move_at ha) hb
  rw [hpump] at hgoes
  exact ⟨m + 1, by omega, hgoes⟩

lemma pump_leaves (hstop : ∀ m, n ≤ m → State.stop (r.state m) = true) :
    ∃ m, n ≤ m ∧ ¬ Looping (State.pump (r.state m)) := by
  by_contra hno
  push Not at hno
  -- As long as it does not leave it comes back to its select, with the stop branch ready.
  have hback : ∀ k, n ≤ k → ∃ m, k ≤ m ∧
      (State.pump (r.state m) = .select ∧ State.stop (r.state m) = true) := by
    intro k hk
    have hloop := hno k hk
    cases hpump : State.pump (r.state k) with
    | select => exact ⟨k, le_rfl, hpump, hstop k hk⟩
    | send event last =>
      obtain ⟨m, hm, hgoes⟩ := pump_goes hW honce hf hpump ⟨k, le_rfl, fun m hm hpm =>
        ⟨.stopped, rfl, by simp [step, hpm, hstop m (hk.trans hm)]⟩⟩
      have hloop := hno m (hk.trans hm)
      refine ⟨m, hm, ?_, hstop m (hk.trans hm)⟩
      generalize State.pump (r.state m) = pc at hgoes hloop ⊢
      cases hgoes with
      | again _ _ => rfl
      | sent _ _ => exact absurd hloop not_looping_exit
    | _ => rw [hpump] at hloop; exact absurd hloop id
  obtain ⟨m, hm, a, ha, hpump, rfl⟩ := hf.seesStop n hback
  have hloop := hno (m + 1) (by omega)
  rw [(move_at ha).pump_of_stopped hpump] at hloop
  exact not_looping_exit hloop

lemma pump_done_of_close (hpump : State.pump (r.state n) = .close) :
    ∃ m, n ≤ m ∧ State.pump (r.state m) = .done := by
  obtain ⟨m, hm, hgoes⟩ := pump_goes hW honce hf hpump ⟨n, le_rfl, fun m _ hpm => by
    refine ⟨.close, rfl, ?_⟩
    simp only [step, hpm]
    split_ifs <;> rfl⟩
  refine ⟨m, hm, ?_⟩
  generalize State.pump (r.state m) = pc at hgoes ⊢
  cases hgoes with
  | close => rfl

lemma pump_done_of_stopping (hpump : State.pump (r.state n) = .stopping) :
    ∃ m, n ≤ m ∧ State.pump (r.state m) = .done := by
  have hs := orderly_at hW honce n
  have hg : L.guarded = false := by
    by_contra hg
    exact (hs.guarded (by simpa using hg)).2.1 hpump
  have hcalls : W.calls (State.inner (r.state n)) ≠ 0 := by
    rw [hs.unguarded hg, hpump]
    exact one_ne_zero
  obtain ⟨k, hk, hreturned⟩ := below_returns hW honce hf hcalls
  obtain ⟨m, hm, hgoes⟩ := pump_goes hW honce hf hpump ⟨k, hk, fun m hm hpm =>
    ⟨.returned, rfl, by simp [step, hpm, hreturned m hm]⟩⟩
  have hclose : State.pump (r.state m) = .close := by
    generalize State.pump (r.state m) = pc at hgoes ⊢
    cases hgoes with
    | returned => rfl
  exact exists_of_later hm (pump_done_of_close hW honce hf hclose)

lemma pump_done_of_stop (hpump : State.pump (r.state n) = .stop) :
    ∃ m, n ≤ m ∧ State.pump (r.state m) = .done := by
  obtain ⟨m, hm, hgoes⟩ := pump_goes hW honce hf hpump ⟨n, le_rfl, fun m _ hpm => by
    obtain ⟨i, hi⟩ := hW.callable _ ((orderly_at hW honce m).ready (by rw [hpm]; simp))
    exact ⟨.call, rfl, by simp [step, hpm, hi]⟩⟩
  have hstopping : State.pump (r.state m) = .stopping := by
    generalize State.pump (r.state m) = pc at hgoes ⊢
    cases hgoes with
    | call => rfl
  exact exists_of_later hm (pump_done_of_stopping hW honce hf hstopping)

lemma pump_done (hp : State.stoppers (r.state n) = [.done]) :
    ∃ m, n ≤ m ∧ State.pump (r.state m) = .done := by
  have hlate : ∀ m, n ≤ m → State.stop (r.state m) = true := fun m hm => by
    have hstage := (orderly_at hW honce m).stage
    rw [stoppers_done_stays hW honce hp hm] at hstage
    exact hstage.of_done
  obtain ⟨m, hm, hleft⟩ := pump_leaves hW honce hf hlate
  refine exists_of_later hm ?_
  cases hpump : State.pump (r.state m) with
  | fresh =>
    have hnil := (orderly_at hW honce m).fresh hpump
    rw [stoppers_done_stays hW honce hp hm] at hnil
    cases hnil
  | select | send => rw [hpump] at hleft; exact absurd trivial hleft
  | stop => exact pump_done_of_stop hW honce hf hpump
  | stopping => exact pump_done_of_stopping hW honce hf hpump
  | close => exact pump_done_of_close hW honce hf hpump
  | done => exact ⟨m, le_rfl, hpump⟩

lemma ends_of_stop (hn : r.label n = some none) :
    ∃ m, n ≤ m ∧ (L.atop W).ended (r.state m) := by
  obtain ⟨k, hk, hp⟩ := stopper_done hW honce hf hn
  obtain ⟨m, hm, hdone⟩ := pump_done hW honce hf hp
  have hs := orderly_at hW honce m
  -- By now the pump or the call of `Stop` has stopped the watcher below.
  have hcalls : W.calls (State.inner (r.state m)) ≠ 0 := by
    cases hg : L.guarded with
    | true =>
      rw [(hs.guarded hg).2.2, stoppers_done_stays hW honce hp hm]
      exact one_ne_zero
    | false =>
      rw [hs.unguarded hg, hdone]
      exact one_ne_zero
  obtain ⟨j, hj, hended⟩ := below_ends hW honce hf hcalls
  obtain ⟨hpump, hclosed⟩ := keeps (P := fun s : State W.State δ => s.pump = .done ∧ s.closed = true)
    (fun _ _ _ h hs => h.done_stays hs.1 hs.2) hj ⟨hdone, hs.closed.mpr hdone⟩
  exact ⟨j, by omega, hpump, hclosed, hended⟩

end

lemma Move.ready_stays (h : L.Move W s a s') (hpump : s.pump ≠ .fresh) : s'.pump ≠ .fresh := by
  cases h with
  | start _ _ | call _ _ | returned _ _ | close _ _ => nofun
  | @receive _ event _ _ _ _ =>
    rcases handled_cases (L := L) (L.handle event) with h | ⟨_, _, h⟩ | h
    · rw [h]; nofun
    · rw [h]; nofun
    · rw [h]; exact exit_ne_fresh
  | ended _ _ => exact exit_ne_fresh
  | stopped _ _ => exact exit_ne_fresh
  | unsent _ _ | delivered _ _ =>
    split_ifs
    · exact exit_ne_fresh
    · nofun
  | _ => exact hpump

lemma Move.calls_eq (h : L.Move W s (some b) s') : s'.stoppers.length = s.stoppers.length := by
  cases h with
  | enter _ _ | enterLate _ _ | closeStop _ _ | closeStopTwice _ _ | pass _ _ | back _ _ =>
    exact List.length_set
  | _ => rfl

lemma ready_iff {s : State W.State δ} : (L.atop W).ready s = true ↔ s.pump ≠ .fresh := by
  simp only [atop]
  split
  · next h => simp [h]
  · next h => simpa using h

theorem sound_atop (hW : W.Sound F) : (L.atop W).Sound (L.Fair W F) where
  init := by
    rintro s ⟨i, -, rfl⟩
    rfl
  calls_step _ _ _ h := (move_of_step h).calls_eq
  calls_call s s' h := by
    have hmove : L.Move W s none s' := move_of_next h
    exact (congrArg List.length hmove.stoppers_of_stop).trans List.length_append
  ready_next s a s' h hready := ready_iff.mpr ((move_of_next h).ready_stays (ready_iff.mp hready))
  callable s hready := by
    simp only [Layer.atop]
    split
    · next hpump => exact absurd hpump (ready_iff.mp hready)
    · exact ⟨_, rfl⟩
  calm s h := by
    have hs := orderly_of_reachable hW h
    show (s.panicked || W.panicked s.inner) = false
    rw [hs.calm, hW.calm _ hs.inner]
    rfl
  stays r n m hm h := by
    obtain ⟨hpump, hclosed, hinner⟩ := h
    obtain ⟨hpump', hclosed'⟩ := keeps
      (P := fun s : State W.State δ => s.pump = .done ∧ s.closed = true)
      (fun _ _ _ h hs => h.done_stays hs.1 hs.2) hm ⟨hpump, hclosed⟩
    exact ⟨hpump', hclosed', hW.stays (below r) n m hm hinner⟩
  stops r hf honce n hn := ends_of_stop hW honce hf hn
  returns r hf honce n hn := by
    obtain ⟨m, hm, hp⟩ := stopper_done hW honce hf hn
    refine ⟨m, hm, fun k hk => ?_⟩
    show (State.stoppers (r.state k)).all (· == .done) = true
    rw [stoppers_done_stays hW honce hp hk]
    rfl

lemma fair_of_done {r : Run (L.atop W).system} (hF : F (below r)) (N : ℕ)
    (hpump : ∀ n, N ≤ n → State.pump (r.state n) = .done)
    (hstoppers : ∀ n, N ≤ n → ∀ p ∈ State.stoppers (r.state n), p = .done) : L.Fair W F r where
  below := hF
  pump := by
    refine r.weakFair_of_rest (N := N) fun n hn => ?_
    rintro ⟨a, ha, hstep⟩
    cases a with
    | stopper i | inner a | receive a => cases ha
    | _ => simp [step, hpump n hn] at hstep
  seesStop := by
    refine r.strongFair_of_rest (N := N) fun n hn => ?_
    rintro ⟨hselect, -⟩
    rw [hpump n hn] at hselect
    cases hselect
  stopper i := by
    refine r.weakFair_of_rest (N := N) fun n hn hstep => ?_
    simp only [step] at hstep
    split at hstep
    · next p hp =>
      rw [hstoppers n hn p (List.mem_of_getElem? hp)] at hstep
      cases hstep
    · cases hstep

end Layer

end Watcher
