import KubeZoo.WatchMux.Bookmarks

/-! # The multiplexer and its upstream streams -/

namespace KubeZoo
namespace WatchMux

open Transition

variable {β : Type}

def Choice.received : Choice β → List (Event β)
  | .receive event => [event]
  | _ => []

structure World (β : Type) where
  mux : State β
  log : List (ℕ × Event β) := []
deriving DecidableEq

namespace World

/-- What goroutine `i` has received. -/
def received (w : World β) (i : ℕ) : List (Event β) :=
  (w.log.filter fun p => p.1 == i).map Prod.snd

def logged : Action β → List (ℕ × Event β)
  | .task i choice => choice.received.map fun event => (i, event)
  | .clientStop => []

def step (c : Config β) (w : World β) (a : Action β) : Option (World β) :=
  (WatchMux.step c w.mux a).map fun st => ⟨st, w.log ++ logged a⟩

/-- `newWatchMux` has been called. -/
def initial (c : Config β) : World β := { mux := WatchMux.initial c }

def system (c : Config β) : System (World β) (Action β) :=
  ofStep (step c) fun w => w = initial c

variable {c : Config β} {w w' : World β} {a : Action β}

lemma step_eq_some : step c w a = some w' ↔
    WatchMux.step c w.mux a = some w'.mux ∧ w'.log = w.log ++ logged a := by
  simp only [step, Option.map_eq_some_iff]
  constructor
  · rintro ⟨st, hst, rfl⟩
    exact ⟨hst, rfl⟩
  · rintro ⟨hst, hlog⟩
    refine ⟨w'.mux, hst, ?_⟩
    rw [← hlog]

theorem reachable_mux (h : (system c).Reachable w) : (WatchMux.system c).Reachable w.mux := by
  induction h with
  | init hi =>
    rw [show _ = _ from hi]
    exact .init rfl
  | step _ hs ih => exact ih.step (step_eq_some.mp hs).1

def muxRun {G : World β → Action β → Prop} (r : Run ((system c).restrict G)) :
    Run (WatchMux.system c) :=
  r.map mux (by rintro _ rfl; rfl) fun _ _ _ hs => (step_eq_some.mp hs.1).1

lemma received_append {l : List (ℕ × Event β)} (hlog : w'.log = w.log ++ l) (i : ℕ) :
    w'.received i = w.received i ++ (l.filter fun p => p.1 == i).map Prod.snd := by
  simp only [received, hlog, List.filter_append, List.map_append]

variable {choice : Choice β} {i : ℕ}

lemma received_self (hlog : w'.log = w.log ++ logged (.task i choice)) :
    w'.received i = w.received i ++ choice.received := by
  rw [received_append hlog]
  cases choice <;> simp [logged, Choice.received]

lemma received_of_ne {j : ℕ} (hlog : w'.log = w.log ++ logged (.task j choice)) (hij : i ≠ j) :
    w'.received i = w.received i := by
  rw [received_append hlog]
  cases choice <;> simp [logged, Choice.received, Ne.symm hij]

lemma received_clientStop (hlog : w'.log = w.log ++ logged .clientStop) (i : ℕ) :
    w'.received i = w.received i := by
  rw [received_append hlog]
  simp [logged]

theorem received_eq_nil (h : (system c).Reachable w) (hi : w.mux.tasks.length ≤ i) :
    w.received i = [] := by
  have key : ∀ p ∈ w.log, p.1 < w.mux.tasks.length := by
    refine h.invariant (P := fun w => ∀ p ∈ w.log, p.1 < w.mux.tasks.length) ?_ ?_
    · rintro _ rfl p hp
      cases hp
    · intro v a v' _ hv hs p hp
      obtain ⟨hst, hlog⟩ := step_eq_some.mp hs
      have hlen : v.mux.tasks.length ≤ v'.mux.tasks.length := by
        rcases step_cases hst with ⟨j, ch, t, sh', t', started, -, -, -, heq⟩ | ⟨-, -, heq⟩ <;>
          rw [heq] <;> simp
      rw [hlog] at hp
      rcases List.mem_append.mp hp with hp | hp
      · exact lt_of_lt_of_le (hv p hp) hlen
      · rcases step_cases hst with ⟨j, ch, t, sh', t', started, rfl, ht, -, -⟩ | ⟨rfl, -, -⟩
        · have hj := (List.getElem?_eq_some_iff.mp ht).1
          obtain ⟨event, -, rfl⟩ := List.mem_map.mp hp
          exact lt_of_lt_of_le hj hlen
        · cases hp
  simp only [received, List.map_eq_nil_iff, List.filter_eq_nil_iff, beq_iff_eq]
  intro p hp hpi
  have := key p hp
  omega

theorem forwarders_step {P : List (Event β) → List (Event β) → Stream → ForwardPc β → Prop}
    (hr : (system c).Reachable w) (h : step c w a = some w')
    (hmono : ∀ got out out' s pc, (∀ e ∈ out, e ∈ out') → P got out s pc → P got out' s pc)
    (hopen : ∀ out ns rv, P [] out ⟨ns, rv, parseRevision rv, false⟩ .select)
    (hmove : ∀ i choice s pc sh' s' pc', a = .task i choice →
      w.mux.tasks[i]? = some (.forward s pc) →
      ForwardMove c w.mux.shared w.mux.tasks i s pc choice sh' s' pc' →
      w'.mux.tasks[i]? = some (.forward s' pc') →
      P (w.received i) w.mux.shared.out s pc →
      P (w.received i ++ choice.received) sh'.out s' pc')
    (hall : ∀ i s pc, w.mux.tasks[i]? = some (.forward s pc) →
      P (w.received i) w.mux.shared.out s pc) :
    ∀ i s pc, w'.mux.tasks[i]? = some (.forward s pc) →
      P (w'.received i) w'.mux.shared.out s pc := by
  obtain ⟨hst, hlog⟩ := step_eq_some.mp h
  have hsub : ∀ e ∈ w.mux.shared.out, e ∈ w'.mux.shared.out := by
    obtain ⟨l, hl⟩ := out_step hst
    intro e he
    rw [hl]
    exact List.mem_append_left _ he
  intro j s pc hj
  rcases step_cases hst with ⟨i, choice, t, sh', t', started, rfl, ht, hm, heq⟩ | ⟨rfl, -, heq⟩
  · have hj' := hj
    rw [heq] at hj
    rcases getElem?_of_moved hj with ⟨hne, hold⟩ | ⟨rfl, rfl⟩ | ⟨hlen, hmem⟩
    · -- another forwarder
      rw [received_of_ne hlog hne]
      exact hmono _ _ _ _ _ hsub (hall j s pc hold)
    · -- the forwarder that moves
      cases hm with
      | @forward s₀ _ pc₀ _ _ _ hf =>
        rw [received_self hlog, show w'.mux.shared = sh' by rw [heq]]
        exact hmove j choice s₀ pc₀ sh' s pc rfl ht hf hj' (hall j s₀ pc₀ ht)
    · -- a forwarder that has just been started
      obtain ⟨ns, rv, hu⟩ := hm.started_select hmem
      cases hu
      have hij : j ≠ i := by
        have := (List.getElem?_eq_some_iff.mp ht).1
        omega
      rw [received_of_ne hlog hij, received_eq_nil hr hlen]
      exact hopen _ ns rv
  · rw [heq] at hj
    rw [received_clientStop hlog]
    exact hmono _ _ _ _ _ hsub (hall j s pc ((getElem?_of_clientStop hj).resolve_right nofun))

end World

lemma Choice.received_eq_nil {choice : Choice β} (h : ∀ event, choice ≠ .receive event) :
    choice.received = [] := by
  cases choice with
  | receive event => exact absurd rfl (h event)
  | _ => rfl

end WatchMux
end KubeZoo
