import KubeZoo.Lib.Transition
import KubeZoo.Quota.Model

/-! # The loop of UpdateOnConflict -/

namespace KubeZoo

open Transition (System)

/-- The arguments of `UpdateOnConflict` that stay the same. -/
structure ConflictLoop (V : Type) where
  key : V → String × String
  equals : V → V → Bool
  f : V → Except GoError V

namespace ConflictLoop

variable {V : Type} (u : ConflictLoop V)

inductive OperationResult
  | none
  | updated
deriving DecidableEq

/-- Before a try, with the tries that are left and the object in hand, and after the last one. The
object is read again where there is none. -/
inductive Pc (V : Type)
  | trying (steps : ℕ) (obj : Option (ℕ × V))
  | returned (result : Except GoError OperationResult)

/-- The versions of the object since the caller read it, the last one first, and whether the loop
wrote each. -/
structure State (V : Type) where
  log : List (Bool × V)
  pc : Pc V

def mutate (key : String × String) (obj : V) : Except GoError V := do
  let obj ← u.f obj
  if u.key obj = key then return obj
  else throw (.plain "mutateFn cannot mutate object name and/or object namespace")

/-- `RetryOnConflict` after a try that failed. -/
def retry (steps : ℕ) (e : GoError) : Pc V :=
  if e.isConflict && steps != 0 then .trying steps none else .returned (.error e)

/-- What the loop and the other writers do. An update of a version that is not the stored one is a
conflict; any update can be refused. -/
inductive Step (key : String × String) : State V → Unit → State V → Prop
  | foreign {s : State V} (v : V) : Step key s () { s with log := (false, v) :: s.log }
  | exhausted {s : State V} {obj : Option (ℕ × V)} (h : s.pc = .trying 0 obj) :
      Step key s () { s with pc := .returned (.ok .none) }
  | get {s : State V} {steps : ℕ} {own : Bool} {v : V} {older : List (Bool × V)}
      (h : s.pc = .trying (steps + 1) none) (hlog : s.log = (own, v) :: older) :
      Step key s () { s with pc := .trying (steps + 1) (some (s.log.length, v)) }
  | getFails {s : State V} {steps : ℕ} (e : GoError) (h : s.pc = .trying (steps + 1) none) :
      Step key s () { s with pc := retry steps e }
  | mutateFails {s : State V} {steps n : ℕ} {v : V} {e : GoError}
      (h : s.pc = .trying (steps + 1) (some (n, v))) (hf : u.mutate key v = .error e) :
      Step key s () { s with pc := retry steps e }
  | unchanged {s : State V} {steps n : ℕ} {v w : V}
      (h : s.pc = .trying (steps + 1) (some (n, v))) (hf : u.mutate key v = .ok w)
      (heq : u.equals v w = true) : Step key s () { s with pc := .returned (.ok .none) }
  | update {s : State V} {steps n : ℕ} {v w : V}
      (h : s.pc = .trying (steps + 1) (some (n, v))) (hf : u.mutate key v = .ok w)
      (heq : u.equals v w = false) (hn : n = s.log.length) :
      Step key s () { log := (true, w) :: s.log, pc := .returned (.ok .updated) }
  | refused {s : State V} {steps n : ℕ} {v w : V} (e : GoError)
      (h : s.pc = .trying (steps + 1) (some (n, v))) (hf : u.mutate key v = .ok w)
      (heq : u.equals v w = false) (hn : n ≠ s.log.length → e.isConflict = true) :
      Step key s () { s with pc := retry steps e }

/-- `UpdateOnConflict` of an object that was read, with any number of tries. -/
def system (steps : ℕ) (obj : V) : System (State V) Unit where
  Init s := s = ⟨[(false, obj)], .trying steps (some (1, obj))⟩
  Step := u.Step (u.key obj)

/-- None of the writes is the reconciler's own. -/
def Foreign (log : List (Bool × V)) : Prop := ∀ x ∈ log, x.1 = false

/-- The only version the loop wrote is what `f` makes of the one before it. -/
def Committed (log : List (Bool × V)) : Prop :=
  ∃ newer v w older, log = newer ++ (true, w) :: (false, v) :: older ∧ u.f v = .ok w ∧
    Foreign newer ∧ Foreign older

/-- The object in hand is the stored one if its version is. -/
def Holds (log : List (Bool × V)) (obj : Option (ℕ × V)) : Prop :=
  ∀ n v, obj = some (n, v) → n ≤ log.length ∧ (n = log.length → ∃ own older, log = (own, v) :: older)

def Sound (log : List (Bool × V)) : Pc V → Prop
  | .trying _ obj => Foreign log ∧ Holds log obj
  | .returned (.ok .updated) => u.Committed log
  | .returned _ => Foreign log

variable {u} {s s' : State V} {log : List (Bool × V)}

lemma Foreign.push (h : Foreign log) (v : V) : Foreign ((false, v) :: log) :=
  List.forall_mem_cons.mpr ⟨rfl, h⟩

lemma Sound.push {pc : Pc V} (h : u.Sound log pc) (v : V) : u.Sound ((false, v) :: log) pc := by
  cases pc with
  | trying steps obj =>
    refine ⟨h.1.push v, fun n w hobj => ?_⟩
    have hle := (h.2 n w hobj).1
    rw [List.length_cons]
    exact ⟨by omega, fun hn => by omega⟩
  | returned result =>
    rcases result with e | _ | _
    · exact Foreign.push h v
    · exact Foreign.push h v
    · obtain ⟨newer, v', w, older, rfl, hf, hnewer, holder⟩ := h
      exact ⟨(false, v) :: newer, v', w, older, rfl, hf, hnewer.push v, holder⟩

lemma sound_retry (h : Foreign log) (steps : ℕ) (e : GoError) : u.Sound log (retry steps e) := by
  unfold retry
  split_ifs
  · exact ⟨h, fun n v hobj => nomatch hobj⟩
  · exact h

lemma eq_of_mutate {key : String × String} {v w : V} (h : u.mutate key v = .ok w) :
    u.f v = .ok w := by
  obtain ⟨w', hf, hw⟩ := Except.bind_eq_ok_iff.mp h
  split_ifs at hw
  · exact Except.ok.inj hw ▸ hf

lemma Sound.step {key : String × String} {a : Unit} (hs : u.Sound s.log s.pc)
    (h : u.Step key s a s') : u.Sound s'.log s'.pc := by
  cases h with
  | foreign v => exact hs.push v
  | exhausted h | unchanged h _ _ =>
    rw [h] at hs
    exact hs.1
  | get h hlog =>
    rw [h] at hs
    refine ⟨hs.1, fun n v hobj => ?_⟩
    obtain ⟨rfl, rfl⟩ := Prod.mk.inj (Option.some.inj hobj)
    exact ⟨le_rfl, fun _ => ⟨_, _, hlog⟩⟩
  | getFails e h | mutateFails h _ | refused e h _ _ _ =>
    rw [h] at hs
    exact sound_retry hs.1 _ _
  | @update steps n v w h hf heq hn =>
    rw [h] at hs
    -- the version in hand is the stored one, so that is what the write replaces
    obtain ⟨own, older, hlog⟩ := (hs.2 n v rfl).2 hn
    have hforeign := hs.1
    rw [hlog] at hforeign
    obtain ⟨hown, holder⟩ := List.forall_mem_cons.mp hforeign
    obtain rfl : own = false := hown
    exact ⟨[], v, w, older, by rw [hlog]; rfl, eq_of_mutate hf, by simp [Foreign], holder⟩

/-- Among any other writers and however often it tries, a loop that returns `updated` wrote once,
and wrote what `f` makes of the version it replaced. -/
theorem updateOnConflict_loses_no_write {steps : ℕ} {obj : V}
    (h : (u.system steps obj).Reachable s) {result : Except GoError OperationResult}
    (hresult : s.pc = .returned result) :
    (result = .ok .updated → u.Committed s.log) ∧ (result ≠ .ok .updated → Foreign s.log) := by
  have hsound : u.Sound s.log s.pc := by
    refine h.invariant (P := fun s => u.Sound s.log s.pc) ?_ fun s a s' _ hs hstep => hs.step hstep
    rintro _ rfl
    refine ⟨by simp [Foreign], fun n v hobj => ?_⟩
    obtain ⟨rfl, rfl⟩ := Prod.mk.inj (Option.some.inj hobj)
    exact ⟨le_rfl, fun _ => ⟨false, [], rfl⟩⟩
  rw [hresult] at hsound
  constructor
  · rintro rfl
    exact hsound
  · intro hne
    rcases result with e | _ | _
    · exact hsound
    · exact hsound
    · exact absurd rfl hne

def counter : ConflictLoop ℕ := ⟨fun _ => ("", "q"), (· == ·), fun n => .ok (n + 1)⟩

theorem updateOnConflict_loses_no_write_raced :
    ∃ s : State ℕ, (counter.system 2 0).Reachable s ∧
      s.log = [(true, 8), (false, 7), (false, 0)] ∧ counter.Committed s.log := by
  have hread : (counter.system 2 0).Reachable ⟨[(false, 0)], .trying 2 (some (1, 0))⟩ := .init rfl
  have hstale : (counter.system 2 0).Reachable
      ⟨[(false, 7), (false, 0)], .trying 2 (some (1, 0))⟩ := hread.step (Step.foreign 7)
  have hraced : (counter.system 2 0).Reachable ⟨[(false, 7), (false, 0)], .trying 1 none⟩ :=
    hstale.step (@Step.refused _ counter ("", "q") _ 1 1 0 1 (.status ⟨409, "Conflict", ""⟩)
      rfl rfl rfl fun _ => rfl)
  have hagain : (counter.system 2 0).Reachable
      ⟨[(false, 7), (false, 0)], .trying 1 (some (2, 7))⟩ := hraced.step (Step.get rfl rfl)
  have hdone : (counter.system 2 0).Reachable
      ⟨[(true, 8), (false, 7), (false, 0)], .returned (.ok .updated)⟩ :=
    hagain.step (@Step.update _ counter ("", "q") _ 0 2 7 8 rfl rfl rfl rfl)
  exact ⟨_, hdone, rfl, (updateOnConflict_loses_no_write hdone rfl).1 rfl⟩

end ConflictLoop

end KubeZoo
