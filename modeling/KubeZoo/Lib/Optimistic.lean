import KubeZoo.Lib.Transition

/-! # Optimistic updates -/

namespace Optimistic

open Transition (System)

variable {ι V : Type*}

inductive Phase (V : Type*)
  | idle
  | holding (version : ℕ) (v : V)
  | committed
  | failed

structure State (ι V : Type*) where
  log : List (Option ι × V)
  phase : ι → Phase V

inductive Action (ι V : Type*)
  | read (i : ι)
  | commit (i : ι)
  | retry (i : ι)
  | fail (i : ι)
  | foreign (v : V)

variable [DecidableEq ι]

/-- The steps of the clients and of the others. -/
inductive Step (updates : ι → V → V → Prop) : State ι V → Action ι V → State ι V → Prop
  | read {s : State ι V} {i : ι} {who : Option ι} {v : V} {older : List (Option ι × V)}
      (hphase : s.phase i = .idle) (hlog : s.log = (who, v) :: older) :
      Step updates s (.read i)
        { s with phase := Function.update s.phase i (.holding s.log.length v) }
  | commit {s : State ι V} {i : ι} {v w : V} (hphase : s.phase i = .holding s.log.length v)
      (hupdates : updates i v w) :
      Step updates s (.commit i)
        { log := (some i, w) :: s.log, phase := Function.update s.phase i .committed }
  | retry {s : State ι V} {i : ι} {n : ℕ} {v : V} (hphase : s.phase i = .holding n v) :
      Step updates s (.retry i) { s with phase := Function.update s.phase i .idle }
  | fail {s : State ι V} {i : ι} (hphase : s.phase i ≠ .committed) :
      Step updates s (.fail i) { s with phase := Function.update s.phase i .failed }
  | foreign {s : State ι V} (v : V) : Step updates s (.foreign v) { s with log := (none, v) :: s.log }

def system (updates : ι → V → V → Prop) : System (State ι V) (Action ι V) where
  Init s := (∃ v, s.log = [(none, v)]) ∧ ∀ i, s.phase i = .idle
  Step := Step updates

def Held (log : List (Option ι × V)) (phase : ι → Phase V) : Prop :=
  ∀ i n v, phase i = .holding n v → n ≤ log.length ∧
    (n = log.length → ∃ who older, log = (who, v) :: older)

def Chained (updates : ι → V → V → Prop) (log : List (Option ι × V)) : Prop :=
  ∀ newer i w v older, log = newer ++ (some i, w) :: v :: older → updates i v.2 w

def writes (log : List (Option ι × V)) (i : ι) : ℕ := log.countP fun v => v.1 = some i

def Counted (log : List (Option ι × V)) (phase : ι → Phase V) : Prop :=
  ∀ i, (phase i = .committed → writes log i = 1) ∧ (phase i ≠ .committed → writes log i = 0)

variable {updates : ι → V → V → Prop} {s s' : State ι V} {a : Action ι V}
  {log : List (Option ι × V)} {phase : ι → Phase V}

lemma Held.move (h : Held log phase) {i : ι} {new : Phase V}
    (hnew : ∀ n v, new = .holding n v → n = log.length ∧ ∃ who older, log = (who, v) :: older) :
    Held log (Function.update phase i new) := by
  intro j n v hj
  by_cases hij : j = i
  · subst hij
    rw [Function.update_self] at hj
    obtain ⟨rfl, hlog⟩ := hnew n v hj
    exact ⟨le_rfl, fun _ => hlog⟩
  · rw [Function.update_of_ne hij] at hj
    exact h j n v hj

omit [DecidableEq ι] in
lemma Held.push (h : Held log phase) (x : Option ι × V) : Held (x :: log) phase := by
  intro j n v hj
  have hle := (h j n v hj).1
  rw [List.length_cons]
  exact ⟨by omega, fun hn => by omega⟩

lemma Held.step (h : Held s.log s.phase) (hstep : Step updates s a s') : Held s'.log s'.phase := by
  cases hstep with
  | @read i who v older hphase hlog =>
    refine h.move fun n w hw => ?_
    cases hw
    exact ⟨rfl, who, older, hlog⟩
  | commit hphase hupdates => exact (h.push _).move fun n w hw => nomatch hw
  | retry hphase | fail hphase => exact h.move fun n w hw => nomatch hw
  | foreign v => exact h.push _

omit [DecidableEq ι] in
lemma Chained.cons (h : Chained updates log) {who : Option ι} {w : V}
    (hw : ∀ i v older, who = some i → log = v :: older → updates i v.2 w) :
    Chained updates ((who, w) :: log) := by
  intro newer i u v older heq
  cases newer with
  | nil =>
    obtain ⟨hhead, rfl⟩ := List.cons.inj heq
    obtain ⟨rfl, rfl⟩ := Prod.mk.inj hhead
    exact hw i v older rfl rfl
  | cons x newer =>
    obtain ⟨_, rfl⟩ := List.cons.inj heq
    exact h newer i u v older rfl

lemma Chained.step (h : Chained updates s.log) (hheld : Held s.log s.phase)
    (hstep : Step updates s a s') : Chained updates s'.log := by
  cases hstep with
  | read _ _ => exact h
  | retry _ => exact h
  | fail _ => exact h
  | foreign v => exact h.cons fun i w older hwho => nomatch hwho
  | @commit i v w hphase hupdates =>
    refine h.cons fun j u older hj hlog => ?_
    obtain rfl := Option.some.inj hj
    -- What is updated is what is held, and that is the version before.
    obtain ⟨who, rest, hlog'⟩ := (hheld i _ v hphase).2 rfl
    rw [hlog'] at hlog
    obtain ⟨rfl, _⟩ := List.cons.inj hlog
    exact hupdates

lemma writes_cons (who : Option ι) (v : V) (log : List (Option ι × V)) (i : ι) :
    writes ((who, v) :: log) i = writes log i + if who = some i then 1 else 0 := by
  unfold writes
  rw [List.countP_cons]
  simp

lemma Counted.move (h : Counted log phase) {i : ι} {new : Phase V} (hold : phase i ≠ .committed)
    (hnew : new ≠ .committed) : Counted log (Function.update phase i new) := by
  intro j
  by_cases hij : j = i
  · subst hij
    rw [Function.update_self]
    exact ⟨fun hj => absurd hj hnew, fun _ => (h j).2 hold⟩
  · rw [Function.update_of_ne hij]
    exact h j

lemma Counted.commit (h : Counted log phase) {i : ι} (hold : phase i ≠ .committed) (w : V) :
    Counted ((some i, w) :: log) (Function.update phase i .committed) := by
  intro j
  rw [writes_cons]
  by_cases hij : j = i
  · subst hij
    rw [Function.update_self, if_pos rfl, (h j).2 hold]
    exact ⟨fun _ => rfl, fun hne => absurd rfl hne⟩
  · rw [Function.update_of_ne hij, if_neg fun heq => hij (Option.some.inj heq).symm]
    exact h j

lemma Counted.step (h : Counted s.log s.phase) (hstep : Step updates s a s') :
    Counted s'.log s'.phase := by
  cases hstep with
  | read hphase hlog | retry hphase => exact h.move (by rw [hphase]; exact nofun) nofun
  | fail hphase => exact h.move hphase nofun
  | commit hphase hupdates => exact h.commit (by rw [hphase]; exact nofun) _
  | foreign v =>
    intro j
    exact h j

lemma held_of_reachable (h : (system updates).Reachable s) : Held s.log s.phase := by
  refine h.invariant (P := fun s => Held s.log s.phase) (fun s hinit i n v hi => ?_)
    fun s a s' _ hs hstep => hs.step hstep
  rw [hinit.2 i] at hi
  cases hi

theorem chained_of_reachable (h : (system updates).Reachable s) : Chained updates s.log := by
  refine h.invariant (P := fun s => Chained updates s.log) (fun s hinit => ?_)
    fun s a s' hr hs hstep => hs.step (held_of_reachable hr) hstep
  obtain ⟨v, hlog⟩ := hinit.1
  rw [hlog]
  exact Chained.cons (fun newer i w v older heq => by simp at heq) fun i v older hwho => nomatch hwho

theorem counted_of_reachable (h : (system updates).Reachable s) : Counted s.log s.phase := by
  refine h.invariant (P := fun s => Counted s.log s.phase) (fun s hinit i => ?_)
    fun s a s' _ hs hstep => hs.step hstep
  obtain ⟨v, hlog⟩ := hinit.1
  rw [hinit.2 i, hlog]
  exact ⟨fun hi => (nomatch hi), fun _ => rfl⟩

end Optimistic
