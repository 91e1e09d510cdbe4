import Mathlib.Tactic

/-! # Labelled transition systems -/

namespace Transition

variable {S A : Type*}

structure System (S A : Type*) where
  Init : S → Prop
  Step : S → A → S → Prop

namespace System

/-- The same system, where a step may be taken only if it meets the condition `G` on the
state before it and on its label. -/
def restrict (M : System S A) (G : S → A → Prop) : System S A where
  Init := M.Init
  Step := fun s a s' => M.Step s a s' ∧ G s a

/-- The states some run comes to. -/
inductive Reachable (M : System S A) : S → Prop
  | init {s : S} (h : M.Init s) : Reachable M s
  | step {s s' : S} {a : A} (h : Reachable M s) (hs : M.Step s a s') : Reachable M s'

variable {M : System S A}

theorem Reachable.invariant {P : S → Prop} (h0 : ∀ s, M.Init s → P s)
    (hstep : ∀ s a s', M.Reachable s → P s → M.Step s a s' → P s') {s : S}
    (h : M.Reachable s) : P s := by
  induction h with
  | init hi => exact h0 _ hi
  | step hr hs ih => exact hstep _ _ _ hr ih hs

theorem Reachable.mono {G : S → A → Prop} {s : S} (h : (M.restrict G).Reachable s) :
    M.Reachable s := by
  induction h with
  | init hi => exact .init hi
  | step _ hs ih => exact ih.step hs.1

end System

lemma exists_of_later {P : ℕ → Prop} {n m : ℕ} (hnm : n ≤ m) (h : ∃ k, m ≤ k ∧ P k) :
    ∃ k, n ≤ k ∧ P k := by
  obtain ⟨k, hk, hP⟩ := h
  exact ⟨k, hnm.trans hk, hP⟩

/-- An infinite run: `label n = none` is a moment at which nothing happens. -/
structure Run (M : System S A) where
  state : ℕ → S
  label : ℕ → Option A
  init : M.Init (state 0)
  next : ∀ n, (label n = none ∧ state (n + 1) = state n) ∨
    ∃ a, label n = some a ∧ M.Step (state n) a (state (n + 1))

namespace Run

variable {M : System S A} (r : Run M)

theorem reachable (n : ℕ) : M.Reachable (r.state n) := by
  induction n with
  | zero => exact .init r.init
  | succ n ih =>
    rcases r.next n with ⟨-, h⟩ | ⟨a, -, h⟩
    · rw [h]; exact ih
    · exact ih.step h

theorem stable {P : S → Prop} (hstep : ∀ s a s', M.Reachable s → P s → M.Step s a s' → P s')
    {n m : ℕ} (hnm : n ≤ m) (h : P (r.state n)) : P (r.state m) := by
  induction m, hnm using Nat.le_induction with
  | base => exact h
  | succ m _ ih =>
    rcases r.next m with ⟨-, hs⟩ | ⟨a, -, hs⟩
    · rw [hs]; exact ih
    · exact hstep _ _ _ (r.reachable m) ih hs

def map {B : Type*} {N : System B A} (f : S → B) (hinit : ∀ s, M.Init s → N.Init (f s))
    (hstep : ∀ s a s', M.Step s a s' → N.Step (f s) a (f s')) : Run N where
  state := fun n => f (r.state n)
  label := r.label
  init := hinit _ r.init
  next := by
    intro n
    rcases r.next n with ⟨hl, hs⟩ | ⟨a, hl, hs⟩
    · exact .inl ⟨hl, by rw [hs]⟩
    · exact .inr ⟨a, hl, hstep _ _ _ hs⟩

def view {B C : Type*} {N : System B C} (f : S → B) (g : S → A → Option C)
    (hinit : ∀ s, M.Init s → N.Init (f s))
    (hstep : ∀ s a s', M.Step s a s' →
      (g s a = none ∧ f s' = f s) ∨ ∃ c, g s a = some c ∧ N.Step (f s) c (f s')) : Run N where
  state := fun n => f (r.state n)
  label := fun n => (r.label n).bind (g (r.state n))
  init := hinit _ r.init
  next := by
    intro n
    rcases r.next n with ⟨hl, hs⟩ | ⟨a, hl, hs⟩
    · exact .inl ⟨by rw [hl]; rfl, by rw [hs]⟩
    · rw [hl]
      exact hstep _ _ _ hs

/-- A step of the group `T` is taken at moment `n`. -/
def Takes (T : S → A → Prop) (n : ℕ) : Prop := ∃ a, r.label n = some a ∧ T (r.state n) a

/-- Weak fairness: if `E` holds at every moment from some moment on, a step of `T` is
taken after it. -/
def WeakFair (E : S → Prop) (T : S → A → Prop) : Prop :=
  ∀ n, (∀ m, n ≤ m → E (r.state m)) → ∃ m, n ≤ m ∧ r.Takes T m

/-- Strong fairness: if `E` holds again and again, a step of `T` is taken. -/
def StrongFair (E : S → Prop) (T : S → A → Prop) : Prop :=
  ∀ n, (∀ k, n ≤ k → ∃ m, k ≤ m ∧ E (r.state m)) → ∃ m, n ≤ m ∧ r.Takes T m

theorem leads_of_weakFair {E P : S → Prop} {T : S → A → Prop} (hf : r.WeakFair E T) {n : ℕ}
    (hPE : ∃ k, n ≤ k ∧ ∀ m, k ≤ m → P (r.state m) → E (r.state m))
    (hstay : ∀ m, n ≤ m → P (r.state m) → ¬ r.Takes T m → P (r.state (m + 1)))
    (h : P (r.state n)) : ∃ m, n ≤ m ∧ P (r.state m) ∧ r.Takes T m := by
  by_contra hno
  push Not at hno
  have hall : ∀ m, n ≤ m → P (r.state m) := by
    intro m hm
    induction m, hm using Nat.le_induction with
    | base => exact h
    | succ m hm ih => exact hstay m hm ih (hno m hm ih)
  obtain ⟨k, hk, hE⟩ := hPE
  obtain ⟨m, hm, ht⟩ := hf k fun m hm => hE m hm (hall m (hk.trans hm))
  exact hno m (hk.trans hm) (hall m (hk.trans hm)) ht

end Run

section

variable (f : S → A → Option S)

def exec : S → List A → Option S
  | s, [] => some s
  | s, a :: as => (f s a).bind fun t => exec t as

/-- The system whose steps `f` computes. -/
def ofStep (Init : S → Prop) : System S A where
  Init := Init
  Step := fun s a t => f s a = some t

variable {f} {Init : S → Prop} {s u : S}

theorem exec_append (as bs : List A) :
    exec f s (as ++ bs) = (exec f s as).bind fun t => exec f t bs := by
  induction as generalizing s with
  | nil => rfl
  | cons a as ih =>
    simp only [List.cons_append, exec]
    cases h : f s a with
    | none => rfl
    | some t => exact ih

variable {as : List A} {T : S → A → Prop} {E : S → Prop} {N : ℕ}

theorem reachable_of_exec (h0 : (ofStep f Init).Reachable s) (h : exec f s as = some u) :
    (ofStep f Init).Reachable u := by
  induction as generalizing s with
  | nil => cases h; exact h0
  | cons a as ih =>
    obtain ⟨t, ht, hu⟩ := Option.bind_eq_some_iff.mp h
    exact ih (h0.step ht) hu

theorem reachable_of_exec_restrict {G : S → A → Bool}
    (h0 : ((ofStep f Init).restrict fun s a => G s a = true).Reachable s)
    (h : exec (fun s a => if G s a then f s a else none) s as = some u) :
    ((ofStep f Init).restrict fun s a => G s a = true).Reachable u := by
  induction as generalizing s with
  | nil => cases h; exact h0
  | cons a as ih =>
    obtain ⟨t, ht, hu⟩ := Option.bind_eq_some_iff.mp h
    beta_reduce at ht
    by_cases hG : G s a = true
    · rw [if_pos hG] at ht
      exact ih (h0.step ⟨ht, hG⟩) hu
    · rw [if_neg hG] at ht
      cases ht

theorem exec_take (h : exec f s as = some u) (n : ℕ) : ∃ t, exec f s (as.take n) = some t := by
  rw [← List.take_append_drop n as, exec_append] at h
  obtain ⟨t, ht, -⟩ := Option.bind_eq_some_iff.mp h
  exact ⟨t, ht⟩

def Run.ofExec {as : List A} (h0 : Init s) (h : exec f s as = some u) :
    Run (ofStep f Init) where
  state := fun n => (exec f s (as.take n)).getD s
  label := fun n => as[n]?
  init := h0
  next := by
    intro n
    by_cases hn : n < as.length
    · right
      obtain ⟨t, ht⟩ := exec_take h n
      obtain ⟨t', ht'⟩ := exec_take h (n + 1)
      refine ⟨as[n], List.getElem?_eq_getElem hn, ?_⟩
      show f ((exec f s (as.take n)).getD s) as[n] = some ((exec f s (as.take (n + 1))).getD s)
      have hstep : (f t as[n]).bind some = some t' := by
        rw [List.take_succ_eq_append_getElem hn, exec_append, ht] at ht'
        simpa [exec] using ht'
      rw [ht, ht']
      simpa using hstep
    · left
      refine ⟨List.getElem?_eq_none (by omega), ?_⟩
      show (exec f s (as.take (n + 1))).getD s = (exec f s (as.take n)).getD s
      rw [List.take_of_length_le (by omega), List.take_of_length_le (by omega)]

theorem Run.ofExec_state (h0 : Init s) (h : exec f s as = some u) {n : ℕ} (hn : as.length ≤ n) :
    (Run.ofExec h0 h).state n = u := by
  show (exec f s (as.take n)).getD s = u
  rw [List.take_of_length_le hn, h]
  rfl

def Run.ofExecRestrict {G : S → A → Bool} {as : List A} (h0 : Init s)
    (h : exec (fun s a => if G s a then f s a else none) s as = some u) :
    Run ((ofStep f Init).restrict fun s a => G s a = true) :=
  (Run.ofExec h0 h).map id (fun _ h => h) (by
    intro s a s' hs
    change (if G s a then f s a else none) = some s' at hs
    by_cases hG : G s a = true
    · rw [if_pos hG] at hs
      exact ⟨hs, hG⟩
    · rw [if_neg hG] at hs
      cases hs)

variable {M : System S A} (r : Run M)

theorem Run.weakFair_of_rest (hrest : ∀ n, N ≤ n → ¬ E (r.state n)) : r.WeakFair E T := by
  intro n h
  exact absurd (h (max n N) (le_max_left _ _)) (hrest _ (le_max_right _ _))

theorem Run.strongFair_of_rest (hrest : ∀ n, N ≤ n → ¬ E (r.state n)) : r.StrongFair E T := by
  intro n h
  obtain ⟨m, hm, hE⟩ := h (max n N) (le_max_left _ _)
  exact absurd hE (hrest m ((le_max_right _ _).trans hm))

end

theorem exists_forall_of_finite {ι : Type*} {P : ι → ℕ → Prop} (l : List ι) {n : ℕ}
    (h : ∀ i ∈ l, ∃ m, n ≤ m ∧ ∀ k, m ≤ k → P i k) :
    ∃ m, n ≤ m ∧ ∀ k, m ≤ k → ∀ i ∈ l, P i k := by
  induction l with
  | nil => exact ⟨n, le_rfl, by simp⟩
  | cons i l ih =>
    obtain ⟨m₁, hm₁, h₁⟩ := h i (by simp)
    obtain ⟨m₂, hm₂, h₂⟩ := ih fun j hj => h j (by simp [hj])
    refine ⟨max m₁ m₂, hm₁.trans (le_max_left _ _), ?_⟩
    intro k hk j hj
    rcases List.mem_cons.mp hj with rfl | hj
    · exact h₁ k ((le_max_left _ _).trans hk)
    · exact h₂ k ((le_max_right _ _).trans hk) j hj

end Transition
