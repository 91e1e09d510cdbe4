import Mathlib.Tactic

/-! # A replica of a keyed store -/

namespace Replica

variable {K V E : Type*} [DecidableEq K] (key : E → K) (value : E → Option V)

def apply (σ : K → Option V) (e : E) : K → Option V := Function.update σ (key e) (value e)

def replay (σ : K → Option V) (es : List E) : K → Option V := es.foldl (apply key value) σ

section

variable {key value} {σ τ : K → Option V} {es : List E} {k : K}

theorem replay_append (es fs : List E) :
    replay key value σ (es ++ fs) = replay key value (replay key value σ es) fs := by
  rw [replay, List.foldl_append]
  rfl

theorem replay_congr (h : σ k = τ k) : replay key value σ es k = replay key value τ es k := by
  induction es generalizing σ τ with
  | nil => exact h
  | cons e es ih =>
    refine ih ?_
    by_cases hk : k = key e
    · subst hk
      simp [apply]
    · simp [apply, hk, h]

theorem replay_filter {p : E → Bool} (hp : ∀ e ∈ es, key e = k → p e = true) :
    replay key value σ (es.filter p) k = replay key value σ es k := by
  induction es generalizing σ with
  | nil => rfl
  | cons e es ih =>
    have htail := fun τ => ih (σ := τ) fun e' he' => hp e' (List.mem_cons_of_mem _ he')
    by_cases hpe : p e = true
    · rw [List.filter_cons_of_pos hpe]
      exact htail _
    · have hk : k ≠ key e := fun hk => hpe (hp e List.mem_cons_self hk.symm)
      rw [List.filter_cons_of_neg hpe, htail]
      refine replay_congr ?_
      simp [apply, hk]

theorem replay_of_forall_ne (h : ∀ e ∈ es, key e ≠ k) : replay key value σ es k = σ k := by
  rw [← replay_filter (p := fun _ => false) fun e he hk => absurd hk (h e he)]
  simp [replay]

theorem exists_of_replay_ne_none (h0 : σ k = none) (h : replay key value σ es k ≠ none) :
    ∃ pre e post, es = pre ++ e :: post ∧ key e = k ∧ value e ≠ none ∧
      replay key value σ pre k = none := by
  induction es generalizing σ with
  | nil => exact absurd h0 h
  | cons e es ih =>
    by_cases hnone : apply key value σ e k = none
    · obtain ⟨pre, e', post, rfl, hk, hv, hpre⟩ := ih hnone h
      exact ⟨e :: pre, e', post, rfl, hk, hv, hpre⟩
    · -- this write is the one
      have hk : k = key e := by
        by_contra hk
        exact hnone (by simp [apply, hk, h0])
      subst hk
      exact ⟨[], e, es, rfl, rfl, by simpa [apply] using hnone, h0⟩

end

section

variable (rev : E → ℕ)

def storeAt (es : List E) (v : ℕ) : K → Option V :=
  replay key value (fun _ => none) (es.filter fun e => decide (rev e ≤ v))

variable {key value rev} {es : List E} {v : ℕ} {k : K}

theorem filter_append_filter (hs : es.Pairwise fun e e' => rev e < rev e') (v : ℕ) :
    es.filter (fun e => decide (rev e ≤ v)) ++ es.filter (fun e => decide (v < rev e)) = es := by
  induction es with
  | nil => rfl
  | cons e es ih =>
    obtain ⟨he, hs⟩ := List.pairwise_cons.mp hs
    by_cases hv : rev e ≤ v
    · rw [List.filter_cons_of_pos (by simpa using hv), List.filter_cons_of_neg (by simpa using hv),
        List.cons_append, ih hs]
    · -- everything from here on is later
      have hlate : ∀ e' ∈ es, v < rev e' := fun e' he' => by
        have := he e' he'
        omega
      have hle : es.filter (fun e => decide (rev e ≤ v)) = [] := by
        rw [List.filter_eq_nil_iff]
        intro e' he'
        have := hlate e' he'
        simpa using this
      have hgt : es.filter (fun e => decide (v < rev e)) = es := by
        rw [List.filter_eq_self]
        intro e' he'
        simpa using hlate e' he'
      rw [List.filter_cons_of_neg (by simpa using hv), List.filter_cons_of_pos (by simp; omega),
        hle, hgt, List.nil_append]

theorem replay_storeAt (hs : es.Pairwise fun e e' => rev e < rev e') (v : ℕ) :
    replay key value (storeAt key value rev es v) (es.filter fun e => decide (v < rev e)) =
      replay key value (fun _ => none) es := by
  rw [storeAt, ← replay_append, filter_append_filter hs]

theorem exists_write_of_appears (hs : es.Pairwise fun e e' => rev e < rev e')
    (h0 : storeAt key value rev es v k = none)
    (h : replay key value (fun _ => none) es k ≠ none) :
    ∃ e ∈ es, v < rev e ∧ key e = k ∧ value e ≠ none ∧
      storeAt key value rev es (rev e - 1) k = none := by
  rw [← replay_storeAt hs v] at h
  obtain ⟨pre, e, post, heq, hk, hv, hpre⟩ := exists_of_replay_ne_none h0 h
  have hmem : e ∈ es.filter fun e => decide (v < rev e) := by rw [heq]; simp
  obtain ⟨hes, hlt⟩ := List.mem_filter.mp hmem
  rw [decide_eq_true_eq] at hlt
  refine ⟨e, hes, hlt, hk, hv, ?_⟩
  -- what comes before this write is what comes up to the revision before it
  have hsplit : es = (es.filter (fun e => decide (rev e ≤ v)) ++ pre) ++ e :: post := by
    rw [List.append_assoc, ← heq, filter_append_filter hs]
  have hord := hs
  rw [hsplit] at hord
  obtain ⟨-, hord, hbefore⟩ := List.pairwise_append.mp hord
  have hcut : es.filter (fun e' => decide (rev e' ≤ rev e - 1)) =
      es.filter (fun e => decide (rev e ≤ v)) ++ pre := by
    conv_lhs => rw [hsplit]
    rw [List.filter_append]
    have hl : (es.filter (fun e => decide (rev e ≤ v)) ++ pre).filter
        (fun e' => decide (rev e' ≤ rev e - 1)) =
          es.filter (fun e => decide (rev e ≤ v)) ++ pre := by
      rw [List.filter_eq_self]
      intro e' he'
      have := hbefore e' he' e List.mem_cons_self
      simp only [decide_eq_true_eq]
      omega
    have hr : (e :: post).filter (fun e' => decide (rev e' ≤ rev e - 1)) = [] := by
      rw [List.filter_eq_nil_iff]
      intro e' he'
      rw [decide_eq_true_eq]
      rcases List.mem_cons.mp he' with rfl | he'
      · omega
      · have := (List.pairwise_cons.mp hord).1 e' he'
        omega
    rw [hl, hr, List.append_nil]
  rw [storeAt, hcut, replay_append]
  exact hpre

end

end Replica
