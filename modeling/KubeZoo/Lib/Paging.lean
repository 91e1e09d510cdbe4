import Mathlib.Tactic

/-! # Paging through a row of sources -/

namespace Paging

variable {ι α : Type}

structure Source (ι α : Type) where
  items : ι → List α
  size : ι → ℕ → ℕ → ℕ

structure Call (ι : Type) where
  rest : List ι
  position : ℕ
  budget : ℕ

namespace Source

variable (s : Source ι α) (limit : ℕ)

def left (c : Call ι) : List α :=
  match c.rest with
  | [] => []
  | i :: rest => (s.items i).drop c.position ++ rest.flatMap s.items

def most (c : Call ι) : ℕ :=
  match c.rest with
  | [] => 0
  | i :: _ => min c.budget ((s.items i).length - c.position)

def answer (c : Call ι) : ℕ :=
  match c.rest with
  | [] => 0
  | i :: _ => min (s.size i c.position c.budget) (s.most c)

def page (c : Call ι) : List α :=
  match c.rest with
  | [] => []
  | i :: _ => ((s.items i).drop c.position).take (s.answer c)

/-- Where the walk goes after an answer of `n` items. -/
def advance (c : Call ι) (n : ℕ) : Call ι :=
  match c.rest with
  | [] => c
  | i :: rest =>
    if n < c.budget then ⟨rest, 0, c.budget - n⟩
    else if c.position + n < (s.items i).length then ⟨i :: rest, c.position + n, limit⟩
    else ⟨rest, 0, limit⟩

def step (c : Call ι) : Call ι := s.advance limit c (s.answer c)

def next (c : Call ι) : Call ι := s.advance limit c (s.most c)

def FullAt (c : Call ι) : Prop := s.answer c = s.most c

def Full (c : Call ι) : Prop := ∀ k, s.FullAt ((s.next limit)^[k] c)

/-- What a walk collects that calls until nothing is left. -/
inductive Collects : Call ι → List α → Prop
  | done (c : Call ι) (h : c.rest = []) : Collects c []
  | call (c : Call ι) (out : List α) (h : c.rest ≠ []) (hout : Collects (s.step limit c) out) :
      Collects c (s.page c ++ out)

variable {s limit}

lemma answer_le (c : Call ι) : s.answer c ≤ s.most c := by
  rcases c with ⟨_ | ⟨i, rest⟩, p, r⟩
  · exact le_rfl
  · exact min_le_right _ _

lemma answer_le_budget (c : Call ι) : s.answer c ≤ c.budget := by
  refine (s.answer_le c).trans ?_
  rcases c with ⟨_ | ⟨i, rest⟩, p, r⟩
  · exact Nat.zero_le _
  · exact min_le_left _ _

variable {c : Call ι} {rest : List ι} {i : ι}

lemma step_of_short (hc : c.rest = i :: rest) (h : s.answer c < c.budget) :
    s.step limit c = ⟨rest, 0, c.budget - s.answer c⟩ := by
  simp only [step, advance, hc, if_pos h]

lemma step_of_inside (hc : c.rest = i :: rest) (h : ¬ s.answer c < c.budget)
    (hi : c.position + s.answer c < (s.items i).length) :
    s.step limit c = ⟨i :: rest, c.position + s.answer c, limit⟩ := by
  simp only [step, advance, hc, if_neg h, if_pos hi]

lemma step_of_end (hc : c.rest = i :: rest) (h : ¬ s.answer c < c.budget)
    (hi : ¬ c.position + s.answer c < (s.items i).length) : s.step limit c = ⟨rest, 0, limit⟩ := by
  simp only [step, advance, hc, if_neg h, if_neg hi]

lemma length_page (c : Call ι) : (s.page c).length = s.answer c := by
  have hle := s.answer_le c
  rcases c with ⟨_ | ⟨i, rest⟩, p, r⟩
  · rfl
  · simp only [most] at hle
    simp only [page, List.length_take, List.length_drop]
    omega

lemma left_start (rest : List ι) (r : ℕ) : s.left ⟨rest, 0, r⟩ = rest.flatMap s.items := by
  cases rest <;> rfl

lemma page_eq_drop {p r : ℕ} (h : (s.items i).length - p ≤ s.answer ⟨i :: rest, p, r⟩) :
    s.page ⟨i :: rest, p, r⟩ = (s.items i).drop p := by
  apply List.take_of_length_le
  rw [List.length_drop]
  exact h

lemma page_append_left (h : s.FullAt c) : s.page c ++ s.left (s.step limit c) = s.left c := by
  rcases c with ⟨_ | ⟨i, rest⟩, p, r⟩
  · rfl
  have hn : s.answer ⟨i :: rest, p, r⟩ = min r ((s.items i).length - p) := h
  by_cases hshort : s.answer ⟨i :: rest, p, r⟩ < r
  · rw [step_of_short rfl hshort, left_start, page_eq_drop (by omega), left]
  by_cases hinside : p + s.answer ⟨i :: rest, p, r⟩ < (s.items i).length
  · rw [step_of_inside rfl hshort hinside]
    simp only [page, left]
    rw [← List.append_assoc, ← List.drop_drop, List.take_append_drop]
  · rw [step_of_end rfl hshort hinside, left_start, page_eq_drop (by omega), left]

lemma length_left_of_not_fullAt (limit : ℕ) (h : ¬ s.FullAt c) :
    (s.page c).length + (s.left (s.step limit c)).length < (s.left c).length := by
  have hle := s.answer_le c
  have hlt : s.answer c < s.most c := lt_of_le_of_ne hle h
  rw [length_page]
  rcases c with ⟨_ | ⟨i, rest⟩, p, r⟩
  · exact absurd hlt (lt_irrefl _)
  have hmost : s.most ⟨i :: rest, p, r⟩ = min r ((s.items i).length - p) := rfl
  have hshort : s.answer ⟨i :: rest, p, r⟩ < r := by omega
  have hleft : (s.left ⟨i :: rest, p, r⟩).length =
      (s.items i).length - p + (rest.flatMap s.items).length := by
    simp only [left, List.length_append, List.length_drop]
  rw [step_of_short rfl hshort, left_start, hleft]
  omega

lemma length_left_step (limit : ℕ) (c : Call ι) :
    (s.page c).length + (s.left (s.step limit c)).length ≤ (s.left c).length := by
  by_cases h : s.FullAt c
  · rw [← page_append_left h, List.length_append]
  · exact (length_left_of_not_fullAt limit h).le

/-- The answers along a walk are all that decides what it collects. -/
lemma Collects.unique {out out' : List α} (h : s.Collects limit c out)
    (h' : s.Collects limit c out') : out = out' := by
  induction h generalizing out' with
  | done c hdone =>
    cases h' with
    | done => rfl
    | call _ _ hmore => exact absurd hdone hmore
  | call c out hmore _ ih =>
    cases h' with
    | done _ hdone => exact absurd hdone hmore
    | call _ out' _ hout' => rw [ih hout']

lemma Collects.length_le {out : List α} (h : s.Collects limit c out) :
    out.length ≤ (s.left c).length := by
  induction h with
  | done c h => exact Nat.zero_le _
  | call c out h hout ih =>
    have := s.length_left_step limit c
    rw [List.length_append]
    omega

lemma full_of_rest_nil (h : c.rest = []) : s.Full limit c := by
  have hnext : s.next limit c = c := by rw [next, advance, h]
  intro k
  rw [Function.iterate_fixed hnext, FullAt, answer, most, h]

lemma full_iff : s.Full limit c ↔ s.FullAt c ∧ s.Full limit (s.next limit c) := by
  constructor
  · intro h
    exact ⟨h 0, fun k => h (k + 1)⟩
  · rintro ⟨h, hnext⟩ (_ | k)
    · exact h
    · exact hnext k

theorem Collects.eq_left_iff {out : List α} (h : s.Collects limit c out) :
    out = s.left c ↔ s.Full limit c := by
  induction h with
  | done c h =>
    refine iff_of_true ?_ (full_of_rest_nil h)
    rw [left, h]
  | call c out h hout ih =>
    by_cases hfull : s.FullAt c
    · have hstep : s.step limit c = s.next limit c := by rw [step, next, hfull]
      rw [full_iff, ← page_append_left hfull, List.append_cancel_left_eq, ih, hstep]
      exact (and_iff_right hfull).symm
    · refine iff_of_false ?_ fun hall => hfull (full_iff.1 hall).1
      intro heq
      have hlen := hout.length_le
      have hlt := length_left_of_not_fullAt limit hfull
      rw [← heq, List.length_append] at hlt
      omega

end Source

end Paging
