import KubeZoo.Lib.Except

/-! # Views that are read and written back -/

universe u v

structure View (ε : Type u) (α β : Type v) where
  read : α → Except ε β
  write : β → Except ε α

namespace View

variable {ε : Type u} {α β γ : Type v} (v : View ε α β)

def Writable (a : α) : Prop := ∀ b, v.read a = .ok b → ∃ a', v.write b = .ok a'

/-- What is shown stores the same if it is written back, as far as `f` tells. -/
def Neutral (f : α → γ) (a : α) : Prop :=
  ∀ b, v.read a = .ok b → ∀ a', v.write b = .ok a' → f a' = f a

def Faithful (b : β) : Prop := ∃ a, v.write b = .ok a ∧ v.read a = .ok b

variable {v}

lemma writable_iff {a : α} {b : β} (h : v.read a = .ok b) :
    v.Writable a ↔ ∃ a', v.write b = .ok a' := by
  constructor
  · intro hw
    exact hw b h
  · intro hw b' hb'
    rw [h, Except.ok.injEq] at hb'
    exact hb' ▸ hw

lemma neutral_iff {f : α → γ} {a : α} {b : β} (h : v.read a = .ok b) :
    v.Neutral f a ↔ ∀ a', v.write b = .ok a' → f a' = f a := by
  constructor
  · intro hn
    exact hn b h
  · intro hn b' hb'
    rw [h, Except.ok.injEq] at hb'
    exact hb' ▸ hn

variable {l l'' : List α} {l' : List β}

lemma exists_write_iff (hread : l.mapM v.read = .ok l') :
    (∃ l'', l'.mapM v.write = .ok l'') ↔ ∀ a ∈ l, v.Writable a := by
  rw [Except.exists_mapM_eq_ok_iff]
  rw [Except.mapM_eq_ok_iff] at hread
  induction hread with
  | nil => simp
  | @cons a b l l' hab _ ih =>
    rw [List.forall_mem_cons, List.forall_mem_cons, ih, writable_iff hab]

lemma map_write_eq_iff {f : α → γ} (hread : l.mapM v.read = .ok l')
    (hwrite : l'.mapM v.write = .ok l'') : l''.map f = l.map f ↔ ∀ a ∈ l, v.Neutral f a := by
  rw [Except.mapM_eq_ok_iff] at hread hwrite
  induction hread generalizing l'' with
  | nil =>
    cases hwrite
    simp
  | @cons a b l l' hab _ ih =>
    obtain ⟨a', l₁, ha', hl₁, rfl⟩ := List.forall₂_cons_left_iff.mp hwrite
    rw [List.map_cons, List.map_cons, List.cons.injEq, List.forall_mem_cons, ih hl₁,
      neutral_iff hab]
    simp [ha']

lemma write_eq_iff (hread : l.mapM v.read = .ok l') (hwrite : l'.mapM v.write = .ok l'') :
    l'' = l ↔ ∀ a ∈ l, v.Neutral id a := by
  rw [← map_write_eq_iff hread hwrite, List.map_id, List.map_id]

lemma write_both_eq_iff {σ τ δ : Type v} {w : View ε σ τ} {f : σ → δ} {s : σ} {s' : τ}
    (hread : l.mapM v.read = .ok l') (hs : w.read s = .ok s') {Refused Kept : α → Prop}
    (hrefused : ∀ a, ¬ v.Writable a ↔ Refused a) (hkept : ∀ a, v.Neutral id a ↔ Kept a)
    {R K : Prop} (hwritable : w.Writable s ↔ ¬ R) (hneutral : ¬ R → (w.Neutral f s ↔ K)) :
    (∀ l'', l'.mapM v.write = .ok l'' → ∀ s'', w.write s' = .ok s'' → l'' = l ∧ f s'' = f s) ↔
      ((∃ a ∈ l, Refused a) ∨ R) ∨ (∀ a ∈ l, Kept a) ∧ K := by
  by_cases hnot : (∃ a ∈ l, Refused a) ∨ R
  · refine iff_of_true ?_ (Or.inl hnot)
    intro l'' hl'' s'' hs''
    rcases hnot with ⟨a, ha, hnot⟩ | hnot
    · exact absurd ((exists_write_iff hread).mp ⟨l'', hl''⟩ a ha) ((hrefused a).mpr hnot)
    · exact absurd hnot (hwritable.mp ((writable_iff hs).mpr ⟨s'', hs''⟩))
  · rw [or_iff_right hnot]
    obtain ⟨hall, hR⟩ := not_or.mp hnot
    -- Both parts are written, and each has one result.
    obtain ⟨l'', hl''⟩ : ∃ l'', l'.mapM v.write = .ok l'' := by
      rw [exists_write_iff hread]
      intro a ha
      by_contra h
      exact hall ⟨a, ha, (hrefused a).mp h⟩
    obtain ⟨s'', hs''⟩ := (writable_iff hs).mp (hwritable.mpr hR)
    have hlist : (∀ a ∈ l, Kept a) ↔ l'' = l := by
      rw [write_eq_iff hread hl'']
      exact forall₂_congr fun a _ => (hkept a).symm
    rw [hlist, ← hneutral hR, neutral_iff hs, hl'', hs'']
    simp

lemma mapM_faithful (h : ∀ b ∈ l', v.Faithful b) :
    ∃ l, l'.mapM v.write = .ok l ∧ l.mapM v.read = .ok l' := by
  induction l' with
  | nil => exact ⟨[], rfl, rfl⟩
  | cons b l' ih =>
    obtain ⟨⟨a, hwrite, hread⟩, htail⟩ := List.forall_mem_cons.mp h
    obtain ⟨l, hl, hl'⟩ := ih htail
    refine ⟨a :: l, ?_, ?_⟩
    · rw [List.mapM_cons, hwrite, hl]
      rfl
    · rw [List.mapM_cons, hread, hl']
      rfl

end View
