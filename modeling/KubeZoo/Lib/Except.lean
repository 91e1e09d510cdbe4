import Mathlib.Tactic

/-! # Steps that can fail -/

namespace Except

universe u v

section

variable {ε : Type u} {α γ : Type v}

variable {x : Except ε α} {l : List α} {l' : List γ} {f : α → Except ε γ} {c : γ}

lemma bind_eq_ok_iff : x >>= f = .ok c ↔ ∃ a, x = .ok a ∧ f a = .ok c := by
  cases x with
  | error e => exact ⟨nofun, fun ⟨_, h, _⟩ => nomatch h⟩
  | ok a => exact ⟨fun h => ⟨a, rfl, h⟩, fun ⟨_, ha, h⟩ => ok.inj ha ▸ h⟩

lemma pure_eq_ok_iff {a : γ} : (pure a : Except ε γ) = .ok c ↔ c = a :=
  ⟨fun h => (ok.inj h).symm, fun h => h ▸ rfl⟩

lemma map_eq_ok_iff {f : α → γ} : x.map f = .ok c ↔ ∃ a, x = .ok a ∧ f a = c := by
  cases x with
  | error e => exact ⟨nofun, fun ⟨_, h, _⟩ => nomatch h⟩
  | ok a => exact ⟨fun h => ⟨a, rfl, ok.inj h⟩, fun ⟨_, ha, h⟩ => by rw [← h, ok.inj ha]; rfl⟩

lemma toOption_eq_some_iff {a : α} : x.toOption = some a ↔ x = .ok a := by
  cases x <;> simp [Except.toOption]

lemma forM_eq_ok_iff {f : α → Except ε PUnit.{v + 1}} :
    forM l f = .ok ⟨⟩ ↔ ∀ a ∈ l, f a = .ok ⟨⟩ := by
  induction l with
  | nil => simp [pure, Except.pure]
  | cons a l ih =>
    rw [List.forM_cons, bind_eq_ok_iff, List.forall_mem_cons, ← ih]
    exact ⟨fun ⟨_, ha, hl⟩ => ⟨ha, hl⟩, fun ⟨ha, hl⟩ => ⟨_, ha, hl⟩⟩

lemma mapM_eq_ok_iff : l.mapM f = .ok l' ↔ List.Forall₂ (fun a c => f a = .ok c) l l' := by
  induction l generalizing l' with
  | nil => simp [pure, Except.pure]
  | cons a l ih =>
    rw [List.mapM_cons, bind_eq_ok_iff, List.forall₂_cons_left_iff]
    refine exists_congr fun c => ?_
    rw [bind_eq_ok_iff]
    constructor
    · intro ⟨hc, cs, hcs, heq⟩
      exact ⟨cs, hc, ih.mp hcs, (Except.ok.inj heq).symm⟩
    · intro ⟨cs, hc, hcs, heq⟩
      exact ⟨hc, cs, ih.mpr hcs, by rw [heq]; rfl⟩

lemma exists_mapM_eq_ok_iff : (∃ l', l.mapM f = .ok l') ↔ ∀ a ∈ l, ∃ c, f a = .ok c := by
  induction l with
  | nil => simp [pure, Except.pure]
  | cons a l ih =>
    rw [List.forall_mem_cons, ← ih]
    simp only [List.mapM_cons, bind_eq_ok_iff]
    constructor
    · intro ⟨_, c, hc, l', hl', _⟩
      exact ⟨⟨c, hc⟩, l', hl'⟩
    · intro ⟨⟨c, hc⟩, l', hl'⟩
      exact ⟨c :: l', c, hc, l', hl', rfl⟩

lemma exists_ite_eq_ok_iff {p : Prop} [Decidable p] {a : α} {e : ε} :
    (∃ a', (if p then (.ok a : Except ε α) else .error e) = .ok a') ↔ p := by
  by_cases h : p
  · simp [h]
  · simp [h]

lemma forall₂_mem {R : α → γ → Prop} (h : List.Forall₂ R l l') :
    (∀ a ∈ l, ∃ c ∈ l', R a c) ∧ ∀ c ∈ l', ∃ a ∈ l, R a c := by
  induction h with
  | nil => simp
  | @cons a c l l' hac _ ih =>
    refine ⟨fun x hx => ?_, fun y hy => ?_⟩
    · rcases List.mem_cons.mp hx with rfl | hx
      · exact ⟨c, List.mem_cons_self, hac⟩
      · obtain ⟨y, hy, hxy⟩ := ih.1 x hx
        exact ⟨y, List.mem_cons_of_mem c hy, hxy⟩
    · rcases List.mem_cons.mp hy with rfl | hy
      · exact ⟨a, List.mem_cons_self, hac⟩
      · obtain ⟨x, hx, hxy⟩ := ih.2 y hy
        exact ⟨x, List.mem_cons_of_mem a hx, hxy⟩

lemma exists_mem_of_mapM (h : l.mapM f = .ok l') (hc : c ∈ l') : ∃ a ∈ l, f a = .ok c :=
  (forall₂_mem (mapM_eq_ok_iff.mp h)).2 c hc

end

inductive Agree {ε : Type u} {α γ : Type v} (r : α → γ → Prop) : Except ε α → Except ε γ → Prop
  | error (e : ε) : Agree r (.error e) (.error e)
  | ok {a : α} {c : γ} (h : r a c) : Agree r (.ok a) (.ok c)

namespace Agree

variable {ε ε' : Type u} {α β γ δ : Type v} {r : α → γ → Prop} {s : β → δ → Prop}
  {x : Except ε α} {y : Except ε γ}

lemma bind (hxy : Agree r x y) {f : α → Except ε β} {g : γ → Except ε δ}
    (hfg : ∀ a c, r a c → Agree s (f a) (g c)) : Agree s (x >>= f) (y >>= g) := by
  cases hxy with
  | error e => exact .error e
  | ok h => exact hfg _ _ h

lemma map (hxy : Agree r x y) {f : α → β} {g : γ → δ} (hfg : ∀ a c, r a c → s (f a) (g c)) :
    Agree s (x.map f) (y.map g) := by
  cases hxy with
  | error e => exact .error e
  | ok h => exact .ok (hfg _ _ h)

lemma mapError (hxy : Agree r x y) {f g : ε → ε'} (hfg : ∀ e, f e = g e) :
    Agree r (x.mapError f) (y.mapError g) := by
  cases hxy with
  | error e =>
    show Agree r (.error (f e)) (.error (g e))
    rw [hfg e]
    exact .error (g e)
  | ok h => exact .ok h

lemma imp {s : α → γ → Prop} (hxy : Agree r x y)
    (hrs : ∀ a c, x = .ok a → y = .ok c → r a c → s a c) : Agree s x y := by
  cases hxy with
  | error e => exact .error e
  | ok h => exact .ok (hrs _ _ rfl rfl h)

lemma of_ok {a : α} {c : γ} (h : Agree r (.ok a : Except ε α) (.ok c)) : r a c := by
  cases h with
  | ok h => exact h

lemma refl {r : α → α → Prop} (hr : ∀ a, r a a) (x : Except ε α) : Agree r x x := by
  cases x with
  | error e => exact .error e
  | ok a => exact .ok (hr a)

lemma of_eq {y : Except ε α} (h : x = y) : Agree (· = ·) x y := h ▸ refl (fun _ => rfl) x

lemma eq {y : Except ε α} (h : Agree (· = ·) x y) : x = y := by
  cases h with
  | error e => rfl
  | ok h => rw [h]

end Agree

def observe {ε : Type u} {α : Type v} (f : α → ε) : Except ε α → ε
  | .error e => e
  | .ok a => f a

lemma eq_error_of_observe {ε : Type u} {α : Type v} {f : α → ε} {x : Except ε α} {e : ε}
    (h : x.observe f = e) (hf : ∀ a, f a ≠ e) : x = .error e := by
  cases x with
  | error e' => exact congrArg Except.error h
  | ok a => exact absurd h (hf a)

lemma agree_of_observe {ε : Type u} {α : Type v} [Nontrivial ε] {r : α → α → Prop}
    (hr : Equivalence r) {x y : Except ε α}
    (h : ∀ f : α → ε, (∀ a b, r a b → f a = f b) → observe f x = observe f y) : Agree r x y := by
  classical
  have hconst : ∀ e, observe (fun _ => e) x = observe (fun _ => e) y :=
    fun e => h (fun _ => e) fun _ _ _ => rfl
  cases x with
  | error e =>
    cases y with
    | error e' =>
      rw [show e = e' from hconst e]
      exact .error e'
    | ok b =>
      obtain ⟨e', he'⟩ := exists_ne e
      exact absurd (hconst e').symm he'
  | ok a =>
    cases y with
    | error e =>
      obtain ⟨e', he'⟩ := exists_ne e
      exact absurd (hconst e') he'
    | ok b =>
      obtain ⟨e₁, e₂, hne⟩ := exists_pair_ne ε
      -- The observer that knows what is related to `b` from everything else.
      have hb : observe (fun c => if r c b then e₁ else e₂) (.ok a : Except ε α) =
          observe (fun c => if r c b then e₁ else e₂) (.ok b) := by
        refine h _ fun c c' hc => ?_
        have hiff : r c b ↔ r c' b := ⟨hr.trans (hr.symm hc), hr.trans hc⟩
        simp only [hiff]
      refine .ok ?_
      by_contra hnot
      simp only [observe, if_neg hnot, if_pos (hr.refl b)] at hb
      exact hne hb.symm

end Except
