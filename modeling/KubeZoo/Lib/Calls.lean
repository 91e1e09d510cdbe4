import Mathlib.Tactic

/-! # Programs that call a server -/

namespace Calls

/-- A program over calls `κ`, answered as `ρ` says. -/
inductive Program (κ : Type) (ρ : κ → Type) (α : Type)
  | done (a : α)
  | call (c : κ) (next : ρ c → Program κ ρ α)

variable {κ : Type} {ρ : κ → Type} {α γ σ : Type}

abbrev Server (σ : Type) (κ : Type) (ρ : κ → Type) := σ → (c : κ) → σ × ρ c

namespace Program

def bind : Program κ ρ α → (α → Program κ ρ γ) → Program κ ρ γ
  | done a, f => f a
  | call c next, f => call c fun r => (next r).bind f

instance : Monad (Program κ ρ) where
  pure := done
  bind := bind

lemma bind_done (p : Program κ ρ α) : p.bind done = p := by
  induction p with
  | done a => rfl
  | call c next ih => exact congrArg (call c) (funext ih)

lemma bind_bind {δ : Type} (p : Program κ ρ α) (f : α → Program κ ρ γ) (g : γ → Program κ ρ δ) :
    (p.bind f).bind g = p.bind fun a => (f a).bind g := by
  induction p with
  | done a => rfl
  | call c next ih => exact congrArg (call c) (funext ih)

instance : LawfulMonad (Program κ ρ) :=
  LawfulMonad.mk' (Program κ ρ) bind_done (fun _ _ => rfl) bind_bind

def ask (c : κ) : Program κ ρ (ρ c) := call c done

def run (serve : Server σ κ ρ) : Program κ ρ α → σ → σ × α
  | done a, s => (s, a)
  | call c next, s => run serve (next (serve s c).2) (serve s c).1

def calls (serve : Server σ κ ρ) : Program κ ρ α → σ → List κ
  | done _, _ => []
  | call c next, s => c :: calls serve (next (serve s c).2) (serve s c).1

def Only (P : κ → Prop) : Program κ ρ α → Prop
  | done _ => True
  | call c next => P c ∧ ∀ r, (next r).Only P

/-- Past a call of `C`, the program makes calls of `P` only. -/
def After (C P : κ → Prop) : Program κ ρ α → Prop
  | done _ => True
  | call c next => ∀ r, (C c → (next r).Only P) ∧ (next r).After C P

variable {serve : Server σ κ ρ} {s : σ} {β : Type} {l : List β} {I : σ → Prop}

@[simp] lemma run_pure (a : α) : (pure a : Program κ ρ α).run serve s = (s, a) := rfl

@[simp] lemma run_bind (p : Program κ ρ α) (f : α → Program κ ρ γ) :
    (p >>= f).run serve s = (f (p.run serve s).2).run serve (p.run serve s).1 := by
  show (p.bind f).run serve s = _
  induction p generalizing s with
  | done a => rfl
  | call c next ih => exact ih (serve s c).2

@[simp] lemma run_ask (c : κ) : (ask c : Program κ ρ (ρ c)).run serve s = serve s c := rfl

lemma run_invariant (hserve : ∀ s c, I s → I (serve s c).1) (p : Program κ ρ α)
    (hs : I s) : I (p.run serve s).1 := by
  induction p generalizing s with
  | done a => exact hs
  | call c next ih => exact ih _ (hserve s c hs)

lemma run_forM_keeps {f : β → Program κ ρ PUnit}
    (hstep : ∀ s, I s → ∀ b ∈ l, I ((f b).run serve s).1) (hs : I s) :
    I ((forM l f).run serve s).1 := by
  induction l generalizing s with
  | nil => exact hs
  | cons b l ih =>
    rw [List.forM_cons, run_bind]
    refine ih (fun s hs b' hb' => ?_) (hstep s hs b List.mem_cons_self)
    exact hstep s hs b' (List.mem_cons_of_mem b hb')

lemma run_forM_own {ν : Type} (serve : Server σ κ ρ) (f : β → Program κ ρ PUnit)
    (get : σ → β → ν) (hown : ∀ s b b', b' ≠ b → get ((f b).run serve s).1 b' = get s b')
    (hl : l.Nodup) {b : β} (hb : b ∈ l) :
    ∃ s₁, get s₁ b = get s b ∧ get ((forM l f).run serve s).1 b = get ((f b).run serve s₁).1 b := by
  induction l generalizing s with
  | nil => cases hb
  | cons a l ih =>
    rw [List.forM_cons, run_bind]
    obtain ⟨ha, hl⟩ := List.nodup_cons.mp hl
    obtain rfl | hb := List.mem_cons.mp hb
    · -- The first turn is its own; no later one is.
      refine ⟨s, rfl, run_forM_keeps (I := fun s' => get s' b = get ((f b).run serve s).1 b)
        (fun s' hs' b' hb' => ?_) rfl⟩
      rw [hown s' b' b (fun h => ha (h ▸ hb')), hs']
    · obtain ⟨s₁, hget, hrun⟩ := ih hl hb
      refine ⟨s₁, ?_, hrun⟩
      rw [hget, hown s a b (fun h => ha (h ▸ hb))]

variable {P Q : κ → Prop}

@[simp] lemma only_pure (a : α) : (pure a : Program κ ρ α).Only P := trivial

@[simp] lemma only_ask (c : κ) : (ask c : Program κ ρ (ρ c)).Only P ↔ P c :=
  ⟨fun h => h.1, fun h => ⟨h, fun _ => trivial⟩⟩

lemma only_true (p : Program κ ρ α) : p.Only fun _ => True := by
  induction p with
  | done a => trivial
  | call c next ih => exact ⟨trivial, ih⟩

variable {p : Program κ ρ α}

lemma Only.bind {f : α → Program κ ρ γ} (hp : p.Only P) (hf : ∀ a, (f a).Only P) :
    (p >>= f).Only P := by
  show (p.bind f).Only P
  induction p with
  | done a => exact hf a
  | call c next ih => exact ⟨hp.1, fun r => ih r (hp.2 r)⟩

lemma Only.forM {f : β → Program κ ρ PUnit} (hf : ∀ b ∈ l, (f b).Only P) : (forM l f).Only P := by
  induction l with
  | nil => trivial
  | cons b l ih =>
    refine Only.bind (hf b List.mem_cons_self) fun _ => ih fun b' hb' => ?_
    exact hf b' (List.mem_cons_of_mem b hb')

lemma Only.mono (hp : p.Only P) (h : ∀ c, P c → Q c) : p.Only Q := by
  induction p with
  | done a => trivial
  | call c next ih => exact ⟨h c hp.1, fun r => ih r (hp.2 r)⟩

lemma Only.of_mem_calls (hp : p.Only P) {c : κ} (hc : c ∈ p.calls serve s) : P c := by
  induction p generalizing s with
  | done a => cases hc
  | call c' next ih =>
    rcases List.mem_cons.mp hc with rfl | hc
    · exact hp.1
    · exact ih _ (hp.2 _) hc

lemma Only.run_keeps (hp : p.Only P) (hstep : ∀ s c, P c → I s → I (serve s c).1)
    (hs : I s) : I (p.run serve s).1 := by
  induction p generalizing s with
  | done a => exact hs
  | call c next ih => exact ih _ (hp.2 _) (hstep s c hp.1 hs)

variable {C : κ → Prop}

lemma after_ask (c : κ) : (ask c : Program κ ρ (ρ c)).After C P := fun _ => ⟨fun _ => trivial, trivial⟩

variable {f : α → Program κ ρ γ}

lemma Only.after (hp : p.Only P) : p.After C P := by
  induction p with
  | done a => trivial
  | call c next ih => exact fun r => ⟨fun _ => hp.2 r, ih r (hp.2 r)⟩

lemma After.bind_right (hp : p.Only fun c => ¬ C c) (hf : ∀ a, (f a).After C P) :
    (p >>= f).After C P := by
  show (p.bind f).After C P
  induction p with
  | done a => exact hf a
  | call c next ih => exact fun r => ⟨fun hC => absurd hC hp.1, ih r (hp.2 r)⟩

lemma After.bind_left (hp : p.After C P) (hf : ∀ a, (f a).Only P) : (p >>= f).After C P := by
  show (p.bind f).After C P
  induction p with
  | done a => exact (hf a).after
  | call c next ih => exact fun r => ⟨fun hC => ((hp r).1 hC).bind hf, ih r (hp r).2⟩

end Program

structure Event (κ : Type) (ρ : κ → Type) where
  first : Bool
  call : κ
  reply : ρ call

instance [DecidableEq κ] [∀ c, DecidableEq (ρ c)] : DecidableEq (Event κ ρ) := fun e e' =>
  decidable_of_iff (e.first = e'.first ∧
    (⟨e.call, e.reply⟩ : (c : κ) × ρ c) = ⟨e'.call, e'.reply⟩) <| by
    obtain ⟨first, call, reply⟩ := e
    obtain ⟨first', call', reply'⟩ := e'
    simp only [Sigma.mk.injEq, Event.mk.injEq]

inductive Served (serve : Server σ κ ρ) : σ → List (Event κ ρ) → σ → Prop
  | nil {s : σ} : Served serve s [] s
  | cons {s s' : σ} {first : Bool} {c : κ} {events : List (Event κ ρ)}
      (h : Served serve (serve s c).1 events s') :
      Served serve s (⟨first, c, (serve s c).2⟩ :: events) s'

inductive Interleaving (serve : Server σ κ ρ) :
    σ → Program κ ρ α → Program κ ρ γ → List (Event κ ρ) → σ → α → γ → Prop
  | done {s : σ} {a : α} {b : γ} : Interleaving serve s (.done a) (.done b) [] s a b
  | first {s s' : σ} {c : κ} {next : ρ c → Program κ ρ α} {q : Program κ ρ γ}
      {events : List (Event κ ρ)} {a : α} {b : γ}
      (h : Interleaving serve (serve s c).1 (next (serve s c).2) q events s' a b) :
      Interleaving serve s (.call c next) q (⟨true, c, (serve s c).2⟩ :: events) s' a b
  | second {s s' : σ} {c : κ} {next : ρ c → Program κ ρ γ} {p : Program κ ρ α}
      {events : List (Event κ ρ)} {a : α} {b : γ}
      (h : Interleaving serve (serve s c).1 p (next (serve s c).2) events s' a b) :
      Interleaving serve s p (.call c next) (⟨false, c, (serve s c).2⟩ :: events) s' a b

/-- Two programs whose calls are made in the order of a schedule, `true` for a call of the first. -/
def interleave (serve : Server σ κ ρ) : List Bool → σ → Program κ ρ α → Program κ ρ γ →
    Option (List (Event κ ρ) × σ × α × γ)
  | [], s, .done a, .done b => some ([], s, a, b)
  | true :: schedule, s, .call c next, q =>
    (interleave serve schedule (serve s c).1 (next (serve s c).2) q).map fun (events, rest) =>
      (⟨true, c, (serve s c).2⟩ :: events, rest)
  | false :: schedule, s, p, .call c next =>
    (interleave serve schedule (serve s c).1 p (next (serve s c).2)).map fun (events, rest) =>
      (⟨false, c, (serve s c).2⟩ :: events, rest)
  | _, _, _, _ => none

section

variable {serve : Server σ κ ρ} {s s' : σ} {e : Event κ ρ} {events l l' : List (Event κ ρ)}

lemma Served.split (h : Served serve s (l ++ e :: l') s') :
    ∃ s₁, Served serve s l s₁ ∧ e.reply = (serve s₁ e.call).2 ∧
      Served serve (serve s₁ e.call).1 l' s' := by
  induction l generalizing s with
  | nil =>
    cases h with
    | cons h => exact ⟨s, .nil, rfl, h⟩
  | cons e' l ih =>
    cases h with
    | cons h =>
      obtain ⟨s₁, hl, hreply, hl'⟩ := ih h
      exact ⟨s₁, .cons hl, hreply, hl'⟩

lemma Served.invariant {I : σ → Prop} (h : Served serve s events s')
    (hstep : ∀ e ∈ events, ∀ s, e.reply = (serve s e.call).2 → I s → I (serve s e.call).1)
    (hs : I s) : I s' := by
  induction h with
  | nil => exact hs
  | cons _ ih =>
    refine ih (fun e he => hstep e (List.mem_cons_of_mem _ he)) ?_
    exact hstep _ List.mem_cons_self _ rfl hs

namespace Interleaving

variable {p : Program κ ρ α} {q : Program κ ρ γ} {a : α} {b : γ} {C P D Q : κ → Prop}

lemma of_interleave {schedule : List Bool}
    (h : interleave serve schedule s p q = some (events, s', a, b)) :
    Interleaving serve s p q events s' a b := by
  fun_induction interleave serve schedule s p q generalizing events with
  | case1 s a' b' =>
    cases h
    exact .done
  | case2 s c next q schedule ih =>
    obtain ⟨⟨events', rest⟩, hrest, h⟩ := Option.map_eq_some_iff.mp h
    cases h
    exact .first (ih hrest)
  | case3 s p c next schedule ih =>
    obtain ⟨⟨events', rest⟩, hrest, h⟩ := Option.map_eq_some_iff.mp h
    cases h
    exact .second (ih hrest)
  | case4 => cases h

lemma served (h : Interleaving serve s p q events s' a b) : Served serve s events s' := by
  induction h with
  | done => exact .nil
  | first _ ih => exact .cons ih
  | second _ ih => exact .cons ih

lemma only (h : Interleaving serve s p q events s' a b) (hp : p.Only P) (hq : q.Only Q) :
    ∀ e ∈ events, if e.first then P e.call else Q e.call := by
  induction h with
  | done => exact fun e he => nomatch he
  | first _ ih => exact List.forall_mem_cons.mpr ⟨hp.1, ih (hp.2 _) hq⟩
  | second _ ih => exact List.forall_mem_cons.mpr ⟨hq.1, ih hp (hq.2 _)⟩

private def Past (first : Bool) (l : List (Event κ ρ)) (C P : κ → Prop) (p : Program κ ρ α) : Prop :=
  p.Only P ∨ p.After C P ∧ ∃ e ∈ l, e.first = first ∧ C e.call

variable {first : Bool} {c : κ} {r : ρ c}

private lemma Past.next {next : ρ c → Program κ ρ α}
    (h : Past first (⟨first, c, r⟩ :: l) C P (.call c next)) : Past first l C P (next r) := by
  obtain h | ⟨h, e, he, hfirst, hC⟩ := h
  · exact .inl (h.2 r)
  · obtain rfl | he := List.mem_cons.mp he
    · exact .inl ((h r).1 hC)
    · exact .inr ⟨(h r).2, e, he, hfirst, hC⟩

private lemma Past.other (h : Past first (⟨!first, c, r⟩ :: l) C P p) : Past first l C P p := by
  obtain h | ⟨h, e, he, hfirst, hC⟩ := h
  · exact .inl h
  · obtain rfl | he := List.mem_cons.mp he
    · exact absurd hfirst (by simp)
    · exact .inr ⟨h, e, he, hfirst, hC⟩

private lemma only_of_past (h : Interleaving serve s p q (l ++ l') s' a b)
    (hp : Past true l C P p) (hq : Past false l D Q q) :
    ∀ e ∈ l', if e.first then P e.call else Q e.call := by
  induction l generalizing s p q with
  | nil =>
    obtain hp | ⟨_, _, he, _⟩ := hp
    · obtain hq | ⟨_, _, he, _⟩ := hq
      · exact h.only hp hq
      · cases he
    · cases he
  | cons e l ih =>
    cases h with
    | first h => exact ih h hp.next hq.other
    | second h => exact ih h hp.other hq.next

lemma after (h : Interleaving serve s p q (l ++ l') s' a b) (hp : p.After C P) (hq : q.After D Q)
    (hC : ∃ e ∈ l, e.first = true ∧ C e.call) (hD : ∃ e ∈ l, e.first = false ∧ D e.call) :
    ∀ e ∈ l', if e.first then P e.call else Q e.call :=
  h.only_of_past (.inr ⟨hp, hC⟩) (.inr ⟨hq, hD⟩)

end Interleaving

end

end Calls
