import KubeZoo.Lib.Calls

/-! # Programs that can fail -/

namespace Calls

variable {κ σ ε α γ : Type}

namespace Program

variable {ρ : κ → Type} {serve : Server σ κ ρ} {good : (c : κ) → ρ c → Prop}

def Answered (serve : Server σ κ ρ) (good : (c : κ) → ρ c → Prop) : Program κ ρ α → σ → Prop
  | done _, _ => True
  | call c next, s =>
    good c (serve s c).2 ∧ (next (serve s c).2).Answered serve good (serve s c).1

instance decidableAnswered [∀ c r, Decidable (good c r)] :
    (p : Program κ ρ α) → (s : σ) → Decidable (p.Answered serve good s)
  | done _, _ => isTrue trivial
  | call c next, s =>
    have := decidableAnswered (next (serve s c).2) (serve s c).1
    inferInstanceAs (Decidable (_ ∧ _))

@[simp] lemma answered_pure (a : α) (s : σ) :
    (pure a : Program κ ρ α).Answered serve good s := trivial

@[simp] lemma answered_ask (c : κ) (s : σ) :
    (ask c : Program κ ρ (ρ c)).Answered serve good s ↔ good c (serve s c).2 :=
  ⟨fun h => h.1, fun h => ⟨h, trivial⟩⟩

@[simp] lemma answered_bind (p : Program κ ρ α) (f : α → Program κ ρ γ) (s : σ) :
    (p >>= f).Answered serve good s ↔
      p.Answered serve good s ∧ (f (p.run serve s).2).Answered serve good (p.run serve s).1 := by
  show (p.bind f).Answered serve good s ↔ _
  induction p generalizing s with
  | done a => exact (and_iff_right trivial).symm
  | call c next ih =>
    show good c _ ∧ ((next _).bind f).Answered serve good _ ↔ (good c _ ∧ _) ∧ _
    rw [ih, and_assoc]
    rfl

variable {p : Program κ ρ α}

lemma Answered.of_mem_calls {s : σ} (h : p.Answered serve good s) {c : κ} (hc : c ∈ p.calls serve s) :
    ∃ s', good c (serve s' c).2 := by
  induction p generalizing s with
  | done a => cases hc
  | call c' next ih =>
    rcases List.mem_cons.mp hc with rfl | hc
    · exact ⟨s, h.1⟩
    · exact ih _ h.2 hc

/-- Wherever the state is within `I`, the calls of the program keep it there, and its result is one
of `Q`. -/
def Sound (serve : Server σ κ ρ) (I : σ → Prop) (Q : α → Prop) : Program κ ρ α → Prop
  | done a => Q a
  | call c next => ∀ s, I s → I (serve s c).1 ∧ (next (serve s c).2).Sound serve I Q

variable {I : σ → Prop} {Q : α → Prop} {R : γ → Prop}

lemma sound_pure {a : α} (h : Q a) : (pure a : Program κ ρ α).Sound serve I Q := h

lemma sound_ask {c : κ} {Q : ρ c → Prop} (h : ∀ s, I s → I (serve s c).1 ∧ Q (serve s c).2) :
    (ask c : Program κ ρ (ρ c)).Sound serve I Q := h

lemma Sound.bind {f : α → Program κ ρ γ} (hp : p.Sound serve I Q)
    (hf : ∀ a, Q a → (f a).Sound serve I R) : (p >>= f).Sound serve I R := by
  show (p.bind f).Sound serve I R
  induction p with
  | done a => exact hf a hp
  | call c next ih => exact fun s hs => ⟨(hp s hs).1, ih _ (hp s hs).2⟩

lemma Sound.mono {Q' : α → Prop} (hp : p.Sound serve I Q) (h : ∀ a, Q a → Q' a) :
    p.Sound serve I Q' := by
  induction p with
  | done a => exact h a hp
  | call c next ih => exact fun s hs => ⟨(hp s hs).1, ih _ (hp s hs).2⟩

lemma Only.sound {C : κ → Prop} (hp : p.Only C)
    (hC : ∀ c, C c → ∀ s s', I s → I s' → (serve s c).1 = s ∧ (serve s c).2 = (serve s' c).2)
    {s₀ : σ} (hs₀ : I s₀) : p.Sound serve I fun a => p.run serve s₀ = (s₀, a) := by
  induction p with
  | done a => exact rfl
  | call c next ih =>
    intro s hs
    obtain ⟨hstate, hanswer⟩ := hC c hp.1 s s₀ hs hs₀
    have hrun : (call c next).run serve s₀ = (next (serve s c).2).run serve s₀ := by
      show (next (serve s₀ c).2).run serve (serve s₀ c).1 = _
      rw [hanswer, (hC c hp.1 s₀ s hs₀ hs).1]
    refine ⟨hstate.symm ▸ hs, ?_⟩
    rw [hrun]
    exact ih _ (hp.2 _)

lemma Only.answered {C : κ → Prop} (hp : p.Only C) (hC : ∀ c, C c → ∀ r, good c r) (s : σ) :
    p.Answered serve good s := by
  induction p generalizing s with
  | done a => trivial
  | call c next ih => exact ⟨hC c hp.1 _, ih _ (hp.2 _) _⟩

end Program

variable {res : κ → Type}

abbrev Answer (ε : Type) (res : κ → Type) (c : κ) : Type := Except ε (res c)

abbrev Fallible (κ : Type) (res : κ → Type) (ε α : Type) : Type :=
  ExceptT ε (Program κ (Answer ε res)) α

namespace Fallible

def send (c : κ) : Fallible κ res ε (res c) := ExceptT.mk (Program.ask c)

def attempt (c : κ) : Fallible κ res ε Unit := ExceptT.mk (Program.ask c >>= fun _ => pure (.ok ()))

def orMissing (missing : ε → Bool) : Except ε α → Except ε (Option α)
  | .ok a => .ok (some a)
  | .error e => if missing e then .ok none else .error e

def find (missing : ε → Bool) (c : κ) : Fallible κ res ε (Option (res c)) :=
  ExceptT.mk (Program.ask c >>= fun r => pure (orMissing missing r))

def ofExcept (x : Except ε α) : Fallible κ res ε α := ExceptT.mk (pure x)

variable (serve : Server σ κ (Answer ε res)) (good : (c : κ) → Answer ε res c → Prop)

/-- From `s`, the program ends in `s'` with the result `a`, and its calls are answered well. -/
def Succeeds (p : Fallible κ res ε α) (s s' : σ) (a : α) : Prop :=
  Program.run serve p.run s = (s', .ok a) ∧ Program.Answered serve good p.run s

variable {serve good} {s s' : σ} {a b : α} {e : ε} {p : Fallible κ res ε α} {c : κ}

@[simp] lemma succeeds_pure :
    Succeeds serve good (pure a : Fallible κ res ε α) s s' b ↔ s = s' ∧ a = b := by
  show (s, Except.ok a) = (s', Except.ok b) ∧ True ↔ _
  simp

variable {x : Except ε α} {f : α → Fallible κ res ε γ}

lemma succeeds_send {r : res c} :
    Succeeds serve good (send c) s s' r ↔ serve s c = (s', .ok r) ∧ good c (.ok r) := by
  show serve s c = _ ∧ (good c (serve s c).2 ∧ True) ↔ _
  rw [and_true]
  refine and_congr_right fun h => ?_
  rw [h]

lemma succeeds_attempt {u : Unit} :
    Succeeds serve good (attempt c) s s' u ↔ (serve s c).1 = s' ∧ good c (serve s c).2 := by
  show ((serve s c).1, Except.ok ()) = (s', Except.ok u) ∧ (good c (serve s c).2 ∧ True) ↔ _
  simp

variable {missing : ε → Bool} {h : ε → Fallible κ res ε α}

lemma succeeds_bind {b : γ} :
    Succeeds serve good (p >>= f) s s' b ↔
      ∃ s₁ a, Succeeds serve good p s s₁ a ∧ Succeeds serve good (f a) s₁ s' b := by
  unfold Succeeds
  rw [ExceptT.run_bind, Program.run_bind, Program.answered_bind]
  rcases Program.run serve p.run s with ⟨s₁, r⟩
  cases r with
  | error e => simp
  | ok a =>
    constructor
    · rintro ⟨h, hp, hf⟩
      exact ⟨s₁, a, ⟨rfl, hp⟩, h, hf⟩
    · rintro ⟨s₂, a', ⟨h, hp⟩, hf, hf'⟩
      obtain ⟨rfl, ha⟩ := Prod.mk.inj h
      cases ha
      exact ⟨hf, hp, hf'⟩

def handled (h : ε → Fallible κ res ε α) :
    Except ε α → Program κ (Answer ε res) (Except ε α)
  | .ok a => pure (.ok a)
  | .error e => (h e).run

lemma run_tryCatch (p : Fallible κ res ε α) (h : ε → Fallible κ res ε α) :
    (tryCatch p h : Fallible κ res ε α).run = p.run >>= handled h := rfl

lemma succeeds_tryCatch :
    Succeeds serve good (tryCatch p h) s s' a ↔ Succeeds serve good p s s' a ∨
        ∃ s₁ e, Program.run serve p.run s = (s₁, .error e) ∧ Program.Answered serve good p.run s ∧
          Succeeds serve good (h e) s₁ s' a := by
  unfold Succeeds
  rw [run_tryCatch, Program.run_bind, Program.answered_bind]
  rcases Program.run serve p.run s with ⟨s₁, r⟩
  cases r with
  | ok a' => simp [handled]
  | error e => simp [handled, and_left_comm]

section

variable {C : κ → Prop}

lemma only_pure : Program.Only C (pure a : Fallible κ res ε α).run := trivial

lemma only_ofExcept : Program.Only C (ofExcept x : Fallible κ res ε α).run :=
  trivial

lemma only_send (h : C c) : Program.Only C (send c : Fallible κ res ε _).run :=
  (Program.only_ask c).mpr h

lemma only_find (h : C c) :
    Program.Only C (find missing c : Fallible κ res ε _).run :=
  ((Program.only_ask c).mpr h).bind fun _ => trivial

lemma only_bind (hp : Program.Only C p.run)
    (hf : ∀ a, Program.Only C (f a).run) : Program.Only C (p >>= f).run := by
  refine hp.bind fun r => ?_
  cases r with
  | ok a => exact hf a
  | error e => trivial

end

variable {I : σ → Prop} {Q : α → Prop} {R : γ → Prop}

/-- The results are of `Q`. -/
def Sound (serve : Server σ κ (Answer ε res)) (I : σ → Prop) (Q : α → Prop)
    (p : Fallible κ res ε α) : Prop :=
  Program.Sound serve I (fun r => ∀ a, r = .ok a → Q a) p.run

lemma sound_pure (h : Q a) : (pure a : Fallible κ res ε α).Sound serve I Q :=
  Program.sound_pure fun b hb => by
    cases hb
    exact h

lemma sound_throw : (throw e : Fallible κ res ε α).Sound serve I Q :=
  Program.sound_pure fun b hb => by cases hb

lemma sound_ofExcept (h : ∀ a, x = .ok a → Q a) :
    (ofExcept x : Fallible κ res ε α).Sound serve I Q :=
  Program.sound_pure h

lemma sound_send {Q : res c → Prop}
    (h : ∀ s, I s → I (serve s c).1 ∧ ∀ r, (serve s c).2 = .ok r → Q r) :
    (send c : Fallible κ res ε _).Sound serve I Q :=
  Program.sound_ask h

lemma sound_find {Q : Option (res c) → Prop}
    (h : ∀ s, I s → I (serve s c).1 ∧ ∀ r, orMissing missing (serve s c).2 = .ok r → Q r) :
    (find missing c : Fallible κ res ε _).Sound serve I Q :=
  (Program.sound_ask (Q := fun r => ∀ r', orMissing missing r = .ok r' → Q r') h).bind fun _ hr =>
    Program.sound_pure hr

lemma Sound.bind (hp : p.Sound serve I Q) (hf : ∀ a, Q a → (f a).Sound serve I R) :
    (p >>= f).Sound serve I R := by
  refine Program.Sound.bind hp fun r hr => ?_
  cases r with
  | ok a => exact hf a (hr a rfl)
  | error e => exact Program.sound_pure fun _ h => by cases h

lemma Sound.tryCatch (hp : p.Sound serve I Q) (hh : ∀ e, (h e).Sound serve I Q) :
    (tryCatch p h : Fallible κ res ε α).Sound serve I Q := by
  refine Program.Sound.bind hp fun r hr => ?_
  cases r with
  | ok a => exact Program.sound_pure hr
  | error e => exact hh e

/-- The program makes calls of `C`, ends at the first error, and has a result of `Q` where the calls
have results of `A`. -/
inductive Relays (C : κ → Prop) (A : (c : κ) → res c → Prop) (Q : α → Prop) :
    Fallible κ res ε α → Prop
  | pure {a : α} (h : Q a) : Relays C A Q (Pure.pure a)
  | throw {e : ε} : Relays C A Q (MonadExcept.throw e)
  | send {c : κ} {f : res c → Fallible κ res ε α} (hc : C c) (h : ∀ r, A c r → Relays C A Q (f r)) :
      Relays C A Q (Fallible.send c >>= f)

variable {C : κ → Prop} {A : (c : κ) → res c → Prop}

lemma relays_ofExcept (h : ∀ a, x = .ok a → Q a) :
    Relays C A Q (ofExcept x : Fallible κ res ε α) := by
  cases x with
  | ok a => exact .pure (h a rfl)
  | error e => exact .throw

lemma Relays.bind (hp : Relays C A Q p) (hf : ∀ a, Q a → Relays C A R (f a)) :
    Relays C A R (p >>= f) := by
  induction hp with
  | pure h =>
    exact hf _ h
  | throw => exact .throw
  | send hc _ ih =>
    rw [bind_assoc]
    exact .send hc ih

lemma relays_throw_bind {f : γ → Fallible κ res ε α} :
    Relays C A Q (MonadExcept.throw e >>= f) := Relays.throw (e := e)

lemma Relays.ite {b : Prop} [Decidable b] {q : Fallible κ res ε α} (hp : Relays C A Q p)
    (hq : Relays C A Q q) : Relays C A Q (if b then p else q) := by
  split
  · exact hp
  · exact hq

lemma Relays.only (h : Relays C (fun _ _ => True) Q p) : Program.Only C p.run := by
  induction h with
  | pure _ => exact only_pure
  | throw => trivial
  | send hc _ ih => exact only_bind (only_send hc) fun r => ih r trivial

lemma Relays.answered (h : Relays C (fun _ _ => True) Q p)
    (ha : (Program.run serve p.run s).2 = .ok a) :
    Program.Answered serve (fun _ r => ∃ x, r = .ok x) p.run s := by
  induction h generalizing s with
  | pure _ => trivial
  | throw => trivial
  | @send c f _ _ ih =>
    rw [ExceptT.run_bind] at ha ⊢
    rw [Program.run_bind] at ha
    rw [Program.answered_bind]
    cases hrun : (Program.run serve (Fallible.send c : Fallible κ res ε _).run s).2 with
    | error e =>
      rw [hrun] at ha
      cases ha
    | ok r =>
      rw [hrun] at ha
      exact ⟨⟨⟨r, hrun⟩, trivial⟩, ih r trivial ha⟩

lemma Relays.result (h : Relays C A Q p) (hserve : ∀ s c r, (serve s c).2 = .ok r → A c r)
    (ha : (Program.run serve p.run s).2 = .ok a) : Q a := by
  induction h generalizing s with
  | pure h =>
    rw [← Except.ok.inj ha]
    exact h
  | throw => cases ha
  | @send c f _ _ ih =>
    rw [ExceptT.run_bind, Program.run_bind] at ha
    cases hrun : (Program.run serve (Fallible.send c : Fallible κ res ε _).run s).2 with
    | error e =>
      rw [hrun] at ha
      cases ha
    | ok r =>
      rw [hrun] at ha
      exact ih r (hserve s c r hrun) ha

end Fallible

end Calls
