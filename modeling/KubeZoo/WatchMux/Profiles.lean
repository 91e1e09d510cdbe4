import KubeZoo.WatchMux.Moves

/-! # What a step does to each shared field -/

namespace KubeZoo
namespace WatchMux

variable {β : Type}

/-- The place in `expire` a goroutine is at. -/
def Task.expirePc : Task β → Option ExpirePc
  | .forward _ (.expire p) => some p
  | .follow (.expire _ p) => some p
  | .join _ _ (.expire p) => some p
  | _ => none

/-- The place in a `Stop` that `expire` calls. -/
def ExpirePc.stopPc : ExpirePc → Option StopPc
  | .stop p => some p
  | _ => none

/-- The place in `Stop` a goroutine is at. -/
def Task.stopPc : Task β → Option StopPc
  | .open (.fail p) => some p
  | .open _ => none
  | .stopper p => p
  | .closer _ => none
  | .forward s pc => (Task.forward s pc).expirePc.bind ExpirePc.stopPc
  | .follow pc => (Task.follow pc : Task β).expirePc.bind ExpirePc.stopPc
  | .join ns rv pc => (Task.join ns rv pc : Task β).expirePc.bind ExpirePc.stopPc

/-- The goroutine is counted in `m.forwarder`: a forwarder, the follower or a join that has
not retired. -/
def Task.counted : Task β → Bool
  | .forward _ .retired => false
  | .forward _ _ => true
  | .follow .retired => false
  | .follow _ => true
  | .join _ _ .retired => false
  | .join _ _ _ => true
  | _ => false

/-- The place the goroutine that closes `m.result` is at. -/
def Task.closerPc : Task β → Option CloserPc
  | .closer p => some p
  | _ => none

/-- `newWatchMux` before it has returned a multiplexer. -/
def Task.opening : Task β → Bool
  | .open .returned => false
  | .open _ => true
  | _ => false

lemma Task.expirePc_eq_some {t : Task β} {p : ExpirePc} : t.expirePc = some p ↔
    (∃ s, t = .forward s (.expire p)) ∨ (∃ reason, t = .follow (.expire reason p)) ∨
      ∃ ns rv, t = .join ns rv (.expire p) := by
  constructor
  · intro h
    cases t with
    | forward s pc => cases pc <;> cases h; exact .inl ⟨s, rfl⟩
    | follow pc => cases pc <;> cases h; exact .inr (.inl ⟨_, rfl⟩)
    | join ns rv pc => cases pc <;> cases h; exact .inr (.inr ⟨ns, rv, rfl⟩)
    | _ => cases h
  · rintro (⟨s, rfl⟩ | ⟨reason, rfl⟩ | ⟨ns, rv, rfl⟩) <;> rfl

lemma Task.counted_of_expirePc {t : Task β} {p : ExpirePc} (h : t.expirePc = some p) :
    t.counted = true := by
  rcases Task.expirePc_eq_some.mp h with ⟨s, rfl⟩ | ⟨reason, rfl⟩ | ⟨ns, rv, rfl⟩ <;> rfl

section

attribute [local simp] Task.expirePc ExpirePc.stopPc Task.stopPc Task.counted Task.closerPc
  Task.opening

variable {c : Config β} {sh sh' : Shared β} {tasks started : List (Task β)} {i : ℕ}
  {t t' : Task β} {choice : Choice β} {event : Event β} {p : ExpirePc} {q : Option ExpirePc}
  {reason : String}

lemma done_frame (sh : Shared β) :
    ∃ n p, done sh = { sh with forwarder := n, panicked := p } := by
  unfold done
  split
  · exact ⟨_, _, rfl⟩
  · exact ⟨_, _, rfl⟩

lemma HandOver.frame (h : HandOver sh event sh') :
    ∃ o p, sh' = { sh with out := o, panicked := p } := by
  cases h with
  | taken => exact ⟨_, _, rfl⟩
  | onClosed => exact ⟨_, _, rfl⟩

lemma onBookmark_frame {streams : List Stream} {r : Option (Event β)}
    (h : onBookmark c sh streams event = (sh', r)) :
    ∃ b w, sh' = { sh with replayed := b, emitted := w } := by
  unfold onBookmark at h
  simp only at h
  split at h
  · cases h; exact ⟨_, _, rfl⟩
  · split at h
    · cases h; exact ⟨_, _, rfl⟩
    · cases h; exact ⟨_, _, rfl⟩

lemma StopMove.frame {p : StopPc} {q : Option StopPc} (h : StopMove sh p sh' q) :
    ∃ s o b, sh' = { sh with stop := s, stopOnce := o, panicked := b } := by
  cases h with
  | _ => exact ⟨_, _, _, rfl⟩

lemma ExpireMove.frame (h : ExpireMove sh reason p choice sh' q) :
    ∃ s o e b out, sh' = { sh with
      stop := s, stopOnce := o, expiring := e, panicked := b, out := out } := by
  cases h with
  | sent h =>
    obtain ⟨o, b, rfl⟩ := h.frame
    exact ⟨_, _, _, _, _, rfl⟩
  | stopping h | stopped h =>
    obtain ⟨s, o, b, rfl⟩ := h.frame
    exact ⟨_, _, _, _, _, rfl⟩
  | _ => exact ⟨_, _, _, _, _, rfl⟩

lemma ExpireMove.stop_profile (h : ExpireMove sh reason p choice sh' q) :
    (∃ a b s, p.stopPc = some a ∧ q.bind ExpirePc.stopPc = b ∧ StopMove sh a s b ∧
        sh'.stop = s.stop ∧ sh'.stopOnce = s.stopOnce) ∨
      (p.stopPc = none ∧ (q.bind ExpirePc.stopPc = none ∨ q.bind ExpirePc.stopPc = some .enter) ∧
        sh'.stop = sh.stop ∧ sh'.stopOnce = sh.stopOnce) := by
  cases h with
  | stopping h | stopped h => exact .inl ⟨_, _, _, rfl, rfl, h, rfl, rfl⟩
  | sent h =>
    obtain ⟨o, p, rfl⟩ := h.frame
    simp
  | _ => simp

variable (h : Move c sh tasks i t choice sh' t' started)

include h in
lemma Move.stop_profile :
    ((∃ p q s, t.stopPc = some p ∧ t'.stopPc = q ∧ StopMove sh p s q ∧
        sh'.stop = s.stop ∧ sh'.stopOnce = s.stopOnce) ∨
      (t.stopPc = none ∧ (t'.stopPc = none ∨ t'.stopPc = some .enter) ∧
        sh'.stop = sh.stop ∧ sh'.stopOnce = sh.stopOnce)) ∧
    ∀ u ∈ started, u.stopPc = none := by
  obtain ⟨n, p, hdone⟩ := done_frame sh
  cases h with
  | «open» h =>
    cases h with
    | added h => cases h <;> simp
    | failing h | failed h => exact ⟨.inl ⟨_, _, _, rfl, rfl, h, rfl, rfl⟩, by simp⟩
    | _ => simp
  | forward h =>
    refine ⟨?_, by simp⟩
    cases h with
    | expiring h => exact h.stop_profile
    | expired h => exact h.stop_profile
    | folded h | merged h =>
      obtain ⟨b, w, rfl⟩ := onBookmark_frame h
      simp
    | sent h | sentBookmark h =>
      obtain ⟨o, p, rfl⟩ := h.frame
      simp
    | left => simp [hdone]
    | _ => simp
  | follow h =>
    cases h with
    | expiring h | expired h => exact ⟨h.stop_profile, by simp⟩
    | left => simp [hdone]
    | _ => simp
  | join h =>
    cases h with
    | joined h => cases h <;> simp
    | expiring h | expired h => exact ⟨h.stop_profile, by simp⟩
    | left => simp [hdone]
    | _ => simp
  | stopper h => exact ⟨.inl ⟨_, _, _, rfl, rfl, h, rfl, rfl⟩, by simp⟩
  | closer h => cases h <;> simp

include h in
lemma Move.expire_profile :
    ((∃ reason p q, t.expirePc = some p ∧ t'.expirePc = q ∧ ExpireMove sh reason p choice sh' q) ∨
      (t.expirePc = none ∧ (t'.expirePc = none ∨ t'.expirePc = some .enter) ∧
        sh'.expiring = sh.expiring)) ∧
    ∀ u ∈ started, u.expirePc = none := by
  obtain ⟨n, p, hdone⟩ := done_frame sh
  cases h with
  | «open» h =>
    cases h with
    | added h | failing h | failed h => cases h <;> simp
    | _ => simp
  | forward h =>
    refine ⟨?_, by simp⟩
    cases h with
    | expiring h | expired h => exact .inl ⟨_, _, _, rfl, rfl, h⟩
    | folded h | merged h =>
      obtain ⟨b, w, rfl⟩ := onBookmark_frame h
      simp
    | sent h | sentBookmark h =>
      obtain ⟨o, p, rfl⟩ := h.frame
      simp
    | left => simp [hdone]
    | _ => simp
  | follow h =>
    cases h with
    | expiring h | expired h => exact ⟨.inl ⟨_, _, _, rfl, rfl, h⟩, by simp⟩
    | left => simp [hdone]
    | _ => simp
  | join h =>
    cases h with
    | joined h => cases h <;> simp
    | expiring h | expired h => exact ⟨.inl ⟨_, _, _, rfl, rfl, h⟩, by simp⟩
    | left => simp [hdone]
    | _ => simp
  | stopper h | closer h => cases h <;> simp

include h in
lemma Move.forwarder_profile (hpos : t.counted = true → 0 < sh.forwarder) :
    sh'.forwarder + t.counted.toNat =
      sh.forwarder + t'.counted.toNat + started.countP Task.counted := by
  have hdone : t.counted = true → (done sh).forwarder + 1 = sh.forwarder := by
    intro ht
    have := hpos ht
    unfold done
    rw [if_neg (by omega)]
    show sh.forwarder - 1 + 1 = sh.forwarder
    omega
  cases h with
  | «open» h =>
    cases h with
    | added h => cases h <;> simp
    | failing h | failed h =>
      obtain ⟨s, o, b, rfl⟩ := h.frame
      simp
    | _ => simp
  | forward h =>
    cases h with
    | expiring h | expired h =>
      obtain ⟨s, o, e, b, out, rfl⟩ := h.frame
      simp
    | folded h | merged h =>
      obtain ⟨b, w, rfl⟩ := onBookmark_frame h
      simp
    | sent h | sentBookmark h =>
      obtain ⟨o, p, rfl⟩ := h.frame
      simp
    | left => simpa using hdone rfl
    | _ => simp
  | follow h =>
    cases h with
    | expiring h | expired h =>
      obtain ⟨s, o, e, b, out, rfl⟩ := h.frame
      simp
    | left => simpa using hdone rfl
    | _ => simp
  | join h =>
    cases h with
    | joined h => cases h <;> simp
    | expiring h | expired h =>
      obtain ⟨s, o, e, b, out, rfl⟩ := h.frame
      simp
    | left => simpa using hdone rfl
    | _ => simp
  | stopper h =>
    obtain ⟨s, o, b, rfl⟩ := h.frame
    simp
  | closer h => cases h <;> simp

include h in
lemma Move.closer_profile :
    (∃ p q, t = .closer p ∧ t' = .closer q ∧ started = [] ∧ CloserMove sh p choice sh' q) ∨
    (t.closerPc = none ∧ t'.closerPc = none ∧ sh'.closed = sh.closed ∧
      ((t = .open .spawn ∧ t' = .open .returned ∧ started = [.closer .wait] ∧
          sh' = { sh with returned := true }) ∨
        (sh'.returned = sh.returned ∧ t.opening = t'.opening ∧
          ∀ u ∈ started, u.closerPc = none ∧ u.opening = false))) := by
  obtain ⟨n, p, hdone⟩ := done_frame sh
  cases h with
  | «open» h =>
    right
    cases h with
    | added h => cases h <;> simp
    | failing h | failed h =>
      obtain ⟨s, o, b, rfl⟩ := h.frame
      simp
    | _ => simp
  | forward h =>
    right
    cases h with
    | expiring h | expired h =>
      obtain ⟨s, o, e, b, out, rfl⟩ := h.frame
      simp
    | folded h | merged h =>
      obtain ⟨b, w, rfl⟩ := onBookmark_frame h
      simp
    | sent h | sentBookmark h =>
      obtain ⟨o, p, rfl⟩ := h.frame
      simp
    | left => simp [hdone]
    | _ => simp
  | follow h =>
    right
    cases h with
    | expiring h | expired h =>
      obtain ⟨s, o, e, b, out, rfl⟩ := h.frame
      simp
    | left => simp [hdone]
    | _ => simp
  | join h =>
    right
    cases h with
    | joined h => cases h <;> simp
    | expiring h | expired h =>
      obtain ⟨s, o, e, b, out, rfl⟩ := h.frame
      simp
    | left => simp [hdone]
    | _ => simp
  | stopper h =>
    right
    obtain ⟨s, o, b, rfl⟩ := h.frame
    simp
  | closer h => exact .inl ⟨_, _, rfl, rfl, rfl, h⟩

lemma StopMove.not_panicked {p : StopPc} {q : Option StopPc} (h : StopMove sh p sh' q)
    (h0 : sh.panicked = false) (hstop : p = .close → sh.stop = false) :
    sh'.panicked = false := by
  cases h with
  | closeTwice hs =>
    rw [hstop rfl] at hs
    cases hs
  | _ => exact h0

lemma HandOver.not_panicked (h : HandOver sh event sh') (h0 : sh.panicked = false)
    (hc : sh.closed = false) : sh'.panicked = false := by
  cases h with
  | taken => exact h0
  | onClosed _ hc' =>
    rw [hc] at hc'
    cases hc'

lemma ExpireMove.not_panicked (h : ExpireMove sh reason p choice sh' q) (h0 : sh.panicked = false)
    (hstop : p.stopPc = some .close → sh.stop = false) (hc : sh.closed = false) :
    sh'.panicked = false := by
  cases h with
  | sent h => exact h.not_panicked h0 hc
  | stopping h | stopped h => exact h.not_panicked h0 fun hp => hstop (by rw [hp]; rfl)
  | _ => exact h0

include h in
lemma Move.not_panicked (h0 : sh.panicked = false)
    (hstop : t.stopPc = some .close → sh.stop = false)
    (hcount : t.counted = true → 0 < sh.forwarder ∧ sh.closed = false)
    (hcloser : t = .closer .close → sh.closed = false) : sh'.panicked = false := by
  have hdone : t.counted = true → (done sh).panicked = false := by
    intro ht
    have hpos := (hcount ht).1
    unfold done
    rw [if_neg (by omega)]
    exact h0
  cases h with
  | «open» h =>
    cases h with
    | added h => cases h <;> exact h0
    | failing h | failed h => exact h.not_panicked h0 fun hp => hstop (by rw [hp]; rfl)
    | _ => exact h0
  | forward h =>
    cases h with
    | expiring h | expired h => exact h.not_panicked h0 hstop (hcount rfl).2
    | folded h | merged h =>
      obtain ⟨b, w, rfl⟩ := onBookmark_frame h
      exact h0
    | sent h | sentBookmark h => exact h.not_panicked h0 (hcount rfl).2
    | left => exact hdone rfl
    | _ => exact h0
  | follow h =>
    cases h with
    | expiring h | expired h => exact h.not_panicked h0 hstop (hcount rfl).2
    | left => exact hdone rfl
    | _ => exact h0
  | join h =>
    cases h with
    | joined h => cases h <;> exact h0
    | expiring h | expired h => exact h.not_panicked h0 hstop (hcount rfl).2
    | left => exact hdone rfl
    | _ => exact h0
  | stopper h => exact h.not_panicked h0 fun hp => hstop (by rw [hp]; rfl)
  | closer h =>
    cases h with
    | closedTwice hc =>
      rw [hcloser rfl] at hc
      cases hc
    | _ => exact h0

include h in
lemma Move.started_cases {u : Task β} (hu : u ∈ started) :
    (∃ ns rv, u = .forward ⟨ns, rv, parseRevision rv, false⟩ .select) ∨ u = .follow .select ∨
      (∃ ns rv, u = .join ns rv (.attempt 0)) ∨ u = .closer .wait := by
  have hadd : ∀ {ns rv s}, AddMove sh tasks ns rv choice (.ok (s, started)) →
      ∃ ns rv, u = .forward ⟨ns, rv, parseRevision rv, false⟩ .select := by
    intro ns rv s ha
    cases ha with
    | already => cases hu
    | opened => exact ⟨ns, rv, List.mem_singleton.mp hu⟩
  cases h with
  | «open» h =>
    cases h with
    | added ha => exact .inl (hadd ha)
    | followed => exact .inr (.inl (List.mem_singleton.mp hu))
    | returned => exact .inr (.inr (.inr (List.mem_singleton.mp hu)))
    | _ => cases hu
  | follow h =>
    cases h with
    | added => exact .inr (.inr (.inl ⟨_, _, List.mem_singleton.mp hu⟩))
    | _ => cases hu
  | join h =>
    cases h with
    | joined ha => exact .inl (hadd ha)
    | _ => cases hu
  | _ => cases hu

include h in
lemma Move.started_select {s : Stream} {pc : ForwardPc β} (hu : Task.forward s pc ∈ started) :
    ∃ ns rv, Task.forward s pc = .forward ⟨ns, rv, parseRevision rv, false⟩ .select := by
  rcases h.started_cases hu with h | h | ⟨ns, rv, h⟩ | h
  · exact h
  · cases h
  · cases h
  · cases h

include h in
lemma Move.uncounted (hc : t.counted = false) (ho : t.opening = false) :
    t'.counted = false ∧ started.countP Task.counted = 0 := by
  cases h with
  | «open» h => cases h <;> cases ho
  | forward h | follow h | join h => cases h <;> cases hc
  | stopper h => exact ⟨rfl, rfl⟩
  | closer h => exact ⟨rfl, rfl⟩

def Task.offered : Task β → Option (Event β)
  | .forward _ (.sendBookmark merged) => some merged
  | .forward _ (.send event) => some event
  | .forward s (.expire .send) => some (expiredEvent (endedReason s.namespace))
  | .follow (.expire reason .send) => some (expiredEvent reason)
  | .join ns _ (.expire .send) => some (expiredEvent (notJoinedReason ns))
  | _ => none

lemma StopMove.out {p : StopPc} {q : Option StopPc} (h : StopMove sh p sh' q) :
    sh'.out = sh.out := by
  obtain ⟨s, o, b, rfl⟩ := h.frame
  rfl

lemma HandOver.out (h : HandOver sh event sh') :
    sh'.out = sh.out ∨ sh'.out = sh.out ++ [event] := by
  cases h with
  | taken => exact .inr rfl
  | onClosed => exact .inl rfl

lemma ExpireMove.out (h : ExpireMove sh reason p choice sh' q) :
    sh'.out = sh.out ∨ (p = .send ∧ sh'.out = sh.out ++ [expiredEvent reason]) := by
  cases h with
  | sent h =>
    rcases h.out with ho | ho
    · exact .inl ho
    · exact .inr ⟨rfl, ho⟩
  | stopping h => exact .inl h.out
  | stopped h => exact .inl h.out
  | _ => exact .inl rfl

include h in
lemma Move.out :
    sh'.out = sh.out ∨ ∃ event, t.offered = some event ∧ sh'.out = sh.out ++ [event] := by
  have hdone : (done sh).out = sh.out := by
    obtain ⟨n, p, hd⟩ := done_frame sh
    rw [hd]
  cases h with
  | «open» h =>
    left
    cases h with
    | added h => cases h <;> rfl
    | failing h => exact h.out
    | failed h => exact h.out
    | _ => rfl
  | forward h =>
    cases h with
    | expiring h | expired h =>
      rcases h.out with ho | ⟨rfl, ho⟩
      · exact .inl ho
      · exact .inr ⟨_, rfl, ho⟩
    | folded h | merged h =>
      obtain ⟨b, w, rfl⟩ := onBookmark_frame h
      exact .inl rfl
    | sent h | sentBookmark h =>
      rcases h.out with ho | ho
      · exact .inl ho
      · exact .inr ⟨_, rfl, ho⟩
    | left => exact .inl hdone
    | _ => exact .inl rfl
  | follow h =>
    cases h with
    | expiring h | expired h =>
      rcases h.out with ho | ⟨rfl, ho⟩
      · exact .inl ho
      · exact .inr ⟨_, rfl, ho⟩
    | left => exact .inl hdone
    | _ => exact .inl rfl
  | join h =>
    cases h with
    | joined h => cases h <;> exact .inl rfl
    | expiring h | expired h =>
      rcases h.out with ho | ⟨rfl, ho⟩
      · exact .inl ho
      · exact .inr ⟨_, rfl, ho⟩
    | left => exact .inl hdone
    | _ => exact .inl rfl
  | stopper h => exact .inl h.out
  | closer h =>
    left
    cases h with
    | _ => rfl

end

end WatchMux
end KubeZoo
