import KubeZoo.WatchMux.Liveness

/-! # Covered or loud -/

namespace KubeZoo
namespace WatchMux

open Transition

variable {β : Type}

section

variable {c : Config β} {st st' : State β} {a : Action β}

variable {tasks : List (Task β)} {ns : String} {i : ℕ}

lemma mem_moved {started : List (Task β)} {t' u : Task β} (h : u ∈ tasks.set i t' ++ started) :
    u ∈ tasks ∨ u = t' ∨ u ∈ started := by
  rcases List.mem_append.mp h with h | h
  · rcases List.mem_or_eq_of_mem_set h with h | h
    · exact .inl h
    · exact .inr (.inl h)
  · exact .inr (.inr h)

/-- A goroutine after a step was there before, was just started, or is the one that moved. -/
lemma mem_step {u : Task β} (h : step c st a = some st') (hu : u ∈ st'.tasks) :
    u ∈ st.tasks ∨ u = .stopper (some .enter) ∨ ∃ i choice t sh' t' started, a = .task i choice ∧
      st.tasks[i]? = some t ∧ Move c st.shared st.tasks i t choice sh' t' started ∧
      st' = ⟨sh', st.tasks.set i t' ++ started⟩ ∧ (u = t' ∨ u ∈ started) := by
  rcases step_cases h with ⟨i, choice, t, sh', t', started, ha, ht, hm, rfl⟩ | ⟨-, -, rfl⟩
  · refine (mem_moved hu).imp_right fun hu => .inr ?_
    exact ⟨i, choice, t, sh', t', started, ha, ht, hm, rfl, hu⟩
  · exact (List.mem_append.mp hu).imp_right fun hu => .inl (List.mem_singleton.mp hu)

lemma exists_task_step {R : Task β → Prop} (h : step c st a = some st')
    (hR : ∀ i t choice sh' t' started,
      Move c st.shared st.tasks i t choice sh' t' started → R t → R t')
    (hex : ∃ t ∈ st.tasks, R t) : ∃ t ∈ st'.tasks, R t := by
  obtain ⟨t, ht, hRt⟩ := hex
  obtain ⟨i, hi⟩ := List.mem_iff_getElem?.mp ht
  rcases getElem?_step h hi with h' | ⟨choice, sh', t', started, -, hm, rfl⟩
  · exact ⟨t, List.mem_of_getElem? h', hRt⟩
  · exact ⟨t', List.mem_of_getElem? (getElem?_moved hi t' started), hR _ _ _ _ _ _ hm hRt⟩

lemma ForwardMove.stream {sh sh' : Shared β} {s s' : Stream} {pc pc' : ForwardPc β}
    {choice : Choice β} (h : ForwardMove c sh tasks i s pc choice sh' s' pc') :
    s'.namespace = s.namespace ∧ s'.resourceVersion = s.resourceVersion := by
  cases h with
  | recorded =>
    unfold Stream.record
    split
    · exact ⟨rfl, rfl⟩
    · split
      · exact ⟨rfl, rfl⟩
      · exact ⟨rfl, rfl⟩
  | _ => exact ⟨rfl, rfl⟩

/-- The goroutine forwards namespace `ns`, or has. -/
def Task.watches (ns : String) : Task β → Prop
  | .forward s _ => s.namespace = ns
  | _ => False

lemma watched_iff : watched tasks ns = true ↔ ∃ t ∈ tasks, t.watches ns := by
  simp only [watched, streams, List.any_eq_true, List.mem_filterMap, beq_iff_eq]
  constructor
  · rintro ⟨s, ⟨t, ht, hs⟩, hns⟩
    cases t with
    | forward s' pc => cases hs; exact ⟨_, ht, hns⟩
    | _ => cases hs
  · rintro ⟨t, ht, hw⟩
    cases t with
    | forward s pc => exact ⟨s, ⟨_, ht, rfl⟩, hw⟩
    | _ => exact hw.elim

lemma watched_step (h : step c st a = some st') (hw : watched st.tasks ns = true) :
    watched st'.tasks ns = true := by
  rw [watched_iff] at hw ⊢
  refine exists_task_step h ?_ hw
  intro i t choice sh' t' started hm ht
  cases hm with
  | forward h => exact h.stream.1.trans ht
  | _ => exact ht.elim

/-- The client has called `Stop`. -/
def ClientStopped (st : State β) : Prop := ∃ t ∈ st.tasks, t.kind = .stopper

/-- `newWatchMux` tears down what it opened, or has. -/
def Task.openFailed : Task β → Bool
  | .open (.fail _) => true
  | .open .failed => true
  | _ => false

/-- The client has been handed the 410 of `expire`. -/
def Told (st : State β) : Prop := ∃ reason, expiredEvent reason ∈ st.shared.out

/-- The reasons there are for `m.stop` to be closed. -/
def Excused (st : State β) : Prop :=
  ClientStopped st ∨ (∃ t ∈ st.tasks, t.openFailed = true) ∨ Told st

variable (h : step c st a = some st')

include h in
lemma out_step : ∃ l, st'.shared.out = st.shared.out ++ l := by
  refine step_induction (P := fun st' => ∃ l, st'.shared.out = st.shared.out ++ l) h
    ⟨[], by simp⟩ ?_
  intro i choice t sh' t' started ht hm
  rcases hm.out with ho | ⟨event, -, ho⟩
  · exact ⟨[], by simpa using ho⟩
  · exact ⟨[event], ho⟩

include h in
lemma told_step (ht : Told st) : Told st' := by
  obtain ⟨reason, hmem⟩ := ht
  obtain ⟨l, hl⟩ := out_step h
  refine ⟨reason, ?_⟩
  rw [hl]
  exact List.mem_append_left _ hmem

include h in
lemma clientStopped_step (hs : ClientStopped st) :
    ClientStopped st' :=
  exists_task_step h (fun _ _ _ _ _ _ hm ht => hm.kind.trans ht) hs

include h in
lemma excused_step (hx : Excused st) : Excused st' := by
  rcases hx with hs | hf | ht
  · exact .inl (clientStopped_step h hs)
  · refine .inr (.inl (exists_task_step h ?_ hf))
    intro i t choice sh' t' started hm ht
    cases hm with
    | «open» h =>
      cases h with
      | failing h => rfl
      | failed h => rfl
      | _ => cases ht
    | _ => cases ht
  · exact .inr (.inr (told_step h ht))

variable {p : StopPc} {t : Task β}

lemma Task.stopPc_cases (h : t.stopPc = some p) :
    t.kind = .stopper ∨ t.openFailed = true ∨ t.expirePc = some (.stop p) := by
  have hexpire : ∀ {o : Option ExpirePc}, o.bind ExpirePc.stopPc = some p → o = some (.stop p) := by
    intro o ho
    obtain ⟨e, rfl, he⟩ := Option.bind_eq_some_iff.mp ho
    cases e with
    | stop q => cases he; rfl
    | _ => cases he
  cases t with
  | «open» pc =>
    cases pc with
    | fail p => exact .inr (.inl rfl)
    | _ => cases h
  | stopper pc => exact .inl rfl
  | closer pc => cases h
  | forward s pc | follow pc | join ns rv pc => exact .inr (.inr (hexpire h))

lemma Safe.stopOnce_of_stop (hi : Safe st) (hs : st.shared.stop = true) :
    st.shared.stopOnce ≠ .fresh := by
  intro ho
  have h := hi.stop
  unfold StopInv at h
  rw [ho, hs] at h
  exact h

/-- `m.stop` is not closed, and `expire` has not finished, without a reason. -/
structure ExcuseInv (st : State β) : Prop where
  stopped : st.shared.stopOnce ≠ .fresh → Excused st
  stopping : ∀ t ∈ st.tasks, ∀ p, t.expirePc = some (.stop p) → Excused st
  expired : st.shared.expiring = .done → Excused st ∧ st.shared.stop = true

include h in
lemma stop_step (hs : st.shared.stop = true) :
    st'.shared.stop = true := by
  refine step_induction (P := fun st => st.shared.stop = true) h hs ?_
  intro i choice t sh' t' started ht hm
  show sh'.stop = true
  rcases hm.stop_profile.1 with ⟨p, q, s, -, -, hsm, hstop, -⟩ | ⟨-, -, hstop, -⟩
  · rw [hstop]
    cases hsm with
    | close => rfl
    | _ => exact hs
  · rw [hstop, hs]

include h in
lemma excuse_stopped_step (hi : ExcuseInv st) (hne : st'.shared.stopOnce ≠ .fresh) :
    Excused st' := by
  by_cases hold : st.shared.stopOnce = .fresh
  swap
  · exact excused_step h (hi.stopped hold)
  rcases step_cases h with ⟨i, choice, t, sh', t', started, -, ht, hm, rfl⟩ | ⟨-, -, rfl⟩
  swap
  · exact absurd hold hne
  -- the goroutine that enters the `Once` is one of the three that call `Stop`
  rcases hm.stop_profile.1 with ⟨p, q, s, htp, -, -, -, -⟩ | ⟨-, -, -, honce⟩
  · have hmem : t ∈ st.tasks := List.mem_of_getElem? ht
    refine excused_step h ?_
    rcases Task.stopPc_cases htp with hk | hf | he
    · exact .inl ⟨t, hmem, hk⟩
    · exact .inr (.inl ⟨t, hmem, hf⟩)
    · exact hi.stopping t hmem p he
  · exact absurd (honce.trans hold) hne

include h in
lemma excuse_stopping_step (hs : Safe st) (hi : ExcuseInv st) {u : Task β} (hu : u ∈ st'.tasks)
    (hp : u.expirePc = some (.stop p)) : Excused st' := by
  rcases mem_step h hu with hu | rfl | ⟨i, choice, t, sh', t', started, -, ht, hm, rfl, rfl | hu⟩
  · exact excused_step h (hi.stopping u hu p hp)
  · cases hp
  · rcases hm.expire_profile.1 with ⟨reason, e, q, hte, htq, he⟩ | ⟨-, hnone | henter, -⟩
    · rw [hp] at htq
      subst htq
      cases he with
      | sent hand =>
        cases hand with
        | taken => exact .inr (.inr ⟨reason, by simp⟩)
        | onClosed _ hc =>
          have hopen := (hs.open_of_counted ht (Task.counted_of_expirePc hte)).2
          rw [hopen] at hc
          cases hc
      | notSent hstop => exact excused_step h (hi.stopped (hs.stopOnce_of_stop hstop))
      | stopping hst => exact excused_step h (hi.stopping t (List.mem_of_getElem? ht) _ hte)
    · rw [hp] at hnone
      cases hnone
    · rw [hp] at henter
      cases henter
  · rw [hm.expire_profile.2 u hu] at hp
    cases hp

lemma Safe.stop_of_stopMove (hs : Safe st) {sh : Shared β} (ht : st.tasks[i]? = some t)
    (hp : t.stopPc = some p) (h : StopMove st.shared p sh none) : sh.stop = true := by
  cases h with
  | late ho => exact hs.stop_of_done ho
  | closeTwice ho => exact ho
  | teardown =>
    have hpos := countP_pos_of_getElem? (Task.stopping .teardown) ht (by simp [Task.stopping, hp])
    have hinv := hs.stop
    unfold StopInv at hinv
    by_contra hne
    simp only [Bool.not_eq_true] at hne
    rw [hne] at hinv
    cases ho : st.shared.stopOnce <;> rw [ho] at hinv <;> simp only [RunsOnce] at hinv <;> omega

include h in
lemma excuse_expired_step (hs : Safe st) (hi : ExcuseInv st)
    (hd : st'.shared.expiring = .done) : Excused st' ∧ st'.shared.stop = true := by
  by_cases hold : st.shared.expiring = .done
  · obtain ⟨hx, hstop⟩ := hi.expired hold
    exact ⟨excused_step h hx, stop_step h hstop⟩
  rcases step_cases h with ⟨i, choice, t, sh', t', started, -, ht, hm, rfl⟩ | ⟨-, -, rfl⟩
  swap
  · exact absurd hd hold
  change sh'.expiring = .done at hd
  rcases hm.expire_profile.1 with ⟨reason, p, q, htp, -, he⟩ | ⟨-, -, hexp⟩
  swap
  · exact absurd (hexp.symm.trans hd) hold
  cases he with
  | first => cases hd
  | late ho => exact absurd ho hold
  | tornDown hstop =>
    exact ⟨excused_step h (hi.stopped (hs.stopOnce_of_stop hstop)), hstop⟩
  | goOn => exact absurd hd hold
  | sent hand =>
    obtain ⟨o, b, rfl⟩ := hand.frame
    exact absurd hd hold
  | notSent => exact absurd hd hold
  | stopping hst =>
    obtain ⟨s, o, b, rfl⟩ := hst.frame
    exact absurd hd hold
  | @stopped sh₁ p hst =>
    have hp : t.stopPc = some p := by
      rcases Task.expirePc_eq_some.mp htp with ⟨s, rfl⟩ | ⟨reason, rfl⟩ | ⟨ns, rv, rfl⟩ <;> rfl
    have hstop : sh₁.stop = true := hs.stop_of_stopMove ht hp hst
    exact ⟨excused_step h (hi.stopping t (List.mem_of_getElem? ht) _ htp), hstop⟩

theorem excuseInv_of_reachable (h : (system c).Reachable st) : ExcuseInv st := by
  refine h.invariant ?_ ?_
  · rintro _ rfl
    refine ⟨fun h => absurd rfl h, ?_, nofun⟩
    intro t ht p hp
    rw [List.mem_singleton.mp ht] at hp
    cases hp
  · intro s a s' hr hi hstep
    have hs := safe_of_reachable hr
    exact ⟨excuse_stopped_step hstep hi, fun u hu p hp => excuse_stopping_step hstep hs hi hu hp,
      excuse_expired_step hstep hs hi⟩

def Task.gone : Task β → Bool
  | .forward _ .exit => true
  | .forward _ .retired => true
  | .follow .exit => true
  | .follow .retired => true
  | .join _ _ .exit => true
  | .join _ _ .retired => true
  | _ => false

/-- The goroutine is a join of namespace `ns`, outstanding or not. -/
def Task.joins (ns : String) : Task β → Prop
  | .join ns' _ _ => ns' = ns
  | _ => False

/-- The namespaces `newWatchMux` has still to add; `none` if it has given up. -/
def Task.toAdd : Task β → Option (List String)
  | .open (.add rest) => some rest
  | .open .follow => some []
  | .open .spawn => some []
  | .open .returned => some []
  | _ => none

/-- `newWatchMux` has started the follower. -/
def Task.following : Task β → Bool
  | .open .spawn => true
  | .open .returned => true
  | _ => false

variable {sh sh' : Shared β} {started : List (Task β)} {t' : Task β} {choice : Choice β}

lemma ExpireMove.expiring_of_none {reason : String} {p : ExpirePc}
    (h : ExpireMove sh reason p choice sh' none) : sh'.expiring = .done := by
  cases h with
  | late ho => exact ho
  | tornDown => rfl
  | stopped => rfl

lemma AddMove.watched {rv : String}
    (h : AddMove sh tasks ns rv choice (.ok (sh', started))) (hi : tasks[i]? = some t)
    (ht' : ∀ ns, t.watches ns → t'.watches ns) :
    WatchMux.watched (tasks.set i t' ++ started) ns = true := by
  rw [watched_iff]
  cases h with
  | already hw =>
    obtain ⟨u, hu, huw⟩ := watched_iff.mp hw
    obtain ⟨j, hj⟩ := List.mem_iff_getElem?.mp hu
    by_cases hij : i = j
    · subst hij
      rw [hi] at hj
      cases hj
      exact ⟨t', List.mem_of_getElem? (getElem?_moved hi t' []), ht' ns huw⟩
    · refine ⟨u, ?_, huw⟩
      rw [List.append_nil]
      refine List.mem_of_getElem? (i := j) ?_
      rw [List.getElem?_set_ne hij]
      exact hj
  | opened => exact ⟨_, List.mem_append_right _ (List.mem_singleton.mpr rfl), rfl⟩

lemma Move.gone (h : Move c sh tasks i t choice sh' t' started) (hi : tasks[i]? = some t)
    (hg : t'.gone = true) : t.gone = true ∨ sh.stop = true ∨ sh'.expiring = .done ∨
      ∃ ns, t'.joins ns ∧ watched (tasks.set i t' ++ started) ns = true := by
  cases h with
  | «open» h => cases hg
  | stopper h => cases hg
  | closer h => cases hg
  | forward h =>
    cases h with
    | stopped hs => exact .inr (.inl hs)
    | dropped hs => exact .inr (.inl hs)
    | expired he => exact .inr (.inr (.inl he.expiring_of_none))
    | left => exact .inl rfl
    | _ => cases hg
  | follow h =>
    cases h with
    | stopped hs => exact .inr (.inl hs)
    | expired he => exact .inr (.inr (.inl he.expiring_of_none))
    | left => exact .inl rfl
    | _ => cases hg
  | join h =>
    cases h with
    | joined ha => exact .inr (.inr (.inr ⟨_, rfl, ha.watched hi fun _ h => h⟩))
    | stopped hs => exact .inr (.inl hs)
    | expired he => exact .inr (.inr (.inl he.expiring_of_none))
    | left => exact .inl rfl
    | _ => cases hg

/-- Why goroutines have left, and what `newWatchMux` has got done. -/
structure LeftInv (c : Config β) (st : State β) : Prop where
  left : ∀ t ∈ st.tasks, t.gone = true → st.shared.stop = true ∨ st.shared.expiring = .done ∨
    ∃ ns, t.joins ns ∧ watched st.tasks ns = true
  listed : ∀ t ∈ st.tasks, ∀ rest, t.toAdd = some rest →
    ∀ ns ∈ c.namespaces, ns ∈ rest ∨ watched st.tasks ns = true
  follower : ∀ t ∈ st.tasks, t.following = true → ∃ u ∈ st.tasks, u.kind = .follow

variable {u : Task β}

lemma Move.started_fresh (h : Move c sh tasks i t choice sh' t' started) (hu : u ∈ started) :
    u.gone = false ∧ u.toAdd = none ∧ u.following = false := by
  rcases h.started_cases hu with ⟨ns, rv, rfl⟩ | rfl | ⟨ns, rv, rfl⟩ | rfl <;>
    exact ⟨rfl, rfl, rfl⟩

lemma Move.toAdd (h : Move c sh tasks i t choice sh' t' started) (hi : tasks[i]? = some t)
    {rest' : List String} (hr : t'.toAdd = some rest') :
    ∃ rest, t.toAdd = some rest ∧
      ∀ ns ∈ rest, ns ∈ rest' ∨ watched (tasks.set i t' ++ started) ns = true := by
  cases h with
  | «open» h =>
    cases h with
    | allAdded | followed | returned => exact ⟨[], rfl, nofun⟩
    | @added ns _ _ _ _ ha =>
      cases hr
      refine ⟨ns :: rest', rfl, fun ns' hns' => ?_⟩
      rcases List.mem_cons.mp hns' with rfl | hmem
      · exact .inr (ha.watched hi nofun)
      · exact .inl hmem
    | _ => cases hr
  | _ => cases hr

lemma Move.following (h : Move c sh tasks i t choice sh' t' started)
    (hf : t'.following = true) : t.following = true ∨ ∃ u ∈ started, u.kind = .follow := by
  cases h with
  | «open» h =>
    cases h with
    | followed => exact .inr ⟨_, List.mem_singleton.mpr rfl, rfl⟩
    | returned => exact .inl rfl
    | _ => cases hf
  | _ => cases hf

variable (hi : LeftInv c st) (hu : u ∈ st'.tasks)

include h hi hu in
lemma leftInv_left_step (hg : u.gone = true) :
    st'.shared.stop = true ∨ st'.shared.expiring = .done ∨
      ∃ ns, u.joins ns ∧ watched st'.tasks ns = true := by
  have hold : ∀ v ∈ st.tasks, v.gone = true → (∀ ns, v.joins ns → u.joins ns) →
      st'.shared.stop = true ∨ st'.shared.expiring = .done ∨
        ∃ ns, u.joins ns ∧ watched st'.tasks ns = true := by
    intro v hv hvg hj
    rcases hi.left v hv hvg with hs | he | ⟨ns, hns, hw⟩
    · exact .inl (stop_step h hs)
    · exact .inr (.inl (expiring_done_step h he))
    · exact .inr (.inr ⟨ns, hj ns hns, watched_step h hw⟩)
  rcases mem_step h hu with hu | rfl | ⟨i, choice, t, sh', t', started, -, ht, hm, hst, rfl | hu⟩
  · exact hold u hu hg fun _ h => h
  · cases hg
  · rcases hm.gone ht hg with htg | hs | he | hw
    · refine hold t (List.mem_of_getElem? ht) htg fun ns hns => ?_
      cases hm with
      | join h => exact hns
      | _ => exact hns.elim
    · exact .inl (stop_step h hs)
    · right; left; rw [hst]; exact he
    · right; right; rw [hst]; exact hw
  · rw [(hm.started_fresh hu).1] at hg
    cases hg

include h hi hu in
lemma leftInv_listed_step {rest : List String} (hr : u.toAdd = some rest) :
    ∀ ns ∈ c.namespaces, ns ∈ rest ∨ watched st'.tasks ns = true := by
  intro ns hns
  have hold : ∀ v ∈ st.tasks, v.toAdd = some rest → ns ∈ rest ∨ watched st'.tasks ns = true := by
    intro v hv hvr
    rcases hi.listed v hv rest hvr ns hns with h' | h'
    · exact .inl h'
    · exact .inr (watched_step h h')
  rcases mem_step h hu with hu | rfl | ⟨i, choice, t, sh', t', started, -, ht, hm, hst, rfl | hu⟩
  · exact hold u hu hr
  · cases hr
  · obtain ⟨rest₀, hr₀, hsub⟩ := hm.toAdd ht hr
    rcases hi.listed t (List.mem_of_getElem? ht) rest₀ hr₀ ns hns with h' | h'
    · rw [hst]; exact hsub ns h'
    · exact .inr (watched_step h h')
  · rw [(hm.started_fresh hu).2.1] at hr
    cases hr

include h hi hu in
lemma leftInv_follower_step (hf : u.following = true) : ∃ v ∈ st'.tasks, v.kind = .follow := by
  have hkeep : (∃ v ∈ st.tasks, v.kind = .follow) → ∃ v ∈ st'.tasks, v.kind = .follow :=
    exists_task_step h fun _ _ _ _ _ _ hm ht => hm.kind.trans ht
  rcases mem_step h hu with hu | rfl | ⟨i, choice, t, sh', t', started, -, ht, hm, hst, rfl | hu⟩
  · exact hkeep (hi.follower u hu hf)
  · cases hf
  · rcases hm.following hf with htf | ⟨v, hv, hk⟩
    · exact hkeep (hi.follower t (List.mem_of_getElem? ht) htf)
    · rw [hst]; exact ⟨v, List.mem_append_right _ hv, hk⟩
  · rw [(hm.started_fresh hu).2.2] at hf
    cases hf

theorem leftInv_of_reachable (h : (system c).Reachable st) : LeftInv c st := by
  refine h.invariant ?_ ?_
  · rintro _ rfl
    constructor
    · intro t ht hg
      rw [List.mem_singleton.mp ht] at hg
      cases hg
    · intro t ht rest hr ns hns
      rw [List.mem_singleton.mp ht] at hr
      cases hr
      exact .inl hns
    · intro t ht hf
      rw [List.mem_singleton.mp ht] at hf
      cases hf
  · intro s a s' _ hi hstep
    exact ⟨fun u hu hg => leftInv_left_step hstep hi hu hg,
      fun u hu rest hr => leftInv_listed_step hstep hi hu hr,
      fun u hu hf => leftInv_follower_step hstep hi hu hf⟩

def Covers (st : State β) (ns : String) : Prop :=
  (∃ s pc, .forward s pc ∈ st.tasks ∧ s.namespace = ns ∧ (Task.forward s pc).looping = true) ∨
    ∃ rv k, .join ns rv (.attempt k) ∈ st.tasks ∨ .join ns rv (.wait k) ∈ st.tasks

def Reported (st : State β) (ns : String) : Prop := ∃ t ∈ st.tasks, t.joins ns

def Covered (c : Config β) (st : State β) : Prop :=
  ∀ ns, ns ∈ c.namespaces ∨ Reported st ns → Covers st ns

def Expiring (st : State β) : Prop :=
  ∃ t ∈ st.tasks, t.expirePc = some .enter ∨ t.expirePc = some .check ∨ t.expirePc = some .send

/-- A goroutine has entered `Stop`. -/
def StopCalled (st : State β) : Prop :=
  st.shared.stopOnce ≠ .fresh ∨ ∃ t ∈ st.tasks, t.stopPc ≠ none

/-- The watch is over, or about to be, and the client can tell. -/
abbrev Loud (st : State β) : Prop :=
  ClientStopped st ∨ (st.shared.stop = false ∧ Expiring st) ∨ (Told st ∧ StopCalled st)

lemma Excused.of_returned (hs : Safe st) (hr : st.shared.returned = true) (hx : Excused st) :
    ClientStopped st ∨ Told st := by
  rcases hx with h | ⟨t, ht, hf⟩ | h
  · exact .inl h
  · obtain ⟨i, hi⟩ := List.mem_iff_getElem?.mp ht
    have hopen := hs.opening_of_returned hr hi
    cases t with
    | «open» pc => cases pc <;> cases hf <;> cases hopen
    | _ => cases hf
  · exact .inr h

variable (hst : (system c).Reachable st) (hr : st.shared.returned = true)

include hst hr in
lemma loud_of_not_working (ht : t ∈ st.tasks)
    (h : (∃ p, t.expirePc = some p) ∨ st.shared.stop = true ∨ st.shared.expiring = .done) :
    Loud st := by
  have hs := safe_of_reachable hst
  have hx := excuseInv_of_reachable hst
  have hexc : Excused st → StopCalled st → Loud st := by
    intro he hc
    rcases he.of_returned hs hr with h | h
    · exact .inl h
    · exact .inr (.inr ⟨h, hc⟩)
  have hstop : st.shared.stop = true → Loud st := by
    intro hst
    have hne := hs.stopOnce_of_stop hst
    exact hexc (hx.stopped hne) (.inl hne)
  rcases h with ⟨p, hp⟩ | h | h
  · by_cases hsp : st.shared.stop = true
    · exact hstop hsp
    simp only [Bool.not_eq_true] at hsp
    cases p with
    | enter => exact .inr (.inl ⟨hsp, t, ht, .inl hp⟩)
    | check => exact .inr (.inl ⟨hsp, t, ht, .inr (.inl hp)⟩)
    | send => exact .inr (.inl ⟨hsp, t, ht, .inr (.inr hp)⟩)
    | stop q =>
      refine hexc (hx.stopping t ht q hp) (.inr ⟨t, ht, ?_⟩)
      rcases Task.expirePc_eq_some.mp hp with ⟨s, rfl⟩ | ⟨reason, rfl⟩ | ⟨ns, rv, rfl⟩ <;> nofun
  · exact hstop h
  · exact hstop (hx.expired h).2

include hst hr in
lemma covers_of_watched (hw : watched st.tasks ns = true) :
    Loud st ∨ Covers st ns := by
  obtain ⟨t, ht, hns⟩ := watched_iff.mp hw
  cases t with
  | forward s pc =>
    by_cases hl : (Task.forward s pc : Task β).looping = true
    · exact .inr (.inl ⟨s, pc, ht, hns, hl⟩)
    left
    by_cases hg : (Task.forward s pc : Task β).gone = true
    · rcases (leftInv_of_reachable hst).left _ ht hg with h | h | ⟨ns', hj, -⟩
      · exact loud_of_not_working hst hr ht (.inr (.inl h))
      · exact loud_of_not_working hst hr ht (.inr (.inr h))
      · exact hj.elim
    · refine loud_of_not_working hst hr ht (.inl ?_)
      cases pc with
      | expire p => exact ⟨p, rfl⟩
      | exit => exact absurd rfl hg
      | retired => exact absurd rfl hg
      | _ => exact absurd rfl hl
  | _ => exact hns.elim

include hst in
lemma open_first : ∃ pc, st.tasks[0]? = some (.open pc) := by
  refine hst.invariant (P := fun st => ∃ pc, st.tasks[0]? = some (.open pc)) ?_ ?_
  · rintro _ rfl
    exact ⟨_, rfl⟩
  · rintro s a s' - ⟨pc, hpc⟩ hstep
    rcases getElem?_step hstep hpc with h | ⟨choice, sh', t', started, -, hm, rfl⟩
    · exact ⟨pc, h⟩
    · cases hm with
      | «open» h => exact ⟨_, getElem?_moved hpc _ _⟩

include hst hr in
lemma returned_first : st.tasks[0]? = some (.open .returned) := by
  obtain ⟨pc, hpc⟩ := open_first hst
  have hopen := (safe_of_reachable hst).opening_of_returned hr hpc
  cases pc with
  | returned => exact hpc
  | _ => cases hopen

include hst hr in
lemma covered_or_loud_of_reachable :
    ClientStopped st ∨ (st.shared.stop = false ∧ Expiring st) ∨ (Told st ∧ StopCalled st) ∨
      Covered c st := by
  by_cases hq : Loud st
  · rcases hq with h | h | h
    · exact .inl h
    · exact .inr (.inl h)
    · exact .inr (.inr (.inl h))
  have hwatched : ∀ ns, watched st.tasks ns = true → Covers st ns := fun ns hw =>
    (covers_of_watched hst hr hw).resolve_left hq
  have hleft := leftInv_of_reachable hst
  refine .inr (.inr (.inr ?_))
  rintro ns (hns | ⟨t, ht, hj⟩)
  · -- listed at the open: `newWatchMux` has added it
    have hopen := List.mem_of_getElem? (returned_first hst hr)
    rcases hleft.listed _ hopen [] rfl ns hns with h | h
    · cases h
    · exact hwatched ns h
  · -- reported since: the join is outstanding, has found the stream, or was loud
    have hloud := fun h => hq (loud_of_not_working hst hr ht h)
    cases t with
    | join ns' rv pc =>
      obtain rfl : ns' = ns := hj
      have hgone : (Task.join ns' rv pc : Task β).gone = true → Covers st ns' := by
        intro hg
        rcases hleft.left _ ht hg with h | h | ⟨ns, rfl, hw⟩
        · exact (hloud (.inr (.inl h))).elim
        · exact (hloud (.inr (.inr h))).elim
        · exact hwatched _ hw
      cases pc with
      | attempt k => exact .inr ⟨rv, k, .inl ht⟩
      | wait k => exact .inr ⟨rv, k, .inr ht⟩
      | expire p => exact (hloud (.inl ⟨p, rfl⟩)).elim
      | exit => exact hgone rfl
      | retired => exact hgone rfl
    | _ => exact hj.elim

lemma told_of_closed (hst : (system c).Reachable st) (hc : st.shared.closed = true) :
    ClientStopped st ∨ Told st := by
  have hs := safe_of_reachable hst
  have hr := hs.closer.returned hc
  have hx := excuseInv_of_reachable hst
  have hleft := leftInv_of_reachable hst
  obtain ⟨t, ht, hk⟩ := hleft.follower _ (List.mem_of_getElem? (returned_first hst hr)) rfl
  have hgone : t.gone = true := by
    have hu := hs.uncounted_of_closed hc t ht
    cases t with
    | follow pc =>
      cases pc with
      | retired => rfl
      | _ => cases hu
    | _ => cases hk
  refine Excused.of_returned hs hr ?_
  rcases hleft.left t ht hgone with h | h | ⟨ns, hj, -⟩
  · exact hx.stopped (hs.stopOnce_of_stop h)
  · exact (hx.expired h).1
  · cases t with
    | follow pc => exact hj.elim
    | _ => cases hk

end

/-- Goroutine `i` offers the client an event. -/
def Offers (i : ℕ) (st : State β) : Prop :=
  st.shared.returned = true ∧ ∃ t event, st.tasks[i]? = some t ∧ t.offered = some event

/-- A fair run in which the client takes what it is offered. -/
structure FairReading (c : Config β) (r : Run (system c)) : Prop extends Fair c r where
  reads : ∀ i, r.WeakFair (Offers i) (Moves i)

lemma step_of_offers {c : Config β} {i : ℕ} {st : State β} (h : Offers i st) :
    step c st (.task i .deliver) ≠ none := by
  obtain ⟨hr, t, event, ht, hoff⟩ := h
  have hand : ∀ e, ∃ sh, handOver st.shared e = some sh := by
    intro e
    unfold handOver
    rw [if_neg (by simp [hr])]
    by_cases hc : st.shared.closed = true
    · exact ⟨_, if_pos hc⟩
    · exact ⟨_, if_neg hc⟩
  obtain ⟨sh, hsh⟩ := hand event
  simp only [step, ht]
  unfold Task.offered at hoff
  split at hoff <;> cases hoff <;>
    simp [taskStep, forwardStep, followStep, joinStep, expireStep, hsh]

lemma fairReading_of_rest {c : Config β} (r : Run (system c)) (N : ℕ)
    (hrest : ∀ n, N ≤ n → ∀ i choice, step c (r.state n) (.task i choice) = none) :
    FairReading c r where
  toFair := fair_of_rest r N hrest
  reads := by
    intro i
    refine r.weakFair_of_rest (N := N) fun n hn h => ?_
    exact step_of_offers h (hrest n hn i .deliver)

section

variable {c : Config β} {r : Run (system c)} {n : ℕ}

lemma closes_of_stopCalled (hf : Fair c r) (hr : (r.state n).shared.returned = true)
    (hc : StopCalled (r.state n)) : ∃ m, n ≤ m ∧ (r.state m).shared.closed = true := by
  rcases hc with hne | ⟨t, ht, hp⟩
  · cases ho : (r.state n).shared.stopOnce with
    | fresh => exact absurd ho hne
    | running =>
      obtain ⟨i, t, p, hi, hp, -⟩ := (safe_of_reachable (r.reachable n)).exists_runner ho
      exact closes_of_stop hf hr hi hp
    | done =>
      obtain ⟨m, hm, h0⟩ := group_empties hf ho hr
      obtain ⟨k, hk, hcl⟩ := closes_of_empty hf (returned_stable hr hm) h0
      exact ⟨k, by omega, hcl⟩
  · obtain ⟨i, hi⟩ := List.mem_iff_getElem?.mp ht
    obtain ⟨p, hp⟩ := Option.ne_none_iff_exists'.mp hp
    exact closes_of_stop hf hr hi hp

lemma told_of_expiring (hf : FairReading c r) (hr : (r.state n).shared.returned = true)
    (he : Expiring (r.state n)) :
    ∃ m, n ≤ m ∧ (ClientStopped (r.state m) ∨ Told (r.state m)) := by
  by_contra hno
  push Not at hno
  -- so there is never a reason for `m.stop` to be closed
  have hx : ∀ m, n ≤ m → ¬ Excused (r.state m) := by
    intro m hm hexc
    rcases hexc.of_returned (safe_of_reachable (r.reachable m)) (returned_stable hr hm) with h | h
    · exact (hno m hm).1 h
    · exact (hno m hm).2 h
  have hinv : ∀ m, ExcuseInv (r.state m) := fun m => excuseInv_of_reachable (r.reachable m)
  have hnotStop : ∀ m, n ≤ m → ∀ {i : ℕ} {t : Task β} {p}, (r.state m).tasks[i]? = some t →
      t.expirePc ≠ some (.stop p) := fun m hm i t p ht hp =>
    hx m hm ((hinv m).stopping t (List.mem_of_getElem? ht) p hp)
  have hnotDone : ∀ m, n ≤ m → (r.state m).shared.expiring ≠ .done := fun m hm hd =>
    hx m hm ((hinv m).expired hd).1
  have hsend : ∀ m, n ≤ m → ∀ {i : ℕ} {t : Task β}, (r.state m).tasks[i]? = some t →
      t.expirePc ≠ some .send := by
    intro m hm i t ht hp
    obtain ⟨event, hoff⟩ : ∃ event, t.offered = some event := by
      rcases Task.expirePc_eq_some.mp hp with ⟨s, rfl⟩ | ⟨reason, rfl⟩ | ⟨ns, rv, rfl⟩ <;>
        exact ⟨_, rfl⟩
    obtain ⟨k, hk, t', choice, hmv⟩ := moves_of_ready r (hf.reads i) ht
      fun k hk htk => ⟨returned_stable hr (by omega), t, event, htk, hoff⟩
    obtain ⟨reason, q, hq, -, hmove⟩ := hmv.expireMove hp
    generalize (r.state (k + 1)).shared = sh at hmove
    cases hmove with
    | sent | notSent => exact hnotStop (k + 1) (by omega) hmv.after hq
  have hcheck : ∀ m, n ≤ m → ∀ {i : ℕ} {t : Task β}, (r.state m).tasks[i]? = some t →
      t.expirePc ≠ some .check := by
    intro m hm i t ht hp
    obtain ⟨k, hk, t', choice, hmv⟩ := moves_of_ready r (hf.scheduled i) ht (by
      intro k _ htk
      obtain ⟨choice, hown, he⟩ := expireStep_isSome (r.state k).shared .check nofun nofun nofun
      exact ready_of_expireStep choice htk hp hown he)
    obtain ⟨reason, q, hq, -, hmove⟩ := hmv.expireMove hp
    generalize hsh : (r.state (k + 1)).shared = sh at hmove
    cases hmove with
    | tornDown => exact hnotDone (k + 1) (by omega) (by rw [hsh])
    | goOn => exact hsend (k + 1) (by omega) hmv.after hq
  -- nobody can be the runner of `expiring`, so whoever is at its entry becomes it
  have hnotRunning : ∀ m, n ≤ m → (r.state m).shared.expiring ≠ .running := by
    intro m hm hrun
    obtain ⟨j, u, p, hu, hp, hne⟩ := (safe_of_reachable (r.reachable m)).exists_expirer hrun
    cases p with
    | enter => exact hne rfl
    | check => exact hcheck m hm hu hp
    | send => exact hsend m hm hu hp
    | stop q => exact hnotStop m hm hu hp
  obtain ⟨t, ht, hp⟩ := he
  obtain ⟨i, hi⟩ := List.mem_iff_getElem?.mp ht
  rcases hp with hp | hp | hp
  · obtain ⟨k, hk, t', choice, hmv⟩ := moves_of_ready r (hf.scheduled i) hi (by
      intro k hk htk
      obtain ⟨choice, hown, he⟩ := expireStep_isSome (r.state k).shared .enter nofun
        (fun _ => hnotRunning k hk) nofun
      exact ready_of_expireStep choice htk hp hown he)
    obtain ⟨reason, q, hq, -, hmove⟩ := hmv.expireMove hp
    generalize hsh : (r.state (k + 1)).shared = sh at hmove
    cases hmove with
    | first => exact hcheck (k + 1) (by omega) hmv.after hq
    | late hd => exact hnotDone k hk hd
  · exact hcheck n le_rfl hi hp
  · exact hsend n le_rfl hi hp

end

/-- In every reachable state of a multiplexer the client has been given, either the client stopped
it, or a goroutine has a 410 for the client, or the client has been handed the 410 and `Stop` is
called, or every namespace listed at the open or reported since is covered. -/
theorem covered_or_loud (c : Config β) :
    (∀ st, (system c).Reachable st → st.shared.returned = true →
      ClientStopped st ∨ (st.shared.stop = false ∧ Expiring st) ∨ (Told st ∧ StopCalled st) ∨
        Covered c st) ∧
    (∀ st, (system c).Reachable st → st.shared.closed = true → ClientStopped st ∨ Told st) ∧
    ∀ r : Run (system c), ∀ n, (r.state n).shared.returned = true →
      (FairReading c r → Expiring (r.state n) →
        ∃ m, n ≤ m ∧ (ClientStopped (r.state m) ∨ Told (r.state m))) ∧
      (Fair c r → StopCalled (r.state n) → ∃ m, n ≤ m ∧ (r.state m).shared.closed = true) := by
  refine ⟨fun st hst hr => covered_or_loud_of_reachable hst hr,
    fun st hst hc => told_of_closed hst hc, fun r n hr => ⟨?_, ?_⟩⟩
  · intro hf he
    exact told_of_expiring hf hr he
  · intro hf hc
    exact closes_of_stopCalled hf hr hc

section

private def twoNamespaces : Config Unit where
  options := {}
  namespaces := ["team-a", "team-b"]
  describe := fun _ => ""

private def appeared : Event Unit := ⟨.added, .object { name := "web", «namespace» := "team-b" } ()⟩

/-- The stream of `team-b` has an event for the client when the stream of `team-a` ends. -/
private def endedSchedule : List (Action Unit) :=
  [.task 0 .opened, .task 0 .opened, .task 0 .run, .task 0 .opened, .task 0 .run,
    .task 2 (.receive appeared), .task 1 .ended, .task 1 .run, .task 1 .run]

private def endedState : State Unit where
  shared := { returned := true, forwarder := 3, expiring := .running }
  tasks := [.open .returned, .forward ⟨"team-a", "", 0, false⟩ (.expire .send),
    .forward ⟨"team-b", "", 0, false⟩ (.send appeared), .follow .select, .closer .wait]

private theorem run_endedSchedule :
    exec (step twoNamespaces) (initial twoNamespaces) endedSchedule = some endedState := by
  decide

private def toldSchedule : List (Action Unit) :=
  endedSchedule ++ [.task 2 .deliver, .task 1 .deliver, .task 1 .run, .task 1 .run, .task 1 .run,
    .task 1 .run, .task 2 .run, .task 2 .stopped, .task 2 .run, .task 3 .stopped, .task 3 .run,
    .task 4 .run, .task 4 .run]

private def toldState : State Unit where
  shared := { stop := true, stopOnce := .done, expiring := .done, returned := true,
              closed := true, out := [appeared, expiredEvent (endedReason "team-a")] }
  tasks := [.open .returned, .forward ⟨"team-a", "", 0, false⟩ .retired,
    .forward ⟨"team-b", "", 0, false⟩ .retired, .follow .retired, .closer .done]

private theorem run_toldSchedule :
    exec (step twoNamespaces) (initial twoNamespaces) toldSchedule = some toldState := by
  decide

private def toldRun : Run (system twoNamespaces) := Run.ofExec rfl run_toldSchedule

private theorem fairReading_toldRun : FairReading twoNamespaces toldRun := by
  refine fairReading_of_rest toldRun 22 fun n hn i choice => ?_
  rw [toldRun, Run.ofExec_state _ _ hn]
  match i with
  | 0 | 1 | 2 | 3 | 4 => cases choice <;> rfl
  | i + 5 => rfl

theorem covered_or_loud_toldRun :
    FairReading twoNamespaces toldRun ∧ Expiring (toldRun.state 9) ∧
      ∃ m, 9 ≤ m ∧ (ClientStopped (toldRun.state m) ∨ Told (toldRun.state m)) := by
  have he : Expiring (toldRun.state 9) :=
    ⟨.forward ⟨"team-a", "", 0, false⟩ (.expire .send), by decide, .inr (.inr rfl)⟩
  exact ⟨fairReading_toldRun, he,
    ((covered_or_loud twoNamespaces).2.2 toldRun 9 (by decide)).1 fairReading_toldRun he⟩

theorem expiring_hands_over_event :
    ∃ st st' : State Unit, (system twoNamespaces).Reachable st ∧ st.shared.returned = true ∧
      ¬ ClientStopped st ∧ ¬ Covered twoNamespaces st ∧ Expiring st ∧
      step twoNamespaces st (.task 2 .deliver) = some st' ∧
      st'.shared.out = st.shared.out ++ [appeared] ∧ ∀ reason, appeared ≠ expiredEvent reason := by
  refine ⟨endedState, _, reachable_of_exec (.init rfl) run_endedSchedule, rfl, ?_, ?_, ?_, rfl,
    rfl, ?_⟩
  · rintro ⟨t, ht, hk⟩
    simp only [endedState, List.mem_cons, List.not_mem_nil, or_false] at ht
    rcases ht with rfl | rfl | rfl | rfl | rfl <;> cases hk
  · intro hcov
    rcases hcov "team-a" (.inl (by decide)) with ⟨s, pc, hmem, hns, hl⟩ | ⟨rv, k, hmem | hmem⟩
    · simp [endedState] at hmem
      rcases hmem with ⟨rfl, rfl⟩ | ⟨rfl, rfl⟩
      · cases hl
      · exact absurd hns (by decide)
    · simp [endedState] at hmem
    · simp [endedState] at hmem
  · exact ⟨.forward ⟨"team-a", "", 0, false⟩ (.expire .send), by simp [endedState], .inr (.inr rfl)⟩
  · intro reason h
    cases h

end

end WatchMux
end KubeZoo
