import KubeZoo.WatchMux.Resume

/-! # The end of the replay of a WatchList -/

namespace KubeZoo
namespace WatchMux

open Transition

variable {β : Type}

def isReplayEnd (event : Event β) : Bool :=
  decide (event.type = .bookmark) && hasInitialEventsEnd event

structure Replay (β : Type) where
  initial : String → List (Event β)
  mark : String → Event β
  initial_type : ∀ ns, ∀ event ∈ initial ns, event.type ≠ .bookmark
  mark_end : ∀ ns, isReplayEnd (mark ns) = true
  mark_revision : ∀ ns, 0 < eventRevision (mark ns)

def Replay.script (R : Replay β) (ns : String) : List (Event β) := R.initial ns ++ [R.mark ns]

def replays [DecidableEq β] (R : Replay β) (w : World β) : Action β → Bool
  | .clientStop => false
  | .task i choice =>
    match w.mux.tasks[i]?, choice with
    | some (.forward s _), .receive event =>
      decide (w.received i ++ [event] <+: R.script s.namespace) ||
        decide (R.script s.namespace <+: w.received i)
    | some (.forward _ _), .ended => false
    | some (.follow _), .ended => false
    | some (.follow _), .receive event => decide (event.type ≠ .error)
    | some (.open _), .refused _ => false
    | some (.join _ _ (.attempt k)), .refused forbidden => forbidden && decide (k + 1 < attempts)
    | _, _ => true

def Task.working : Task β → Bool
  | .open (.fail _) => false
  | .open .failed => false
  | .open _ => true
  | .forward s pc => (Task.forward s pc : Task β).looping
  | .follow pc => decide (pc = .select)
  | .join _ _ (.attempt k) => decide (k < attempts)
  | .join _ _ (.wait k) => decide (k + 1 < attempts)
  | .join _ _ (.expire _) => false
  | .join _ _ _ => true
  | .stopper _ => false
  | .closer _ => true

/-- Nobody has entered `Stop` or `expire`. -/
structure Working (st : State β) : Prop where
  tasks : ∀ t ∈ st.tasks, t.working = true
  stop : st.shared.stop = false

variable {c : Config β} {R : Replay β} {w w' : World β} {a : Action β}

section

variable [DecidableEq β]

lemma move_working {i : ℕ} {t t' : Task β} {choice : Choice β} {sh' : Shared β}
    {started : List (Task β)} (hm : Move c w.mux.shared w.mux.tasks i t choice sh' t' started)
    (ht : w.mux.tasks[i]? = some t) (hg : replays R w (.task i choice) = true)
    (hw : t.working = true) (hs : w.mux.shared.stop = false) :
    t'.working = true ∧ sh'.stop = false ∧ ∀ u ∈ started, u.working = true := by
  have hnew : ∀ u ∈ started, u.working = true := by
    intro u hu
    rcases hm.started_cases hu with ⟨ns, rv, rfl⟩ | rfl | ⟨ns, rv, rfl⟩ | rfl <;> rfl
  have hstop : t.stopPc = none → sh'.stop = false := by
    intro hp
    rcases hm.stop_profile.1 with ⟨p, q, s, htp, -⟩ | ⟨-, -, hst, -⟩
    · rw [hp] at htp
      cases htp
    · rw [hst, hs]
  have hno : w.mux.shared.stop ≠ true := by rw [hs]; nofun
  simp only [replays, ht] at hg
  suffices h : t'.working = true ∧ t.stopPc = none from ⟨h.1, hstop h.2, hnew⟩
  cases hm with
  | «open» h =>
    cases h with
    | refused h => cases h; cases hg
    | notFollowed => cases hg
    | failing => cases hw
    | failed => cases hw
    | _ => exact ⟨rfl, rfl⟩
  | forward h =>
    cases h with
    | stopped h | droppedBookmark h | dropped h => exact absurd h hno
    | ended => cases hg
    | expiring | expired | left => cases hw
    | _ => exact ⟨rfl, rfl⟩
  | follow h =>
    cases h with
    | stopped h => exact absurd h hno
    | ended => cases hg
    | failed h => simp [h] at hg
    | expiring | expired | left => cases hw
    | _ => exact ⟨rfl, rfl⟩
  | join h =>
    cases h with
    | joined => exact ⟨rfl, rfl⟩
    | forbidden h =>
      cases h
      exact ⟨by simpa [Task.working] using hg, rfl⟩
    | refused h => cases h; cases hg
    | stopped h => exact absurd h hno
    | again h => exact ⟨by simpa [Task.working] using h, rfl⟩
    | @gaveUp k h =>
      have : k + 1 < attempts := by simpa [Task.working] using hw
      omega
    | expiring => cases hw
    | expired => cases hw
    | left => exact ⟨rfl, rfl⟩
  | stopper h => cases hw
  | closer h => exact ⟨rfl, rfl⟩

lemma working_step (h : World.step c w a = some w') (hg : replays R w a = true)
    (hi : Working w.mux) : Working w'.mux := by
  obtain ⟨hst, -⟩ := World.step_eq_some.mp h
  rcases step_cases hst with ⟨i, choice, t, sh', t', started, rfl, ht, hm, heq⟩ | ⟨rfl, -, -⟩
  swap
  · cases hg
  have hmem := List.mem_of_getElem? ht
  obtain ⟨ht', hs', hnew⟩ := move_working hm ht hg (hi.tasks t hmem) hi.stop
  rw [heq]
  refine ⟨fun u hu => ?_, hs'⟩
  rcases mem_moved hu with hu | rfl | hu
  · exact hi.tasks u hu
  · exact ht'
  · exact hnew u hu

theorem working_of_reachable
    (h : ((World.system c).restrict fun w a => replays R w a = true).Reachable w) :
    Working w.mux := by
  refine h.invariant (P := fun w => Working w.mux) ?_ ?_
  · rintro _ rfl
    refine ⟨fun t ht => ?_, rfl⟩
    rw [List.mem_singleton.mp ht]
    rfl
  · intro v a v' _ hv hs
    exact working_step hs.1 hs.2 hv

end

/-- What a forwarder has got done of its replay. -/
def Replays (R : Replay β) (got out : List (Event β)) (s : Stream) (pc : ForwardPc β) : Prop :=
  (got <+: R.script s.namespace ∨ R.script s.namespace <+: got) ∧
    (s.endOfReplay = true → 0 < s.revision ∧ ∀ e ∈ R.initial s.namespace, e ∈ out) ∧
    match pc with
    | .bookmark event => (∀ e ∈ got, e.type ≠ .bookmark → e ∈ out) ∧
        (s.endOfReplay = true ∨ (event = R.mark s.namespace ∧ got = R.script s.namespace))
    | .send event => (∀ e ∈ got, e.type ≠ .bookmark → e ∈ out ∨ e = event) ∧
        (R.script s.namespace <+: got → s.endOfReplay = true)
    | _ => (∀ e ∈ got, e.type ≠ .bookmark → e ∈ out) ∧
        (R.script s.namespace <+: got → s.endOfReplay = true)

variable {got out out' : List (Event β)} {s s' : Stream} {pc pc' : ForwardPc β}

lemma Replay.mark_type (R : Replay β) (ns : String) : (R.mark ns).type = .bookmark := by
  have h := R.mark_end ns
  unfold isReplayEnd at h
  rw [Bool.and_eq_true] at h
  exact of_decide_eq_true h.1

lemma Replay.mark_hasInitialEventsEnd (R : Replay β) (ns : String) :
    hasInitialEventsEnd (R.mark ns) = true := by
  have h := R.mark_end ns
  unfold isReplayEnd at h
  rw [Bool.and_eq_true] at h
  exact h.2

variable {event : Event β} {sh' : Shared β} {i : ℕ}

lemma Replay.eq_script_of_prefix {ns : String} (hb : event.type = .bookmark)
    (h : got ++ [event] <+: R.script ns) : event = R.mark ns ∧ got ++ [event] = R.script ns := by
  rcases List.prefix_concat_iff.mp h with heq | hpre
  · obtain ⟨-, he⟩ := List.append_inj' heq rfl
    exact ⟨List.singleton_inj.mp he, heq⟩
  · have hmem : event ∈ R.initial ns := hpre.subset (by simp)
    exact absurd hb (R.initial_type ns event hmem)

lemma Replays.mono (h : Replays R got out s pc) (hsub : ∀ e ∈ out, e ∈ out') :
    Replays R got out' s pc := by
  obtain ⟨hgot, hend, hpc⟩ := h
  refine ⟨hgot, fun hs => ⟨(hend hs).1, fun e he => hsub e ((hend hs).2 e he)⟩, ?_⟩
  cases pc with
  | bookmark event => exact ⟨fun e he hb => hsub e (hpc.1 e he hb), hpc.2⟩
  | send event =>
    refine ⟨fun e he hb => ?_, hpc.2⟩
    rcases hpc.1 e he hb with h | h
    · exact .inl (hsub e h)
    · exact .inr h
  | _ => exact ⟨fun e he hb => hsub e (hpc.1 e he hb), hpc.2⟩

lemma Replays.opened (R : Replay β) (ns rv : String) :
    Replays R [] out ⟨ns, rv, parseRevision rv, false⟩ .select := by
  refine ⟨.inl List.nil_prefix, nofun, nofun, fun h => ?_⟩
  have := h.length_le
  simp [Replay.script] at this

lemma Replays.step {sh : Shared β} {tasks : List (Task β)} {choice : Choice β}
    (h : ForwardMove c sh tasks i s pc choice sh' s' pc') (hne : ∀ event, choice ≠ .receive event)
    (hc : sh.closed = false) (hw : (Task.forward s' pc').looping = true)
    (hr : Replays R got sh.out s pc) : Replays R got sh'.out s' pc' := by
  obtain ⟨hgot, hend, hpc⟩ := id hr
  cases h with
  | gotBookmark | gotEvent => exact absurd rfl (hne _)
  | @folded event _ ho | @merged event _ _ ho =>
    obtain ⟨b, w, rfl⟩ := onBookmark_frame ho
    -- no bookmark comes before the mark, so the stream has replayed now
    have hrev : s.revision ≤ (s.fold event).revision ∧
        eventRevision event ≤ (s.fold event).revision := by
      simp only [Stream.fold]
      split <;> omega
    have hdone : (s.fold event).endOfReplay = true := by
      rcases hpc.2 with h | ⟨rfl, -⟩
      · simp [Stream.fold, h]
      · simp [Stream.fold, R.mark_hasInitialEventsEnd]
    refine ⟨hgot, fun _ => ?_, hpc.1, fun _ => hdone⟩
    rcases hpc.2 with h | ⟨rfl, hscript⟩
    · exact ⟨lt_of_lt_of_le (hend h).1 hrev.1, (hend h).2⟩
    · refine ⟨lt_of_lt_of_le (R.mark_revision _) hrev.2, fun e he => ?_⟩
      refine hpc.1 e ?_ (R.initial_type _ e he)
      rw [hscript]
      exact List.mem_append_left _ he
  | sentBookmark hand =>
    cases hand with
    | taken =>
      have hsel : Replays R got sh.out s .select := ⟨hgot, hend, hpc⟩
      exact hsel.mono fun e he => List.mem_append_left _ he
    | onClosed _ hcl => rw [hc] at hcl; cases hcl
  | droppedBookmark => exact ⟨hgot, hend, hpc⟩
  | @sent event _ hand =>
    cases hand with
    | onClosed _ hcl => rw [hc] at hcl; cases hcl
    | taken =>
      refine ⟨hgot, fun hs => ⟨(hend hs).1, fun e he => List.mem_append_left _ ((hend hs).2 e he)⟩,
        fun e he hb => ?_, hpc.2⟩
      rcases hpc.1 e he hb with h | rfl
      · exact List.mem_append_left _ h
      · exact List.mem_append_right _ (List.mem_singleton.mpr rfl)
  | @recorded revision =>
    have hrec : (s.record revision).namespace = s.namespace ∧
        (s.record revision).endOfReplay = s.endOfReplay ∧
        s.revision ≤ (s.record revision).revision := by
      unfold Stream.record
      split
      · exact ⟨rfl, rfl, le_rfl⟩
      · split
        · next hlt => exact ⟨rfl, rfl, hlt.le⟩
        · exact ⟨rfl, rfl, le_rfl⟩
    unfold Replays
    rw [hrec.1, hrec.2.1]
    exact ⟨hgot, fun hs => ⟨lt_of_lt_of_le (hend hs).1 hrec.2.2, (hend hs).2⟩, hpc⟩
  | _ => cases hw

lemma Replays.receive [DecidableEq β]
    (h : ForwardMove c w.mux.shared w.mux.tasks i s pc (.receive event) sh' s' pc')
    (ht : w.mux.tasks[i]? = some (.forward s pc))
    (hg : replays R w (.task i (.receive event)) = true)
    (hr : Replays R (w.received i) w.mux.shared.out s pc) :
    Replays R (w.received i ++ [event]) sh'.out s' pc' := by
  obtain ⟨hgot, hend, hpc⟩ := hr
  simp only [replays, ht, Bool.or_eq_true, decide_eq_true_eq] at hg
  have hgot' : w.received i ++ [event] <+: R.script s.namespace ∨
      R.script s.namespace <+: w.received i ++ [event] := by
    rcases hg with h | h
    · exact .inl h
    · exact .inr (h.trans (List.prefix_append _ _))
  cases h with
  | gotBookmark hb =>
    refine ⟨hgot', hend, ?_, ?_⟩
    · intro e he hne
      rcases List.mem_append.mp he with he | he
      · exact hpc.1 e he hne
      · rw [List.mem_singleton.mp he] at hne
        exact absurd hb hne
    · rcases hg with h | h
      · obtain ⟨hm, hs⟩ := Replay.eq_script_of_prefix hb h
        exact .inr ⟨hm, hs⟩
      · exact .inl (hpc.2 h)
  | gotEvent hb =>
    refine ⟨hgot', hend, ?_, ?_⟩
    · intro e he hne
      rcases List.mem_append.mp he with he | he
      · exact .inl (hpc.1 e he hne)
      · exact .inr (List.mem_singleton.mp he)
    · intro hfull
      rcases hg with h | h
      · -- the script ends with a bookmark, and this event is none
        have heq := h.eq_of_length (le_antisymm h.length_le hfull.length_le)
        have hlast : [event] = [R.mark s.namespace] := (List.append_inj' heq rfl).2
        rw [List.singleton_inj.mp hlast, R.mark_type] at hb
        exact absurd rfl hb
      · exact hpc.2 h
  | expiring he => cases he
  | expired he => cases he

def StreamsReplay (R : Replay β) (w : World β) : Prop :=
  ∀ i s pc, w.mux.tasks[i]? = some (.forward s pc) → Replays R (w.received i) w.mux.shared.out s pc

def Task.endPending (t : Task β) : Bool := t.pending.any isReplayEnd

structure ReplayInv (st : State β) : Prop where
  announced : streams st.tasks ≠ [] → (∀ s ∈ streams st.tasks, s.endOfReplay = true) →
    st.shared.replayed = true
  count : st.shared.out.countP isReplayEnd + st.tasks.countP Task.endPending =
    st.shared.replayed.toNat

/-- The streams, with the bookmark that goroutine `i` has in hand folded in. -/
abbrev World.folded (w : World β) (i : ℕ) (s : Stream) (event : Event β) : List Stream :=
  streams (w.mux.tasks.set i (.forward (s.fold event) .select))

lemma streamsReplay_step [DecidableEq β] (hr : (World.system c).Reachable w)
    (h : World.step c w a = some w') (hg : replays R w a = true) (hw : Working w.mux)
    (hi : StreamsReplay R w) : StreamsReplay R w' := by
  refine World.forwarders_step hr h ?_ ?_ ?_ hi
  · intro got out out' s pc hsub hd
    exact hd.mono hsub
  · intro out ns rv
    exact Replays.opened R ns rv
  · rintro i choice s pc sh' s' pc' rfl ht hf ht' hd
    by_cases hrec : ∃ event, choice = .receive event
    · obtain ⟨event, rfl⟩ := hrec
      exact Replays.receive hf ht hg hd
    · push Not at hrec
      rw [Choice.received_eq_nil hrec, List.append_nil]
      have hopen := (safe_of_reachable (World.reachable_mux hr)).open_of_counted ht hf.counted
      have hloop := (working_step h hg hw).tasks _ (List.mem_of_getElem? ht')
      exact hd.step hf hrec hopen.2 hloop

theorem streamsReplay_of_reachable [DecidableEq β]
    (h : ((World.system c).restrict fun w a => replays R w a = true).Reachable w) :
    StreamsReplay R w := by
  refine h.invariant ?_ ?_
  · rintro _ rfl i s pc hi
    cases i with
    | zero => cases hi
    | succ i => cases hi
  · intro v a v' hr hv hs
    exact streamsReplay_step hr.mono hs.1 hs.2 (working_of_reachable hr) hv

variable {choice : Choice β} {tasks : List (Task β)} {sh : Shared β}

lemma StreamsReplay.replayed (h : StreamsReplay R w) (hs : s ∈ streams w.mux.tasks)
    (he : s.endOfReplay = true) :
    0 < s.revision ∧ ∀ e ∈ R.initial s.namespace, e ∈ w.mux.shared.out := by
  obtain ⟨i, pc, hi⟩ := exists_of_mem_streams hs
  exact (h i s pc hi).2.1 he

variable {started : List (Task β)} {t t' : Task β}

lemma ForwardMove.endOfReplay (h : ForwardMove c sh tasks i s pc choice sh' s' pc')
    (hb : ∀ event, pc ≠ .bookmark event) : s'.endOfReplay = s.endOfReplay := by
  cases h with
  | folded => exact absurd rfl (hb _)
  | merged => exact absurd rfl (hb _)
  | recorded =>
    unfold Stream.record
    split
    · rfl
    · split <;> rfl
  | _ => rfl

lemma mem_streams_of_getElem? (h : tasks[i]? = some (.forward s pc)) : s ∈ streams tasks :=
  List.mem_filterMap.mpr ⟨_, List.mem_of_getElem? h, rfl⟩

lemma replayed_of_move (hm : Move c sh tasks i t choice sh' t' started) (ht : tasks[i]? = some t)
    (hfold : t.folding = false) (hne : streams (tasks.set i t' ++ started) ≠ [])
    (hall : ∀ s ∈ streams (tasks.set i t' ++ started), s.endOfReplay = true) :
    streams tasks ≠ [] ∧ ∀ s ∈ streams tasks, s.endOfReplay = true := by
  constructor
  · obtain ⟨s, hs⟩ := List.exists_mem_of_ne_nil _ hne
    obtain ⟨j, pc, hj⟩ := exists_of_mem_streams hs
    rcases getElem?_of_moved hj with ⟨-, hold⟩ | ⟨rfl, rfl⟩ | ⟨-, hmem⟩
    · exact List.ne_nil_of_mem (mem_streams_of_getElem? hold)
    · cases hm with
      | forward h => exact List.ne_nil_of_mem (mem_streams_of_getElem? ht)
    · -- a stream that has just been opened has not replayed
      have hrep := hall s hs
      obtain ⟨ns, rv, h⟩ := hm.started_select hmem
      cases h
      cases hrep
  · intro s hs
    obtain ⟨j, pc, hj⟩ := exists_of_mem_streams hs
    by_cases hij : j = i
    · subst hij
      rw [ht] at hj
      cases hj
      cases hm with
      | forward h =>
        have hend := h.endOfReplay fun event he => by subst he; cases hfold
        rw [← hend]
        exact hall _ (mem_streams_of_getElem? (getElem?_moved ht _ _))
    · have hlt : j < tasks.length := (List.getElem?_eq_some_iff.mp hj).1
      have hj' : (tasks.set i t' ++ started)[j]? = some (.forward s pc) := by
        rw [List.getElem?_append_left (by simpa using hlt), List.getElem?_set_ne (Ne.symm hij)]
        exact hj
      exact hall s (mem_streams_of_getElem? hj')

lemma announced_step (h : step c w.mux a = some w'.mux) (hie : c.initialEvents = true)
    (hi : ReplayInv w.mux) (hne : streams w'.mux.tasks ≠ [])
    (hall : ∀ s ∈ streams w'.mux.tasks, s.endOfReplay = true) :
    w'.mux.shared.replayed = true := by
  rcases step_cases h with ⟨i, choice, t, sh', t', started, rfl, ht, hm, heq⟩ | ⟨rfl, -, heq⟩
  · rw [heq] at hne hall ⊢
    rcases hm.bookmark_profile with ⟨s, event, pc', rfl, rfl, rfl, rfl, hon⟩ | ⟨-, hrep, -, hfold⟩
    · -- the bookmark was folded in, and every stream has replayed
      have hall' : ∀ u ∈ w.folded i s event, u.endOfReplay = true := by
        intro u hu
        obtain ⟨j, q, hj⟩ := exists_of_mem_streams_set hu pc'
        exact hall u (mem_streams_of_getElem? (by simpa using hj))
      have hon' : sh'.replayed = (w.mux.shared.replayed ||
          announces c w.mux.shared (w.folded i s event)) := by
        rcases hon with ⟨-, ho⟩ | ⟨merged, -, ho⟩ <;> rw [onBookmark_shared ho]
      show sh'.replayed = true
      rw [hon', announces, hie, List.all_eq_true.mpr hall']
      cases w.mux.shared.replayed <;> rfl
    · show sh'.replayed = true
      obtain ⟨hne', hall'⟩ := replayed_of_move hm ht hfold hne hall
      rw [hrep]
      exact hi.announced hne' hall'
  · rw [heq] at hne hall ⊢
    have hsame : streams (w.mux.tasks ++ [Task.stopper (some .enter)]) = streams w.mux.tasks := by
      simp [streams, Task.stream?]
    exact hi.announced (by rwa [hsame] at hne) (by rwa [hsame] at hall)

variable (hbk : c.bookmarks = true) (hi : ReplayInv w.mux)
  (ht : w.mux.tasks[i]? = some (.forward s (.bookmark event)))
  (hpos : ∀ u ∈ w.folded i s event, u.endOfReplay = true → 0 < u.revision)

include hbk hi ht hpos in
lemma merged_of_announces {r : Option (Event β)}
    (ho : onBookmark c w.mux.shared (w.folded i s event) event = (sh', r))
    (ha : announces c w.mux.shared (w.folded i s event) = true) :
    ∃ merged, r = some merged ∧ isReplayEnd merged = true := by
  set ss := w.folded i s event with hss
  have ha' := ha
  simp only [announces, Bool.and_eq_true, List.all_eq_true, Bool.not_eq_true'] at ha'
  obtain ⟨⟨-, hall⟩, hrep⟩ := ha'
  have hmem : s.fold event ∈ ss := mem_streams_set ht _ _
  -- the stream had not replayed before, so this bookmark is its mark
  have hmark : hasInitialEventsEnd event = true := by
    by_contra hno
    have hs : s.endOfReplay = true := by
      have := hall _ hmem
      simp only [Stream.fold, Bool.or_eq_true] at this
      exact this.resolve_right hno
    have hold : ∀ u ∈ streams w.mux.tasks, u.endOfReplay = true := by
      intro u hu
      obtain ⟨j, q, hj⟩ := exists_of_mem_streams hu
      by_cases hij : i = j
      · subst hij
        rw [ht] at hj
        cases hj
        exact hs
      · have hj' : (w.mux.tasks.set i (.forward (s.fold event) .select))[j]? =
            some (.forward u q) := by
          rw [List.getElem?_set_ne hij]
          exact hj
        exact hall u (mem_streams_of_getElem? hj')
    have := hi.announced (List.ne_nil_of_mem (mem_streams_of_getElem? ht)) hold
    rw [hrep] at this
    cases this
  have hacc : event.object.accessor.isSome = true := by
    unfold hasInitialEventsEnd at hmark
    split at hmark
    · cases hmark
    · next m hm => rw [hm]; rfl
  have hw : 0 < watermark ss := by
    obtain ⟨v, hv, hwv⟩ := exists_watermark (List.ne_nil_of_mem hmem)
    rw [hwv]
    exact hpos v hv (hall v hv)
  obtain ⟨merged, hat⟩ : ∃ merged, bookmarkAt event (watermark ss) true = some merged :=
    Option.isSome_iff_exists.mp (bookmarkAt_isSome hacc)
  refine ⟨merged, ?_, ?_⟩
  · have hsnd : (onBookmark c w.mux.shared ss event).2 = r := by rw [ho]
    rw [← hsnd]
    have ha₂ : (c.initialEvents && ss.all (fun s => s.endOfReplay) && !w.mux.shared.replayed) = true :=
      ha
    simp only [onBookmark, hbk, ha₂, Bool.not_true, Bool.false_or, Bool.and_false,
      Bool.false_eq_true, if_false, beq_iff_eq, hw.ne', hat]
  · unfold isReplayEnd
    rw [bookmarkAt_type hat, hasInitialEventsEnd_bookmarkAt hat]
    rfl

lemma countP_isReplayEnd_append :
    (out ++ [event]).countP isReplayEnd = out.countP isReplayEnd + (isReplayEnd event).toNat := by
  rw [List.countP_append, List.countP_singleton]
  cases isReplayEnd event <;> rfl

include hbk hi ht hpos in
lemma endPending_of_folded
    (hon : (pc' = .select ∧ onBookmark c w.mux.shared (w.folded i s event) event = (sh', none)) ∨
      ∃ merged, pc' = .sendBookmark merged ∧
        onBookmark c w.mux.shared (w.folded i s event) event = (sh', some merged)) :
    (Task.forward (s.fold event) pc').endPending =
      announces c w.mux.shared (w.folded i s event) := by
  rcases hon with ⟨rfl, ho⟩ | ⟨merged, rfl, ho⟩
  · -- nothing is sent, so nothing is announced
    show false = _
    symm
    rw [Bool.eq_false_iff]
    intro ha
    obtain ⟨merged, hm, -⟩ := merged_of_announces hbk hi ht hpos ho ha
    cases hm
  · show isReplayEnd merged = _
    obtain ⟨-, -, -, hat⟩ := onBookmark_some ho
    unfold isReplayEnd
    rw [bookmarkAt_type hat, hasInitialEventsEnd_bookmarkAt hat]
    rfl

lemma count_of_move (hm : Move c sh tasks i t choice sh' t' started) (hsound : t.sound)
    (hc : t.counted = true → sh.closed = false) (hstop : sh.stop = false) :
    sh'.out.countP isReplayEnd = sh.out.countP isReplayEnd + t.endPending.toNat := by
  by_cases hp : t.pending = none
  · -- what else is handed over is no bookmark
    have hend : t.endPending = false := by rw [Task.endPending, hp]; rfl
    rw [hend]
    rcases hm.out with ho | ⟨event, hoff, ho⟩
    · rw [ho]; rfl
    · have hno : isReplayEnd event = false := by
        rw [Bool.eq_false_iff]
        intro he
        unfold isReplayEnd at he
        rw [Bool.and_eq_true] at he
        rw [Task.pending_of_offered hsound hoff (of_decide_eq_true he.1)] at hp
        cases hp
      rw [ho, countP_isReplayEnd_append, hno]
  · obtain ⟨merged, hmerged⟩ := Option.ne_none_iff_exists'.mp hp
    unfold Task.pending at hmerged
    split at hmerged
    · cases hmerged
      cases hm with
      | forward h =>
        cases h with
        | sentBookmark h =>
          cases h with
          | taken => exact countP_isReplayEnd_append
          | onClosed _ hcl => rw [hc rfl] at hcl; cases hcl
        | droppedBookmark h => rw [hstop] at h; cases h
    · cases hmerged

lemma count_step (hst : step c w.mux a = some w'.mux) (hbk : c.bookmarks = true)
    (hr : (system c).Reachable w.mux) (hstop : w.mux.shared.stop = false)
    (hs : StreamsReplay R w') (hi : ReplayInv w.mux) :
    w'.mux.shared.out.countP isReplayEnd + w'.mux.tasks.countP Task.endPending =
      w'.mux.shared.replayed.toNat := by
  have hcount := hi.count
  rcases step_cases hst with ⟨i, choice, t, sh', t', started, rfl, ht, hm, heq⟩ | ⟨rfl, -, heq⟩
  swap
  · rw [heq]
    simpa [Task.endPending, Task.pending] using hcount
  have hnew : started.countP Task.endPending = 0 := by
    rw [List.countP_eq_zero]
    intro u hu
    rw [Task.endPending, (hm.started_sound hu).2]
    nofun
  have htasks := countP_step Task.endPending ht t' started
  rcases hm.bookmark_profile with ⟨s, event, pc', rfl, rfl, rfl, rfl, hon⟩ | ⟨-, hrep, hnone, -⟩
  · have hpos : ∀ u ∈ w.folded i s event, u.endOfReplay = true → 0 < u.revision := by
      intro u hu he
      obtain ⟨j, q, hj⟩ := exists_of_mem_streams_set hu pc'
      have hj' : w'.mux.tasks[j]? = some (.forward u q) := by rw [heq]; simpa using hj
      exact (hs.replayed (mem_streams_of_getElem? hj') he).1
    have hpend := endPending_of_folded hbk hi ht hpos hon
    have hsh : sh'.out = w.mux.shared.out ∧ sh'.replayed = (w.mux.shared.replayed ||
        announces c w.mux.shared (w.folded i s event)) := by
      rcases hon with ⟨-, ho⟩ | ⟨merged, -, ho⟩ <;> rw [onBookmark_shared ho] <;> exact ⟨rfl, rfl⟩
    have hbefore : (Task.forward s (.bookmark event)).endPending = false := rfl
    rw [hpend, hbefore] at htasks
    rw [heq]
    show sh'.out.countP isReplayEnd + (w.mux.tasks.set i _ ++ []).countP Task.endPending =
      sh'.replayed.toNat
    rw [hsh.1, hsh.2]
    -- the end of the replay is announced only if it has not been
    cases ha : announces c w.mux.shared (w.folded i s event) with
    | false =>
      rw [ha] at htasks
      simp only [Bool.or_false] at htasks ⊢
      omega
    | true =>
      have hrep : w.mux.shared.replayed = false := by
        simp only [announces, Bool.and_eq_true, Bool.not_eq_true'] at ha
        exact ha.2
      rw [ha] at htasks
      rw [hrep] at hcount ⊢
      simp only [Bool.or_true] at htasks hcount ⊢
      omega
  · have hsafe := safe_of_reachable hr
    have hout := count_of_move hm (sound_of_reachable hr t (List.mem_of_getElem? ht))
      (fun hc => (hsafe.open_of_counted ht hc).2) hstop
    have hafter : t'.endPending = false := by rw [Task.endPending, hnone]; rfl
    rw [hafter] at htasks
    rw [heq]
    show sh'.out.countP isReplayEnd + (w.mux.tasks.set i t' ++ started).countP Task.endPending =
      sh'.replayed.toNat
    rw [hrep]
    simp only [Bool.toNat_false] at htasks
    omega

theorem replayInv_of_reachable [DecidableEq β] (hbk : c.bookmarks = true)
    (hie : c.initialEvents = true)
    (h : ((World.system c).restrict fun w a => replays R w a = true).Reachable w) :
    ReplayInv w.mux := by
  refine h.invariant (P := fun w => ReplayInv w.mux) ?_ ?_
  · rintro _ rfl
    exact ⟨fun hne => absurd rfl hne, rfl⟩
  · intro v a v' hr hv hs
    obtain ⟨hst, -⟩ := World.step_eq_some.mp hs.1
    exact ⟨announced_step hst hie hv, count_step hst hbk (World.reachable_mux hr.mono)
      (working_of_reachable hr).stop (streamsReplay_of_reachable (hr.step hs)) hv⟩

end WatchMux
end KubeZoo
