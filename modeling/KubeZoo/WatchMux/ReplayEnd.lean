import KubeZoo.WatchMux.Replay

/-! # The end of the replay is announced -/

namespace KubeZoo
namespace WatchMux

open Transition

variable {β : Type}

section

variable [DecidableEq β]

def replaySystem (c : Config β) (R : Replay β) : System (World β) (Action β) :=
  (World.system c).restrict fun w a => replays R w a = true

/-- Forwarder `i` is at its select, and upstream has not sent all of its script. -/
def Sends (R : Replay β) (i : ℕ) (w : World β) : Prop :=
  ∃ s, w.mux.tasks[i]? = some (.forward s .select) ∧ ¬ R.script s.namespace <+: w.received i

/-- A fair run in which upstream sends what it has to replay. -/
structure FairReplay {c : Config β} {R : Replay β} (r : Run (replaySystem c R)) : Prop where
  reading : FairReading c (World.muxRun r)
  sends : ∀ i, r.WeakFair (Sends R i) fun _ a => ∃ choice, a = .task i choice

/-- From some time on no namespace is added. -/
def FinitelyJoined {c : Config β} {R : Replay β} (r : Run (replaySystem c R)) : Prop :=
  ∃ N, ∀ n, N ≤ n → ∀ i event, r.label n = some (.task i (.receive event)) →
    (r.state n).mux.tasks[i]? = some (.follow .select) → event.type ≠ .added

variable {c : Config β} {R : Replay β} {r : Run (replaySystem c R)} {n i : ℕ}

lemma working_at (r : Run (replaySystem c R)) (n : ℕ) : Working (r.state n).mux :=
  working_of_reachable (r.reachable n)

variable {pc : ForwardPc β} {st : State β} {s : Stream} {m : ℕ}

omit [DecidableEq β] in
lemma ready_of_open {pc : OpenPc} (ht : st.tasks[i]? = some (.open pc)) (hne : pc ≠ .returned)
    (hw : (Task.open pc : Task β).working = true) : Ready c i st := by
  cases pc with
  | add rest =>
    cases rest with
    | nil =>
      refine ⟨.run, rfl, ?_⟩
      simp only [step, ht]
      rfl
    | cons ns rest =>
      by_cases hns : watched st.tasks ns = true
      · refine ⟨.run, rfl, ?_⟩
        simp only [step, ht, taskStep, openStep, add, if_pos hns]
        rfl
      · refine ⟨.opened, rfl, ?_⟩
        simp only [step, ht, taskStep, openStep, add, if_neg hns]
        rfl
  | follow =>
    refine ⟨.opened, rfl, ?_⟩
    simp only [step, ht]
    rfl
  | spawn =>
    refine ⟨.run, rfl, ?_⟩
    simp only [step, ht]
    rfl
  | fail p => cases hw
  | returned => exact absurd rfl hne
  | failed => cases hw

/-- How far `newWatchMux` is from returning. -/
def OpenPc.rank : OpenPc → ℕ
  | .add rest => rest.length + 3
  | .follow => 2
  | .spawn => 1
  | _ => 0

lemma open_returns (hf : FairReplay r) (d : ℕ) : ∀ n pc, pc.rank = d → pc ≠ .returned →
    (r.state n).mux.tasks[0]? = some (.open pc) →
    ∃ m, n ≤ m ∧ (r.state m).mux.shared.returned = true := by
  induction d using Nat.strong_induction_on with
  | _ d ih =>
  intro n pc hrank hne ht
  have hwork := (working_at r n).tasks _ (List.mem_of_getElem? ht)
  obtain ⟨m, hm, t', choice, hmv⟩ := moves_of_ready (World.muxRun r)
    (hf.reading.scheduled 0) ht fun m _ htm => ready_of_open htm hne hwork
  have hwork' := (working_at r (m + 1)).tasks _ (List.mem_of_getElem? hmv.after)
  have hgo : ∀ pc', t' = .open pc' → pc' ≠ .returned → pc'.rank < pc.rank →
      ∃ m, n ≤ m ∧ (r.state m).mux.shared.returned = true := by
    rintro pc' rfl hne' hlt
    obtain ⟨k, hk, h⟩ := ih _ (by omega) (m + 1) pc' rfl hne' hmv.after
    exact ⟨k, by omega, h⟩
  obtain ⟨started, hmove, -⟩ := hmv.move
  change Move c _ _ _ _ _ (r.state (m + 1)).mux.shared _ _ at hmove
  generalize hsh : (r.state (m + 1)).mux.shared = sh' at hmove
  cases hmove with
  | «open» h =>
    cases h with
    | refused => cases hwork'
    | notFollowed => cases hwork'
    | failing => cases hwork
    | failed => cases hwork
    | returned => exact ⟨m + 1, by omega, by rw [hsh]⟩
    | _ => exact hgo _ rfl nofun (by simp [OpenPc.rank])

lemma returns (hf : FairReplay r) : ∃ m, (r.state m).mux.shared.returned = true := by
  have h0 : r.state 0 = World.initial c := r.init
  obtain ⟨m, -, hm⟩ := open_returns hf _ 0 (.add c.namespaces) rfl nofun (by rw [h0]; rfl)
  exact ⟨m, hm⟩

lemma received_mono (r : Run (replaySystem c R)) (hm : n ≤ m) :
    ((r.state n).received i).length ≤ ((r.state m).received i).length := by
  refine r.stable (P := fun w => ((r.state n).received i).length ≤ (w.received i).length) ?_ hm
    le_rfl
  intro v a v' _ hv hs
  obtain ⟨-, hlog⟩ := World.step_eq_some.mp hs.1
  rw [World.received_append hlog, List.length_append]
  omega

variable {a : Action β} {choice : Choice β} {st' : State β}

lemma received_of_movesAt {t t' : Task β} (h : MovesAt (World.muxRun r) n i t t' choice) :
    (r.state (n + 1)).received i = (r.state n).received i ++ choice.received := by
  rcases r.next n with ⟨hnone, -⟩ | ⟨a, ha, hs⟩
  · have hl := h.label
    rw [show (World.muxRun r).label n = r.label n from rfl, hnone] at hl
    cases hl
  · have hl := h.label
    rw [show (World.muxRun r).label n = r.label n from rfl, ha] at hl
    cases hl
    exact World.received_self (World.step_eq_some.mp hs.1).2

lemma forward_moves (hf : FairReplay r) (hr : (r.state n).mux.shared.returned = true)
    (hend : s.endOfReplay = false) (ht : (r.state n).mux.tasks[i]? = some (.forward s pc)) :
    ∃ m, n ≤ m ∧ ∃ t' choice, MovesAt (World.muxRun r) m i (.forward s pc) t' choice := by
  have hwork := (working_at r n).tasks _ (List.mem_of_getElem? ht)
  have hready : (∀ m, n ≤ m → (r.state m).mux.tasks[i]? = some (.forward s pc) →
      Ready c i (r.state m).mux) → _ := fun h =>
    moves_of_ready (World.muxRun r) (hf.reading.scheduled i) ht h
  have hoffer : ∀ event, (Task.forward s pc).offered = some event → _ := fun event ho =>
    moves_of_ready (World.muxRun r) (hf.reading.reads i) ht
      fun m hm htm => ⟨returned_stable (r := World.muxRun r) hr hm, _, event, htm, ho⟩
  cases pc with
  | select =>
    refine moves_of_scheduled (World.muxRun r) ht fun hall => ?_
    -- upstream has more to send, for otherwise the mark would have been received
    obtain ⟨m, hm, a, ha, choice, rfl⟩ := hf.sends i n (by
      intro m hm
      refine ⟨s, hall m hm, fun hfull => ?_⟩
      have hrep := streamsReplay_of_reachable (r.reachable m) i s .select (hall m hm)
      rw [hrep.2.2.2 hfull] at hend
      cases hend)
    exact ⟨m, hm, choice, ha⟩
  | bookmark event =>
    refine hready fun m _ htm => ⟨.run, rfl, ?_⟩
    simp only [step, htm, taskStep, forwardStep]
    split <;> rfl
  | record revision =>
    refine hready fun m _ htm => ⟨.run, rfl, ?_⟩
    simp only [step, htm]
    rfl
  | sendBookmark merged => exact hoffer merged rfl
  | send event => exact hoffer event rfl
  | _ => cases hwork

/-- How far a forwarder that has received `got` is from its mark. -/
def Replay.left (R : Replay β) (got : List (Event β)) (s : Stream) (pc : ForwardPc β) : ℕ :=
  3 * ((R.script s.namespace).length - got.length) + pc.rank

omit [DecidableEq β] in
lemma left_lt {w : World β} {sh' : Shared β} {s' : Stream} {pc' : ForwardPc β}
    (h : ForwardMove c w.mux.shared w.mux.tasks i s pc choice sh' s' pc')
    (ht : w.mux.tasks[i]? = some (.forward s pc)) (hr : StreamsReplay R w) (hw : Working w.mux)
    (hw' : (Task.forward s' pc').working = true) (hend : s.endOfReplay = false) :
    R.left (w.received i ++ choice.received) s' pc' < R.left (w.received i) s pc := by
  obtain ⟨hgot, -, hpc⟩ := hr i s pc ht
  have hns := h.stream.1
  unfold Replay.left
  rw [hns, List.length_append]
  have hlt : pc = .select → (w.received i).length < (R.script s.namespace).length := by
    rintro rfl
    rcases hgot with hpre | hfull
    · refine lt_of_le_of_ne hpre.length_le fun heq => ?_
      have := hpc.2 (by rw [hpre.eq_of_length heq])
      rw [hend] at this
      cases this
    · have := hpc.2 hfull
      rw [hend] at this
      cases this
  have hstop := hw.stop
  have hwork := hw.tasks _ (List.mem_of_getElem? ht)
  cases h with
  | stopped h | droppedBookmark h | dropped h => rw [hstop] at h; cases h
  | gotBookmark | gotEvent =>
    have := hlt rfl
    simp only [ForwardPc.rank, Choice.received, List.length_singleton]
    omega
  | ended => cases hw'
  | expiring | expired | left => cases hwork
  | _ => simp [ForwardPc.rank, Choice.received]

lemma forward_replays (hf : FairReplay r) (d : ℕ) : ∀ n s pc,
    R.left ((r.state n).received i) s pc = d → (r.state n).mux.shared.returned = true →
    (r.state n).mux.tasks[i]? = some (.forward s pc) →
    ∃ m, n ≤ m ∧ ∃ s' pc', (r.state m).mux.tasks[i]? = some (.forward s' pc') ∧
      s'.endOfReplay = true := by
  induction d using Nat.strong_induction_on with
  | _ d ih =>
  intro n s pc hleft hr ht
  by_cases hend : s.endOfReplay = true
  · exact ⟨n, le_rfl, s, pc, ht, hend⟩
  rw [Bool.not_eq_true] at hend
  obtain ⟨m, hm, t', choice, hmv⟩ := forward_moves hf hr hend ht
  have hrm : (r.state (m + 1)).mux.shared.returned = true :=
    returned_stable (r := World.muxRun r) hr (by omega)
  have hafter : (r.state (m + 1)).mux.tasks[i]? = some t' := hmv.after
  have hbefore : (r.state m).mux.tasks[i]? = some (.forward s pc) := hmv.before
  have hrec := received_of_movesAt hmv
  have hwork' := (working_at r (m + 1)).tasks _ (List.mem_of_getElem? hafter)
  obtain ⟨sh', started, hmove⟩ := hmv.toMove
  cases hmove with
  | @forward _ s' _ pc' _ _ h =>
    have hlt := left_lt h hbefore (streamsReplay_of_reachable (r.reachable m)) (working_at r m)
      hwork' hend
    have hmono := received_mono (i := i) r hm
    have hle : R.left ((r.state m).received i) s pc ≤ R.left ((r.state n).received i) s pc := by
      unfold Replay.left
      omega
    obtain ⟨k, hk, h⟩ := ih _ (by rw [hrec]; omega) (m + 1) s' pc' rfl hrm hafter
    exact ⟨k, by omega, h⟩

omit [DecidableEq β] in
lemma endOfReplay_stable (r : Run (system c)) (ht : (r.state n).tasks[i]? = some (.forward s pc))
    (hs : s.endOfReplay = true) (hm : n ≤ m) :
    ∃ s' pc', (r.state m).tasks[i]? = some (.forward s' pc') ∧ s'.endOfReplay = true := by
  refine r.stable (P := fun st => ∃ s' pc', st.tasks[i]? = some (.forward s' pc') ∧
    s'.endOfReplay = true) ?_ hm ⟨s, pc, ht, hs⟩
  rintro st a st' - ⟨s, pc, ht, hs⟩ hst
  rcases getElem?_step hst ht with h | ⟨choice, sh', t', started, -, hmv, rfl⟩
  · exact ⟨s, pc, h, hs⟩
  · cases hmv with
    | @forward _ s' _ pc' _ _ h =>
      refine ⟨s', pc', getElem?_moved ht _ _, ?_⟩
      cases h with
      | folded | merged => simp [Stream.fold, hs]
      | recorded =>
        unfold Stream.record
        split
        · exact hs
        · split <;> exact hs
      | _ => exact hs

lemma joins_retire (hf : FairReplay r)
    (hfin : ∀ m, n ≤ m → ∀ i event, r.label m = some (.task i (.receive event)) →
      (r.state m).mux.tasks[i]? = some (.follow .select) → event.type ≠ .added) :
    ∃ m, n ≤ m ∧ ∀ l, m ≤ l → ∀ t ∈ (r.state l).mux.tasks, t.kind = .join → t.counted = false := by
  refine kind_eventually (World.muxRun r) (k := .join) nofun (P := fun t => t.counted = false) ?_ ?_
  · intro m hm j t choice sh' t' started hl ht hmv u hu huk
    obtain ⟨hkind, -⟩ := (hmv.started_kind hu).2.1 huk
    cases hmv with
    | follow h =>
      cases h with
      | added he => exact hfin m hm j _ hl ht he
      | _ => cases hu
    | _ => cases hkind
  · intro i t ht hk
    cases t with
    | join ns rv pc =>
      have hexp : ∀ m p, n ≤ m → ((World.muxRun r).state m).tasks[i]? =
          some (.join ns rv (.expire p)) → ∃ k, m ≤ k ∧ ∃ u,
            ((World.muxRun r).state k).tasks[i]? = some u ∧ u.counted = false := by
        intro m p _ htm
        have := (working_at r m).tasks _ (List.mem_of_getElem? htm)
        cases this
      obtain ⟨m, hm, u, hu, hc⟩ := join_retires hf.reading.toFair hexp _ n pc rfl le_rfl ht
      exact ⟨m, hm, fun l hl => uncounted_stable (World.muxRun r) hl hu hc⟩
    | _ => cases hk

lemma streams_replay (hf : FairReplay r) (hr : (r.state n).mux.shared.returned = true)
    (hjoin : ∀ l, n ≤ l → ∀ t ∈ (r.state l).mux.tasks, t.kind = .join → t.counted = false) :
    ∃ m, n ≤ m ∧ ∀ s ∈ streams (r.state m).mux.tasks, s.endOfReplay = true := by
  obtain ⟨m, hm, hall⟩ := kind_eventually (World.muxRun r) (n := n) (k := .forward) nofun
    (P := fun t => ∀ s pc, t = .forward s pc → s.endOfReplay = true) (by
      intro m hm j t choice sh' t' started _ ht hmv u hu huk
      rcases (hmv.started_kind hu).2.2 huk with ho | ⟨hkind, hcount⟩
      · have hret := returned_stable (r := World.muxRun r) hr hm
        rw [(safe_of_reachable ((World.muxRun r).reachable m)).opening_of_returned hret ht] at ho
        cases ho
      · rw [hjoin m hm t (List.mem_of_getElem? ht) hkind] at hcount
        cases hcount) (by
      intro i t ht hk
      cases t with
      | forward s pc =>
        obtain ⟨m, hm, s', pc', ht', hs'⟩ := forward_replays hf _ n s pc rfl hr ht
        refine ⟨m, hm, fun l hl u hu v q huv => ?_⟩
        obtain ⟨v', q', hv', hend⟩ := endOfReplay_stable (World.muxRun r) ht' hs' hl
        rw [hu, huv] at hv'
        cases hv'
        exact hend
      | _ => cases hk)
  refine ⟨m, hm, fun s hs => ?_⟩
  obtain ⟨i, pc, hi⟩ := exists_of_mem_streams hs
  exact hall m le_rfl _ (List.mem_of_getElem? hi) rfl s pc rfl

omit [DecidableEq β] in
lemma streams_ne_nil (hst : (system c).Reachable st) (hr : st.shared.returned = true)
    (hne : c.namespaces ≠ []) : streams st.tasks ≠ [] := by
  obtain ⟨ns, hns⟩ := List.exists_mem_of_ne_nil _ hne
  have hopen := List.mem_of_getElem? (returned_first hst hr)
  have hw : watched st.tasks ns = true :=
    ((leftInv_of_reachable hst).listed _ hopen [] rfl ns hns).resolve_left nofun
  intro hnil
  unfold watched at hw
  rw [hnil] at hw
  cases hw

theorem announces_eventually (hf : FairReplay r) (hfin : FinitelyJoined r)
    (hbk : c.bookmarks = true) (hie : c.initialEvents = true) (hne : c.namespaces ≠ []) :
    ∃ m, (r.state m).mux.shared.replayed = true := by
  obtain ⟨n, hn⟩ := returns hf
  obtain ⟨N, hN⟩ := hfin
  have hret : ∀ m, n ≤ m → (r.state m).mux.shared.returned = true := fun m hm =>
    returned_stable (r := World.muxRun r) hn hm
  obtain ⟨m₁, hm₁, hjoin⟩ := joins_retire (n := max n N) hf
    fun m hm => hN m ((le_max_right _ _).trans hm)
  have hn₁ : n ≤ m₁ := (le_max_left _ _).trans hm₁
  obtain ⟨m₂, hm₂, hall⟩ := streams_replay hf (hret m₁ hn₁) hjoin
  refine ⟨m₂, (replayInv_of_reachable hbk hie (r.reachable m₂)).announced ?_ hall⟩
  exact streams_ne_nil (World.reachable_mux (r.reachable m₂).mono) (hret m₂ (by omega)) hne

omit [DecidableEq β] in
lemma replayed_step (h : step c st a = some st') (hr : st.shared.replayed = true) :
    st'.shared.replayed = true := by
  refine step_induction (P := fun st => st.shared.replayed = true) h hr ?_
  intro i choice t sh' t' started _ hm
  rcases hm.bookmark_profile with ⟨s, event, pc', -, -, -, -, hon⟩ | ⟨-, hrep, -⟩
  · rcases hon with ⟨-, ho⟩ | ⟨merged, -, ho⟩ <;>
    · show sh'.replayed = true
      rw [onBookmark_shared ho]
      simp [hr]
  · exact hrep.trans hr

omit [DecidableEq β] in
lemma out_grows (r : Run (system c)) (hm : n ≤ m) :
    (r.state n).shared.out <+: (r.state m).shared.out := by
  refine r.stable (P := fun st => (r.state n).shared.out <+: st.shared.out) ?_ hm
    (List.prefix_refl _)
  intro st a st' _ hp hs
  obtain ⟨l, hl⟩ := out_step hs
  rw [hl]
  exact hp.trans (List.prefix_append _ _)

lemma replayEnds_le_one (r : Run (replaySystem c R)) (hbk : c.bookmarks = true)
    (hie : c.initialEvents = true) (m : ℕ) :
    (r.state m).mux.shared.out.countP isReplayEnd ≤ 1 := by
  have hcount := (replayInv_of_reachable hbk hie (r.reachable m)).count
  have := Bool.toNat_le (r.state m).mux.shared.replayed
  omega

theorem emits_eventually (hf : FairReplay r) (hbk : c.bookmarks = true)
    (hie : c.initialEvents = true) (hret : (r.state n).mux.shared.returned = true)
    (hrep : (r.state n).mux.shared.replayed = true) :
    ∃ m, n ≤ m ∧ 0 < (r.state m).mux.shared.out.countP isReplayEnd := by
  have hcount := (replayInv_of_reachable hbk hie (r.reachable n)).count
  rw [hrep] at hcount
  by_cases hout : 0 < (r.state n).mux.shared.out.countP isReplayEnd
  · exact ⟨n, le_rfl, hout⟩
  have hpend : 0 < (r.state n).mux.tasks.countP Task.endPending := by
    rw [Bool.toNat_true] at hcount
    omega
  obtain ⟨t, ht, hte⟩ := List.countP_pos_iff.mp hpend
  obtain ⟨i, hi⟩ := List.mem_iff_getElem?.mp ht
  obtain ⟨merged, hmerged, -⟩ := (Option.any_eq_true _ _).mp hte
  have hoff : t.offered = some merged := by
    unfold Task.pending at hmerged
    split at hmerged
    · exact hmerged
    · cases hmerged
  -- the client takes it, and then it has it
  obtain ⟨m, hm, t', choice, hmv⟩ := moves_of_ready (World.muxRun r) (hf.reading.reads i) hi
    fun m hm htm => ⟨returned_stable (r := World.muxRun r) hret hm, t, merged, htm, hoff⟩
  obtain ⟨started, hmove, -⟩ := hmv.move
  have hreach := (World.muxRun r).reachable m
  have hgrow := count_of_move hmove (sound_of_reachable hreach t (List.mem_of_getElem? hmv.before))
    (fun hc => ((safe_of_reachable hreach).open_of_counted hmv.before hc).2)
    (working_at r m).stop
  refine ⟨m + 1, by omega, ?_⟩
  rw [hte] at hgrow
  show 0 < ((World.muxRun r).state (m + 1)).shared.out.countP isReplayEnd
  omega

omit [DecidableEq β] in
lemma announced_at (h : step c st a = some st') (hno : st.shared.replayed = false)
    (hrep : st'.shared.replayed = true) :
    (∀ s ∈ streams st'.tasks, s.endOfReplay = true) ∧ st'.shared.out = st.shared.out := by
  rcases step_cases h with ⟨i, choice, t, sh', t', started, rfl, ht, hm, rfl⟩ | ⟨rfl, -, rfl⟩
  swap
  · rw [hno] at hrep; cases hrep
  rcases hm.bookmark_profile with ⟨s, event, pc', rfl, rfl, rfl, rfl, hon⟩ | ⟨-, hsame, -⟩
  · have hsh : sh'.out = st.shared.out ∧ sh'.replayed = (st.shared.replayed || announces c
        st.shared (streams (st.tasks.set i (.forward (s.fold event) .select)))) := by
      rcases hon with ⟨-, ho⟩ | ⟨merged, -, ho⟩ <;> rw [onBookmark_shared ho] <;> exact ⟨rfl, rfl⟩
    refine ⟨fun u hu => ?_, hsh.1⟩
    have ha : sh'.replayed = true := hrep
    rw [hsh.2, hno, Bool.false_or] at ha
    simp only [announces, Bool.and_eq_true, List.all_eq_true] at ha
    refine ha.1.2 u ?_
    obtain ⟨j, q, hj⟩ := exists_of_mem_streams_set (by simpa using hu) .select
    exact mem_streams_of_getElem? hj
  · rw [show sh'.replayed = true from hrep, hno] at hsame
    cases hsame

lemma exists_announced_at (r : Run (replaySystem c R)) (hm : (r.state m).mux.shared.replayed =
    true) :
    ∃ n, (r.state n).mux.shared.replayed = false ∧
      (r.state (n + 1)).mux.shared.replayed = true := by
  induction m with
  | zero =>
    have h0 : r.state 0 = World.initial c := r.init
    rw [h0] at hm
    cases hm
  | succ m ih =>
    by_cases hrep : (r.state m).mux.shared.replayed = true
    · exact ih hrep
    · exact ⟨m, by simpa using hrep, hm⟩

lemma out_before_replayEnd (r : Run (replaySystem c R)) (hbk : c.bookmarks = true)
    (hie : c.initialEvents = true) (hno : (r.state n).mux.shared.replayed = false)
    {pre : List (Event β)} {b : Event β} (hb : isReplayEnd b = true)
    (hpre : pre ++ [b] <+: (r.state m).mux.shared.out) : (r.state n).mux.shared.out <+: pre := by
  have hcount := (replayInv_of_reachable hbk hie (r.reachable n)).count
  rw [hno, Bool.toNat_false] at hcount
  have hnone : b ∉ (r.state n).mux.shared.out := by
    intro hmem
    have := List.countP_pos_iff.mpr ⟨b, hmem, hb⟩
    omega
  have hb_not : ¬ pre ++ [b] <+: (r.state n).mux.shared.out := fun h =>
    hnone (h.subset (by simp))
  rcases le_total m n with hmn | hnm
  · exact absurd (hpre.trans (out_grows (World.muxRun r) hmn)) hb_not
  · -- both are prefixes of one list, and the shorter one has no mark
    rcases List.prefix_or_prefix_of_prefix (out_grows (World.muxRun r) hnm) hpre with h | h
    · rcases List.prefix_concat_iff.mp h with heq | h
      · exact absurd (heq ▸ (by simp : b ∈ pre ++ [b])) hnone
      · exact h
    · exact absurd h hb_not

/-- With bookmarks allowed and initial events asked for, in a fair run in which nothing fails
and the client reads, exactly one bookmark ends the merged replay; and there is one moment at
which it is computed, from streams whose initial events the client has all been handed before
the bookmark. -/
theorem replay_end_once (c : Config β) (R : Replay β) (hbk : c.bookmarks = true)
    (hie : c.initialEvents = true) (hne : c.namespaces ≠ []) (r : Run (replaySystem c R))
    (hf : FairReplay r) (hfin : FinitelyJoined r) :
    (∀ m, (r.state m).mux.shared.out.countP isReplayEnd ≤ 1) ∧
    (∃ m, ∀ k, m ≤ k → (r.state k).mux.shared.out.countP isReplayEnd = 1) ∧
    ∃ n, (r.state n).mux.shared.replayed = false ∧
      (∀ k, n < k → (r.state k).mux.shared.replayed = true) ∧
      ∀ m pre b, pre ++ [b] <+: (r.state m).mux.shared.out → isReplayEnd b = true →
        ∀ s ∈ streams (r.state (n + 1)).mux.tasks, ∀ e ∈ R.initial s.namespace, e ∈ pre := by
  have hstable : ∀ {n m}, (r.state n).mux.shared.replayed = true → n ≤ m →
      (r.state m).mux.shared.replayed = true := fun h hm =>
    (World.muxRun r).stable (P := fun st => st.shared.replayed = true)
      (fun _ _ _ _ h hs => replayed_step hs h) hm h
  obtain ⟨m, hm⟩ := announces_eventually hf hfin hbk hie hne
  refine ⟨replayEnds_le_one r hbk hie, ?_, ?_⟩
  · obtain ⟨n, hret⟩ := returns hf
    obtain ⟨k, -, hk⟩ := emits_eventually (n := max n m) hf hbk hie
      (returned_stable (r := World.muxRun r) hret (le_max_left _ _))
      (hstable hm (le_max_right _ _))
    refine ⟨k, fun l hl => le_antisymm (replayEnds_le_one r hbk hie l) ?_⟩
    exact lt_of_lt_of_le hk ((out_grows (World.muxRun r) hl).sublist.countP_le)
  · obtain ⟨n, hno, hyes⟩ := exists_announced_at r hm
    refine ⟨n, hno, fun k hk => hstable hyes hk, fun m pre b hpre hb s hs e he => ?_⟩
    obtain ⟨hall, hout⟩ : (∀ s ∈ streams (r.state (n + 1)).mux.tasks, s.endOfReplay = true) ∧
        (r.state (n + 1)).mux.shared.out = (r.state n).mux.shared.out := by
      rcases r.next n with ⟨-, heq⟩ | ⟨a, -, hs⟩
      · rw [heq, hno] at hyes; cases hyes
      · exact announced_at (World.step_eq_some.mp hs.1).1 hno hyes
    have hmem := ((streamsReplay_of_reachable (r.reachable (n + 1))).replayed hs (hall s hs)).2 e he
    rw [hout] at hmem
    exact (out_before_replayEnd r hbk hie hno hb hpre).subset hmem

end

def Task.idle : Task β → Bool
  | .open .returned => true
  | .forward _ .select => true
  | .follow .select => true
  | .join _ _ .retired => true
  | .closer .wait => true
  | _ => false

section

variable {c : Config β} {st : State β}

lemma not_ready_of_idle (hall : ∀ t ∈ st.tasks, t.idle = true) (hstop : st.shared.stop = false)
    (hpos : st.shared.forwarder ≠ 0) (i : ℕ) : ¬ Ready c i st := by
  rintro ⟨choice, hown, hs⟩
  cases ht : st.tasks[i]? with
  | none => simp [step, ht] at hs
  | some t =>
    have hidle := hall t (List.mem_of_getElem? ht)
    simp only [step] at hs
    unfold Task.idle at hidle
    split at hidle <;> cases choice <;>
      simp_all [Choice.own, taskStep, openStep, forwardStep, followStep, joinStep, closerStep]

lemma not_offers_of_idle (hall : ∀ t ∈ st.tasks, t.idle = true) (i : ℕ) : ¬ Offers i st := by
  rintro ⟨-, t, event, ht, hoff⟩
  have hidle := hall t (List.mem_of_getElem? ht)
  unfold Task.idle at hidle
  split at hidle <;> simp_all [Task.offered]

lemma fairReplay_of_idle [DecidableEq β] {R : Replay β} (r : Run (replaySystem c R)) {w : World β}
    {N : ℕ} (hrest : ∀ n, N ≤ n → r.state n = w) (hall : ∀ t ∈ w.mux.tasks, t.idle = true)
    (hstop : w.mux.shared.stop = false) (hpos : w.mux.shared.forwarder ≠ 0)
    (hsent : ∀ i, ¬ Sends R i w) : FairReplay r := by
  have hmux : ∀ n, N ≤ n → (World.muxRun r).state n = w.mux := fun n hn => by
    show (r.state n).mux = w.mux
    rw [hrest n hn]
  refine ⟨⟨⟨fun i => ?_, fun i => ?_⟩, fun i => ?_⟩, fun i => ?_⟩
  · refine Run.weakFair_of_rest _ (N := N) fun n hn => ?_
    rw [hmux n hn]
    exact not_ready_of_idle hall hstop hpos i
  · refine Run.strongFair_of_rest _ (N := N) fun n hn => ?_
    rw [hmux n hn]
    rintro ⟨h, -⟩
    rw [hstop] at h
    cases h
  · refine Run.weakFair_of_rest _ (N := N) fun n hn => ?_
    rw [hmux n hn]
    exact not_offers_of_idle hall i
  · refine Run.weakFair_of_rest _ (N := N) fun n hn => ?_
    rw [hrest n hn]
    exact hsent i

end

section

private def watchList : Config Unit where
  options := { resourceVersion := "0", allowWatchBookmarks := true, sendInitialEvents := some true }
  namespaces := ["team-a"]
  describe := fun _ => ""

private def present (ns : String) : Event Unit :=
  ⟨.added, .object { name := "web", «namespace» := ns, resourceVersion := "3" } ()⟩

private def replayMark : Event Unit :=
  ⟨.bookmark, .object { resourceVersion := "5", annotations :=
    (∅ : StringMap).insert initialEventsEndAnnotation "true" } ()⟩

private def oneObject : Replay Unit where
  initial := fun ns => [present ns]
  mark := fun _ => replayMark
  initial_type := by
    intro ns event h
    rw [List.mem_singleton.mp h]
    nofun
  mark_end := fun _ => by decide +kernel
  mark_revision := fun _ => by decide +kernel

private def created : Event Unit := ⟨.added, .object { name := "team-b", resourceVersion := "4" } ()⟩

/-- `team-b` is joined after `team-a` has sent its object, and before it sends its mark. -/
private def joinedMeanwhile : List (Action Unit) :=
  [.task 0 .opened, .task 0 .run, .task 0 .opened, .task 0 .run,
    .task 1 (.receive (present "team-a")), .task 1 .deliver, .task 1 .run,
    .task 2 (.receive created), .task 4 .opened, .task 4 .run,
    .task 1 (.receive replayMark), .task 1 .run, .task 1 .deliver,
    .task 5 (.receive (present "team-b")), .task 5 .deliver, .task 5 .run,
    .task 5 (.receive replayMark), .task 5 .run, .task 5 .deliver]

private def afterJoined : World Unit :=
  (exec (World.step watchList) (World.initial watchList) joinedMeanwhile).getD
    (World.initial watchList)

private theorem exec_joinedMeanwhile :
    exec (fun w a => if replays oneObject w a then World.step watchList w a else none)
      (World.initial watchList) joinedMeanwhile = some afterJoined := by
  decide +kernel

private def joinedRun : Run (replaySystem watchList oneObject) :=
  Run.ofExecRestrict rfl exec_joinedMeanwhile

private theorem joinedRun_state {n : ℕ} (hn : 19 ≤ n) : joinedRun.state n = afterJoined :=
  Run.ofExec_state rfl exec_joinedMeanwhile hn

private theorem sent_afterJoined (i : ℕ) : ¬ Sends oneObject i afterJoined := by
  rintro ⟨s, ht, hmore⟩
  have hall : ∀ j : Fin 6, (afterJoined.mux.tasks[j.val]?).all (fun t =>
      t.stream?.all fun s => decide (oneObject.script s.namespace <+: afterJoined.received j.val)) =
        true := by
    decide +kernel
  have hlen : afterJoined.mux.tasks.length = 6 := by decide +kernel
  have hi : i < 6 := hlen ▸ (List.getElem?_eq_some_iff.mp ht).1
  have := hall ⟨i, hi⟩
  rw [ht] at this
  exact hmore (of_decide_eq_true this)

private theorem fairReplay_joinedRun : FairReplay joinedRun := by
  refine fairReplay_of_idle joinedRun (N := 19) (fun n hn => joinedRun_state hn) ?_ ?_ ?_
    sent_afterJoined
  · have hidle : afterJoined.mux.tasks.all Task.idle = true := by decide +kernel
    exact fun t ht => List.all_eq_true.mp hidle t ht
  · decide +kernel
  · decide +kernel

private theorem finitelyJoined_joinedRun : FinitelyJoined joinedRun := by
  refine ⟨19, fun n hn i event hl _ => ?_⟩
  have hnone : joinedRun.label n = none := List.getElem?_eq_none hn
  rw [hnone] at hl
  cases hl

theorem replay_end_once_joinedRun :
    FairReplay joinedRun ∧ FinitelyJoined joinedRun ∧
      ∃ m, ∀ k, m ≤ k → (joinedRun.state k).mux.shared.out.countP isReplayEnd = 1 := by
  refine ⟨fairReplay_joinedRun, finitelyJoined_joinedRun, ?_⟩
  exact (replay_end_once watchList oneObject rfl rfl nofun joinedRun fairReplay_joinedRun
    finitelyJoined_joinedRun).2.1

end

end WatchMux
end KubeZoo
