import KubeZoo.WatchMux.World

/-! # Bookmarks as resume points -/

namespace KubeZoo

variable {β : Type}

def Event.isObject (event : Event β) : Bool :=
  match event.type with
  | .bookmark => false
  | .error => false
  | _ => true

structure History (β : Type) where
  events : List (String × Event β)
  objects : ∀ h ∈ events, h.2.isObject = true
  ordered : events.Pairwise fun h h' => eventRevision h.2 < eventRevision h'.2

namespace History

/-- What a watch on namespace `ns` from revision `start` has to deliver. -/
def after (H : History β) (ns : String) (start : ℕ) : List (Event β) :=
  (H.events.filter fun h => h.1 == ns && decide (start < eventRevision h.2)).map Prod.snd

variable {H : History β} {ns : String} {start : ℕ}

lemma mem_after {event : Event β} :
    event ∈ H.after ns start ↔ (ns, event) ∈ H.events ∧ start < eventRevision event := by
  simp only [after, List.mem_map, List.mem_filter, Bool.and_eq_true, beq_iff_eq, decide_eq_true_eq]
  constructor
  · rintro ⟨⟨ns', e⟩, ⟨hmem, rfl, hlt⟩, rfl⟩
    exact ⟨hmem, hlt⟩
  · rintro ⟨hmem, hlt⟩
    exact ⟨(ns, event), ⟨hmem, rfl, hlt⟩, rfl⟩

lemma after_ordered :
    (H.after ns start).Pairwise fun e e' => eventRevision e < eventRevision e' := by
  unfold after
  rw [List.pairwise_map]
  exact H.ordered.filter _

lemma mem_of_prefix {objs : List (Event β)} {last event : Event β}
    (hpre : objs ++ [last] <+: H.after ns start) (hmem : event ∈ H.after ns start)
    (hle : eventRevision event ≤ eventRevision last) : event ∈ objs ++ [last] := by
  obtain ⟨rest, hrest⟩ := hpre
  have hord : ((objs ++ [last]) ++ rest).Pairwise
      fun e e' => eventRevision e < eventRevision e' := by
    rw [hrest]; exact after_ordered
  rw [← hrest] at hmem
  rcases List.mem_append.mp hmem with h | h
  · exact h
  · have hlt := (List.pairwise_append.mp hord).2.2 last (by simp) event h
    omega

end History

namespace WatchMux

open Transition

/-- The object events goroutine `i` has received. -/
def World.objects (w : World β) (i : ℕ) : List (Event β) := (w.received i).filter Event.isObject

def upstream [DecidableEq β] (H : History β) (w : World β) : Action β → Bool
  | .task i (.receive event) =>
    match w.mux.tasks[i]? with
    | some (.forward s _) =>
      let all := H.after s.namespace (parseRevision s.resourceVersion)
      match event.type with
      | .bookmark => all.all fun e =>
          decide (eventRevision e ≤ eventRevision event → e ∈ w.objects i)
      | .error => event.object.accessor.isNone
      | _ => decide (w.objects i ++ [event] <+: all)
    | _ => true
  | _ => true

def noticed (c : Config β) (H : History β) (st : State β) : Action β → Bool
  | .task i .run =>
    match st.tasks[i]? with
    | some (.forward s (.bookmark event)) =>
      let ss := streams (st.tasks.set i (.forward (s.fold event) .select))
      H.events.all fun h =>
        decide (parseRevision c.options.resourceVersion < eventRevision h.2 →
          (∀ u ∈ ss, eventRevision h.2 ≤ u.revision) →
          ∃ u ∈ ss, u.namespace = h.1 ∧ parseRevision u.resourceVersion < eventRevision h.2)
    | _ => true
  | _ => true

def SafeResume (H : History β) (start : ℕ) (out : List (Event β)) : Prop :=
  ∀ pre b, pre ++ [b] <+: out → b.type = .bookmark →
    ∀ h ∈ H.events, start < eventRevision h.2 → eventRevision h.2 ≤ eventRevision b → h.2 ∈ pre

/-- What a forwarder has got done. `all` is what its stream has to deliver and `objs` what it
has delivered: everything up to the revision it reports has been handed over. -/
def Delivers (all objs out : List (Event β)) (s : Stream) (pc : ForwardPc β) : Prop :=
  objs <+: all ∧ (∀ e ∈ all, eventRevision e ≤ s.revision → e ∈ out) ∧
    match pc with
    | .select => ∀ e ∈ objs, e ∈ out
    | .sendBookmark _ => ∀ e ∈ objs, e ∈ out
    | .bookmark event => (∀ e ∈ objs, e ∈ out) ∧
        ∀ e ∈ all, eventRevision e ≤ eventRevision event → e ∈ objs
    | .send event =>
        (∃ prev, objs = prev ++ [event] ∧ ∀ e ∈ prev, e ∈ out) ∨
          ((∀ e ∈ objs, e ∈ out) ∧ eventRevision event = 0)
    | .record revision => (∀ e ∈ objs, e ∈ out) ∧ ∀ e ∈ all, eventRevision e ≤ revision → e ∈ out
    | _ => True

section

variable {c : Config β} {H : History β} {w w' : World β} {a : Action β} {choice : Choice β} {i : ℕ}
  {all objs out out' : List (Event β)} {s s' : Stream} {pc pc' : ForwardPc β} {sh sh' : Shared β}
  {tasks : List (Task β)}

lemma Delivers.mono (h : Delivers all objs out s pc) (hsub : ∀ e ∈ out, e ∈ out') :
    Delivers all objs out' s pc := by
  obtain ⟨hpre, hbase, hpc⟩ := h
  refine ⟨hpre, fun e he hle => hsub e (hbase e he hle), ?_⟩
  cases pc with
  | select | sendBookmark merged => exact fun e he => hsub e (hpc e he)
  | bookmark event => exact ⟨fun e he => hsub e (hpc.1 e he), hpc.2⟩
  | send event =>
    rcases hpc with ⟨prev, hprev, hin⟩ | ⟨hin, h0⟩
    · exact .inl ⟨prev, hprev, fun e he => hsub e (hin e he)⟩
    · exact .inr ⟨fun e he => hsub e (hin e he), h0⟩
  | record revision =>
    exact ⟨fun e he => hsub e (hpc.1 e he), fun e he hle => hsub e (hpc.2 e he hle)⟩
  | _ => trivial

lemma Delivers.opened (H : History β) (ns rv : String) :
    Delivers (H.after ns (parseRevision rv)) [] out ⟨ns, rv, parseRevision rv, false⟩ .select := by
  refine ⟨List.nil_prefix, ?_, nofun⟩
  intro e he hle
  have hlt := (History.mem_after.mp he).2
  change eventRevision e ≤ parseRevision rv at hle
  omega

lemma Delivers.step {ns : String} {start : ℕ}
    (h : ForwardMove c sh tasks i s pc choice sh' s' pc') (hne : ∀ event, choice ≠ .receive event)
    (hc : sh.closed = false) (hd : Delivers (H.after ns start) objs sh.out s pc) :
    Delivers (H.after ns start) objs sh'.out s' pc' := by
  obtain ⟨hpre, hbase, hpc⟩ := id hd
  have hexpire : ∀ {p q}, ExpireMove sh (endedReason s.namespace) p choice sh' q →
      ∀ e ∈ H.after ns start, eventRevision e ≤ s.revision → e ∈ sh'.out := by
    intro p q he e hmem hle
    rcases he.out with ho | ⟨-, ho⟩ <;> rw [ho]
    · exact hbase e hmem hle
    · exact List.mem_append_left _ (hbase e hmem hle)
  cases h with
  | stopped | ended | dropped => exact ⟨hpre, hbase, trivial⟩
  | gotBookmark | gotEvent => exact absurd rfl (hne _)
  | folded ho | merged ho =>
    obtain ⟨b, w, rfl⟩ := onBookmark_frame ho
    refine ⟨hpre, fun e he hle => ?_, hpc.1⟩
    -- the revision the stream reports now is its old one or the bookmark's
    simp only [Stream.fold] at hle
    split at hle
    · exact hpc.1 e (hpc.2 e he hle)
    · exact hbase e he hle
  | sentBookmark hand =>
    cases hand with
    | taken => exact Delivers.mono ⟨hpre, hbase, hpc⟩ fun e he => List.mem_append_left _ he
    | onClosed _ hcl => rw [hc] at hcl; cases hcl
  | droppedBookmark => exact ⟨hpre, hbase, hpc⟩
  | @sent event _ hand =>
    cases hand with
    | onClosed _ hcl => rw [hc] at hcl; cases hcl
    | taken =>
      refine ⟨hpre, fun e he hle => List.mem_append_left _ (hbase e he hle), ?_⟩
      rcases hpc with ⟨prev, rfl, hin⟩ | ⟨hin, h0⟩
      · have hout : ∀ e ∈ prev ++ [event], e ∈ sh.out ++ [event] := by
          intro e he
          rcases List.mem_append.mp he with he | he
          · exact List.mem_append_left _ (hin e he)
          · exact List.mem_append_right _ he
        exact ⟨hout, fun e he hle => hout e (History.mem_of_prefix hpre he hle)⟩
      · refine ⟨fun e he => List.mem_append_left _ (hin e he), fun e he hle => ?_⟩
        have hlt := (History.mem_after.mp he).2
        omega
  | @recorded revision =>
    refine ⟨hpre, fun e he hle => ?_, hpc.1⟩
    unfold Stream.record at hle
    split at hle
    · exact hbase e he hle
    · split at hle
      · exact hpc.2 e he hle
      · exact hbase e he hle
  | expiring he | expired he => exact ⟨hpre, hexpire he, trivial⟩
  | left =>
    obtain ⟨n, p, hdone⟩ := done_frame sh
    rw [hdone]
    exact ⟨hpre, hbase, trivial⟩

lemma Delivers.receive [DecidableEq β] {event : Event β}
    (h : ForwardMove c w.mux.shared w.mux.tasks i s pc (.receive event) sh' s' pc')
    (ht : w.mux.tasks[i]? = some (.forward s pc))
    (hup : upstream H w (.task i (.receive event)) = true)
    (hd : Delivers (H.after s.namespace (parseRevision s.resourceVersion)) (w.objects i)
      w.mux.shared.out s pc) :
    Delivers (H.after s.namespace (parseRevision s.resourceVersion))
      ((w.received i ++ [event]).filter Event.isObject) sh'.out s' pc' := by
  obtain ⟨hpre, hbase, hpc⟩ := hd
  simp only [upstream, ht] at hup
  rw [List.filter_append]
  change Delivers _ (w.objects i ++ _) _ _ _
  cases h with
  | gotBookmark hb =>
    rw [hb] at hup
    simp only [List.all_eq_true, decide_eq_true_eq] at hup
    have hobj : [event].filter Event.isObject = [] := by simp [Event.isObject, hb]
    rw [hobj, List.append_nil]
    exact ⟨hpre, hbase, hpc, hup⟩
  | gotEvent hb =>
    by_cases he : event.type = .error
    · rw [he] at hup
      have hobj : [event].filter Event.isObject = [] := by simp [Event.isObject, he]
      rw [hobj, List.append_nil]
      refine ⟨hpre, hbase, .inr ⟨hpc, ?_⟩⟩
      unfold eventRevision
      rw [Option.isNone_iff_eq_none.mp hup]
    · have hobj : [event].filter Event.isObject = [event] := by
        cases hty : event.type <;> simp_all [Event.isObject]
      rw [hobj]
      have hup' : w.objects i ++ [event] <+: H.after s.namespace (parseRevision s.resourceVersion) := by
        cases hty : event.type <;> simp_all
      exact ⟨hup', hbase, .inl ⟨_, rfl, hpc⟩⟩
  | expiring he => cases he
  | expired he => cases he

def StreamsDeliver (H : History β) (w : World β) : Prop :=
  ∀ i s pc, w.mux.tasks[i]? = some (.forward s pc) →
    Delivers (H.after s.namespace (parseRevision s.resourceVersion)) (w.objects i)
      w.mux.shared.out s pc

lemma ForwardMove.counted (h : ForwardMove c sh tasks i s pc choice sh' s' pc') :
    (Task.forward s pc).counted = true := by
  cases h with
  | _ => rfl

lemma streamsDeliver_step [DecidableEq β] (hr : (World.system c).Reachable w)
    (h : World.step c w a = some w') (hup : upstream H w a = true) (hi : StreamsDeliver H w) :
    StreamsDeliver H w' := by
  refine World.forwarders_step (P := fun got out s pc =>
    Delivers (H.after s.namespace (parseRevision s.resourceVersion))
      (got.filter Event.isObject) out s pc) hr h ?_ ?_ ?_ hi
  · intro got out out' s pc hsub hd
    exact hd.mono hsub
  · intro out ns rv
    exact Delivers.opened H ns rv
  · rintro i choice s pc sh' s' pc' rfl ht hf - hd
    obtain ⟨hns, hrv⟩ := hf.stream
    rw [hns, hrv]
    by_cases hrec : ∃ event, choice = .receive event
    · obtain ⟨event, rfl⟩ := hrec
      exact Delivers.receive hf ht hup hd
    · push Not at hrec
      rw [Choice.received_eq_nil hrec, List.append_nil]
      have hopen := (safe_of_reachable (World.reachable_mux hr)).open_of_counted ht hf.counted
      exact hd.step hf hrec hopen.2

theorem streamsDeliver_of_reachable [DecidableEq β] {G : World β → Action β → Prop}
    (hG : ∀ w a, G w a → upstream H w a = true)
    (h : ((World.system c).restrict G).Reachable w) : StreamsDeliver H w := by
  refine h.invariant ?_ ?_
  · rintro _ rfl i s pc hi
    cases i with
    | zero => cases hi
    | succ i => cases hi
  · intro v a v' hr hv hs
    exact streamsDeliver_step hr.mono hs.1 (hG v a hs.2) hv

structure ResumeInv (c : Config β) (H : History β) (st : State β) : Prop where
  pending : ∀ t ∈ st.tasks, ∀ merged, t.pending = some merged →
    ∀ h ∈ H.events, parseRevision c.options.resourceVersion < eventRevision h.2 →
      eventRevision h.2 ≤ eventRevision merged → h.2 ∈ st.shared.out
  handed : SafeResume H (parseRevision c.options.resourceVersion) st.shared.out

lemma exists_of_mem_streams (h : s ∈ streams tasks) :
    ∃ (i : ℕ) (pc : ForwardPc β), tasks[i]? = some (.forward s pc) := by
  obtain ⟨t, ht, hs⟩ := List.mem_filterMap.mp h
  obtain ⟨i, hi⟩ := List.mem_iff_getElem?.mp ht
  cases t with
  | forward s' pc => cases hs; exact ⟨i, pc, hi⟩
  | _ => cases hs

lemma exists_of_mem_streams_set {u : Stream} (h : u ∈ streams (tasks.set i (.forward s pc)))
    (pc' : ForwardPc β) :
    ∃ (j : ℕ) (q : ForwardPc β), (tasks.set i (.forward s pc'))[j]? = some (.forward u q) := by
  obtain ⟨j, q, hj⟩ := exists_of_mem_streams h
  rw [List.getElem?_set] at hj
  by_cases hij : i = j
  · subst hij
    rw [if_pos rfl] at hj
    split at hj
    · next hi =>
      cases hj
      exact ⟨i, pc', List.getElem?_set_self hi⟩
    · cases hj
  · rw [if_neg hij] at hj
    exact ⟨j, q, by rw [List.getElem?_set_ne hij, hj]⟩

variable (hr : (World.system c).Reachable w) (h : World.step c w a = some w')
  (hn : noticed c H w.mux a = true) (hd : StreamsDeliver H w') (hi : ResumeInv c H w.mux)

include hr h hn hd hi

lemma resumeInv_pending_step :
    ∀ t ∈ w'.mux.tasks, ∀ merged, t.pending = some merged →
      ∀ h ∈ H.events, parseRevision c.options.resourceVersion < eventRevision h.2 →
        eventRevision h.2 ≤ eventRevision merged → h.2 ∈ w'.mux.shared.out := by
  obtain ⟨hst, -⟩ := World.step_eq_some.mp h
  have hold : ∀ t ∈ w.mux.tasks, ∀ merged, t.pending = some merged →
      ∀ h ∈ H.events, parseRevision c.options.resourceVersion < eventRevision h.2 →
        eventRevision h.2 ≤ eventRevision merged → h.2 ∈ w'.mux.shared.out := by
    intro t ht merged hp e he hlt hle
    obtain ⟨l, hl⟩ := out_step hst
    rw [hl]
    exact List.mem_append_left _ (hi.pending t ht merged hp e he hlt hle)
  intro u hu merged hp
  rcases mem_step hst hu with
    hu | rfl | ⟨i, choice, t, sh', t', started, rfl, ht, hm, heq, rfl | hu⟩
  · exact hold u hu merged hp
  · cases hp
  · rcases hm.bookmark_profile with ⟨s, event, pc', rfl, rfl, rfl, rfl, hon⟩ | ⟨-, -, hnone, -⟩
    swap
    · rw [hnone] at hp
      cases hp
    -- the merged bookmark carries the least revision a stream reports
    rcases hon with ⟨rfl, -⟩ | ⟨merged', rfl, ho⟩
    · cases hp
    cases hp
    obtain ⟨-, -, -, hat⟩ := onBookmark_some ho
    have hmem := mem_streams_set ht (s.fold event) .select
    have hsound := sound_of_reachable (World.reachable_mux hr) _ (List.mem_of_getElem? ht)
    have hwm : eventRevision merged = watermark
        (streams (w.mux.tasks.set i (.forward (s.fold event) .select))) :=
      eventRevision_bookmarkAt
        (lt_of_le_of_lt (watermark_le hmem) (Stream.fold_revision_lt hsound.1)) hat
    intro e he hlt hle
    simp only [noticed, ht, List.all_eq_true, decide_eq_true_eq] at hn
    obtain ⟨v, hv, hns, hopen⟩ := hn e he hlt fun v hv => by
      rw [hwm] at hle
      exact hle.trans (watermark_le hv)
    -- the stream of the event's namespace has handed the event over
    obtain ⟨j, q, hj⟩ := exists_of_mem_streams_set hv (.sendBookmark merged)
    have hdel := hd j v q (by rw [heq]; simpa using hj)
    refine hdel.2.1 e.2 ?_ ?_
    · rw [History.mem_after, hns]
      exact ⟨he, hopen⟩
    · rw [hwm] at hle
      exact hle.trans (watermark_le hv)
  · rw [(hm.started_sound hu).2] at hp
    cases hp

lemma resumeInv_step : ResumeInv c H w'.mux := by
  refine ⟨resumeInv_pending_step hr h hn hd hi, ?_⟩
  obtain ⟨hst, -⟩ := World.step_eq_some.mp h
  refine step_induction (P := fun st => SafeResume H (parseRevision c.options.resourceVersion)
    st.shared.out) hst hi.handed ?_
  intro i choice t sh' t' started ht hm
  have hmem := List.mem_of_getElem? ht
  show SafeResume H _ sh'.out
  rcases hm.out with ho | ⟨event, hoff, ho⟩ <;> rw [ho]
  · exact hi.handed
  · intro pre b hpre hb
    rcases List.prefix_concat_iff.mp hpre with heq | hpre
    · obtain ⟨rfl, hbe⟩ := List.append_inj' heq rfl
      cases hbe
      have hsound := sound_of_reachable (World.reachable_mux hr) t hmem
      exact hi.pending t hmem event (Task.pending_of_offered hsound hoff hb)
    · exact hi.handed pre b hpre hb

end

/-- In every run in which the upstream streams behave and no namespace is behind the streams
when a bookmark is folded in, every bookmark the client is handed is a safe resume point. -/
theorem bookmarks_safe_of_noticed [DecidableEq β] (c : Config β) (H : History β) (w : World β)
    (h : ((World.system c).restrict fun w a =>
      (upstream H w a && noticed c H w.mux a) = true).Reachable w) :
    SafeResume H (parseRevision c.options.resourceVersion) w.mux.shared.out := by
  have hinv : ResumeInv c H w.mux := by
    refine h.invariant (P := fun w => ResumeInv c H w.mux) ?_ ?_
    · rintro _ rfl
      refine ⟨?_, ?_⟩
      · intro t ht merged hp
        rw [List.mem_singleton.mp ht] at hp
        cases hp
      · intro pre b hpre
        have := hpre.length_le
        simp [World.initial, initial] at this
    · intro v a v' hr hv hs
      have hd : StreamsDeliver H v' := streamsDeliver_of_reachable
        (fun w a hG => (Bool.and_eq_true_iff.mp hG).1) (hr.step hs)
      exact resumeInv_step hr.mono hs.1 (Bool.and_eq_true_iff.mp hs.2).2 hd hv
  exact hinv.handed

section

private def fromFiveAlone : Config Unit where
  options := { resourceVersion := "5", allowWatchBookmarks := true }
  namespaces := ["team-a"]
  describe := fun _ => ""

private def written (ns resourceVersion : String) : Event Unit :=
  ⟨.added, .object { name := "web", «namespace» := ns, resourceVersion := resourceVersion } ()⟩

private def oneWrite (ns : String) : History Unit where
  events := [(ns, written ns "7")]
  objects := by
    intro h hh
    rw [List.mem_singleton.mp hh]
    rfl
  ordered := List.pairwise_singleton _ _

private def bookmarkAtTen : Event Unit := ⟨.bookmark, .object { resourceVersion := "10" } ()⟩

/-- `newWatchMux` for one namespace. -/
private def openOne : List (Action Unit) :=
  [.task 0 .opened, .task 0 .run, .task 0 .opened, .task 0 .run]

private def writtenThenBookmark : List (Action Unit) :=
  openOne ++ [.task 1 (.receive (written "team-a" "7")), .task 1 .deliver, .task 1 .run,
    .task 1 (.receive bookmarkAtTen), .task 1 .run, .task 1 .deliver]

private def bookmarkOnly : List (Action Unit) :=
  openOne ++ [.task 1 (.receive bookmarkAtTen), .task 1 .run, .task 1 .deliver]

private def worldAfter (as : List (Action Unit)) : World Unit :=
  (exec (World.step fromFiveAlone) (World.initial fromFiveAlone) as).getD
    (World.initial fromFiveAlone)

private theorem exec_writtenThenBookmark :
    exec (fun w a => if upstream (oneWrite "team-a") w a &&
        noticed fromFiveAlone (oneWrite "team-a") w.mux a
        then World.step fromFiveAlone w a else none) (World.initial fromFiveAlone)
      writtenThenBookmark = some (worldAfter writtenThenBookmark) := by
  decide +kernel

theorem bookmarks_safe_of_noticed_written :
    bookmarkRevisions (worldAfter writtenThenBookmark).mux.shared.out = [10] ∧
      SafeResume (oneWrite "team-a") 5 (worldAfter writtenThenBookmark).mux.shared.out := by
  refine ⟨by decide +kernel, ?_⟩
  exact bookmarks_safe_of_noticed fromFiveAlone _ _
    (reachable_of_exec_restrict (.init rfl) exec_writtenThenBookmark)

private theorem exec_bookmarkOnly :
    exec (fun w a => if upstream (oneWrite "team-b") w a
        then World.step fromFiveAlone w a else none) (World.initial fromFiveAlone)
      bookmarkOnly = some (worldAfter bookmarkOnly) := by
  decide +kernel

theorem bookmark_passes_unnoticed :
    ∃ w, ((World.system fromFiveAlone).restrict fun w a =>
        upstream (oneWrite "team-b") w a = true).Reachable w ∧
      ¬ SafeResume (oneWrite "team-b") (parseRevision fromFiveAlone.options.resourceVersion)
        w.mux.shared.out := by
  refine ⟨_, reachable_of_exec_restrict (.init rfl) exec_bookmarkOnly, fun hsafe => ?_⟩
  obtain ⟨b, hout, hb, hrev⟩ : ∃ b : Event Unit,
      (worldAfter bookmarkOnly).mux.shared.out = [b] ∧ b.type = .bookmark ∧
        eventRevision b = 10 := by
    refine ⟨⟨.bookmark, .object { resourceVersion := "10" } ()⟩, ?_, rfl, ?_⟩ <;> decide +kernel
  have hmem := hsafe [] b (by rw [hout]; exact List.prefix_rfl) hb _
    (List.mem_singleton.mpr rfl) (by decide +kernel) (by rw [hrev]; decide +kernel)
  cases hmem

end

end WatchMux
end KubeZoo
