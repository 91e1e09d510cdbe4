import KubeZoo.WatchMux.Coverage

/-! # The merged bookmark -/

namespace KubeZoo
namespace WatchMux

open Transition

variable {β : Type}

section

lemma foldl_watermarkStep (ss : List Stream) (w : ℕ) :
    ∃ v, ss.foldl watermarkStep (w, false) = (v, false) ∧ v ≤ w ∧ (∀ s ∈ ss, v ≤ s.revision) ∧
      (v = w ∨ ∃ s ∈ ss, v = s.revision) := by
  induction ss generalizing w with
  | nil => exact ⟨w, rfl, le_rfl, nofun, .inl rfl⟩
  | cons s ss ih =>
    by_cases hlt : s.revision < w
    · obtain ⟨v, hv, hle, hall, hmem⟩ := ih s.revision
      have hstep : watermarkStep (w, false) s = (s.revision, false) := by
        simp [watermarkStep, hlt]
      refine ⟨v, ?_, by omega, ?_, ?_⟩
      · rw [List.foldl_cons, hstep, hv]
      · intro u hu
        rcases List.mem_cons.mp hu with rfl | hu
        · exact hle
        · exact hall u hu
      · rcases hmem with rfl | ⟨u, hu, rfl⟩
        · exact .inr ⟨s, by simp, rfl⟩
        · exact .inr ⟨u, by simp [hu], rfl⟩
    · obtain ⟨v, hv, hle, hall, hmem⟩ := ih w
      have hstep : watermarkStep (w, false) s = (w, false) := by
        simp [watermarkStep, hlt]
      refine ⟨v, ?_, hle, ?_, ?_⟩
      · rw [List.foldl_cons, hstep, hv]
      · intro u hu
        rcases List.mem_cons.mp hu with rfl | hu
        · omega
        · exact hall u hu
      · rcases hmem with rfl | ⟨u, hu, rfl⟩
        · exact .inl rfl
        · exact .inr ⟨u, by simp [hu], rfl⟩

lemma watermark_cons (s : Stream) (ss : List Stream) :
    (∀ u ∈ s :: ss, watermark (s :: ss) ≤ u.revision) ∧
      ∃ u ∈ s :: ss, watermark (s :: ss) = u.revision := by
  obtain ⟨v, hv, hle, hall, hmem⟩ := foldl_watermarkStep ss s.revision
  have hw : watermark (s :: ss) = v := by
    unfold watermark
    rw [List.foldl_cons, show watermarkStep (0, true) s = (s.revision, false) from rfl, hv]
  rw [hw]
  constructor
  · intro u hu
    rcases List.mem_cons.mp hu with rfl | hu
    · exact hle
    · exact hall u hu
  · rcases hmem with rfl | ⟨u, hu, rfl⟩
    · exact ⟨s, by simp, rfl⟩
    · exact ⟨u, by simp [hu], rfl⟩

lemma watermark_le {ss : List Stream} {s : Stream} (h : s ∈ ss) : watermark ss ≤ s.revision := by
  cases ss with
  | nil => cases h
  | cons u ss => exact (watermark_cons u ss).1 s h

lemma exists_watermark {ss : List Stream} (h : ss ≠ []) :
    ∃ s ∈ ss, watermark ss = s.revision := by
  cases ss with
  | nil => exact absurd rfl h
  | cons u ss => exact (watermark_cons u ss).2

end

def announces (c : Config β) (sh : Shared β) (streams : List Stream) : Bool :=
  c.initialEvents && streams.all (fun s => s.endOfReplay) && !sh.replayed

section

variable {c : Config β} {sh sh' : Shared β} {ss : List Stream} {event merged : Event β}
  {r : Option (Event β)}

lemma onBookmark_shared (h : onBookmark c sh ss event = (sh', r)) :
    sh' = { sh with
      replayed := sh.replayed || announces c sh ss
      emitted := max sh.emitted (watermark ss) } := by
  have hmax : (if decide (watermark ss > sh.emitted) = true then watermark ss else sh.emitted) =
      max sh.emitted (watermark ss) := by
    by_cases hlt : sh.emitted < watermark ss
    · simp [hlt, hlt.le]
    · simp [hlt]
      omega
  have hfst : (onBookmark c sh ss event).1 = sh' := by rw [h]
  rw [← hfst]
  simp only [onBookmark, hmax]
  split
  · rfl
  · split <;> rfl

lemma onBookmark_some (h : onBookmark c sh ss event = (sh', some merged)) :
    c.bookmarks = true ∧ 0 < watermark ss ∧ (sh.emitted < watermark ss ∨ announces c sh ss = true) ∧
      bookmarkAt event (watermark ss) (announces c sh ss) = some merged := by
  simp only [onBookmark] at h
  split at h
  · cases h
  · next h1 =>
    split at h
    · cases h
    · next h2 =>
      simp only [Bool.or_eq_true, Bool.not_eq_true', beq_iff_eq, not_or, Bool.not_eq_false] at h1
      refine ⟨h1.1, by omega, ?_, ?_⟩
      · simp only [Bool.and_eq_true, Bool.not_eq_true', not_and, decide_eq_false_iff_not] at h2
        by_cases hlt : sh.emitted < watermark ss
        · exact .inl hlt
        · exact .inr (by simpa [announces, and_assoc] using h2 (by omega))
      · exact (Prod.mk.injEq _ _ _ _ ▸ h).2

end

def Task.pending : Task β → Option (Event β)
  | .forward _ (.sendBookmark merged) => some merged
  | _ => none

def Task.folding : Task β → Bool
  | .forward _ (.bookmark _) => true
  | _ => false

/-- Revisions are 64-bit numbers, and a forwarder sends bookmarks through `onBookmark` only. -/
def Task.sound : Task β → Prop
  | .forward s (.record revision) => s.revision < 2 ^ 64 ∧ revision < 2 ^ 64
  | .forward s (.send event) => s.revision < 2 ^ 64 ∧ event.type ≠ .bookmark
  | .forward s (.bookmark event) => s.revision < 2 ^ 64 ∧ event.type = .bookmark
  | .forward s (.sendBookmark merged) => s.revision < 2 ^ 64 ∧ merged.type = .bookmark
  | .forward s _ => s.revision < 2 ^ 64
  | _ => True

section

variable {c : Config β} {sh sh' : Shared β} {tasks started : List (Task β)} {i : ℕ}
  {t t' : Task β} {choice : Choice β} {st st' : State β} {a : Action β}

lemma Move.bookmark_profile (h : Move c sh tasks i t choice sh' t' started) :
    (∃ s event pc', t = .forward s (.bookmark event) ∧ choice = .run ∧ started = [] ∧
      t' = .forward (s.fold event) pc' ∧
      ((pc' = .select ∧ onBookmark c sh
          (streams (tasks.set i (.forward (s.fold event) .select))) event = (sh', none)) ∨
        ∃ merged, pc' = .sendBookmark merged ∧ onBookmark c sh
          (streams (tasks.set i (.forward (s.fold event) .select))) event = (sh', some merged))) ∨
    (sh'.emitted = sh.emitted ∧ sh'.replayed = sh.replayed ∧ t'.pending = none ∧
      t.folding = false) := by
  obtain ⟨n, p, hdone⟩ := done_frame sh
  cases h with
  | «open» h =>
    right
    cases h with
    | added h => cases h <;> exact ⟨rfl, rfl, rfl, rfl⟩
    | failing h | failed h =>
      obtain ⟨s, o, b, rfl⟩ := h.frame
      exact ⟨rfl, rfl, rfl, rfl⟩
    | _ => exact ⟨rfl, rfl, rfl, rfl⟩
  | forward h =>
    cases h with
    | folded h => exact .inl ⟨_, _, _, rfl, rfl, rfl, rfl, .inl ⟨rfl, h⟩⟩
    | merged h => exact .inl ⟨_, _, _, rfl, rfl, rfl, rfl, .inr ⟨_, rfl, h⟩⟩
    | expiring h | expired h =>
      obtain ⟨s, o, e, b, out, rfl⟩ := h.frame
      exact .inr ⟨rfl, rfl, rfl, rfl⟩
    | sent h | sentBookmark h =>
      obtain ⟨o, p, rfl⟩ := h.frame
      exact .inr ⟨rfl, rfl, rfl, rfl⟩
    | left => rw [hdone]; exact .inr ⟨rfl, rfl, rfl, rfl⟩
    | _ => exact .inr ⟨rfl, rfl, rfl, rfl⟩
  | follow h =>
    right
    cases h with
    | expiring h | expired h =>
      obtain ⟨s, o, e, b, out, rfl⟩ := h.frame
      exact ⟨rfl, rfl, rfl, rfl⟩
    | left => rw [hdone]; exact ⟨rfl, rfl, rfl, rfl⟩
    | _ => exact ⟨rfl, rfl, rfl, rfl⟩
  | join h =>
    right
    cases h with
    | joined h => cases h <;> exact ⟨rfl, rfl, rfl, rfl⟩
    | expiring h | expired h =>
      obtain ⟨s, o, e, b, out, rfl⟩ := h.frame
      exact ⟨rfl, rfl, rfl, rfl⟩
    | left => rw [hdone]; exact ⟨rfl, rfl, rfl, rfl⟩
    | _ => exact ⟨rfl, rfl, rfl, rfl⟩
  | stopper h =>
    right
    obtain ⟨s, o, b, rfl⟩ := h.frame
    exact ⟨rfl, rfl, rfl, rfl⟩
  | closer h =>
    right
    cases h with
    | _ => exact ⟨rfl, rfl, rfl, rfl⟩

lemma Stream.fold_revision_lt {s : Stream} {event : Event β} (h : s.revision < 2 ^ 64) :
    (s.fold event).revision < 2 ^ 64 := by
  simp only [Stream.fold]
  split
  · exact eventRevision_lt event
  · exact h

lemma Stream.record_revision_lt {s : Stream} {revision : ℕ} (h : s.revision < 2 ^ 64)
    (hr : revision < 2 ^ 64) : (s.record revision).revision < 2 ^ 64 := by
  unfold Stream.record
  split
  · exact h
  · split
    · exact hr
    · exact h

lemma Move.started_sound (h : Move c sh tasks i t choice sh' t' started) {u : Task β}
    (hu : u ∈ started) : u.sound ∧ u.pending = none := by
  rcases h.started_cases hu with ⟨ns, rv, rfl⟩ | rfl | ⟨ns, rv, rfl⟩ | rfl
  · exact ⟨parseRevision_lt rv, rfl⟩
  all_goals exact ⟨trivial, rfl⟩

lemma Move.sound (h : Move c sh tasks i t choice sh' t' started) (ht : t.sound) : t'.sound := by
  cases h with
  | forward h =>
    cases h with
    | stopped | ended | expiring | expired | left => exact ht
    | gotBookmark hb => exact ⟨ht, hb⟩
    | gotEvent hb => exact ⟨ht, hb⟩
    | folded h => exact Stream.fold_revision_lt ht.1
    | merged h => exact ⟨Stream.fold_revision_lt ht.1, bookmarkAt_type (onBookmark_some h).2.2.2⟩
    | sentBookmark | droppedBookmark | dropped => exact ht.1
    | sent => exact ⟨ht.1, eventRevision_lt _⟩
    | recorded => exact Stream.record_revision_lt ht.1 ht.2
  | _ => trivial

lemma forall_task_step {Q : Task β → Prop} (h : step c st a = some st')
    (hstopper : Q (.stopper (some .enter)))
    (hmove : ∀ i t choice sh' t' started, a = .task i choice → st.tasks[i]? = some t →
      Move c st.shared st.tasks i t choice sh' t' started → Q t → Q t' ∧ ∀ u ∈ started, Q u)
    (hall : ∀ t ∈ st.tasks, Q t) : ∀ t ∈ st'.tasks, Q t := by
  intro u hu
  rcases mem_step h hu with hu | rfl | ⟨i, choice, t, sh', t', started, ha, ht, hm, -, hu⟩
  · exact hall u hu
  · exact hstopper
  · have hnew := hmove i t choice sh' t' started ha ht hm (hall t (List.mem_of_getElem? ht))
    rcases hu with rfl | hu
    · exact hnew.1
    · exact hnew.2 u hu

theorem sound_of_reachable (h : (system c).Reachable st) : ∀ t ∈ st.tasks, t.sound := by
  refine h.invariant (P := fun st => ∀ t ∈ st.tasks, t.sound) ?_ ?_
  · rintro _ rfl t ht
    rw [List.mem_singleton.mp ht]
    trivial
  · intro s a s' _ hs hstep
    refine forall_task_step hstep trivial ?_ hs
    intro i t choice sh' t' started _ _ hm ht
    exact ⟨hm.sound ht, fun u hu => (hm.started_sound hu).1⟩

def bookmarkRevisions (out : List (Event β)) : List ℕ :=
  (out.filter fun event => decide (event.type = .bookmark)).map eventRevision

def serialBookmarks (c : Config β) (st : State β) : Action β → Bool
  | .task i .run =>
    match st.tasks[i]? with
    | some (.forward s (.bookmark event)) =>
      let ss := streams (st.tasks.set i (.forward (s.fold event) .select))
      st.tasks.all (fun t => t.pending.isNone) &&
        (!announces c st.shared ss || ss.all fun u => decide (st.shared.emitted ≤ u.revision))
    | _ => true
  | _ => true

structure OrderInv (st : State β) : Prop where
  pending : ∀ t ∈ st.tasks, ∀ merged, t.pending = some merged →
    eventRevision merged = st.shared.emitted
  handed : ∀ r ∈ bookmarkRevisions st.shared.out, r ≤ st.shared.emitted
  ordered : (bookmarkRevisions st.shared.out).Pairwise (· ≤ ·)

lemma bookmarkRevisions_append (out : List (Event β)) (event : Event β) :
    bookmarkRevisions (out ++ [event]) = bookmarkRevisions out ++
      if event.type = .bookmark then [eventRevision event] else [] := by
  by_cases h : event.type = .bookmark <;> simp [bookmarkRevisions, h]

lemma Task.pending_of_offered {event : Event β} (hs : t.sound)
    (ho : t.offered = some event) (hb : event.type = .bookmark) : t.pending = some event := by
  unfold Task.offered at ho
  split at ho
  · exact ho
  · cases ho; exact absurd hb hs.2
  · cases ho; cases hb
  · cases ho; cases hb
  · cases ho; cases hb
  · cases ho

lemma mem_streams_set (ht : tasks[i]? = some t)
    (s : Stream) (pc : ForwardPc β) : s ∈ streams (tasks.set i (.forward s pc)) := by
  refine List.mem_filterMap.mpr ⟨.forward s pc, ?_, rfl⟩
  have hi : i < tasks.length := (List.getElem?_eq_some_iff.mp ht).1
  exact List.mem_of_getElem? (List.getElem?_set_self hi)

lemma orderInv_pending_step (h : step c st a = some st') (hg : serialBookmarks c st a = true)
    (hs : ∀ t ∈ st.tasks, t.sound) (hi : OrderInv st) :
    (∀ t ∈ st'.tasks, ∀ merged, t.pending = some merged →
      eventRevision merged = st'.shared.emitted) ∧ st.shared.emitted ≤ st'.shared.emitted := by
  rcases step_cases h with ⟨i, choice, t, sh', t', started, rfl, ht, hm, rfl⟩ | ⟨-, -, rfl⟩
  swap
  · refine ⟨fun u hu merged hp => ?_, le_rfl⟩
    rcases List.mem_append.mp hu with hu | hu
    · exact hi.pending u hu merged hp
    · rw [List.mem_singleton.mp hu] at hp
      cases hp
  rcases hm.bookmark_profile with ⟨s, event, pc', rfl, rfl, rfl, rfl, hon⟩ | ⟨hem, -, hnone, -⟩
  · -- a bookmark is folded in: no other one is on its way
    simp only [serialBookmarks, ht, Bool.and_eq_true, List.all_eq_true, Bool.or_eq_true,
      decide_eq_true_eq, Option.isNone_iff_eq_none] at hg
    obtain ⟨hfree, hlag⟩ := hg
    have hmem := mem_streams_set ht (s.fold event) .select
    have hlt := lt_of_le_of_lt (watermark_le hmem)
      (Stream.fold_revision_lt (hs _ (List.mem_of_getElem? ht)).1)
    have hem : sh'.emitted = max st.shared.emitted (watermark
        (streams (st.tasks.set i (.forward (s.fold event) .select)))) := by
      rcases hon with ⟨-, ho⟩ | ⟨merged, -, ho⟩ <;> rw [onBookmark_shared ho]
    refine ⟨fun u hu merged hp => ?_, by show _ ≤ sh'.emitted; omega⟩
    rcases mem_moved hu with hu | rfl | hu
    · rw [hfree u hu] at hp
      cases hp
    · rcases hon with ⟨rfl, -⟩ | ⟨merged', rfl, ho⟩
      · cases hp
      · cases hp
        obtain ⟨-, -, hadv, hat⟩ := onBookmark_some ho
        have hle : st.shared.emitted ≤ watermark
            (streams (st.tasks.set i (.forward (s.fold event) .select))) := by
          rcases hadv with hadv | hann
          · exact hadv.le
          · obtain ⟨v, hv, hw⟩ := exists_watermark (List.ne_nil_of_mem hmem)
            rw [hw]
            exact (hlag.resolve_left (by rw [hann]; nofun)) v hv
        show eventRevision merged = sh'.emitted
        rw [eventRevision_bookmarkAt hlt hat, hem]
        omega
    · cases hu
  · refine ⟨fun u hu merged hp => ?_, hem.symm.le⟩
    show eventRevision merged = sh'.emitted
    rw [hem]
    rcases mem_moved hu with hu | rfl | hu
    · exact hi.pending u hu merged hp
    · rw [hnone] at hp
      cases hp
    · rw [(hm.started_sound hu).2] at hp
      cases hp

lemma orderInv_step (h : step c st a = some st') (hg : serialBookmarks c st a = true)
    (hs : ∀ t ∈ st.tasks, t.sound) (hi : OrderInv st) : OrderInv st' := by
  obtain ⟨hpending, hle⟩ := orderInv_pending_step h hg hs hi
  have hout : bookmarkRevisions st'.shared.out = bookmarkRevisions st.shared.out ∨
      bookmarkRevisions st'.shared.out = bookmarkRevisions st.shared.out ++ [st.shared.emitted] := by
    refine step_induction (P := fun st' => bookmarkRevisions st'.shared.out =
      bookmarkRevisions st.shared.out ∨ bookmarkRevisions st'.shared.out =
        bookmarkRevisions st.shared.out ++ [st.shared.emitted]) h (.inl rfl) ?_
    intro i choice t sh' t' started ht hm
    have hmem := List.mem_of_getElem? ht
    rcases hm.out with ho | ⟨event, hoff, ho⟩
    · exact .inl (by rw [ho])
    · simp only [ho, bookmarkRevisions_append]
      by_cases hb : event.type = .bookmark
      · have hp := Task.pending_of_offered (hs t hmem) hoff hb
        rw [if_pos hb, hi.pending t hmem event hp]
        exact .inr rfl
      · rw [if_neg hb, List.append_nil]
        exact .inl rfl
  refine ⟨hpending, ?_, ?_⟩
  · intro r hr
    rcases hout with ho | ho <;> rw [ho] at hr
    · exact (hi.handed r hr).trans hle
    · rcases List.mem_append.mp hr with hr | hr
      · exact (hi.handed r hr).trans hle
      · rw [List.mem_singleton.mp hr]
        exact hle
  · rcases hout with ho | ho <;> rw [ho]
    · exact hi.ordered
    · rw [List.pairwise_append]
      refine ⟨hi.ordered, List.pairwise_singleton _ _, ?_⟩
      intro r hr w hw
      rw [List.mem_singleton.mp hw]
      exact hi.handed r hr

end

/-- In every run in which bookmarks are folded in one at a time, the revisions of the
bookmarks the client is handed never decrease. -/
theorem bookmarks_ordered_of_serial (c : Config β) (st : State β)
    (h : ((system c).restrict fun st a => serialBookmarks c st a = true).Reachable st) :
    (bookmarkRevisions st.shared.out).Pairwise (· ≤ ·) := by
  have hinv : OrderInv st := by
    refine h.invariant ?_ ?_
    · rintro _ rfl
      refine ⟨?_, nofun, List.Pairwise.nil⟩
      intro t ht merged hp
      rw [List.mem_singleton.mp ht] at hp
      cases hp
    · intro s a s' hr hi hstep
      exact orderInv_step hstep.1 hstep.2 (sound_of_reachable hr.mono) hi
  exact hinv.ordered

section

private def bookmark (resourceVersion : String) (endOfReplay : Bool) : Event Unit :=
  ⟨.bookmark, .object { resourceVersion := resourceVersion, annotations :=
    if endOfReplay then (∅ : StringMap).insert initialEventsEndAnnotation "true" else ∅ } ()⟩

private def fromFive : Config Unit where
  options := { resourceVersion := "5", allowWatchBookmarks := true }
  namespaces := ["team-a", "team-b"]
  describe := fun _ => ""

/-- `newWatchMux` for two namespaces. -/
private def openTwo : List (Action Unit) :=
  [.task 0 .opened, .task 0 .opened, .task 0 .run, .task 0 .opened, .task 0 .run]

private def inTurn : List (Action Unit) :=
  openTwo ++ [.task 1 (.receive (bookmark "10" false)), .task 1 .run, .task 1 .deliver,
    .task 2 (.receive (bookmark "8" false)), .task 2 .run, .task 2 .deliver]

private def overtaking : List (Action Unit) :=
  openTwo ++ [.task 1 (.receive (bookmark "10" false)), .task 1 .run,
    .task 2 (.receive (bookmark "8" false)), .task 2 .run, .task 2 .deliver, .task 1 .deliver]

private def after (c : Config Unit) (as : List (Action Unit)) : State Unit :=
  ((exec (step c) (initial c) as).getD (initial c))

private theorem exec_inTurn :
    exec (fun st a => if serialBookmarks fromFive st a then step fromFive st a else none)
      (initial fromFive) inTurn = some (after fromFive inTurn) := by
  decide +kernel

theorem bookmarks_ordered_of_serial_inTurn :
    bookmarkRevisions (after fromFive inTurn).shared.out = [5, 8] ∧
      (bookmarkRevisions (after fromFive inTurn).shared.out).Pairwise (· ≤ ·) := by
  refine ⟨by decide +kernel, bookmarks_ordered_of_serial fromFive _ ?_⟩
  exact reachable_of_exec_restrict (.init rfl) exec_inTurn

private def replaying : Config Unit where
  options := { resourceVersion := "5", allowWatchBookmarks := true, sendInitialEvents := some true }
  namespaces := ["team-a"]
  describe := fun _ => ""

private def lateJoin : List (Action Unit) :=
  [.task 0 .opened, .task 0 .run, .task 0 .opened, .task 0 .run,
    .task 1 (.receive (bookmark "10" false)), .task 1 .run, .task 1 .deliver,
    .task 2 (.receive ⟨.added, .object { name := "team-b", resourceVersion := "7" } ()⟩),
    .task 4 .opened, .task 5 (.receive (bookmark "8" true)), .task 5 .run,
    .task 1 (.receive (bookmark "12" true)), .task 1 .run, .task 1 .deliver]

theorem bookmarks_disordered :
    (∃ st, (system fromFive).Reachable st ∧ bookmarkRevisions st.shared.out = [8, 5]) ∧
      ∃ st, (system replaying).Reachable st ∧ bookmarkRevisions st.shared.out = [10, 8] := by
  have hover : exec (step fromFive) (initial fromFive) overtaking =
      some (after fromFive overtaking) := by decide +kernel
  have hlate : exec (step replaying) (initial replaying) lateJoin =
      some (after replaying lateJoin) := by decide +kernel
  exact ⟨⟨_, reachable_of_exec (.init rfl) hover, by decide +kernel⟩,
    ⟨_, reachable_of_exec (.init rfl) hlate, by decide +kernel⟩⟩

end

end WatchMux
end KubeZoo
