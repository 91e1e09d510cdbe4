import KubeZoo.WatchMux.Model

/-! # What each goroutine of the multiplexer can do -/

namespace KubeZoo
namespace WatchMux

variable {β : Type}

inductive StopMove (sh : Shared β) : StopPc → Shared β → Option StopPc → Prop
  | first (h : sh.stopOnce = .fresh) :
      StopMove sh .enter { sh with stopOnce := .running } (some .close)
  | late (h : sh.stopOnce = .done) : StopMove sh .enter sh none
  | close (h : sh.stop = false) : StopMove sh .close { sh with stop := true } (some .teardown)
  | closeTwice (h : sh.stop = true) : StopMove sh .close { sh with panicked := true } none
  | teardown : StopMove sh .teardown { sh with stopOnce := .done } none

/-- A completed send on `m.result`. -/
inductive HandOver (sh : Shared β) (event : Event β) : Shared β → Prop
  | taken (hr : sh.returned = true) (hc : sh.closed = false) :
      HandOver sh event { sh with out := sh.out ++ [event] }
  | onClosed (hr : sh.returned = true) (hc : sh.closed = true) :
      HandOver sh event { sh with panicked := true }

inductive ExpireMove (sh : Shared β) (reason : String) :
    ExpirePc → Choice β → Shared β → Option ExpirePc → Prop
  | first (h : sh.expiring = .fresh) :
      ExpireMove sh reason .enter .run { sh with expiring := .running } (some .check)
  | late (h : sh.expiring = .done) : ExpireMove sh reason .enter .run sh none
  | tornDown (h : sh.stop = true) :
      ExpireMove sh reason .check .run { sh with expiring := .done } none
  | goOn (h : sh.stop = false) : ExpireMove sh reason .check .run sh (some .send)
  | sent {sh' : Shared β} (h : HandOver sh (expiredEvent reason) sh') :
      ExpireMove sh reason .send .deliver sh' (some (.stop .enter))
  | notSent (h : sh.stop = true) : ExpireMove sh reason .send .stopped sh (some (.stop .enter))
  | stopping {sh' : Shared β} {p q : StopPc} (h : StopMove sh p sh' (some q)) :
      ExpireMove sh reason (.stop p) .run sh' (some (.stop q))
  | stopped {sh' : Shared β} {p : StopPc} (h : StopMove sh p sh' none) :
      ExpireMove sh reason (.stop p) .run { sh' with expiring := .done } none

inductive AddMove (sh : Shared β) (tasks : List (Task β)) (ns resourceVersion : String) :
    Choice β → Except Bool (Shared β × List (Task β)) → Prop
  | already (h : watched tasks ns = true) : AddMove sh tasks ns resourceVersion .run (.ok (sh, []))
  | opened (h : watched tasks ns = false) : AddMove sh tasks ns resourceVersion .opened
        (.ok ({ sh with forwarder := sh.forwarder + 1 },
          [.forward ⟨ns, resourceVersion, parseRevision resourceVersion, false⟩ .select]))
  | refused (h : watched tasks ns = false) (forbidden : Bool) :
      AddMove sh tasks ns resourceVersion (.refused forbidden) (.error forbidden)

inductive ForwardMove (c : Config β) (sh : Shared β) (tasks : List (Task β)) (i : ℕ)
    (s : Stream) : ForwardPc β → Choice β → Shared β → Stream → ForwardPc β → Prop
  | stopped (h : sh.stop = true) : ForwardMove c sh tasks i s .select .stopped sh s .exit
  | gotBookmark {event : Event β} (h : event.type = .bookmark) :
      ForwardMove c sh tasks i s .select (.receive event) sh s (.bookmark event)
  | gotEvent {event : Event β} (h : event.type ≠ .bookmark) :
      ForwardMove c sh tasks i s .select (.receive event) sh s (.send event)
  | ended : ForwardMove c sh tasks i s .select .ended sh s (.expire .enter)
  | folded {event : Event β} {sh' : Shared β}
      (h : onBookmark c sh (streams (tasks.set i (.forward (s.fold event) .select))) event
        = (sh', none)) :
      ForwardMove c sh tasks i s (.bookmark event) .run sh' (s.fold event) .select
  | merged {event merged : Event β} {sh' : Shared β}
      (h : onBookmark c sh (streams (tasks.set i (.forward (s.fold event) .select))) event
        = (sh', some merged)) :
      ForwardMove c sh tasks i s (.bookmark event) .run sh' (s.fold event) (.sendBookmark merged)
  | sentBookmark {merged : Event β} {sh' : Shared β} (h : HandOver sh merged sh') :
      ForwardMove c sh tasks i s (.sendBookmark merged) .deliver sh' s .select
  | droppedBookmark {merged : Event β} (h : sh.stop = true) :
      ForwardMove c sh tasks i s (.sendBookmark merged) .stopped sh s .select
  | sent {event : Event β} {sh' : Shared β} (h : HandOver sh event sh') :
      ForwardMove c sh tasks i s (.send event) .deliver sh' s (.record (eventRevision event))
  | dropped {event : Event β} (h : sh.stop = true) :
      ForwardMove c sh tasks i s (.send event) .stopped sh s .exit
  | recorded {revision : ℕ} :
      ForwardMove c sh tasks i s (.record revision) .run sh (s.record revision) .select
  | expiring {choice : Choice β} {sh' : Shared β} {p q : ExpirePc}
      (h : ExpireMove sh (endedReason s.namespace) p choice sh' (some q)) :
      ForwardMove c sh tasks i s (.expire p) choice sh' s (.expire q)
  | expired {choice : Choice β} {sh' : Shared β} {p : ExpirePc}
      (h : ExpireMove sh (endedReason s.namespace) p choice sh' none) :
      ForwardMove c sh tasks i s (.expire p) choice sh' s .exit
  | left : ForwardMove c sh tasks i s .exit .run (done sh) s .retired

inductive FollowMove (c : Config β) (sh : Shared β) :
    FollowPc → Choice β → Shared β → FollowPc → List (Task β) → Prop
  | stopped (h : sh.stop = true) : FollowMove c sh .select .stopped sh .exit []
  | ended : FollowMove c sh .select .ended sh
      (.expire "the upstream watch on this tenant's namespaces ended" .enter) []
  | failed {event : Event β} (h : event.type = .error) : FollowMove c sh .select (.receive event) sh
        (.expire ("the watch on this tenant's namespaces reported: " ++ c.describe event.object)
          .enter) []
  | added {event : Event β} {m : ObjectMeta} {body : β} (h : event.type = .added)
      (ho : event.object = .object m body) :
      FollowMove c sh .select (.receive event) { sh with forwarder := sh.forwarder + 1 } .select
        [.join m.name m.resourceVersion (.attempt 0)]
  | other {event : Event β} (h : event.type ≠ .error)
      (ho : event.type = .added → event.object.accessor = none) :
      FollowMove c sh .select (.receive event) sh .select []
  | expiring {choice : Choice β} {sh' : Shared β} {reason : String} {p q : ExpirePc}
      (h : ExpireMove sh reason p choice sh' (some q)) :
      FollowMove c sh (.expire reason p) choice sh' (.expire reason q) []
  | expired {choice : Choice β} {sh' : Shared β} {reason : String} {p : ExpirePc}
      (h : ExpireMove sh reason p choice sh' none) :
      FollowMove c sh (.expire reason p) choice sh' .exit []
  | left : FollowMove c sh .exit .run (done sh) .retired []

inductive JoinMove (sh : Shared β) (tasks : List (Task β)) (ns resourceVersion : String) :
    JoinPc → Choice β → Shared β → JoinPc → List (Task β) → Prop
  | joined {k : ℕ} {choice : Choice β} {sh' : Shared β} {started : List (Task β)}
      (h : AddMove sh tasks ns resourceVersion choice (.ok (sh', started))) :
      JoinMove sh tasks ns resourceVersion (.attempt k) choice sh' .exit started
  | forbidden {k : ℕ} {choice : Choice β}
      (h : AddMove sh tasks ns resourceVersion choice (.error true)) :
      JoinMove sh tasks ns resourceVersion (.attempt k) choice sh (.wait k) []
  | refused {k : ℕ} {choice : Choice β}
      (h : AddMove sh tasks ns resourceVersion choice (.error false)) :
      JoinMove sh tasks ns resourceVersion (.attempt k) choice sh (.expire .enter) []
  | stopped {k : ℕ} (h : sh.stop = true) :
      JoinMove sh tasks ns resourceVersion (.wait k) .stopped sh .exit []
  | again {k : ℕ} (h : k + 1 < attempts) :
      JoinMove sh tasks ns resourceVersion (.wait k) .elapsed sh (.attempt (k + 1)) []
  | gaveUp {k : ℕ} (h : attempts ≤ k + 1) :
      JoinMove sh tasks ns resourceVersion (.wait k) .elapsed sh (.expire .enter) []
  | expiring {choice : Choice β} {sh' : Shared β} {p q : ExpirePc}
      (h : ExpireMove sh (notJoinedReason ns) p choice sh' (some q)) :
      JoinMove sh tasks ns resourceVersion (.expire p) choice sh' (.expire q) []
  | expired {choice : Choice β} {sh' : Shared β} {p : ExpirePc}
      (h : ExpireMove sh (notJoinedReason ns) p choice sh' none) :
      JoinMove sh tasks ns resourceVersion (.expire p) choice sh' .exit []
  | left : JoinMove sh tasks ns resourceVersion .exit .run (done sh) .retired []

inductive OpenMove (c : Config β) (sh : Shared β) (tasks : List (Task β)) :
    OpenPc → Choice β → Shared β → OpenPc → List (Task β) → Prop
  | allAdded : OpenMove c sh tasks (.add []) .run sh .follow []
  | added {ns : String} {rest : List String} {choice : Choice β} {sh' : Shared β}
      {started : List (Task β)}
      (h : AddMove sh tasks ns c.options.resourceVersion choice (.ok (sh', started))) :
      OpenMove c sh tasks (.add (ns :: rest)) choice sh' (.add rest) started
  | refused {ns : String} {rest : List String} {choice : Choice β} {forbidden : Bool}
      (h : AddMove sh tasks ns c.options.resourceVersion choice (.error forbidden)) :
      OpenMove c sh tasks (.add (ns :: rest)) choice sh (.fail .enter) []
  | followed : OpenMove c sh tasks .follow .opened
      { sh with forwarder := sh.forwarder + 1 } .spawn [.follow .select]
  | notFollowed {forbidden : Bool} :
      OpenMove c sh tasks .follow (.refused forbidden) sh (.fail .enter) []
  | returned : OpenMove c sh tasks .spawn .run { sh with returned := true } .returned
      [.closer .wait]
  | failing {sh' : Shared β} {p q : StopPc} (h : StopMove sh p sh' (some q)) :
      OpenMove c sh tasks (.fail p) .run sh' (.fail q) []
  | failed {sh' : Shared β} {p : StopPc} (h : StopMove sh p sh' none) :
      OpenMove c sh tasks (.fail p) .run sh' .failed []

inductive CloserMove (sh : Shared β) : CloserPc → Choice β → Shared β → CloserPc → Prop
  | waited (h : sh.forwarder = 0) : CloserMove sh .wait .run sh .close
  | closed (h : sh.closed = false) : CloserMove sh .close .run { sh with closed := true } .done
  | closedTwice (h : sh.closed = true) :
      CloserMove sh .close .run { sh with panicked := true } .done

/-- The steps of goroutine `i`: the fields after it, where the goroutine is, and the
goroutines it has started. -/
inductive Move (c : Config β) (sh : Shared β) (tasks : List (Task β)) (i : ℕ) :
    Task β → Choice β → Shared β → Task β → List (Task β) → Prop
  | «open» {pc pc' : OpenPc} {choice : Choice β} {sh' : Shared β} {started : List (Task β)}
      (h : OpenMove c sh tasks pc choice sh' pc' started) :
      Move c sh tasks i (.open pc) choice sh' (.open pc') started
  | forward {s s' : Stream} {pc pc' : ForwardPc β} {choice : Choice β} {sh' : Shared β}
      (h : ForwardMove c sh tasks i s pc choice sh' s' pc') :
      Move c sh tasks i (.forward s pc) choice sh' (.forward s' pc') []
  | follow {pc pc' : FollowPc} {choice : Choice β} {sh' : Shared β} {started : List (Task β)}
      (h : FollowMove c sh pc choice sh' pc' started) :
      Move c sh tasks i (.follow pc) choice sh' (.follow pc') started
  | join {ns resourceVersion : String} {pc pc' : JoinPc} {choice : Choice β} {sh' : Shared β}
      {started : List (Task β)}
      (h : JoinMove sh tasks ns resourceVersion pc choice sh' pc' started) :
      Move c sh tasks i (.join ns resourceVersion pc) choice sh' (.join ns resourceVersion pc')
        started
  | stopper {p : StopPc} {q : Option StopPc} {sh' : Shared β} (h : StopMove sh p sh' q) :
      Move c sh tasks i (.stopper (some p)) .run sh' (.stopper q) []
  | closer {pc pc' : CloserPc} {choice : Choice β} {sh' : Shared β}
      (h : CloserMove sh pc choice sh' pc') :
      Move c sh tasks i (.closer pc) choice sh' (.closer pc') []

variable {choice : Choice β} {c : Config β} {started tasks : List (Task β)} {sh sh' : Shared β}
  {t' : Task β}

lemma stopStep_move {p : StopPc} {q : Option StopPc} (h : stopStep sh p = some (sh', q)) :
    StopMove sh p sh' q := by
  cases p with
  | enter =>
    simp only [stopStep] at h
    split at h
    · next ho => cases h; exact .first ho
    · cases h
    · next ho => cases h; exact .late ho
  | close =>
    simp only [stopStep] at h
    split at h
    · next hs => cases h; exact .closeTwice hs
    · next hs => cases h; exact .close (by simpa using hs)
  | teardown => cases h; exact .teardown

lemma handOver_move {event : Event β} (h : handOver sh event = some sh') :
    HandOver sh event sh' := by
  unfold handOver at h
  split at h
  · cases h
  · next hr =>
    split at h
    · next hc => cases h; exact .onClosed (by simpa using hr) hc
    · next hc => cases h; exact .taken (by simpa using hr) (by simpa using hc)

lemma expireStep_move {reason : String} {p : ExpirePc} {q : Option ExpirePc}
    (h : expireStep sh reason p choice = some (sh', q)) : ExpireMove sh reason p choice sh' q := by
  unfold expireStep at h
  split at h
  · split at h
    · next ho => cases h; exact .first ho
    · cases h
    · next ho => cases h; exact .late ho
  · split at h
    · next hs => cases h; exact .tornDown hs
    · next hs => cases h; exact .goOn (by simpa using hs)
  · rw [Option.map_eq_some_iff] at h
    obtain ⟨sh'', hh, he⟩ := h
    cases he
    exact .sent (handOver_move hh)
  · split at h
    · next hs => cases h; exact .notSent hs
    · cases h
  · split at h
    · cases h
    · next hs => cases h; exact .stopping (stopStep_move hs)
    · next hs => cases h; exact .stopped (stopStep_move hs)
  · cases h

variable {ns resourceVersion : String} {i : ℕ}

lemma add_move {r : Except Bool (Shared β × List (Task β))}
    (h : add sh tasks ns resourceVersion choice = some r) :
    AddMove sh tasks ns resourceVersion choice r := by
  unfold add at h
  split at h
  · split at h
    · next hw => cases h; exact .already hw
    · cases h
  · split at h
    · cases h
    · next hw => cases h; exact .opened (by simpa using hw)
  · split at h
    · cases h
    · next hw => cases h; exact .refused (by simpa using hw) _
  · cases h

lemma forwardStep_move {s : Stream} {pc : ForwardPc β}
    (h : forwardStep c sh tasks i s pc choice = some (sh', t', started)) :
    ∃ s' pc', t' = .forward s' pc' ∧ started = [] ∧
      ForwardMove c sh tasks i s pc choice sh' s' pc' := by
  unfold forwardStep at h
  split at h
  · split at h
    · next hs => cases h; exact ⟨_, _, rfl, rfl, .stopped hs⟩
    · cases h
  · split at h
    · next hb => cases h; exact ⟨_, _, rfl, rfl, .gotBookmark hb⟩
    · next hb => cases h; exact ⟨_, _, rfl, rfl, .gotEvent hb⟩
  · cases h; exact ⟨_, _, rfl, rfl, .ended⟩
  · simp only at h
    split at h
    · next ho => cases h; exact ⟨_, _, rfl, rfl, .folded ho⟩
    · next ho => cases h; exact ⟨_, _, rfl, rfl, .merged ho⟩
  · rw [Option.map_eq_some_iff] at h
    obtain ⟨sh'', hh, he⟩ := h
    cases he
    exact ⟨_, _, rfl, rfl, .sentBookmark (handOver_move hh)⟩
  · split at h
    · next hs => cases h; exact ⟨_, _, rfl, rfl, .droppedBookmark hs⟩
    · cases h
  · rw [Option.map_eq_some_iff] at h
    obtain ⟨sh'', hh, he⟩ := h
    cases he
    exact ⟨_, _, rfl, rfl, .sent (handOver_move hh)⟩
  · split at h
    · next hs => cases h; exact ⟨_, _, rfl, rfl, .dropped hs⟩
    · cases h
  · cases h; exact ⟨_, _, rfl, rfl, .recorded⟩
  · split at h
    · cases h
    · next he => cases h; exact ⟨_, _, rfl, rfl, .expiring (expireStep_move he)⟩
    · next he => cases h; exact ⟨_, _, rfl, rfl, .expired (expireStep_move he)⟩
  · cases h; exact ⟨_, _, rfl, rfl, .left⟩
  · cases h

lemma followStep_move {pc : FollowPc} (h : followStep c sh pc choice = some (sh', t', started)) :
    ∃ pc', t' = .follow pc' ∧ FollowMove c sh pc choice sh' pc' started := by
  unfold followStep at h
  split at h
  · split at h
    · next hs => cases h; exact ⟨_, rfl, .stopped hs⟩
    · cases h
  · cases h; exact ⟨_, rfl, .ended⟩
  · split at h
    · next ht => cases h; exact ⟨_, rfl, .failed ht⟩
    · next ht ho => cases h; exact ⟨_, rfl, .added ht ho⟩
    · next hne hadd =>
      cases h
      refine ⟨_, rfl, .other (fun ht => hne ht) fun ht => ?_⟩
      -- an `Added` event without metadata names no namespace
      cases ho : (_ : Event β).object with
      | object m body => exact absurd ho (hadd m body ht)
      | status s => rfl
  · split at h
    · cases h
    · next he => cases h; exact ⟨_, rfl, .expiring (expireStep_move he)⟩
    · next he => cases h; exact ⟨_, rfl, .expired (expireStep_move he)⟩
  · cases h; exact ⟨_, rfl, .left⟩
  · cases h

lemma joinStep_move {pc : JoinPc}
    (h : joinStep sh tasks ns resourceVersion pc choice = some (sh', t', started)) :
    ∃ pc', t' = .join ns resourceVersion pc' ∧
      JoinMove sh tasks ns resourceVersion pc choice sh' pc' started := by
  unfold joinStep at h
  split at h
  · split at h
    · cases h
    · next ha => cases h; exact ⟨_, rfl, .joined (add_move ha)⟩
    · next ha => cases h; exact ⟨_, rfl, .forbidden (add_move ha)⟩
    · next ha => cases h; exact ⟨_, rfl, .refused (add_move ha)⟩
  · split at h
    · next hs => cases h; exact ⟨_, rfl, .stopped hs⟩
    · cases h
  · split at h
    · next hk => cases h; exact ⟨_, rfl, .again hk⟩
    · next hk => cases h; exact ⟨_, rfl, .gaveUp (by omega)⟩
  · split at h
    · cases h
    · next he => cases h; exact ⟨_, rfl, .expiring (expireStep_move he)⟩
    · next he => cases h; exact ⟨_, rfl, .expired (expireStep_move he)⟩
  · cases h; exact ⟨_, rfl, .left⟩
  · cases h

lemma openStep_move {pc : OpenPc} (h : openStep c sh tasks pc choice = some (sh', t', started)) :
    ∃ pc', t' = .open pc' ∧ OpenMove c sh tasks pc choice sh' pc' started := by
  unfold openStep at h
  split at h
  · cases h; exact ⟨_, rfl, .allAdded⟩
  · split at h
    · cases h
    · next ha => cases h; exact ⟨_, rfl, .added (add_move ha)⟩
    · next ha => cases h; exact ⟨_, rfl, .refused (add_move ha)⟩
  · cases h; exact ⟨_, rfl, .followed⟩
  · cases h; exact ⟨_, rfl, .notFollowed⟩
  · cases h; exact ⟨_, rfl, .returned⟩
  · split at h
    · cases h
    · next hs => cases h; exact ⟨_, rfl, .failing (stopStep_move hs)⟩
    · next hs => cases h; exact ⟨_, rfl, .failed (stopStep_move hs)⟩
  · cases h

lemma closerStep_move {pc : CloserPc} (h : closerStep sh pc choice = some (sh', t', started)) :
    ∃ pc', t' = .closer pc' ∧ started = [] ∧ CloserMove sh pc choice sh' pc' := by
  unfold closerStep at h
  split at h
  · split at h
    · next hw => cases h; exact ⟨_, rfl, rfl, .waited hw⟩
    · cases h
  · split at h
    · next hc => cases h; exact ⟨_, rfl, rfl, .closedTwice hc⟩
    · next hc => cases h; exact ⟨_, rfl, rfl, .closed (by simpa using hc)⟩
  · cases h

theorem taskStep_move {t : Task β} (h : taskStep c sh tasks i t choice = some (sh', t', started)) :
    Move c sh tasks i t choice sh' t' started := by
  cases t with
  | «open» pc =>
    obtain ⟨pc', rfl, hm⟩ := openStep_move h
    exact .open hm
  | forward s pc =>
    obtain ⟨s', pc', rfl, rfl, hm⟩ := forwardStep_move h
    exact .forward hm
  | follow pc =>
    obtain ⟨pc', rfl, hm⟩ := followStep_move h
    exact .follow hm
  | join ns rv pc =>
    obtain ⟨pc', rfl, hm⟩ := joinStep_move h
    exact .join hm
  | stopper pc =>
    simp only [taskStep, stopperStep] at h
    split at h
    · rw [Option.map_eq_some_iff] at h
      obtain ⟨⟨sh'', q⟩, hs, he⟩ := h
      cases he
      exact .stopper (stopStep_move hs)
    · cases h
  | closer pc =>
    obtain ⟨pc', rfl, rfl, hm⟩ := closerStep_move h
    exact .closer hm

theorem step_cases {st st' : State β} {a : Action β} (h : step c st a = some st') :
    (∃ i choice t sh' t' started, a = .task i choice ∧ st.tasks[i]? = some t ∧
      Move c st.shared st.tasks i t choice sh' t' started ∧
      st' = ⟨sh', st.tasks.set i t' ++ started⟩) ∨
    (a = .clientStop ∧ st.shared.returned = true ∧
      st' = { st with tasks := st.tasks ++ [.stopper (some .enter)] }) := by
  cases a with
  | task i choice =>
    left
    simp only [step] at h
    split at h
    · cases h
    · next t ht =>
      rw [Option.map_eq_some_iff] at h
      obtain ⟨⟨sh', t', started⟩, hm, rfl⟩ := h
      exact ⟨i, choice, t, sh', t', started, rfl, ht, taskStep_move hm, rfl⟩
  | clientStop =>
    right
    simp only [step] at h
    split at h
    · next hr => cases h; exact ⟨rfl, hr, rfl⟩
    · cases h

end WatchMux
end KubeZoo
