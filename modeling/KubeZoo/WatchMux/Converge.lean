import KubeZoo.WatchMux.Tenant

/-! # List, then watch -/

namespace KubeZoo

open Event
namespace WatchMux

open Transition

variable {β : Type}

def follows [DecidableEq β] (T : Tenant β) (c : Config β) (w : World β) : Action β → Bool
  | .task i (.receive event) =>
    match w.mux.tasks[i]? with
    | some (.follow _) => !event.isObject || decide (w.objects i ++ [event] <+:
        T.namespaces.after "" (parseRevision c.options.resourceVersion))
    | _ => true
  | _ => true

def serves [DecidableEq β] (T : Tenant β) (c : Config β) (w : World β) (a : Action β) : Bool :=
  upstream T.objects w a && follows T c w a

lemma serves_iff [DecidableEq β] {T : Tenant β} {c : Config β} {w : World β} {a : Action β} :
    serves T c w a = true ↔ upstream T.objects w a = true ∧ follows T c w a = true := by
  rw [serves, Bool.and_eq_true]

structure Quiet (T : Tenant β) (c : Config β) (w : World β) : Prop where
  returned : w.mux.shared.returned = true
  stop : w.mux.shared.stop = false
  expiring : w.mux.shared.expiring = .fresh
  idle : ∀ t ∈ w.mux.tasks, t.idle = true
  streams : ∀ i s, w.mux.tasks[i]? = some (.forward s .select) →
    w.objects i = T.objects.after s.namespace (parseRevision s.resourceVersion)
  follower : ∀ i, w.mux.tasks[i]? = some (.follow .select) →
    w.objects i = T.namespaces.after "" (parseRevision c.options.resourceVersion)

/-- What a client holds that has listed at revision `v` and been handed `out`. -/
def clientStore (T : Tenant β) (v : ℕ) (out : List (Event β)) :
    String × String → Option (RuntimeObject β) :=
  Replica.replay key value (T.objects.listAt v) (out.filter isObject)

def OneStream (tasks : List (Task β)) : Prop :=
  ∀ (i j : ℕ) s s' pc pc', tasks[i]? = some (.forward s pc) → tasks[j]? = some (.forward s' pc') →
    s.namespace = s'.namespace → i = j

section

variable {c : Config β} {sh sh' : Shared β} {tasks started : List (Task β)} {i : ℕ}
  {t t' : Task β} {choice : Choice β} {st st' : State β} {a : Action β}

variable {T : Tenant β} {w w' : World β} {pc pc' : ForwardPc β} {s s' : Stream}

lemma Move.started_forward (h : Move c sh tasks i t choice sh' t' started)
    (hu : .forward s pc ∈ started) :
    watched tasks s.namespace = false ∧ started.length = 1 ∧ t.kind ≠ .forward := by
  have hadd : ∀ {ns rv s'}, AddMove sh tasks ns rv choice (.ok (s', started)) →
      watched tasks s.namespace = false ∧ started.length = 1 := by
    intro ns rv s' ha
    cases ha with
    | already => cases hu
    | opened hw =>
      cases List.mem_singleton.mp hu
      exact ⟨hw, rfl⟩
  cases h with
  | «open» h =>
    cases h with
    | added ha => exact ⟨(hadd ha).1, (hadd ha).2, nofun⟩
    | followed | returned => cases List.mem_singleton.mp hu
    | _ => cases hu
  | follow h =>
    cases h with
    | added => cases List.mem_singleton.mp hu
    | _ => cases hu
  | join h =>
    cases h with
    | joined ha => exact ⟨(hadd ha).1, (hadd ha).2, nofun⟩
    | _ => cases hu
  | _ => cases hu

lemma watched_of_getElem? (h : tasks[i]? = some (.forward s pc)) :
    watched tasks s.namespace = true :=
  watched_iff.mpr ⟨_, List.mem_of_getElem? h, rfl⟩

lemma exists_of_moved_forward {j : ℕ} (hm : Move c sh tasks i t choice sh' t' started)
    (ht : tasks[i]? = some t) (hj : (tasks.set i t' ++ started)[j]? = some (.forward s pc)) :
    (∃ s₀ pc₀, tasks[j]? = some (.forward s₀ pc₀) ∧ s₀.namespace = s.namespace) ∨
      (j = tasks.length ∧ .forward s pc ∈ started) := by
  rcases getElem?_of_moved hj with ⟨-, hold⟩ | ⟨rfl, rfl⟩ | ⟨hlen, hmem⟩
  · exact .inl ⟨s, pc, hold, rfl⟩
  · cases hm with
    | @forward s₀ _ pc₀ _ _ _ hf => exact .inl ⟨s₀, pc₀, ht, hf.stream.1.symm⟩
  · have hlt := (List.getElem?_eq_some_iff.mp hj).1
    have hone := (hm.started_forward hmem).2.1
    rw [List.length_append, List.length_set] at hlt
    exact .inr ⟨by omega, hmem⟩

lemma oneStream_step (h : step c st a = some st') (hi : OneStream st.tasks) :
    OneStream st'.tasks := by
  refine step_induction (P := fun st => OneStream st.tasks) h ?_ ?_
  · intro i j s s' pc pc' hi' hj' hns
    exact hi i j s s' pc pc' ((getElem?_of_clientStop hi').resolve_right nofun)
      ((getElem?_of_clientStop hj').resolve_right nofun) hns
  · intro k choice t sh' t' started ht hm i j s s' pc pc' hi' hj' hns
    rcases exists_of_moved_forward hm ht hi' with ⟨s₀, pc₀, hi₀, hs₀⟩ | ⟨rfl, hnew⟩ <;>
      rcases exists_of_moved_forward hm ht hj' with ⟨s₁, pc₁, hj₀, hs₁⟩ | ⟨rfl, hnew'⟩
    · exact hi i j s₀ s₁ pc₀ pc₁ hi₀ hj₀ (by rw [hs₀, hs₁, hns])
    · have hw := watched_of_getElem? hi₀
      rw [hs₀, hns, (hm.started_forward hnew').1] at hw
      cases hw
    · have hw := watched_of_getElem? hj₀
      rw [hs₁, ← hns, (hm.started_forward hnew).1] at hw
      cases hw
    · rfl

theorem oneStream_of_reachable (h : (system c).Reachable st) : OneStream st.tasks := by
  refine h.invariant (P := fun st => OneStream st.tasks) ?_ ?_
  · rintro _ rfl i j s s' pc pc' hi
    cases List.mem_singleton.mp (List.mem_of_getElem? hi)
  · intro s a s' _ hs hstep
    exact oneStream_step hstep hs

def outOf (out : List (Event β)) (ns : String) : List (Event β) :=
  out.filter fun event => event.isObject && event.key.1 == ns

def Handed (objs handed : List (Event β)) : ForwardPc β → Prop
  | .send event => objs = handed ++ [event].filter isObject
  | .expire _ => True
  | .exit => True
  | .retired => True
  | _ => objs = handed

structure OutInv (w : World β) : Prop where
  silent : ∀ ns, watched w.mux.tasks ns = false → outOf w.mux.shared.out ns = []
  handed : ∀ i s pc, w.mux.tasks[i]? = some (.forward s pc) →
    Handed (w.objects i) (outOf w.mux.shared.out s.namespace) pc

lemma outOf_append (out : List (Event β)) (event : Event β) (ns : String) :
    outOf (out ++ [event]) ns = outOf out ns ++
      if event.isObject && event.key.1 == ns then [event] else [] := by
  cases h : event.isObject && event.key.1 == ns <;> simp [outOf, h]

lemma Move.outOf (h : Move c sh tasks i t choice sh' t' started) (hs : t.sound) :
    (∃ s event, t = .forward s (.send event) ∧ event.isObject = true ∧
      sh'.out = sh.out ++ [event]) ∨ ∀ ns, WatchMux.outOf sh'.out ns = WatchMux.outOf sh.out ns := by
  rcases h.out with ho | ⟨event, hoff, ho⟩
  · exact .inr fun ns => by rw [ho]
  · cases hobj : event.isObject with
    | false =>
      right
      intro ns
      rw [ho, outOf_append, hobj]
      exact List.append_nil _
    | true =>
      left
      unfold Task.offered at hoff
      split at hoff
      · -- a merged bookmark is no object
        cases hoff
        rw [isObject, hs.2] at hobj
        cases hobj
      · cases hoff
        exact ⟨_, _, rfl, hobj, ho⟩
      · cases hoff; cases hobj
      · cases hoff; cases hobj
      · cases hoff; cases hobj
      · cases hoff

lemma key_of_send {event : Event β} (hd : StreamsDeliver T.objects w)
    (hh : OutInv w) (ht : w.mux.tasks[i]? = some (.forward s (.send event)))
    (hobj : event.isObject = true) : event.key.1 = s.namespace := by
  have hpre := (hd i s _ ht).1
  have heq : w.objects i = _ ++ [event].filter isObject := hh.handed i s _ ht
  rw [List.filter_cons_of_pos hobj] at heq
  rw [heq] at hpre
  exact T.objects_placed.key_of_mem_after (hpre.subset (by simp))

lemma Handed.step {objs : List (Event β)}
    (h : ForwardMove c sh tasks i s pc choice sh' s' pc') (hs : (Task.forward s pc).sound)
    (hc : sh.closed = false)
    (hkey : ∀ event, pc = .send event → event.isObject = true → event.key.1 = s.namespace)
    (hd : Handed objs (outOf sh.out s.namespace) pc) :
    Handed (objs ++ choice.received.filter isObject) (outOf sh'.out s'.namespace) pc' := by
  rw [h.stream.1]
  cases h with
  | stopped | ended | dropped | expiring | expired | left => trivial
  | @gotBookmark event hb =>
    have hnone : [event].filter isObject = [] := by simp [isObject, hb]
    show objs ++ [event].filter isObject = _
    rw [hnone, List.append_nil]
    exact hd
  | @gotEvent event hb =>
    show objs ++ [event].filter isObject = _
    rw [show objs = _ from hd]
  | folded ho | merged ho =>
    obtain ⟨b, w, rfl⟩ := onBookmark_frame ho
    exact (List.append_nil objs).trans hd
  | @sentBookmark merged _ hand =>
    cases hand with
    | onClosed _ hcl => rw [hc] at hcl; cases hcl
    | taken =>
      have hno : merged.isObject = false := by rw [isObject, hs.2]
      show objs ++ [] = outOf (sh.out ++ [merged]) s.namespace
      rw [outOf_append, hno, List.append_nil]
      exact (show objs = _ from hd).trans (List.append_nil _).symm
  | droppedBookmark | recorded => exact (List.append_nil objs).trans hd
  | @sent event _ hand =>
    cases hand with
    | onClosed _ hcl => rw [hc] at hcl; cases hcl
    | taken =>
      show objs ++ [] = outOf (sh.out ++ [event]) s.namespace
      rw [outOf_append, List.append_nil, show objs = _ from hd]
      congr 1
      cases hobj : event.isObject with
      | false => simp [hobj]
      | true => simp [hobj, hkey event rfl hobj]

lemma World.objects_self (hlog : w'.log = w.log ++ World.logged (.task i choice)) :
    w'.objects i = w.objects i ++ choice.received.filter isObject := by
  unfold World.objects
  rw [World.received_self hlog, List.filter_append]

lemma World.objects_of_ne {j : ℕ} (hlog : w'.log = w.log ++ World.logged (.task j choice))
    (hij : i ≠ j) : w'.objects i = w.objects i := by
  unfold World.objects
  rw [World.received_of_ne hlog hij]

lemma World.objects_eq_nil (h : (World.system c).Reachable w) (hi : w.mux.tasks.length ≤ i) :
    w.objects i = [] := by
  unfold World.objects
  rw [World.received_eq_nil h hi]
  rfl

lemma outOf_of_move (hm : Move c w.mux.shared w.mux.tasks i t choice sh' t' started)
    (ht : w.mux.tasks[i]? = some t) (hs : t.sound) (hd : StreamsDeliver T.objects w)
    (hi : OutInv w) {ns : String} (hns : ¬ t.watches ns) :
    outOf sh'.out ns = outOf w.mux.shared.out ns := by
  rcases hm.outOf hs with ⟨s, event, rfl, hobj, ho⟩ | h
  · have hkey := key_of_send hd hi ht hobj
    have hne : (event.key.1 == ns) = false := by
      rw [hkey, beq_eq_false_iff_ne]
      exact hns
    rw [ho, outOf_append, hne, Bool.and_false]
    exact List.append_nil _
  · exact h ns

lemma outInv_step [DecidableEq β] (hr : (World.system c).Reachable w)
    (h : World.step c w a = some w') (hd : StreamsDeliver T.objects w) (hi : OutInv w) :
    OutInv w' := by
  obtain ⟨hst, hlog⟩ := World.step_eq_some.mp h
  have hmux := World.reachable_mux hr
  have hone := oneStream_of_reachable hmux
  rcases step_cases hst with ⟨i, choice, t, sh', t', started, rfl, ht, hm, heq⟩ | ⟨rfl, -, heq⟩
  swap
  · -- the client's `Stop` starts a goroutine that forwards nothing
    constructor
    · intro ns hw
      rw [heq] at hw ⊢
      exact hi.silent ns (by simpa [watched, streams, Task.stream?] using hw)
    · intro j s pc hj
      rw [heq] at hj ⊢
      rw [World.objects, World.received_clientStop hlog]
      exact hi.handed j s pc ((getElem?_of_clientStop hj).resolve_right fun h => by cases h)
  have hsound := sound_of_reachable hmux t (List.mem_of_getElem? ht)
  have hsh : w'.mux.shared = sh' := by rw [heq]
  constructor
  · intro ns hw
    have hbefore : watched w.mux.tasks ns = false := by
      by_contra hne
      rw [watched_step hst (by simpa using hne)] at hw
      cases hw
    rw [hsh, outOf_of_move hm ht hsound hd hi, hi.silent ns hbefore]
    intro htw
    rw [watched_iff.mpr ⟨t, List.mem_of_getElem? ht, htw⟩] at hbefore
    cases hbefore
  · intro j s pc hj
    rw [hsh]
    rw [heq] at hj
    rcases getElem?_of_moved hj with ⟨hne, hold⟩ | ⟨rfl, rfl⟩ | ⟨hlen, hmem⟩
    · -- another forwarder has another namespace
      rw [World.objects_of_ne hlog hne, outOf_of_move hm ht hsound hd hi]
      · exact hi.handed j s pc hold
      · intro htw
        cases t with
        | forward s₀ pc₀ => exact hne (hone j i s s₀ pc pc₀ hold ht htw.symm)
        | _ => exact htw
    · cases hm with
      | @forward s₀ _ pc₀ _ _ _ hf =>
        rw [World.objects_self hlog]
        refine Handed.step hf hsound ?_ ?_ (hi.handed j s₀ pc₀ ht)
        · exact ((safe_of_reachable hmux).open_of_counted ht hf.counted).2
        · rintro event rfl hobj
          exact key_of_send hd hi ht hobj
    · -- a stream that has just been opened
      obtain ⟨hw, -, hk⟩ := hm.started_forward hmem
      obtain ⟨ns, rv, hu⟩ := hm.started_select hmem
      cases hu
      have hij : j ≠ i := by
        have := (List.getElem?_eq_some_iff.mp ht).1
        omega
      show w'.objects j = outOf sh'.out ns
      rw [World.objects_of_ne hlog hij, World.objects_eq_nil hr hlen,
        outOf_of_move hm ht hsound hd hi, hi.silent _ hw]
      intro htw
      cases t with
      | forward s₀ pc₀ => exact hk rfl
      | _ => exact htw

theorem outInv_of_reachable [DecidableEq β]
    (h : ((World.system c).restrict fun w a => serves T c w a = true).Reachable w) :
    OutInv w := by
  refine h.invariant ?_ ?_
  · rintro _ rfl
    refine ⟨fun ns _ => rfl, fun i s pc hi => ?_⟩
    cases List.mem_singleton.mp (List.mem_of_getElem? hi)
  · intro v a v' hr hv hs
    refine outInv_step hr.mono hs.1 (T := T) (streamsDeliver_of_reachable ?_ hr) hv
    intro w a hg
    exact (serves_iff.mp hg).1

/-- The namespace was created after the revision of the watch, at its own revision `rv`. -/
def Joined (T : Tenant β) (c : Config β) (ns rv : String) : Prop :=
  ∃ event ∈ T.namespaces.after "" (parseRevision c.options.resourceVersion),
    event.type = .added ∧ event.key = ("", ns) ∧ eventRevision event = parseRevision rv

/-- A stream is opened by `newWatchMux` at the revision of the watch, or by a join at the
namespace's own revision. -/
def Opened (T : Tenant β) (c : Config β) (ns rv : String) : Prop :=
  (ns ∈ c.namespaces ∧ rv = c.options.resourceVersion) ∨ (ns ∉ c.namespaces ∧ Joined T c ns rv)

def Task.origin (T : Tenant β) (c : Config β) : Task β → Prop
  | .open (.add rest) => rest ⊆ c.namespaces
  | .forward s _ => Opened T c s.namespace s.resourceVersion
  | .join ns rv _ => Joined T c ns rv
  | _ => True

/-- There is a follower, or a join, only when `newWatchMux` has added every namespace. -/
def FollowInv (st : State β) : Prop :=
  ∀ t ∈ st.tasks, t.kind = .follow ∨ t.kind = .join → ∃ u ∈ st.tasks, u.following = true

variable {event : Event β} {pc : FollowPc} {u : Task β}

lemma Move.following_of_started (h : Move c sh tasks i t choice sh' t' started) (hu : u ∈ started)
    (hk : u.kind = .follow ∨ u.kind = .join) : t'.following = true ∨ t.kind = .follow := by
  cases h with
  | «open» h =>
    cases h with
    | added ha =>
      cases ha with
      | already => cases hu
      | opened => cases List.mem_singleton.mp hu; rcases hk with hk | hk <;> cases hk
    | followed => exact .inl rfl
    | returned => exact .inl rfl
    | _ => cases hu
  | follow h => exact .inr rfl
  | join h =>
    cases h with
    | joined ha =>
      cases ha with
      | already => cases hu
      | opened => cases List.mem_singleton.mp hu; rcases hk with hk | hk <;> cases hk
    | _ => cases hu
  | _ => cases hu

lemma followInv_step (h : step c st a = some st') (hi : FollowInv st) : FollowInv st' := by
  have hkeep : (∃ u ∈ st.tasks, u.following = true) → ∃ u ∈ st'.tasks, u.following = true := by
    refine exists_task_step h ?_
    intro i t choice sh' t' started hm hf
    cases hm with
    | «open» h =>
      cases h with
      | returned => rfl
      | _ => cases hf
    | _ => cases hf
  intro u hu hk
  rcases mem_step h hu with hu | rfl | ⟨i, choice, t, sh', t', started, -, ht, hm, rfl, rfl | hu⟩
  · exact hkeep (hi u hu hk)
  · rcases hk with hk | hk <;> cases hk
  · exact hkeep (hi t (List.mem_of_getElem? ht) (by rwa [← hm.kind]))
  · rcases hm.following_of_started hu hk with hf | hf
    · exact ⟨t', List.mem_of_getElem? (getElem?_moved ht _ _), hf⟩
    · exact hkeep (hi t (List.mem_of_getElem? ht) (.inl hf))

lemma followInv_of_reachable (h : (system c).Reachable st) : FollowInv st := by
  refine h.invariant ?_ ?_
  · rintro _ rfl t ht hk
    rw [List.mem_singleton.mp ht] at hk
    rcases hk with hk | hk <;> cases hk
  · intro s a s' _ hs hstep
    exact followInv_step hstep hs

lemma not_listed_of_join {ns rv : String} {pc : JoinPc} (hst : (system c).Reachable st)
    (ht : .join ns rv pc ∈ st.tasks) (hw : watched st.tasks ns = false) : ns ∉ c.namespaces := by
  intro hns
  obtain ⟨u, hu, hf⟩ := followInv_of_reachable hst _ ht (.inr rfl)
  have hadd : u.toAdd = some [] := by
    unfold Task.following at hf
    split at hf
    · rfl
    · rfl
    · cases hf
  rcases (leftInv_of_reachable hst).listed u hu [] hadd ns hns with h | h
  · cases h
  · rw [hw] at h
    cases h

lemma joined_of_added [DecidableEq β] {m : ObjectMeta} {body : β}
    (ht : w.mux.tasks[i]? = some (.follow pc))
    (hg : follows T c w (.task i (.receive event)) = true) (hty : event.type = .added)
    (hobj : event.object = .object m body) : Joined T c m.name m.resourceVersion := by
  have hisObj : event.isObject = true := by rw [isObject, hty]
  simp only [follows, ht, hisObj, Bool.not_true, Bool.false_or, decide_eq_true_eq] at hg
  have hmem := hg.subset (List.mem_append_right _ (List.mem_singleton.mpr rfl))
  have hacc : event.object.accessor = some m := by rw [hobj]; rfl
  refine ⟨event, hmem, hty, ?_, by rw [eventRevision, hacc]⟩
  rw [Prod.ext_iff]
  refine ⟨T.namespaces_placed.key_of_mem_after hmem, ?_⟩
  rw [key, hacc]

lemma Move.origin (h : Move c sh tasks i t choice sh' t' started) (ho : t.origin T c) :
    t'.origin T c := by
  cases h with
  | «open» h =>
    cases h with
    | added => exact (List.cons_subset.mp ho).2
    | _ => trivial
  | forward h =>
    obtain ⟨hns, hrv⟩ := h.stream
    show Opened T c _ _
    rw [hns, hrv]
    exact ho
  | join h => exact ho
  | _ => trivial

lemma origin_of_started [DecidableEq β]
    (hm : Move c w.mux.shared w.mux.tasks i t choice sh' t' started)
    (hr : (system c).Reachable w.mux) (ht : w.mux.tasks[i]? = some t)
    (hg : follows T c w (.task i choice) = true) (ho : t.origin T c) (hu : u ∈ started) :
    u.origin T c := by
  cases hm with
  | «open» h =>
    cases h with
    | added ha =>
      cases ha with
      | already => cases hu
      | opened =>
        cases List.mem_singleton.mp hu
        exact .inl ⟨(List.cons_subset.mp ho).1, rfl⟩
    | followed | returned => cases List.mem_singleton.mp hu; trivial
    | _ => cases hu
  | follow h =>
    cases h with
    | added hty hobj =>
      cases List.mem_singleton.mp hu
      exact joined_of_added ht hg hty hobj
    | _ => cases hu
  | join h =>
    cases h with
    | joined ha =>
      cases ha with
      | already => cases hu
      | opened hw =>
        cases List.mem_singleton.mp hu
        exact .inr ⟨not_listed_of_join hr (List.mem_of_getElem? ht) hw, ho⟩
    | _ => cases hu
  | _ => cases hu

theorem origin_of_reachable [DecidableEq β]
    (h : ((World.system c).restrict fun w a => serves T c w a = true).Reachable w) :
    ∀ t ∈ w.mux.tasks, t.origin T c := by
  refine h.invariant (P := fun w => ∀ t ∈ w.mux.tasks, t.origin T c) ?_ ?_
  · rintro _ rfl t ht
    rw [List.mem_singleton.mp ht]
    exact List.Subset.refl _
  · intro v a v' hr hv hs
    obtain ⟨hst, -⟩ := World.step_eq_some.mp hs.1
    refine forall_task_step hst trivial ?_ hv
    rintro i t choice sh' t' started rfl ht hm ho
    refine ⟨hm.origin ho, fun u hu => ?_⟩
    exact origin_of_started hm (World.reachable_mux hr.mono) ht (serves_iff.mp hs.2).2 ho hu

def JoinsInv (w : World β) : Prop :=
  ∀ (i : ℕ) pc, w.mux.tasks[i]? = some (.follow pc) → ∀ e ∈ w.objects i, e.type = .added →
    ∃ t ∈ w.mux.tasks, t.joins e.key.2

lemma exists_join_of_added [DecidableEq β]
    (hm : Move c w.mux.shared w.mux.tasks i t (.receive event) sh' t' started)
    (ht : w.mux.tasks[i]? = some t) (htf : t = .follow pc)
    (hg : follows T c w (.task i (.receive event)) = true) (hty : event.type = .added) :
    ∃ u ∈ started, u.joins event.key.2 := by
  subst htf
  cases hm with
  | follow h =>
    cases h with
    | failed he => rw [hty] at he; cases he
    | @added _ m body _ hobj =>
      refine ⟨_, List.mem_singleton.mpr rfl, ?_⟩
      show m.name = event.key.2
      rw [key, show event.object.accessor = some m by rw [hobj]; rfl]
    | other _ hacc =>
      -- a namespace has metadata
      have hisObj : event.isObject = true := by rw [isObject, hty]
      simp only [follows, ht, hisObj, Bool.not_true, Bool.false_or, decide_eq_true_eq] at hg
      have hmem := hg.subset (List.mem_append_right _ (List.mem_singleton.mpr rfl))
      obtain ⟨m, body, hobj, -⟩ := T.namespaces_placed _ (History.mem_after.mp hmem).1
      have hnone := hacc hty
      rw [hobj] at hnone
      cases hnone
    | expiring he => cases he
    | expired he => cases he

lemma joinsInv_step [DecidableEq β] (hr : (World.system c).Reachable w)
    (h : World.step c w a = some w') (hg : follows T c w a = true) (hi : JoinsInv w) :
    JoinsInv w' := by
  obtain ⟨hst, hlog⟩ := World.step_eq_some.mp h
  have hkeep : ∀ ns, (∃ t ∈ w.mux.tasks, t.joins ns) → ∃ t ∈ w'.mux.tasks, t.joins ns := by
    intro ns
    refine exists_task_step hst ?_
    intro i t choice sh' t' started hm hj
    cases hm with
    | join h => exact hj
    | _ => exact hj.elim
  intro j pc hj e he hty
  rcases step_cases hst with ⟨i, choice, t, sh', t', started, rfl, ht, hm, heq⟩ | ⟨rfl, -, heq⟩
  · rw [heq] at hj
    rcases getElem?_of_moved hj with ⟨hne, hold⟩ | ⟨rfl, rfl⟩ | ⟨hlen, hmem⟩
    · rw [World.objects_of_ne hlog hne] at he
      exact hkeep _ (hi j pc hold e he hty)
    · obtain ⟨pc₀, rfl⟩ : ∃ pc₀, t = .follow pc₀ := by
        cases hm with
        | follow h => exact ⟨_, rfl⟩
      rw [World.objects_self hlog] at he
      rcases List.mem_append.mp he with he | he
      · exact hkeep _ (hi j pc₀ ht e he hty)
      · -- this is the event the follower has just received
        obtain ⟨he, -⟩ := List.mem_filter.mp he
        cases choice with
        | receive event =>
          rw [List.mem_singleton.mp he] at hty ⊢
          obtain ⟨u, hu, huj⟩ := exists_join_of_added hm ht rfl hg hty
          rw [heq]
          exact ⟨u, List.mem_append_right _ hu, huj⟩
        | _ => cases he
    · have hij : j ≠ i := by
        have := (List.getElem?_eq_some_iff.mp ht).1
        omega
      rw [World.objects_of_ne hlog hij, World.objects_eq_nil hr hlen] at he
      cases he
  · rw [heq] at hj
    rw [World.objects, World.received_clientStop hlog] at he
    exact hkeep _ (hi j pc ((getElem?_of_clientStop hj).resolve_right nofun) e he hty)

theorem joinsInv_of_reachable [DecidableEq β]
    (h : ((World.system c).restrict fun w a => serves T c w a = true).Reachable w) :
    JoinsInv w := by
  refine h.invariant ?_ ?_
  · rintro _ rfl i pc hi
    cases List.mem_singleton.mp (List.mem_of_getElem? hi)
  · intro v a v' hr hv hs
    exact joinsInv_step hr.mono hs.1 (serves_iff.mp hs.2).2 hv

end

section

variable [DecidableEq β] {T : Tenant β} {c : Config β} {w : World β} {ns : String}

omit [DecidableEq β] in
lemma clientStore_eq (v : ℕ) (out : List (Event β)) (ns name : String) :
    clientStore T v out (ns, name) =
      Replica.replay key value (T.objects.listAt v) (outOf out ns) (ns, name) := by
  rw [clientStore, ← Replica.replay_filter (p := fun event => event.key.1 == ns),
    List.filter_filter]
  · congr 2
    funext event
    exact Bool.and_comm _ _
  · intro e _ hk
    rw [hk]
    exact beq_self_eq_true ns

variable (hq : Quiet T c w)
  (h : ((World.system c).restrict fun w a => serves T c w a = true).Reachable w)

include hq h in
lemma Quiet.watched
    (hns : ns ∈ c.namespaces ∨ T.CreatedAfter (parseRevision c.options.resourceVersion) ns) :
    WatchMux.watched w.mux.tasks ns = true := by
  have hmux := World.reachable_mux h.mono
  have hleft := leftInv_of_reachable hmux
  have hopen := List.mem_of_getElem? (returned_first hmux hq.returned)
  rcases hns with hns | ⟨event, hmem, hty, hk⟩
  · exact (hleft.listed _ hopen [] rfl ns hns).resolve_left nofun
  · obtain ⟨u, hu, hkind⟩ := hleft.follower _ hopen rfl
    obtain ⟨i, hi⟩ := List.mem_iff_getElem?.mp hu
    obtain rfl : u = .follow .select := by
      have hidle := hq.idle u hu
      cases u with
      | follow pc => cases pc <;> first | rfl | cases hidle
      | _ => cases hkind
    -- the follower has been told, so there is a join, and it is done
    rw [← hq.follower i hi] at hmem
    obtain ⟨t, ht, hj⟩ := joinsInv_of_reachable h i .select hi event hmem hty
    rw [hk] at hj
    have hgone : t.gone = true := by
      have hidle := hq.idle t ht
      cases t with
      | join ns rv pc => cases pc <;> first | rfl | cases hidle
      | _ => exact hj.elim
    rcases hleft.left t ht hgone with hstop | hexp | ⟨ns', hj', hw⟩
    · rw [hq.stop] at hstop; cases hstop
    · rw [hq.expiring] at hexp; cases hexp
    · cases t with
      | join n rv pc =>
        obtain rfl : n = ns := hj
        obtain rfl : n = ns' := hj'
        exact hw
      | _ => exact hj.elim

include h in
lemma store_of_unwatched (hw : WatchMux.watched w.mux.tasks ns = false) (v : ℕ) (name : String) :
    clientStore T v w.mux.shared.out (ns, name) = T.objects.listAt v (ns, name) := by
  rw [clientStore_eq, (outInv_of_reachable h).silent ns hw]
  rfl

include hq h in
lemma Quiet.store_of_watched (hw : WatchMux.watched w.mux.tasks ns = true) :
    ∃ rv, Opened T c ns rv ∧ ∀ v name, clientStore T v w.mux.shared.out (ns, name) =
      Replica.replay key value (T.objects.listAt v)
        (T.objects.after ns (parseRevision rv)) (ns, name) := by
  obtain ⟨t, ht, htw⟩ := watched_iff.mp hw
  obtain ⟨i, hi⟩ := List.mem_iff_getElem?.mp ht
  have hidle := hq.idle t ht
  cases t with
  | forward s pc =>
    obtain rfl : s.namespace = ns := htw
    obtain rfl : pc = .select := by cases pc <;> first | rfl | cases hidle
    have hout : w.objects i = outOf w.mux.shared.out s.namespace :=
      (outInv_of_reachable h).handed i s .select hi
    refine ⟨s.resourceVersion, origin_of_reachable h _ ht, fun v name => ?_⟩
    rw [clientStore_eq, ← hout, hq.streams i s hi]
  | _ => exact htw.elim

/-- At rest a client that listed at the revision of its watch holds what there is, if every
namespace it was listed an object of still exists when the watch is opened. -/
theorem list_then_watch_converges (T : Tenant β) (c : Config β) (opened : ℕ)
    (hopened : parseRevision c.options.resourceVersion ≤ opened)
    (hlist : ∀ ns, ns ∈ c.namespaces ↔ T.existsAt opened ns) (w : World β)
    (h : ((World.system c).restrict fun w a => serves T c w a = true).Reachable w)
    (hq : Quiet T c w) :
    ((∀ ns name, T.objects.listAt (parseRevision c.options.resourceVersion) (ns, name) ≠ none →
        T.existsAt opened ns) →
      clientStore T (parseRevision c.options.resourceVersion) w.mux.shared.out = T.objects.now) ∧
    ((∃ ns name, T.objects.listAt (parseRevision c.options.resourceVersion) (ns, name) ≠ none ∧
        ¬ T.existsAt opened ns ∧
        ¬ T.CreatedAfter (parseRevision c.options.resourceVersion) ns) →
      clientStore T (parseRevision c.options.resourceVersion) w.mux.shared.out ≠
        T.objects.now) := by
  set R := parseRevision c.options.resourceVersion with hR
  constructor
  · intro hkept
    funext ⟨ns, name⟩
    by_cases hw : WatchMux.watched w.mux.tasks ns = true
    · obtain ⟨rv, ⟨-, rfl⟩ | ⟨hns, event, hmem, hty, hk, hrev⟩, hstore⟩ := hq.store_of_watched h hw
      · rw [hstore]
        exact T.objects_placed.replay_after R ns name
      · -- joined: the namespace was empty then, and nothing of it was listed
        have hempty := Tenant.listAt_of_created hmem hty hk name
        have hlisted : T.objects.listAt R (ns, name) = none := by
          by_contra hne
          exact hns ((hlist ns).mpr (hkept ns name hne))
        rw [hstore, ← hrev, ← T.objects_placed.replay_after (eventRevision event) ns name]
        exact Replica.replay_congr (hlisted.trans hempty.symm)
    · rw [Bool.not_eq_true] at hw
      have hno : ¬ T.existsAt opened ns ∧ ¬ T.CreatedAfter R ns := by
        constructor <;> intro hx
        · rw [hq.watched h (.inl ((hlist ns).mpr hx))] at hw; cases hw
        · rw [hq.watched h (.inr hx)] at hw; cases hw
      rw [store_of_unwatched h hw, Tenant.now_of_gone hno.1 fun hc => hno.2 (hc.mono hopened)]
      by_contra hne
      exact hno.1 (hkept ns name hne)
  · rintro ⟨ns, name, hlisted, hgone, hnever⟩ heq
    have hw : WatchMux.watched w.mux.tasks ns = false := by
      by_contra hw
      rw [Bool.not_eq_false] at hw
      obtain ⟨rv, ⟨hns, -⟩ | ⟨-, event, hmem, hty, hk, -⟩, -⟩ := hq.store_of_watched h hw
      · exact hgone ((hlist ns).mp hns)
      · exact hnever ⟨event, hmem, hty, hk⟩
    have hkey := congrFun heq (ns, name)
    rw [store_of_unwatched h hw,
      Tenant.now_of_gone hgone fun hc => hnever (hc.mono hopened)] at hkey
    exact hlisted hkey

/-- The client has been handed nothing of the namespace, or the first events of what a stream of it
has to deliver. -/
def InOrder (T : Tenant β) (c : Config β) (out : List (Event β)) (ns : String) : Prop :=
  outOf out ns = [] ∨
    ∃ rv, Opened T c ns rv ∧ outOf out ns <+: T.objects.after ns (parseRevision rv)

include h in
lemma inOrder_step (hs : World.step c w a = some w') (ho : InOrder T c w.mux.shared.out ns) :
    InOrder T c w'.mux.shared.out ns := by
  obtain ⟨hst, -⟩ := World.step_eq_some.mp hs
  rcases step_cases hst with ⟨i, choice, t, sh', t', started, -, ht, hm, heq⟩ | ⟨-, -, heq⟩ <;>
    rw [heq]
  · have hd : StreamsDeliver T.objects w :=
      streamsDeliver_of_reachable (fun _ _ hg => (serves_iff.mp hg).1) h
    have hi := outInv_of_reachable h
    have hmem := List.mem_of_getElem? ht
    have hsound := sound_of_reachable (World.reachable_mux h.mono) t hmem
    by_cases hns : t.watches ns
    · rcases hm.outOf hsound with ⟨s, event, rfl, hobj, hout⟩ | hout
      · -- what is handed out is the last that the stream has received
        obtain rfl : s.namespace = ns := hns
        have hlast : w.objects i = _ ++ [event].filter isObject := hi.handed i s _ ht
        have hdelivered := (hd i s _ ht).1
        rw [hlast, List.filter_cons_of_pos hobj] at hdelivered
        refine .inr ⟨s.resourceVersion, origin_of_reachable h _ hmem, ?_⟩
        rw [hout, outOf_append, hobj, key_of_send hd hi ht hobj, beq_self_eq_true]
        exact hdelivered
      · rw [InOrder, hout ns]
        exact ho
    · rw [InOrder, outOf_of_move hm ht hsound hd hi hns]
      exact ho
  · exact ho

/-- Whatever the order in which the goroutines run, the events handed out of a namespace are the
first of what its stream has to deliver: none is passed over, and none comes twice. -/
theorem handed_in_order (T : Tenant β) (c : Config β) (w : World β)
    (h : ((World.system c).restrict fun w a => serves T c w a = true).Reachable w) (ns : String) :
    InOrder T c w.mux.shared.out ns ∧ (outOf w.mux.shared.out ns).Pairwise
      fun e e' => eventRevision e < eventRevision e' := by
  have ho : InOrder T c w.mux.shared.out ns := by
    refine h.invariant (P := fun w => InOrder T c w.mux.shared.out ns) ?_ ?_
    · rintro _ rfl
      exact .inl rfl
    · intro v a v' hr hv hs
      exact inOrder_step hr hs.1 hv
  refine ⟨ho, ?_⟩
  rcases ho with hnone | ⟨rv, -, hprefix⟩
  · rw [hnone]
    exact .nil
  · exact History.after_ordered.sublist hprefix.sublist

end

section

private def nsEvent (type : EventType) (name rv : String) : String × Event Unit :=
  ("", ⟨type, .object { name := name, resourceVersion := rv } ()⟩)

private def webEvent (type : EventType) (rv : String) : String × Event Unit :=
  ("team-a", ⟨type, .object { name := "web", «namespace» := "team-a", resourceVersion := rv } ()⟩)

/-- `web` is created in `team-a` at revision 3 and deleted at revision 4. -/
private def webHistory : History Unit where
  events := [webEvent .added "3", webEvent .deleted "4"]
  objects := by decide
  ordered := by decide +kernel

/-- `team-b` and `team-a` are created at revisions 1 and 2; `team-a` may be deleted at 5. -/
private def nsHistory (gone : Bool) : History Unit where
  events := [nsEvent .added "team-b" "1", nsEvent .added "team-a" "2"] ++
    if gone then [nsEvent .deleted "team-a" "5"] else []
  objects := by cases gone <;> decide
  ordered := by cases gone <;> decide +kernel

private theorem webHistory_listAt {v : ℕ} {k : String × String}
    (h : webHistory.listAt v k ≠ none) : v = 3 ∧ k.1 = "team-a" := by
  have h3 : eventRevision (webEvent .added "3").2 = 3 := by decide +kernel
  have h4 : eventRevision (webEvent .deleted "4").2 = 4 := by decide +kernel
  have hkey : ∀ type rv, (webEvent type rv).2.key = ("team-a", "web") := fun _ _ => rfl
  have hval' : ∀ rv, (webEvent .deleted rv).2.value = none := fun _ => rfl
  simp only [History.listAt, Replica.storeAt, History.log, webHistory, List.map_cons,
    List.filter_cons, h3, h4, Replica.replay, decide_eq_true_eq] at h
  by_cases hv3 : 3 ≤ v
  · by_cases hv4 : 4 ≤ v
    · rw [if_pos hv3, if_pos hv4] at h
      simp only [List.foldl_cons, Replica.apply, hkey, hval'] at h
      by_cases hk : k = ("team-a", "web") <;> simp [hk] at h
    · rw [if_pos hv3, if_neg hv4] at h
      simp only [List.foldl_cons, Replica.apply, hkey] at h
      by_cases hk : k = ("team-a", "web")
      · exact ⟨by omega, by rw [hk]⟩
      · simp [hk] at h
  · rw [if_neg hv3, if_neg (by omega)] at h
    exact absurd rfl h

private def webTenant (gone : Bool) : Tenant Unit where
  objects := webHistory
  namespaces := nsHistory gone
  objects_placed := by
    intro h hh
    simp only [webHistory, List.mem_cons, List.not_mem_nil, or_false] at hh
    rcases hh with rfl | rfl <;> exact ⟨_, _, rfl, rfl⟩
  namespaces_placed := by
    intro h hh
    have : h = nsEvent .added "team-b" "1" ∨ h = nsEvent .added "team-a" "2" ∨
        h = nsEvent .deleted "team-a" "5" := by
      cases gone <;> simp [nsHistory] at hh <;> tauto
    rcases this with rfl | rfl | rfl <;> exact ⟨_, _, rfl, rfl⟩
  clusterScoped := by cases gone <;> decide
  housed := by
    intro v ns name hns
    by_contra hne
    obtain ⟨rfl, hteam⟩ := webHistory_listAt hne
    obtain rfl : ns = "team-a" := hteam
    revert hns
    cases gone <;> decide +kernel
  created := by cases gone <;> decide +kernel
  modified := by cases gone <;> decide +kernel
  apart := by cases gone <;> decide +kernel

private def fromThree (gone : Bool) : Config Unit where
  options := { resourceVersion := "3" }
  namespaces := if gone then ["team-b"] else ["team-a", "team-b"]
  describe := fun _ => ""

private theorem fromThree_listed (gone : Bool) (ns : String) :
    ns ∈ (fromThree gone).namespaces ↔ (webTenant gone).existsAt 5 ns := by
  have hall : (nsHistory gone).log.filter (fun e => decide (eventRevision e ≤ 5)) =
      (nsHistory gone).log := by
    cases gone <;> decide +kernel
  show _ ↔ Replica.replay _ _ _ ((nsHistory gone).log.filter _) _ ≠ none
  rw [hall]
  by_cases ha : ns = "team-a"
  · subst ha
    cases gone <;> decide +kernel
  · by_cases hb : ns = "team-b"
    · subst hb
      cases gone <;> decide +kernel
    · have hkeys : ∀ e ∈ (nsHistory gone).log, e.key = ("", "team-b") ∨ e.key = ("", "team-a") := by
        cases gone <;> decide +kernel
      have hne : ∀ e ∈ (nsHistory gone).log, e.key ≠ ("", ns) := by
        intro e he hk
        rcases hkeys e he with h | h <;> rw [hk] at h
        · exact hb (Prod.mk.inj h).2
        · exact ha (Prod.mk.inj h).2
      rw [Replica.replay_of_forall_ne hne]
      cases gone <;> simp [fromThree, ha, hb]

private def quietCheck (gone : Bool) (w : World Unit) : Bool :=
  w.mux.shared.returned && !w.mux.shared.stop && decide (w.mux.shared.expiring = .fresh) &&
    w.mux.tasks.zipIdx.all fun p => p.1.idle &&
      match p.1 with
      | .forward s _ => decide (w.objects p.2 =
          webHistory.after s.namespace (parseRevision s.resourceVersion))
      | .follow _ => decide (w.objects p.2 = (nsHistory gone).after "" 3)
      | _ => true

private theorem quiet_of_check {gone : Bool} {w : World Unit} (h : quietCheck gone w = true) :
    Quiet (webTenant gone) (fromThree gone) w := by
  simp only [quietCheck, Bool.and_eq_true, Bool.not_eq_true', decide_eq_true_eq,
    List.all_eq_true] at h
  obtain ⟨⟨⟨hret, hstop⟩, hexp⟩, hall⟩ := h
  have htask : ∀ {i : ℕ} {t : Task Unit}, w.mux.tasks[i]? = some t →
      (t, i) ∈ w.mux.tasks.zipIdx := fun ht => List.mem_zipIdx_iff_getElem?.mpr ht
  have h3 : parseRevision (fromThree gone).options.resourceVersion = 3 := by
    cases gone <;> decide +kernel
  refine ⟨hret, hstop, hexp, fun t ht => ?_, fun i s hi => ?_, fun i hi => ?_⟩
  · obtain ⟨i, hi⟩ := List.mem_iff_getElem?.mp ht
    exact (hall _ (htask hi)).1
  · exact of_decide_eq_true (hall _ (htask hi)).2
  · rw [h3]
    exact of_decide_eq_true (hall _ (htask hi)).2

private def worldOf (gone : Bool) (as : List (Action Unit)) : World Unit :=
  (exec (World.step (fromThree gone)) (World.initial (fromThree gone)) as).getD
    (World.initial (fromThree gone))

private def deletedSeen : List (Action Unit) :=
  [.task 0 .opened, .task 0 .opened, .task 0 .run, .task 0 .opened, .task 0 .run,
    .task 1 (.receive (webEvent .deleted "4").2), .task 1 .deliver, .task 1 .run]

/-- `team-a` is gone when the watch is opened. -/
private def deletedUnseen : List (Action Unit) :=
  [.task 0 .opened, .task 0 .run, .task 0 .opened, .task 0 .run,
    .task 2 (.receive (nsEvent .deleted "team-a" "5").2)]

private theorem exec_deletedSeen :
    exec (fun w a => if serves (webTenant false) (fromThree false) w a
        then World.step (fromThree false) w a else none) (World.initial (fromThree false))
      deletedSeen = some (worldOf false deletedSeen) := by
  decide +kernel

private theorem exec_deletedUnseen :
    exec (fun w a => if serves (webTenant true) (fromThree true) w a
        then World.step (fromThree true) w a else none) (World.initial (fromThree true))
      deletedUnseen = some (worldOf true deletedUnseen) := by
  decide +kernel

theorem list_then_watch_converges_deleted :
    Quiet (webTenant false) (fromThree false) (worldOf false deletedSeen) ∧
      clientStore (webTenant false) (parseRevision "3") (worldOf false deletedSeen).mux.shared.out =
        webHistory.now := by
  have hq : Quiet (webTenant false) (fromThree false) (worldOf false deletedSeen) :=
    quiet_of_check (by decide +kernel)
  refine ⟨hq, ?_⟩
  refine (list_then_watch_converges (webTenant false) (fromThree false) 5 (by decide +kernel)
    (fromThree_listed false) _ (reachable_of_exec_restrict (.init rfl) exec_deletedSeen) hq).1 ?_
  intro ns name h
  obtain ⟨-, hns⟩ := webHistory_listAt h
  rw [← fromThree_listed, show ns = "team-a" from hns]
  decide

theorem deleted_namespace_stays_listed :
    ∃ w, ((World.system (fromThree true)).restrict fun w a =>
        serves (webTenant true) (fromThree true) w a = true).Reachable w ∧
      Quiet (webTenant true) (fromThree true) w ∧
      (∀ ns, ns ∈ (fromThree true).namespaces ↔ (webTenant true).existsAt 5 ns) ∧
      clientStore (webTenant true) (parseRevision "3") w.mux.shared.out ("team-a", "web") ≠ none ∧
      (webTenant true).objects.now ("team-a", "web") = none := by
  exact ⟨worldOf true deletedUnseen, reachable_of_exec_restrict (.init rfl) exec_deletedUnseen,
    quiet_of_check (by decide +kernel), fromThree_listed true, by decide +kernel, by decide +kernel⟩

theorem handed_in_order_deleted :
    outOf (worldOf false deletedSeen).mux.shared.out "team-a" ≠ [] ∧
      InOrder (webTenant false) (fromThree false) (worldOf false deletedSeen).mux.shared.out
        "team-a" :=
  ⟨by decide +kernel,
    (handed_in_order _ _ _ (reachable_of_exec_restrict (.init rfl) exec_deletedSeen) _).1⟩

end

end WatchMux
end KubeZoo
