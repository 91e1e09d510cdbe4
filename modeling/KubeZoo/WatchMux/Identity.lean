import KubeZoo.Fanout.Identity
import KubeZoo.WatchMux.Bookmarks

/-! # Who the multiplexer watches as -/

namespace KubeZoo
namespace WatchMux

open Transition

variable {β : Type}

inductive WatchCall
  | watch (ctx : Caller) (ns : String) (options : ListOptions)
  | watchNamespaces (ctx : Caller) (options : ListOptions)

def Choice.answers : Choice β → Bool
  | .opened => true
  | .refused _ => true
  | _ => false

def Config.streamOptions (c : Config β) (resourceVersion : String) : ListOptions :=
  { c.options with
    resourceVersion := resourceVersion
    «continue» := ""
    limit := 0
    timeoutSeconds := none }

structure Session (β : Type) where
  mux : State β
  contexts : List Caller
  asked : List WatchCall := []

section

variable (users : TenantUsers) (tid : String) (c : Config β)

def Config.namespaceOptions : ListOptions where
  labelSelector := tenantSelector tid
  resourceVersion := c.options.resourceVersion

/-- The watch that `add` asks for. -/
def addCall (tasks : List (Task β)) (ctx : Caller) (ns resourceVersion : String)
    (choice : Choice β) : List WatchCall :=
  if watched tasks ns ∨ !choice.answers then []
  else [.watch ctx ns (c.streamOptions resourceVersion)]

def watchCalls (tasks : List (Task β)) (ctx : Caller) : Task β → Choice β → List WatchCall
  | .open (.add (ns :: _)), choice => addCall c tasks ctx ns c.options.resourceVersion choice
  | .open .follow, choice =>
    if !choice.answers then []
    else [.watchNamespaces (asTenantAdmin users ctx tid) (c.namespaceOptions tid)]
  | .join ns resourceVersion (.attempt _), choice => addCall c tasks ctx ns resourceVersion choice
  | _, _ => []

namespace Session

def step (w : Session β) : Action β → Option (Session β)
  | .task i choice =>
    match w.mux.tasks[i]?, w.contexts[i]? with
    | some task, some ctx =>
      (WatchMux.step c w.mux (.task i choice)).map fun st =>
        { mux := st
          contexts := w.contexts ++
            List.replicate (st.tasks.length - w.mux.tasks.length) ctx
          asked := w.asked ++ watchCalls users tid c w.mux.tasks ctx task choice }
    | _, _ => none
  | .clientStop =>
    (WatchMux.step c w.mux .clientStop).map fun st =>
      { w with mux := st, contexts := w.contexts ++ [none] }

/-- `newWatchMux` has been called by `caller`. -/
def initial (caller : Caller) : Session β := { mux := WatchMux.initial c, contexts := [caller] }

def system (caller : Caller) : System (Session β) (Action β) :=
  ofStep (step users tid c) fun w => w = initial c caller

end Session

variable (may : Caller → String → Prop)

def WatchCall.Allowed : WatchCall → Prop
  | watch ctx ns _ => may ctx ns
  | watchNamespaces _ _ => True

def Task.Sent (event : Event β) : Task β → Prop
  | .forward s _ => event.type ≠ .bookmark → ∀ m ∈ event.object.accessor, m.namespace = s.namespace
  | _ => True

def Honoured (w : Session β) : Action β → Prop
  | .task i .opened => ∀ task ∈ w.mux.tasks[i]?, ∀ ctx ∈ w.contexts[i]?,
      ∀ call ∈ watchCalls users tid c w.mux.tasks ctx task .opened, call.Allowed may
  | .task i (.receive event) => ∀ task ∈ w.mux.tasks[i]?, task.Sent event
  | _ => True

/-- The caller may read the namespace of the object. -/
def Readable (caller : Caller) (event : Event β) : Prop :=
  event.type ≠ .bookmark → ∀ m ∈ event.object.accessor, may caller m.namespace

instance [∀ ctx ns, Decidable (may ctx ns)] : (call : WatchCall) → Decidable (call.Allowed may)
  | .watch ctx ns _ => inferInstanceAs (Decidable (may ctx ns))
  | .watchNamespaces _ _ => .isTrue trivial

instance (event : Event β) : (task : Task β) → Decidable (task.Sent event)
  | .forward _ _ => inferInstanceAs (Decidable (_ → _))
  | .open _ | .follow _ | .join _ _ _ | .stopper _ | .closer _ => .isTrue trivial

instance [∀ ctx ns, Decidable (may ctx ns)] (w : Session β) :
    (a : Action β) → Decidable (Honoured users tid c may w a)
  | .task i .opened => inferInstanceAs (Decidable (∀ task ∈ w.mux.tasks[i]?,
      ∀ ctx ∈ w.contexts[i]?, ∀ call ∈ watchCalls users tid c w.mux.tasks ctx task .opened,
        call.Allowed may))
  | .task i (.receive event) => inferInstanceAs (Decidable (∀ task ∈ w.mux.tasks[i]?,
      task.Sent event))
  | .task _ .run | .task _ .stopped | .task _ .ended | .task _ .deliver | .task _ .elapsed
  | .task _ (.refused _) | .clientStop => .isTrue trivial

end

section

variable {users : TenantUsers} {tid : String} {c : Config β} {caller : Caller}
  {may : Caller → String → Prop} {w w' : Session β} {a : Action β}

variable (h : Session.step users tid c w a = some w')

include h in
lemma Session.step_cases :
    (∃ i choice t ctx sh' t' started, a = .task i choice ∧ w.mux.tasks[i]? = some t ∧
      w.contexts[i]? = some ctx ∧
      Move c w.mux.shared w.mux.tasks i t choice sh' t' started ∧
      w'.mux = ⟨sh', w.mux.tasks.set i t' ++ started⟩ ∧
      w'.contexts = w.contexts ++ List.replicate started.length ctx ∧
      w'.asked = w.asked ++ watchCalls users tid c w.mux.tasks ctx t choice) ∨
    (a = .clientStop ∧ w'.mux = { w.mux with tasks := w.mux.tasks ++ [.stopper (some .enter)] } ∧
      w'.contexts = w.contexts ++ [none] ∧ w'.asked = w.asked) := by
  cases a with
  | task i choice =>
    left
    simp only [step] at h
    split at h
    · next t ctx ht hctx =>
      obtain ⟨st, hst, rfl⟩ := Option.map_eq_some_iff.mp h
      rcases WatchMux.step_cases hst with ⟨j, ch, u, sh', u', started, ha, hu, hm, rfl⟩ | ⟨ha, -, -⟩
      · cases ha
        rw [ht] at hu
        cases hu
        refine ⟨i, choice, t, ctx, sh', u', started, rfl, ht, hctx, hm, rfl, ?_, rfl⟩
        simp
      · cases ha
    · cases h
  | clientStop =>
    right
    obtain ⟨st, hst, rfl⟩ := Option.map_eq_some_iff.mp h
    rcases WatchMux.step_cases hst with ⟨j, ch, u, sh', u', started, ha, -, -, -⟩ | ⟨-, -, rfl⟩
    · cases ha
    · exact ⟨rfl, rfl, rfl, rfl⟩

variable {choice : Choice β} {started tasks : List (Task β)} {sh sh' : Shared β} {t t' : Task β}
  {i : ℕ}

lemma ctx_of_mem_watchCalls {ctx ctx' : Caller} {ns : String} {options : ListOptions}
    (h : .watch ctx' ns options ∈ watchCalls users tid c tasks ctx t choice) :
    ctx' = ctx ∧ t.kind ≠ .stopper := by
  have hadd : ∀ ns' rv, .watch ctx' ns options ∈ addCall c tasks ctx ns' rv choice → ctx' = ctx := by
    intro ns' rv h
    unfold addCall at h
    split_ifs at h
    · cases h
    · cases List.mem_singleton.mp h
      rfl
  unfold watchCalls at h
  split at h
  · exact ⟨hadd _ _ h, by simp [Task.kind]⟩
  · split_ifs at h
    · cases h
    · cases List.mem_singleton.mp h
  · exact ⟨hadd _ _ h, by simp [Task.kind]⟩
  · cases h

lemma Move.kind_of_started (h : Move c sh tasks i t choice sh' t' started) (hstarted : started ≠ []) :
    t.kind ≠ .stopper := by
  cases h with
  | stopper h => exact absurd rfl hstarted
  | _ => simp [Task.kind]

/-- Every goroutine but a call of `Stop` has the caller's context, and every watch on objects was
asked for with it. -/
structure AsCaller (caller : Caller) (w : Session β) : Prop where
  length : w.contexts.length = w.mux.tasks.length
  contexts : ∀ (i : ℕ) (t : Task β) (ctx : Caller), w.mux.tasks[i]? = some t → w.contexts[i]? = some ctx →
    t.kind ≠ .stopper → ctx = caller
  asked : ∀ ctx ns options, .watch ctx ns options ∈ w.asked → ctx = caller

lemma asCaller_initial : AsCaller caller (Session.initial c caller) where
  length := rfl
  contexts i t ctx ht hctx _ := by
    cases i with
    | zero => exact (Option.some.inj hctx).symm
    | succ i => cases hctx
  asked _ _ _ h := by cases h

lemma getElem?_contexts {contexts : List Caller} {n j : ℕ} {ctx ctx' : Caller}
    (h : (contexts ++ List.replicate n ctx)[j]? = some ctx') :
    contexts[j]? = some ctx' ∨ contexts.length ≤ j ∧ ctx' = ctx := by
  by_cases hj : j < contexts.length
  · rw [List.getElem?_append_left hj] at h
    exact .inl h
  · rw [List.getElem?_append_right (by omega)] at h
    exact .inr ⟨by omega, List.eq_of_mem_replicate (List.mem_of_getElem? h)⟩

include h in
lemma asCaller_step (hw : AsCaller caller w) :
    AsCaller caller w' := by
  rcases Session.step_cases h with
    ⟨i, choice, t, ctx, sh', t', started, rfl, ht, hctx, hm, hmux, hcontexts, hasked⟩ |
    ⟨rfl, hmux, hcontexts, hasked⟩
  · have hown : t.kind ≠ .stopper → ctx = caller := hw.contexts i t ctx ht hctx
    refine ⟨?_, ?_, ?_⟩
    · rw [hmux, hcontexts]
      simp [hw.length]
    · intro j u ctx' hu hctx' hkind
      rw [hmux] at hu
      rw [hcontexts] at hctx'
      rcases getElem?_contexts hctx' with hold | ⟨hnew, rfl⟩
      · have hj : j < w.mux.tasks.length := by
          rw [← hw.length]
          exact (List.getElem?_eq_some_iff.mp hold).1
        rcases getElem?_of_moved hu with ⟨-, hthere⟩ | ⟨rfl, rfl⟩ | ⟨hlate, -⟩
        · exact hw.contexts j u ctx' hthere hold hkind
        · rw [hm.kind] at hkind
          rw [← hown hkind]
          exact Option.some.inj (hold.symm.trans hctx)
        · omega
      · rcases getElem?_of_moved hu with ⟨-, hthere⟩ | ⟨rfl, rfl⟩ | ⟨-, hstarted⟩
        · have hlt := (List.getElem?_eq_some_iff.mp hthere).1
          rw [hw.length] at hnew
          omega
        · have hlt := (List.getElem?_eq_some_iff.mp ht).1
          rw [hw.length] at hnew
          omega
        · exact hown (hm.kind_of_started (List.ne_nil_of_mem hstarted))
    · intro ctx' ns options hcall
      rw [hasked] at hcall
      rcases List.mem_append.mp hcall with hold | hnew
      · exact hw.asked ctx' ns options hold
      · obtain ⟨rfl, hkind⟩ := ctx_of_mem_watchCalls hnew
        exact hown hkind
  · refine ⟨?_, ?_, ?_⟩
    · rw [hmux, hcontexts]
      simp [hw.length]
    · intro j u ctx' hu hctx' hkind
      rw [hmux] at hu
      rw [hcontexts] at hctx'
      by_cases hj : j < w.mux.tasks.length
      · rw [List.getElem?_append_left hj] at hu
        rw [List.getElem?_append_left (by rw [hw.length]; exact hj)] at hctx'
        exact hw.contexts j u ctx' hu hctx' hkind
      · -- The goroutine is the client's call of `Stop`.
        rw [List.getElem?_append_right (by omega)] at hu
        rw [List.mem_singleton.mp (List.mem_of_getElem? hu)] at hkind
        exact absurd rfl hkind
    · rw [hasked]
      exact hw.asked

lemma asCaller_of_reachable (h : (Session.system users tid c caller).Reachable w) :
    AsCaller caller w := by
  refine h.invariant (P := AsCaller caller) ?_ ?_
  · intro w hw
    rw [show w = Session.initial c caller from hw]
    exact asCaller_initial
  · intro w a w' _ hw hstep
    exact asCaller_step hstep hw

def Task.Reads (may : Caller → String → Prop) (caller : Caller) : Task β → Prop
  | .forward s pc => may caller s.namespace ∧ ∀ event, pc = .send event → Readable may caller event
  | _ => True

variable (users tid) in
lemma Move.opened_of_started (h : Move c sh tasks i t choice sh' t' started)
    (hs : .forward s pc ∈ started) (ctx : Caller) :
    choice = .opened ∧ pc = .select ∧
      ∃ options, .watch ctx s.namespace options ∈ watchCalls users tid c tasks ctx t .opened := by
  have hadd : ∀ {ns rv : String}, AddMove sh tasks ns rv choice (.ok (sh', started)) →
      choice = .opened ∧ pc = .select ∧ ∃ options,
        .watch ctx s.namespace options ∈ addCall c tasks ctx ns rv .opened := by
    intro ns rv hadd
    cases hadd with
    | already _ => cases hs
    | opened hw =>
      cases List.mem_singleton.mp hs
      refine ⟨rfl, rfl, c.streamOptions rv, ?_⟩
      simp [addCall, hw, Choice.answers]
  cases h with
  | «open» h =>
    cases h with
    | added h => exact hadd h
    | followed => cases List.mem_singleton.mp hs
    | returned => cases List.mem_singleton.mp hs
    | _ => cases hs
  | follow h =>
    cases h with
    | added _ _ => cases List.mem_singleton.mp hs
    | _ => cases hs
  | join h =>
    cases h with
    | joined h => exact hadd h
    | _ => cases hs
  | _ => cases hs

lemma Move.reads (h : Move c sh tasks i t choice sh' t' started)
    (hsent : ∀ event, choice = .receive event → t.Sent event) (ht : t.Reads may caller) :
    t'.Reads may caller := by
  cases h with
  | forward h =>
    refine ⟨?_, ?_⟩
    · rw [h.stream.1]
      exact ht.1
    · intro event hpc
      cases h with
      | gotEvent hevent =>
        cases hpc
        intro _ m hm
        rw [hsent event rfl hevent m hm]
        exact ht.1
      | _ => cases hpc
  | _ => trivial

lemma Task.readable_of_offered {event : Event β} (h : t.offered = some event) (hsound : t.sound)
    (ht : t.Reads may caller) : Readable may caller event := by
  have hexpired : ∀ reason, Readable may caller (expiredEvent reason : Event β) := by
    intro reason _ m hm
    cases hm
  unfold Task.offered at h
  split at h
  · cases h
    intro hbookmark
    exact absurd hsound.2 hbookmark
  · cases h
    exact ht.2 _ rfl
  · cases h
    exact hexpired _
  · cases h
    exact hexpired _
  · cases h
    exact hexpired _
  · cases h

include h in
lemma Session.step_mux : WatchMux.step c w.mux a = some w'.mux := by
  cases a with
  | task i choice =>
    simp only [step] at h
    split at h
    · obtain ⟨st, hst, rfl⟩ := Option.map_eq_some_iff.mp h
      exact hst
    · cases h
  | clientStop =>
    obtain ⟨st, hst, rfl⟩ := Option.map_eq_some_iff.mp h
    exact hst

lemma mux_reachable (h : (Session.system users tid c caller).Reachable w) :
    (system c).Reachable w.mux := by
  refine h.invariant (P := fun w => (system c).Reachable w.mux) ?_ ?_
  · intro w hw
    rw [show w = Session.initial c caller from hw]
    exact .init rfl
  · intro w a w' _ hw hstep
    exact hw.step (Session.step_mux hstep)

structure OnlyReadable (may : Caller → String → Prop) (caller : Caller) (w : Session β) : Prop where
  tasks : ∀ t ∈ w.mux.tasks, t.Reads may caller
  out : ∀ event ∈ w.mux.shared.out, Readable may caller event

include h in
lemma onlyReadable_step (hhonoured : Honoured users tid c may w a) (hcaller : AsCaller caller w)
    (hsound : ∀ t ∈ w.mux.tasks, t.sound) (hw : OnlyReadable may caller w) :
    OnlyReadable may caller w' := by
  rcases Session.step_cases h with
    ⟨i, choice, t, ctx, sh', t', started, rfl, ht, hctx, hm, hmux, -, -⟩ | ⟨-, hmux, -, -⟩
  · have htask := List.mem_of_getElem? ht
    refine ⟨?_, ?_⟩
    · intro u hu
      rw [hmux] at hu
      rcases mem_moved hu with hu | rfl | hu
      · exact hw.tasks u hu
      · refine hm.reads ?_ (hw.tasks t htask)
        rintro event rfl
        exact hhonoured t ht
      · cases u with
        | forward s pc =>
          obtain ⟨rfl, rfl, options, hcall⟩ := hm.opened_of_started users tid hu ctx
          have hopened : may ctx s.namespace := hhonoured t ht ctx hctx _ hcall
          rw [hcaller.contexts i t ctx ht hctx (ctx_of_mem_watchCalls hcall).2] at hopened
          exact ⟨hopened, fun _ hpc => by cases hpc⟩
        | _ => trivial
    · rw [hmux]
      rcases hm.out with hout | ⟨event, hoffered, hout⟩
      · rw [hout]
        exact hw.out
      · intro e he
        rw [hout] at he
        rcases List.mem_append.mp he with he | he
        · exact hw.out e he
        · rw [List.mem_singleton.mp he]
          exact Task.readable_of_offered hoffered (hsound t htask) (hw.tasks t htask)
  · refine ⟨?_, ?_⟩
    · intro u hu
      rw [hmux] at hu
      rcases List.mem_append.mp hu with hu | hu
      · exact hw.tasks u hu
      · rw [List.mem_singleton.mp hu]
        trivial
    · rw [hmux]
      exact hw.out

lemma onlyReadable_of_reachable (h : ((Session.system users tid c caller).restrict
      (Honoured users tid c may)).Reachable w) : OnlyReadable may caller w := by
  refine h.invariant (P := OnlyReadable may caller) ?_ ?_
  · intro w hw
    rw [show w = Session.initial c caller from hw]
    refine ⟨?_, ?_⟩
    · intro t ht
      rw [List.mem_singleton.mp ht]
      trivial
    · intro event hevent
      cases hevent
  · intro w a w' hr hw hstep
    exact onlyReadable_step hstep.1 hstep.2 (asCaller_of_reachable hr.mono)
      (sound_of_reachable (mux_reachable hr.mono)) hw

end

/-- Fan-out gives no one more than they have: objects are listed and watched as the caller, so that
what is delivered is the caller's to read, and a list that comes to a namespace that is not fails. -/
theorem fanout_reads_as_caller {σ : Type} (users : TenantUsers) (tid : String)
    (may : Caller → String → Prop) (caller : Caller) :
    (∀ (serve : Calls.Server σ FanoutCall (Calls.Answer GoError (FanoutCall.Result (Object β))))
        (options : ListOptions) (s : σ),
      let program := (listAcrossNamespacesAs users caller options tid).run
      (∀ ctx ns o, .list ctx ns o ∈ Calls.Program.calls serve program s → ctx = caller) ∧
      (Honours may serve → (∀ list, (Calls.Program.run serve program s).2 = .ok list →
          ∀ o ∈ list.items, may caller o.metadata.namespace) ∧
        ∀ ns o, .list caller ns o ∈ Calls.Program.calls serve program s → ¬ may caller ns →
          ∃ e, (Calls.Program.run serve program s).2 = .error e)) ∧
    ∀ (c : Config β) (w : Session β), ((Session.system users tid c caller).Reachable w →
        ∀ ctx ns o, .watch ctx ns o ∈ w.asked → ctx = caller) ∧
      (((Session.system users tid c caller).restrict (Honoured users tid c may)).Reachable w →
        ∀ event ∈ w.mux.shared.out, Readable may caller event) := by
  refine ⟨?_, ?_⟩
  · intro serve options s program
    refine ⟨fun ctx ns o hcall => reads_as_caller hcall, fun hserve => ⟨?_, ?_⟩⟩
    · intro list hlist
      exact may_of_listAcrossNamespacesAs hserve hlist
    · intro ns o hcall hns
      cases hlist : (Calls.Program.run serve program s).2 with
      | error e => exact ⟨e, rfl⟩
      | ok list => exact absurd (may_of_mem_calls hserve hlist hcall) hns
  · intro c w
    exact ⟨fun h => (asCaller_of_reachable h).asked, fun h => (onlyReadable_of_reachable h).out⟩

section

private def users : TenantUsers where
  tenantAdminUser tid := tid ++ "-admin"
  tenantIDKey := "tenant"

private def ann : Caller := some { name := "ann" }

private def annReads (ctx : Caller) (ns : String) : Prop :=
  ctx.map (·.name) = some "ann" ∧ ns = "team-a"

private instance (ctx : Caller) (ns : String) : Decidable (annReads ctx ns) :=
  inferInstanceAs (Decidable (_ ∧ _))

private def objectIn (ns : String) : Object Unit where
  metadata := { name := "web", «namespace» := ns }
  body := ()

private def annClient (ctx : Caller) : DynamicClient (Object Unit) where
  list ns _ := if annReads ctx ns then .ok { items := [objectIn ns] } else .error (.plain "forbidden")
  listNamespaces _ := .ok (["team-a", "team-b"], "5")

private lemma honours_annClient : Honours annReads (answering annClient) := by
  intro s call r h
  cases call with
  | listNamespaces ctx options => trivial
  | list ctx ns options =>
    simp only [answering, annClient] at h
    split_ifs at h with hreads
    cases h
    refine ⟨hreads, ?_⟩
    intro o ho
    rw [List.mem_singleton.mp ho]
    rfl

private def oneTeam : Config Unit where
  options := { resourceVersion := "5" }
  namespaces := ["team-a"]
  describe := fun _ => ""

private def added : Event Unit := ⟨.added, .object (objectIn "team-a").metadata ()⟩

private def openAndSend : List (Action Unit) :=
  [.task 0 .opened, .task 0 .run, .task 0 .opened, .task 0 .run, .task 1 (.receive added),
    .task 1 .deliver]

private lemma exec_openAndSend :
    (exec (fun w a => if decide (Honoured users "t" oneTeam annReads w a) = true
        then Session.step users "t" oneTeam w a else none)
      (Session.initial oneTeam ann) openAndSend).map (·.mux.shared.out) = some [added] := by
  decide +kernel

theorem fanout_reads_as_caller_ann :
    (∃ e, (Calls.Program.run (answering annClient)
      (listAcrossNamespacesAs users ann {} "t").run ⟨⟩).2 = .error e) ∧
    ∃ w : Session Unit, w.mux.shared.out = [added] ∧
      ∀ event ∈ w.mux.shared.out, Readable annReads ann event := by
  have h := fanout_reads_as_caller (β := Unit) (σ := PUnit) users "t" annReads ann
  refine ⟨?_, ?_⟩
  · refine ((h.1 (answering annClient) {} ⟨⟩).2 honours_annClient).2 "team-b"
      (perNamespace {} "5" "" 0) ?_ (by decide)
    decide +kernel
  · obtain ⟨w, hw, hout⟩ := Option.map_eq_some_iff.mp exec_openAndSend
    refine ⟨w, hout, (h.2 oneTeam w).2 ?_⟩
    have hreach : ((Session.system users "t" oneTeam ann).restrict fun w a =>
        decide (Honoured users "t" oneTeam annReads w a) = true).Reachable w :=
      reachable_of_exec_restrict (.init rfl) hw
    simpa only [decide_eq_true_eq] using hreach

end

end WatchMux
end KubeZoo
