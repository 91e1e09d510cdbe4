import KubeZoo.Projection.Model
import KubeZoo.WatchMux.Watcher

/-! # The watches a tenant gets -/

namespace KubeZoo

open Transition

variable {β : Type}

structure UpstreamWatch where
  stops : ℕ := 0
  closed : Bool := false
deriving DecidableEq

inductive UpstreamWatch.Action (β : Type)
  | send (event : Event β)
  | close

namespace UpstreamWatch

def step (s : UpstreamWatch) : Action β → Option UpstreamWatch
  | .send _ => if s.closed then none else some s
  | .close => if s.closed then none else some { s with closed := true }

def Action.event : Action β → Option (Event β)
  | .send event => some event
  | .close => none

end UpstreamWatch

def upstreamWatch (β : Type) : Watcher (Event β) where
  State := UpstreamWatch
  Action := UpstreamWatch.Action β
  Init s := s = {}
  step := UpstreamWatch.step
  call s := some { s with stops := s.stops + 1 }
  gives _ a := a.event
  ready _ := true
  calls s := s.stops
  returned _ := true
  closed s := s.closed
  panicked _ := false
  ended s := s.stops ≠ 0

lemma UpstreamWatch.stops_step {s s' : UpstreamWatch} {a : UpstreamWatch.Action β}
    (h : s.step a = some s') : s'.stops = s.stops := by
  cases a with
  | send event | close =>
    simp only [UpstreamWatch.step] at h
    split_ifs at h
    rw [← Option.some.inj h]

lemma sound_upstreamWatch : (upstreamWatch β).Sound fun _ => True where
  init := by
    rintro s rfl
    rfl
  calls_step _ _ _ h := UpstreamWatch.stops_step h
  calls_call s s' h := by
    rw [← Option.some.inj h]
    rfl
  ready_next _ _ _ _ _ := rfl
  callable s _ := ⟨_, rfl⟩
  calm _ _ := rfl
  stays r n m hm h := by
    refine r.stable (P := fun s : UpstreamWatch => s.stops ≠ 0) ?_ hm h
    intro s a s' _ hs hstep
    cases a with
    | some a => exact (UpstreamWatch.stops_step hstep).trans_ne hs
    | none =>
      rw [← Option.some.inj hstep]
      exact Nat.succ_ne_zero _
  stops r _ _ n hn := by
    rcases r.next n with ⟨hnone, -⟩ | ⟨a, ha, hs⟩
    · rw [hn] at hnone
      cases hnone
    · rw [hn] at ha
      cases ha
      refine ⟨n + 1, by omega, ?_⟩
      rw [← Option.some.inj hs]
      exact Nat.succ_ne_zero _
  returns _ _ _ n _ := ⟨n, le_rfl, fun _ _ => rfl⟩

def newInternalErrorEvent (message : String) : Event β :=
  ⟨.error, .status (newInternalError message)⟩

/-- What a `proxyWatch` is made with. `belongsToTenant` and `trimTenantIDFromStatus` are the contract's,
for this tenant, and `describe` is the `%+v` of an object in a message. An event carries, beside the
metadata of an object, its pod template and its body. -/
structure ProxyWatch (β : Type) where
  tenantProxy : TenantProxy β
  tenantID : String
  requestNamespace : String
  belongsToTenant : ObjectMeta → Bool
  trimTenantIDFromStatus : Status → Status
  describe : Object β → String

namespace ProxyWatch

def convert (w : ProxyWatch β) (type : EventType) (utd : Object β) :
    Watcher.Handling (Event (PodTemplate × β)) :=
  match w.tenantProxy.convertUnstructuredToOutput utd with
  | .error e => .last (newInternalErrorEvent
      ("failed to convert unstructured to output, utd: " ++ w.describe utd ++ ", err: " ++ e.error))
  | .ok output =>
    match w.tenantProxy.convertUpstreamObjectToTenantObject output w.tenantID w.requestNamespace with
    | .error e => .last (newInternalErrorEvent
        ("failed to convert upstream object to tenant object, utd: " ++ w.describe utd ++
          ", err: " ++ e.error))
    | .ok obj => .send ⟨type, .object obj.metadata (obj.template, obj.body)⟩

/-- The switch of `proxy`. -/
def handle (w : ProxyWatch β) (event : Event (PodTemplate × β)) :
    Watcher.Handling (Event (PodTemplate × β)) :=
  match event.type, event.object with
  | .bookmark, _ => .send event
  | .error, .status s => .last ⟨.error, .status (w.trimTenantIDFromStatus s)⟩
  | .error, .object _ _ => .leave
  | _, .status _ => .skip
  | type, .object m (template, body) =>
    if !w.belongsToTenant m then .skip
    else if w.tenantProxy.hideProjected && w.tenantProxy.contract.isManagedBindingName m.name then
      .skip
    else w.convert type { metadata := m, template := template, body := body }

/-- `proxyWatch`: its pump stops the watch below when it leaves. -/
def layer (w : ProxyWatch β) :
    Watcher.Layer (Event (PodTemplate × β)) (Event (PodTemplate × β)) where
  handle := w.handle
  guarded := false
  leavesOnStop := false

end ProxyWatch

/-- The event of a record, as one of the ClusterRoleBinding. The object of a bookmark has not been
converted by the `proxyWatch` below, so it is no RoleBinding. -/
def projectionEvent (c : Contract) (event : Event (PodTemplate × BindingBody)) :
    Event (PodTemplate × BindingBody) :=
  match event.type, event.object with
  | .bookmark, _ => event
  | _, .status _ => event
  | type, .object m (template, body) =>
    let crb := asClusterRoleBinding c { metadata := m, template := template, body := body }
    ⟨type, .object crb.metadata (crb.template, crb.body)⟩

/-- `projectionWatch`: its `Stop` stops the watch below. -/
def projectionWatch (c : Contract) :
    Watcher.Layer (Event (PodTemplate × BindingBody)) (Event (PodTemplate × BindingBody)) where
  handle event := .send (projectionEvent c event)
  guarded := true
  leavesOnStop := true

/-- If `Stop` is called at most once on a watcher the gateway hands out, nothing panics, whatever the
events, the errors of conversions and the schedule; and after the call everything ends in every fair
run, whether anybody reads or not. -/
theorem watch_shutdown_safe (w : ProxyWatch β) (c : WatchMux.Config (PodTemplate × β))
    (v : ProxyWatch BindingBody) (d : WatchMux.Config (PodTemplate × BindingBody))
    (contract : Contract) :
    (w.layer.atop (upstreamWatch _)).SafeShutdown (w.layer.Fair _ fun _ => True) ∧
    (w.layer.atop (WatchMux.watcher c)).SafeShutdown (w.layer.Fair _ (WatchMux.FairWatch c)) ∧
    ((projectionWatch contract).atop (v.layer.atop (upstreamWatch _))).SafeShutdown
      ((projectionWatch contract).Fair _ (v.layer.Fair _ fun _ => True)) ∧
    ((projectionWatch contract).atop (v.layer.atop (WatchMux.watcher d))).SafeShutdown
      ((projectionWatch contract).Fair _ (v.layer.Fair _ (WatchMux.FairWatch d))) := by
  have hupstream {β : Type} (w : ProxyWatch β) := w.layer.sound_atop (sound_upstreamWatch)
  have hmux {β : Type} (w : ProxyWatch β) (c : WatchMux.Config (PodTemplate × β)) :=
    w.layer.sound_atop (WatchMux.sound_watcher c)
  exact ⟨(hupstream w).safeShutdown, (hmux w c).safeShutdown,
    ((projectionWatch contract).sound_atop (hupstream v)).safeShutdown,
    ((projectionWatch contract).sound_atop (hmux v d)).safeShutdown⟩

section

private def plainBindings : TenantProxy BindingBody where
  kind := { group := "rbac.authorization.k8s.io", version := "v1", kind := "RoleBinding" }
  resource := "rolebindings"
  namespaceScoped := true
  contract := dashContract

private def bindingWatch : ProxyWatch BindingBody where
  tenantProxy := plainBindings
  tenantID := "111111"
  requestNamespace := "kube-system"
  belongsToTenant _ := true
  trimTenantIDFromStatus s := s
  describe _ := ""

private def overUpstream : Watcher (Event (PodTemplate × BindingBody)) :=
  bindingWatch.layer.atop (upstreamWatch _)

private def overRecords : Watcher (Event (PodTemplate × BindingBody)) :=
  (projectionWatch dashContract).atop overUpstream

private def added : Event (PodTemplate × BindingBody) :=
  ⟨.added, .object { name := "viewers" } (.absent, {})⟩

/-- A record is read from upstream and nobody takes it; `Stop` is called, and everybody leaves. -/
private def stopSchedule : List (Option overRecords.Action) :=
  [some (.inner .start), some .start, some (.inner (.receive (.send added))), none,
    some (.stopper 0), some (.stopper 0), some (.stopper 0), some (.inner (.stopper 0)),
    some (.stopper 0), some .stopped, some .close, some (.inner .stopped), some (.inner .stopped),
    some (.inner .call), some (.inner .returned), some (.inner .close)]

private def stopFinal : overRecords.State where
  inner := { inner := { stops := 1 }, pump := .done, stop := true, stopOnce := .done,
             stoppers := [.done], closed := true }
  pump := .done
  stop := true
  stopOnce := .done
  stoppers := [.done]
  closed := true

private def fresh : overRecords.State := { inner := { inner := {} } }

private theorem exec_stopSchedule : exec overRecords.next fresh stopSchedule = some stopFinal := rfl

private theorem init_fresh : overRecords.Init fresh := ⟨_, ⟨_, rfl, rfl⟩, rfl⟩

private def stopRun : Run overRecords.system := Run.ofExec init_fresh exec_stopSchedule

private theorem stopRun_rests {n : ℕ} (hn : 16 ≤ n) : stopRun.state n = stopFinal :=
  Run.ofExec_state _ exec_stopSchedule hn

private theorem stoppedOnce_stopRun : overRecords.StoppedOnce stopRun := by
  intro n hn
  have hlabel : stopSchedule[n]? = some none := hn
  match n, hlabel with
  | 3, _ => rfl
  | n + 16, h => cases h

private theorem fair_stopRun :
    (projectionWatch dashContract).Fair _ (bindingWatch.layer.Fair _ fun _ => True) stopRun := by
  refine Watcher.Layer.fair_of_done
    (Watcher.Layer.fair_of_done trivial 16 (fun n hn => ?_) fun n hn => ?_) 16
    (fun n hn => ?_) fun n hn => ?_
  · show Watcher.Layer.State.pump (Watcher.Layer.State.inner (stopRun.state n)) = .done
    rw [stopRun_rests hn]
    rfl
  · show ∀ p ∈ Watcher.Layer.State.stoppers (Watcher.Layer.State.inner (stopRun.state n)), p = .done
    rw [stopRun_rests hn]
    exact fun p hp => List.mem_singleton.mp hp
  · rw [stopRun_rests hn]
    rfl
  · rw [stopRun_rests hn]
    exact fun p hp => List.mem_singleton.mp hp

theorem watch_shutdown_safe_unread :
    overRecords.StoppedOnce stopRun ∧ stopRun.label 3 = some none ∧
      ∃ m, 3 ≤ m ∧ ∀ k, m ≤ k → overRecords.ended (stopRun.state k) := by
  have hsafe := (watch_shutdown_safe bindingWatch ⟨{}, [], fun _ => ""⟩ bindingWatch
    ⟨{}, [], fun _ => ""⟩ dashContract).2.2.1
  exact ⟨stoppedOnce_stopRun, rfl, hsafe.2 stopRun fair_stopRun stoppedOnce_stopRun 3 rfl⟩

private def twice : List (Option overUpstream.Action) :=
  [some .start, none, none, some (.stopper 0), some (.stopper 1)]

/-- `Stop` is called twice on a watch on ClusterRoleBindings: it closes its own channel once, and stops
the watch below twice. -/
private def recordsTwice : List (Option overRecords.Action) :=
  [some (.inner .start), some .start, none, none, some (.stopper 0), some (.stopper 0),
    some (.stopper 0), some (.stopper 1), some (.stopper 1), some (.inner (.stopper 0)),
    some (.inner (.stopper 1))]

theorem second_stop_panics :
    (∃ s, overUpstream.system.Reachable s ∧ overUpstream.panicked s = true) ∧
      ∃ s, overRecords.system.Reachable s ∧ overRecords.panicked s = true := by
  refine ⟨⟨(exec overUpstream.next { inner := {} } twice).get rfl, ?_, rfl⟩,
    (exec overRecords.next fresh recordsTwice).get rfl, ?_, rfl⟩
  · exact reachable_of_exec (.init ⟨_, rfl, rfl⟩) (Option.some_get rfl).symm
  · exact reachable_of_exec (.init init_fresh) (Option.some_get rfl).symm

end

end KubeZoo
