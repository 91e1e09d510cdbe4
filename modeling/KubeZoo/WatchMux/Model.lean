import KubeZoo.Api
import KubeZoo.Lib.Transition

/-! # The watch multiplexer of `pkg/proxy/watchmux.go` -/

namespace KubeZoo
namespace WatchMux

/-- `sync.Once`. A second caller of `Do` waits while the first one is running. -/
inductive Once
  | fresh
  | running
  | done
deriving DecidableEq

/-- Where a call of `Stop` is: entering `stopOnce.Do`, about to close `m.stop`, about to
take `m.mu` and stop the upstream watches. -/
inductive StopPc
  | enter
  | close
  | teardown
deriving DecidableEq

/-- Where a call of `expire` is: entering `expiring.Do`, at its first select, at the select
that sends the 410, inside `m.Stop()`. -/
inductive ExpirePc
  | enter
  | check
  | send
  | stop (p : StopPc)
deriving DecidableEq

/-- `streamProgress`, together with the namespace it is kept under and the revision the
stream was opened at. -/
structure Stream where
  «namespace» : String
  resourceVersion : String
  revision : ℕ
  endOfReplay : Bool
deriving DecidableEq

/-- Where a forwarder is: at its select, holding a bookmark it has not folded in yet, at the
select that sends the merged bookmark, at the select that sends an event, about to record
the revision of an event it has sent, inside `expire`, returning, or gone. -/
inductive ForwardPc (β : Type)
  | select
  | bookmark (event : Event β)
  | sendBookmark (merged : Event β)
  | send (event : Event β)
  | record (revision : ℕ)
  | expire (p : ExpirePc)
  | exit
  | retired
deriving DecidableEq

inductive FollowPc
  | select
  | expire (reason : String) (p : ExpirePc)
  | exit
  | retired
deriving DecidableEq

/-- Where a join is: about to make attempt `k`, waiting out the backoff after it, inside
`expire`, returning, or gone. -/
inductive JoinPc
  | attempt (k : ℕ)
  | wait (k : ℕ)
  | expire (p : ExpirePc)
  | exit
  | retired
deriving DecidableEq

/-- Where `newWatchMux` is: still to add some namespaces, about to follow the namespaces,
about to start the goroutine that closes `m.result`, tearing down after a failure, or
back with its caller. -/
inductive OpenPc
  | add (rest : List String)
  | follow
  | spawn
  | fail (p : StopPc)
  | returned
  | failed
deriving DecidableEq

inductive CloserPc
  | wait
  | close
  | done
deriving DecidableEq

/-- A goroutine. `stopper` is a call of `Stop` from outside. -/
inductive Task (β : Type)
  | «open» (pc : OpenPc)
  | forward (stream : Stream) (pc : ForwardPc β)
  | follow (pc : FollowPc)
  | join («namespace» resourceVersion : String) (pc : JoinPc)
  | stopper (pc : Option StopPc)
  | closer (pc : CloserPc)
deriving DecidableEq

/-- The fields of `watchMux` that the goroutines share. `forwarder` is the counter of the
`WaitGroup`; `returned` says that the client has been given the multiplexer. -/
structure Shared (β : Type) where
  stop : Bool := false
  stopOnce : Once := .fresh
  expiring : Once := .fresh
  forwarder : ℕ := 0
  emitted : ℕ := 0
  replayed : Bool := false
  returned : Bool := false
  closed : Bool := false
  panicked : Bool := false
  out : List (Event β) := []
deriving DecidableEq

structure State (β : Type) where
  shared : Shared β := {}
  tasks : List (Task β)
deriving DecidableEq

/-- What a multiplexer is opened with: the client's options and the tenant's namespaces at
that moment. `describe` is the `%v` of an object in a message. -/
structure Config (β : Type) where
  options : ListOptions
  namespaces : List String
  describe : RuntimeObject β → String

namespace Config

variable {β : Type}

def bookmarks (c : Config β) : Bool := c.options.allowWatchBookmarks

def initialEvents (c : Config β) : Bool := c.options.sendInitialEvents == some true

end Config

inductive Choice (β : Type)
  | run
  | stopped
  | receive (event : Event β)
  | ended
  | deliver
  | opened
  | refused (forbidden : Bool)
  | elapsed
deriving DecidableEq

/-- A step: one goroutine moves, or the client calls `Stop`. -/
inductive Action (β : Type)
  | task (i : ℕ) (choice : Choice β)
  | clientStop
deriving DecidableEq

section

variable {β : Type}

def Task.stream? : Task β → Option Stream
  | .forward s _ => some s
  | _ => none

def streams (tasks : List (Task β)) : List Stream := tasks.filterMap Task.stream?

/-- `_, already := m.watched[namespace]`. -/
def watched (tasks : List (Task β)) (ns : String) : Bool :=
  (streams tasks).any fun s => s.namespace == ns

/-- A step of `Stop`; `none` as the next place means that the call returns. -/
def stopStep (sh : Shared β) : StopPc → Option (Shared β × Option StopPc)
  | .enter =>
    match sh.stopOnce with
    | .fresh => some ({ sh with stopOnce := .running }, some .close)
    | .running => none
    | .done => some (sh, none)
  | .close =>
    if sh.stop then some ({ sh with panicked := true }, none)
    else some ({ sh with stop := true }, some .teardown)
  | .teardown => some ({ sh with stopOnce := .done }, none)

/-- The client takes `event` from `m.result`. -/
def handOver (sh : Shared β) (event : Event β) : Option (Shared β) :=
  if ¬ sh.returned then none
  else if sh.closed then some { sh with panicked := true }
  else some { sh with out := sh.out ++ [event] }

/-- The event `expire` sends. -/
def expiredEvent (reason : String) : Event β := ⟨.error, .status (newResourceExpired reason)⟩

/-- A step of `expire`; `none` as the next place means that the call returns. -/
def expireStep (sh : Shared β) (reason : String) :
    ExpirePc → Choice β → Option (Shared β × Option ExpirePc)
  | .enter, .run =>
    match sh.expiring with
    | .fresh => some ({ sh with expiring := .running }, some .check)
    | .running => none
    | .done => some (sh, none)
  | .check, .run =>
    if sh.stop then some ({ sh with expiring := .done }, none) else some (sh, some .send)
  | .send, .deliver => (handOver sh (expiredEvent reason)).map fun sh => (sh, some (.stop .enter))
  | .send, .stopped => if sh.stop then some (sh, some (.stop .enter)) else none
  | .stop p, .run =>
    match stopStep sh p with
    | none => none
    | some (sh, some p) => some (sh, some (.stop p))
    | some (sh, none) => some ({ sh with expiring := .done }, none)
  | _, _ => none

def done (sh : Shared β) : Shared β :=
  if sh.forwarder = 0 then { sh with panicked := true }
  else { sh with forwarder := sh.forwarder - 1 }

/-- `add`: nothing if the namespace has its stream, else the answer of the upstream watch, and the
forwarder of a watch that opened. -/
def add (sh : Shared β) (tasks : List (Task β)) (ns resourceVersion : String) :
    Choice β → Option (Except Bool (Shared β × List (Task β)))
  | .run => if watched tasks ns then some (.ok (sh, [])) else none
  | .opened =>
    if watched tasks ns then none
    else some (.ok ({ sh with forwarder := sh.forwarder + 1 },
      [.forward ⟨ns, resourceVersion, parseRevision resourceVersion, false⟩ .select]))
  | .refused forbidden => if watched tasks ns then none else some (.error forbidden)
  | _ => none

/-- The loop over the streams in `onBookmark`, with its two variables. -/
def watermarkStep (acc : ℕ × Bool) (s : Stream) : ℕ × Bool :=
  if acc.2 ∨ s.revision < acc.1 then (s.revision, false) else acc

def watermark (streams : List Stream) : ℕ := (streams.foldl watermarkStep (0, true)).1

def Stream.fold (s : Stream) (event : Event β) : Stream :=
  { s with
    revision := if eventRevision event > s.revision then eventRevision event else s.revision
    endOfReplay := s.endOfReplay || hasInitialEventsEnd event }

/-- `onBookmark` up to its send: `streams` are the streams with this bookmark folded into
its own. The result is the merged bookmark to send, if there is one. -/
def onBookmark (c : Config β) (sh : Shared β) (streams : List Stream) (event : Event β) :
    Shared β × Option (Event β) :=
  let w := watermark streams
  let announceReplayEnd := c.initialEvents && streams.all (fun s => s.endOfReplay) && !sh.replayed
  let advanced := decide (w > sh.emitted)
  let sh' : Shared β := { sh with
    replayed := sh.replayed || announceReplayEnd
    emitted := if advanced then w else sh.emitted }
  if !c.bookmarks || w == 0 then (sh', none)
  else if !advanced && !announceReplayEnd then (sh', none)
  else (sh', bookmarkAt event w announceReplayEnd)

/-- `recordRevision`. -/
def Stream.record (s : Stream) (revision : ℕ) : Stream :=
  if revision = 0 then s else if revision > s.revision then { s with revision := revision } else s

abbrev Effect (β : Type) := Shared β × Task β × List (Task β)

def endedReason (ns : String) : String := "the upstream watch on namespace " ++ ns ++ " ended"

/-- `forward`. -/
def forwardStep (c : Config β) (sh : Shared β) (tasks : List (Task β)) (i : ℕ) (s : Stream) :
    ForwardPc β → Choice β → Option (Effect β)
  | .select, .stopped => if sh.stop then some (sh, .forward s .exit, []) else none
  | .select, .receive event =>
    if event.type = .bookmark then some (sh, .forward s (.bookmark event), [])
    else some (sh, .forward s (.send event), [])
  | .select, .ended => some (sh, .forward s (.expire .enter), [])
  | .bookmark event, .run =>
    let s' := s.fold event
    match onBookmark c sh (streams (tasks.set i (.forward s' .select))) event with
    | (sh', none) => some (sh', .forward s' .select, [])
    | (sh', some merged) => some (sh', .forward s' (.sendBookmark merged), [])
  | .sendBookmark merged, .deliver =>
    (handOver sh merged).map fun sh => (sh, .forward s .select, [])
  | .sendBookmark _, .stopped => if sh.stop then some (sh, .forward s .select, []) else none
  | .send event, .deliver =>
    (handOver sh event).map fun sh => (sh, .forward s (.record (eventRevision event)), [])
  | .send _, .stopped => if sh.stop then some (sh, .forward s .exit, []) else none
  | .record revision, .run => some (sh, .forward (s.record revision) .select, [])
  | .expire p, choice =>
    match expireStep sh (endedReason s.namespace) p choice with
    | none => none
    | some (sh, some p) => some (sh, .forward s (.expire p), [])
    | some (sh, none) => some (sh, .forward s .exit, [])
  | .exit, .run => some (done sh, .forward s .retired, [])
  | _, _ => none

/-- The goroutine of `followNamespaces`. -/
def followStep (c : Config β) (sh : Shared β) : FollowPc → Choice β → Option (Effect β)
  | .select, .stopped => if sh.stop then some (sh, .follow .exit, []) else none
  | .select, .ended =>
    some (sh, .follow (.expire "the upstream watch on this tenant's namespaces ended" .enter), [])
  | .select, .receive event =>
    match event.type, event.object with
    | .error, object =>
      some (sh, .follow (.expire ("the watch on this tenant's namespaces reported: " ++
        c.describe object) .enter), [])
    | .added, .object m _ =>
      some ({ sh with forwarder := sh.forwarder + 1 }, .follow .select,
        [.join m.name m.resourceVersion (.attempt 0)])
    | _, _ => some (sh, .follow .select, [])
  | .expire reason p, choice =>
    match expireStep sh reason p choice with
    | none => none
    | some (sh, some p) => some (sh, .follow (.expire reason p), [])
    | some (sh, none) => some (sh, .follow .exit, [])
  | .exit, .run => some (done sh, .follow .retired, [])
  | _, _ => none

/-- `attempts` in `join`. -/
def attempts : ℕ := 60

def notJoinedReason (ns : String) : String :=
  "namespace " ++ ns ++ " could not be joined to this watch"

/-- `goJoin` and `join`. -/
def joinStep (sh : Shared β) (tasks : List (Task β)) (ns resourceVersion : String) :
    JoinPc → Choice β → Option (Effect β)
  | .attempt k, choice =>
    match add sh tasks ns resourceVersion choice with
    | none => none
    | some (.ok (sh, started)) => some (sh, .join ns resourceVersion .exit, started)
    | some (.error true) => some (sh, .join ns resourceVersion (.wait k), [])
    | some (.error false) => some (sh, .join ns resourceVersion (.expire .enter), [])
  | .wait _, .stopped => if sh.stop then some (sh, .join ns resourceVersion .exit, []) else none
  | .wait k, .elapsed =>
    if k + 1 < attempts then some (sh, .join ns resourceVersion (.attempt (k + 1)), [])
    else some (sh, .join ns resourceVersion (.expire .enter), [])
  | .expire p, choice =>
    match expireStep sh (notJoinedReason ns) p choice with
    | none => none
    | some (sh, some p) => some (sh, .join ns resourceVersion (.expire p), [])
    | some (sh, none) => some (sh, .join ns resourceVersion .exit, [])
  | .exit, .run => some (done sh, .join ns resourceVersion .retired, [])
  | _, _ => none

/-- `newWatchMux`. -/
def openStep (c : Config β) (sh : Shared β) (tasks : List (Task β)) :
    OpenPc → Choice β → Option (Effect β)
  | .add [], .run => some (sh, .open .follow, [])
  | .add (ns :: rest), choice =>
    match add sh tasks ns c.options.resourceVersion choice with
    | none => none
    | some (.ok (sh, started)) => some (sh, .open (.add rest), started)
    | some (.error _) => some (sh, .open (.fail .enter), [])
  | .follow, .opened =>
    some ({ sh with forwarder := sh.forwarder + 1 }, .open .spawn, [.follow .select])
  | .follow, .refused _ => some (sh, .open (.fail .enter), [])
  | .spawn, .run => some ({ sh with returned := true }, .open .returned, [.closer .wait])
  | .fail p, .run =>
    match stopStep sh p with
    | none => none
    | some (sh, some p) => some (sh, .open (.fail p), [])
    | some (sh, none) => some (sh, .open .failed, [])
  | _, _ => none

/-- The goroutine that closes `m.result`. -/
def closerStep (sh : Shared β) : CloserPc → Choice β → Option (Effect β)
  | .wait, .run => if sh.forwarder = 0 then some (sh, .closer .close, []) else none
  | .close, .run =>
    if sh.closed then some ({ sh with panicked := true }, .closer .done, [])
    else some ({ sh with closed := true }, .closer .done, [])
  | _, _ => none

/-- A call of `Stop` from outside. -/
def stopperStep (sh : Shared β) : Option StopPc → Choice β → Option (Effect β)
  | some p, .run => (stopStep sh p).map fun r => (r.1, .stopper r.2, [])
  | _, _ => none

/-- One step of goroutine `i`, which is `task`. -/
def taskStep (c : Config β) (sh : Shared β) (tasks : List (Task β)) (i : ℕ) (task : Task β)
    (choice : Choice β) : Option (Effect β) :=
  match task with
  | .open pc => openStep c sh tasks pc choice
  | .forward s pc => forwardStep c sh tasks i s pc choice
  | .follow pc => followStep c sh pc choice
  | .join ns resourceVersion pc => joinStep sh tasks ns resourceVersion pc choice
  | .stopper pc => stopperStep sh pc choice
  | .closer pc => closerStep sh pc choice

/-- One step of the multiplexer. -/
def step (c : Config β) (st : State β) : Action β → Option (State β)
  | .task i choice =>
    match st.tasks[i]? with
    | none => none
    | some task =>
      (taskStep c st.shared st.tasks i task choice).map fun r =>
        ⟨r.1, st.tasks.set i r.2.1 ++ r.2.2⟩
  | .clientStop =>
    if st.shared.returned then some { st with tasks := st.tasks ++ [.stopper (some .enter)] }
    else none

/-- `newWatchMux` has been called. -/
def initial (c : Config β) : State β := { tasks := [.open (.add c.namespaces)] }

def system (c : Config β) : Transition.System (State β) (Action β) :=
  Transition.ofStep (step c) fun st => st = initial c

end

end WatchMux
end KubeZoo
