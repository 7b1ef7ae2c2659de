import ArchiveAccounts.Metrics
import ArchiveAccounts.Service.Answers
import ArchiveAccounts.Store.Call

/-!
# The world of the services

What services work on: a store, a clock, metrics, and a trace of what collaborators were asked and
told. The answers of the collaborators are given as functions of that trace.
-/

namespace ArchiveAccounts
set_option autoImplicit false

open Calendar

/-- A message for others. -/
inductive Message where
  | replicaJob (job : ReplicaJob)
  | deleted (notice : DeletionNotice)
  deriving DecidableEq

/-- Something that a collaborator was asked or told. -/
inductive Event where
  | deleteObject (orgId filename : String)
  | mintLink (orgId filename : String) (seconds : Counter)
  | stop (crawlId : String) (graceful : Bool)
  | correctConfig (configId : String) (size count : Int)
  | addToCollection (collection : String) (crawlIds : List String) (orgId : String)
  | removeFromCollection (collection : String) (crawlIds : List String) (orgId : String)
  /-- A message, and whether anyone received it. -/
  | send (message : Message) (received : Bool)
  deriving DecidableEq

/-- A store, the time, and what has happened so far. -/
structure World (σ : Type) where
  store : σ
  now : Moment
  metrics : Metrics := {}
  /-- All events, the earliest first. -/
  trace : List Event := []
  /-- Whether anyone receives messages. -/
  isReceiving : Bool := true

/-- A collaborator that stores objects. While it deletes one, others may delete crawls. -/
structure ObjectService where
  /-- Whether the object of a file was deleted. -/
  deleteObject : List Event → Moment → Organization → CrawlFile → Except Failure Bool
  /-- A signed link to a file. -/
  mintLink : List Event → Moment → Organization → CrawlFile → Counter → Except Failure String
  /-- The crawls of the organization that others delete meanwhile. -/
  overlapping : CrawlFile → List String := fun _ => []

/-- All collaborators. -/
structure Services extends ObjectService where
  /-- What the orchestrator answers to the stop of a crawl. -/
  stop : List Event → (crawlId : String) → (graceful : Bool) → Except Failure StopAnswer
  /-- Whether a crawl config is still there to be corrected by a size and a count. -/
  correctConfig : List Event → (configId : String) → (size count : Int) → Except Failure Bool

/-- What a service does. -/
abbrev Action (σ : Type) := Attempt (World σ)

namespace Action

variable {σ α : Type}

/-- Runs a computation on the store. -/
def onStore (a : Attempt σ α) : Action σ α :=
  Attempt.zoom (·.store) (fun w store => { w with store }) a

/-- Performs a call on the organizations of the store. -/
def onOrgs [AccountStore σ] (call : OrgCall) : Action σ call.Reply :=
  onStore (AccountStore.onOrgs call)

/-- Performs a call on the crawls of the store. -/
def onCrawls [AccountStore σ] (call : CrawlCall) : Action σ call.Reply :=
  onStore (AccountStore.onCrawls call)

theorem run_onOrgs [AccountStore σ] (call : OrgCall) (w : World σ) :
    (onOrgs call).run w = (((AccountStore.onOrgs call).run w.store).1,
      { w with store := ((AccountStore.onOrgs call).run w.store).2 }) :=
  rfl

theorem run_onCrawls [AccountStore σ] (call : CrawlCall) (w : World σ) :
    (onCrawls call).run w = (((AccountStore.onCrawls call).run w.store).1,
      { w with store := ((AccountStore.onCrawls call).run w.store).2 }) :=
  rfl

/-- The organization of an id. -/
def getOrg [AccountStore σ] (id : String) : Action σ Organization := onOrgs (.get id)

/-- The crawl of an id, if it belongs to the organization. -/
def getCrawl [AccountStore σ] (orgId id : String) : Action σ Crawl := onCrawls (.get orgId id)

/-- Records an event. -/
def record (event : Event) : Action σ Unit := modify fun w => { w with trace := w.trace ++ [event] }

@[simp] theorem run_record (event : Event) (w : World σ) :
    (record event).run w = (.ok (), { w with trace := w.trace ++ [event] }) :=
  rfl

/-- Asks a collaborator, which knows what has happened before. -/
def ask (event : Event) (answer : List Event → Except Failure α) : Action σ α := do
  let before := (← get).trace
  record event
  answer before

@[simp] theorem run_ask (event : Event) (answer : List Event → Except Failure α) (w : World σ) :
    (ask event answer).run w = (answer w.trace, { w with trace := w.trace ++ [event] }) :=
  rfl

/-- Changes the metrics. -/
def count (change : Metrics → Metrics) : Action σ Unit :=
  modify fun w => { w with metrics := change w.metrics }

@[simp] theorem run_count (change : Metrics → Metrics) (w : World σ) :
    (count change).run w = (.ok (), { w with metrics := change w.metrics }) :=
  rfl

/-- Sends a message, which is lost if nobody receives it. -/
def send (message : Message) : Action σ Unit := do
  record (.send message (← get).isReceiving)

@[simp] theorem run_send (message : Message) (w : World σ) :
    (send message).run w =
      (.ok (), { w with trace := w.trace ++ [.send message w.isReceiving] }) :=
  rfl

/-- The key of the current month. -/
def period : Action σ String := do
  let now := (← get).now
  if now.isInUtcCalendar then return now.period else throw .outsideCalendar

theorem run_period {w : World σ} (dated : w.now.isInUtcCalendar = true) :
    (Action.period : Action σ String).run w = (.ok w.now.period, w) := by
  simp only [Action.period, Attempt.run_bind, Attempt.run_get, dated, if_true, Attempt.run_pure]

end Action

end ArchiveAccounts
