import ArchiveAccounts.Proofs.Store.QuotaLog
import ArchiveAccounts.Service.Accounting
import Mathlib.Data.List.Infix

/-!
# Histories of quota changes

Changes of quotas one after the other, under one limit on the length of the log. Main statement:
`logsQuotas`, the log of an organization is the newest end of what it was and of all changes that
were accepted since, and each change is answered with the organization as it is then stored.
-/

namespace ArchiveAccounts
set_option autoImplicit false

open AccountStore Calendar PartedStore

/-- A change of quotas that is asked for at a time. -/
structure QuotaRequest where
  now : Moment
  orgId : String
  patch : QuotaPatch

/-- Whether a request names a quota of the organization. -/
def QuotaRequest.isAcceptedFor (r : QuotaRequest) (id : String) : Bool :=
  r.orgId == id && !r.patch.isEmpty

/-- The changes of an organization's quotas that are accepted, the earliest first. -/
def acceptedChanges (id : String) (requests : List QuotaRequest) : List QuotaChange :=
  (requests.filter fun r => r.isAcceptedFor id).map fun r => ⟨r.patch, r.now⟩

theorem acceptedChanges_append (id : String) (earlier later : List QuotaRequest) :
    acceptedChanges id (earlier ++ later)
      = acceptedChanges id earlier ++ acceptedChanges id later := by
  rw [acceptedChanges, List.filter_append, List.map_append]
  rfl

theorem acceptedChanges_singleton (id : String) (r : QuotaRequest) :
    acceptedChanges id [r] = if r.isAcceptedFor id then [⟨r.patch, r.now⟩] else [] := by
  rw [acceptedChanges, List.filter_singleton]
  cases r.isAcceptedFor id <;> rfl

section Run

variable {σ : Type} [AccountStore σ]

/-- What comes of a request at its time. -/
def QuotaRequest.run (r : QuotaRequest) (retention : Option Nat) (w : World σ) :
    Except Failure Organization × World σ :=
  (Action.updateQuotas r.orgId r.patch retention).run { w with now := r.now }

/-- The world after requests, each at its time. -/
def afterQuotaRequests (retention : Option Nat) (requests : List QuotaRequest) (w : World σ) :
    World σ :=
  requests.foldl (fun w r => (r.run retention w).2) w

theorem afterQuotaRequests_concat (retention : Option Nat) (earlier : List QuotaRequest)
    (last : QuotaRequest) (w : World σ) :
    afterQuotaRequests retention (earlier ++ [last]) w
      = (last.run retention (afterQuotaRequests retention earlier w)).2 := by
  unfold afterQuotaRequests
  rw [List.foldl_append]
  rfl

/-- Whether the log of an organization tells what became of requests for changes of quotas, and
each of the organization's requests is answered with what is stored then. -/
structure LogsQuotas (retention : Option Nat) (requests : List QuotaRequest) (id : String)
    (org : Organization) (w : World σ) : Prop where
  log : ∃ after, lookUpOrg (afterQuotaRequests retention requests w).store id = .ok after ∧
    after.quotaChanges = keptHistory retention org.quotaChanges (acceptedChanges id requests)
  answered : ∀ earlier r, earlier ++ [r] <+: requests → r.isAcceptedFor id = true →
    let outcome := r.run retention (afterQuotaRequests retention earlier w)
    ∃ after, outcome.1 = .ok after ∧ lookUpOrg outcome.2.store id = .ok after
  refused : ∀ earlier r, earlier ++ [r] <+: requests → r.patch.isEmpty = true →
    let before := afterQuotaRequests retention earlier w
    r.run retention before = (.error (.badRequest "no_update_data"), { before with now := r.now })

theorem QuotaRequest.run_of_isEmpty {r : QuotaRequest} (empty : r.patch.isEmpty = true)
    (retention : Option Nat) (w : World σ) :
    r.run retention w = (.error (.badRequest "no_update_data"), { w with now := r.now }) := by
  rw [QuotaRequest.run, Action.updateQuotas, if_pos empty]
  rfl

theorem QuotaRequest.run_of_not_isEmpty {r : QuotaRequest} (names : r.patch.isEmpty = false)
    (retention : Option Nat) (w : World σ) :
    r.run retention w
      = (((onOrgs (.updateQuotas r.orgId r.patch r.now retention)).run w.store).1,
        { w with
          store := ((onOrgs (.updateQuotas r.orgId r.patch r.now retention)).run w.store).2
          now := r.now }) := by
  rw [QuotaRequest.run, Action.updateQuotas, names]
  rfl

variable [LoggingStore σ] {retention : Option Nat} {id : String} {org : Organization}
  {w : World σ}

/-- An accepted request is answered with the organization as it is stored then. -/
theorem QuotaRequest.run_of_accepted {r : QuotaRequest} (accepted : r.isAcceptedFor id = true)
    (sound : IsSound w.store) (found : lookUpOrg w.store id = .ok org)
    (canStore : LoggingStore.CanStore σ r.now
      (org.applyQuotaPatch r.patch r.now retention).pools) :
    (r.run retention w).1 = .ok (org.applyQuotaPatch r.patch r.now retention) ∧
      lookUpOrg (r.run retention w).2.store id
        = .ok (org.applyQuotaPatch r.patch r.now retention) := by
  rw [QuotaRequest.isAcceptedFor, Bool.and_eq_true, beq_iff_eq, Bool.not_eq_true'] at accepted
  obtain ⟨rfl, names⟩ := accepted
  rw [run_of_not_isEmpty names]
  exact LoggingStore.updates r.patch sound found canStore

/-- Each request keeps the store sound and leaves the organization with the changes that were
accepted. -/
theorem QuotaRequest.found_after (r : QuotaRequest) (sound : IsSound w.store)
    (found : lookUpOrg w.store id = .ok org)
    (canStore : r.isAcceptedFor id = true → LoggingStore.CanStore σ r.now
      (org.applyQuotaPatch r.patch r.now retention).pools) :
    IsSound (r.run retention w).2.store ∧
      lookUpOrg (r.run retention w).2.store id
        = .ok (org.afterChanges retention (acceptedChanges id [r])) := by
  cases names : r.patch.isEmpty with
  | true =>
    have refused : r.isAcceptedFor id = false := by simp [isAcceptedFor, names]
    rw [run_of_isEmpty names, acceptedChanges_singleton, refused]
    exact ⟨sound, found⟩
  | false =>
    obtain ⟨soundAfter, frame⟩ :=
      LoggingStore.frame sound (.updateQuotas r.orgId r.patch r.now retention) rfl
    have storeAfter := congrArg (·.2.store) (run_of_not_isEmpty names retention w)
    refine ⟨storeAfter ▸ soundAfter, ?_⟩
    by_cases mine : r.orgId = id
    · have accepted : r.isAcceptedFor id = true := by simp [isAcceptedFor, names, mine]
      rw [acceptedChanges_singleton, accepted]
      exact (run_of_accepted accepted sound found (canStore accepted)).2
    · have refused : r.isAcceptedFor id = false := by simp [isAcceptedFor, mine]
      rw [acceptedChanges_singleton, refused]
      exact (congrArg (lookUpOrg · id) storeAfter).trans ((frame id (Ne.symm mine)).trans found)

/-- Requests one after the other leave the organization with all changes that were accepted. -/
theorem found_afterQuotaRequests (sound : IsSound w.store) (found : lookUpOrg w.store id = .ok org)
    {requests : List QuotaRequest}
    (canStore : ∀ earlier r, earlier ++ [r] <+: requests → r.isAcceptedFor id = true →
      LoggingStore.CanStore σ r.now
        ((org.afterChanges retention (acceptedChanges id earlier)).applyQuotaPatch r.patch r.now
          retention).pools) :
    IsSound (afterQuotaRequests retention requests w).store ∧
      lookUpOrg (afterQuotaRequests retention requests w).store id
        = .ok (org.afterChanges retention (acceptedChanges id requests)) := by
  induction requests using List.reverseRecOn with
  | nil => exact ⟨sound, found⟩
  | append_singleton requests last ih =>
    obtain ⟨soundNow, foundNow⟩ := ih fun earlier r before =>
      canStore earlier r (before.trans (List.prefix_append _ _))
    rw [afterQuotaRequests_concat, acceptedChanges_append, Organization.afterChanges,
      List.foldl_append]
    exact last.found_after soundNow foundNow (canStore requests last List.prefix_rfl)

theorem logsQuotas_of_canStore (sound : IsSound w.store)
    (found : lookUpOrg w.store id = .ok org) {requests : List QuotaRequest}
    (canStore : ∀ earlier r, earlier ++ [r] <+: requests → r.isAcceptedFor id = true →
      LoggingStore.CanStore σ r.now
        ((org.afterChanges retention (acceptedChanges id earlier)).applyQuotaPatch r.patch r.now
          retention).pools) :
    LogsQuotas retention requests id org w where
  log := by
    refine ⟨_, (found_afterQuotaRequests sound found canStore).2, ?_⟩
    exact org.quotaChanges_afterChanges retention _
  answered := by
    intro earlier r before accepted
    have among : earlier <+: requests := (List.prefix_append earlier [r]).trans before
    obtain ⟨soundNow, foundNow⟩ := found_afterQuotaRequests sound found
      fun earliest first isPrefix => canStore earliest first (isPrefix.trans among)
    exact ⟨_, QuotaRequest.run_of_accepted accepted soundNow foundNow
      (canStore earlier r before accepted)⟩
  refused := by
    intro earlier r _ empty
    exact QuotaRequest.run_of_isEmpty empty retention _

end Run

/-- The log of an organization is the newest end of what it was and of all changes that were
accepted since, and each change is answered with what is stored then. A request that names no quota
is refused and changes nothing. This is so on every store in memory, and on every relational store
that calls come to as long as the times have texts and the pools stay signed 64-bit numbers. -/
theorem logsQuotas (retention : Option Nat) (requests : List QuotaRequest) (id : String)
    (org : Organization) :
    (∀ w : World MemoryStore, lookUpOrg w.store id = .ok org →
        LogsQuotas retention requests id org w) ∧
      ∀ (calls : List StoreCall) (w : World RelationalStore), w.store = afterCalls calls {} →
        lookUpOrg w.store id = .ok org →
        (∀ r ∈ requests, r.isAcceptedFor id = true → Rfc3339.isPrintable r.now = true) →
        (∀ earlier, earlier <+: requests → ∀ pool,
          ((org.afterChanges retention (acceptedChanges id earlier)).pools.get pool).FitsSigned) →
        LogsQuotas retention requests id org w := by
  constructor
  · intro w found
    exact logsQuotas_of_canStore trivial found fun _ _ _ _ => trivial
  · intro calls w reached found printable signed
    have sound : RelationalStore.Sound w.store := by
      rw [reached]
      exact RelationalStore.sound_afterCalls calls
    apply logsQuotas_of_canStore sound found
    intro earlier r before accepted
    refine ⟨printable r (before.mem (by simp)) accepted, fun pool => ?_⟩
    have pools := signed _ before pool
    rw [acceptedChanges_append, acceptedChanges_singleton, if_pos accepted,
      Organization.afterChanges_concat] at pools
    exact pools

/-- An organization with one change in its log. -/
def changedOnce : Organization :=
  { id := "o"
    quotaChanges := [⟨{ QuotaPatch.empty with storageBytes := some 1 }, .ofSeconds 1714521600⟩] }

/-- Minutes granted, nothing asked for, something for another organization, minutes taken back, and
a limit set. -/
def fiveRequests : List QuotaRequest :=
  [⟨.ofSeconds 1714521660, "o", { QuotaPatch.empty with giftedExecMinutes := some 10 }⟩,
    ⟨.ofSeconds 1714521720, "o", .empty⟩,
    ⟨.ofSeconds 1714521780, "p", { QuotaPatch.empty with pagesPerCrawl := some 5 }⟩,
    ⟨.ofSeconds 1714521840, "o", { QuotaPatch.empty with giftedExecMinutes := some 0 }⟩,
    ⟨.ofSeconds 1714521900, "o", { QuotaPatch.empty with concurrentCrawls := some 2 }⟩]

theorem logsQuotas_fiveRequests :
    let calls : List StoreCall := [.onOrgs (.insert changedOnce)]
    let w : World MemoryStore := { store := afterCalls calls {}, now := .ofSeconds 1714521600 }
    let rows : World RelationalStore :=
      { store := afterCalls calls {}, now := .ofSeconds 1714521600 }
    (acceptedChanges "o" fiveRequests).length = 3 ∧
      (∀ retention, LogsQuotas retention fiveRequests "o" changedOnce w) ∧
      LogsQuotas (some 2) fiveRequests "o" changedOnce rows := by
  intro calls w rows
  have signed : ∀ earlier ∈ fiveRequests.inits, ∀ pool ∈ [Pool.gifted, .extra],
      ((changedOnce.afterChanges (some 2) (acceptedChanges "o" earlier)).pools.get
        pool).FitsSigned := by
    decide +kernel
  refine ⟨by decide, fun retention => ?_, ?_⟩
  · exact (logsQuotas retention fiveRequests "o" changedOnce).1 w (by decide +kernel)
  · refine (logsQuotas (some 2) fiveRequests "o" changedOnce).2 calls rows rfl (by decide +kernel)
      (by decide +kernel) fun earlier before pool => ?_
    exact signed earlier ((List.mem_inits _ _).2 before) pool (by cases pool <;> decide)

end ArchiveAccounts
