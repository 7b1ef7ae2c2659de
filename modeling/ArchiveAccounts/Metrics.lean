import ArchiveAccounts.Datum

/-!
# Metrics

Running totals of what was credited, linked and deleted. They wrap at 2^64, unlike the counters of
an organization.
-/

namespace ArchiveAccounts
set_option autoImplicit false

/-- The totals so far. -/
structure Metrics where
  monthlySecondsCredited : UInt64 := 0
  giftedSecondsCredited : UInt64 := 0
  extraSecondsCredited : UInt64 := 0
  uncreditedExecSeconds : UInt64 := 0
  linksReused : UInt64 := 0
  linksMinted : UInt64 := 0
  deletionsCommitted : UInt64 := 0
  deletionsAborted : UInt64 := 0
  crawlsDeleted : UInt64 := 0
  bytesReclaimed : UInt64 := 0
  deriving DecidableEq, Repr

namespace Metrics

instance : Inhabited Metrics := ⟨{}⟩

/-- Counts the seconds of one credit. -/
def addCredit (m : Metrics) (monthly gifted extra uncredited : Counter) : Metrics :=
  { m with
    monthlySecondsCredited := m.monthlySecondsCredited + monthly
    giftedSecondsCredited := m.giftedSecondsCredited + gifted
    extraSecondsCredited := m.extraSecondsCredited + extra
    uncreditedExecSeconds := m.uncreditedExecSeconds + uncredited }

/-- Counts a link that was used again. -/
def addReused (m : Metrics) : Metrics := { m with linksReused := m.linksReused + 1 }

/-- Counts a new link. -/
def addMinted (m : Metrics) : Metrics := { m with linksMinted := m.linksMinted + 1 }

/-- Counts a batch that was given up. -/
def addAborted (m : Metrics) : Metrics := { m with deletionsAborted := m.deletionsAborted + 1 }

/-- Counts a batch that was carried out. -/
def addCommitted (m : Metrics) (crawls bytes : Counter) : Metrics :=
  { m with
    deletionsCommitted := m.deletionsCommitted + 1
    crawlsDeleted := m.crawlsDeleted + crawls
    bytesReclaimed := m.bytesReclaimed + bytes }

/-- All totals as a record. -/
def toDatum (m : Metrics) : Datum :=
  .record [
    ("monthly_seconds_credited", .ofCounter m.monthlySecondsCredited),
    ("gifted_seconds_credited", .ofCounter m.giftedSecondsCredited),
    ("extra_seconds_credited", .ofCounter m.extraSecondsCredited),
    ("uncredited_exec_seconds", .ofCounter m.uncreditedExecSeconds),
    ("presign_reused", .ofCounter m.linksReused),
    ("presign_minted", .ofCounter m.linksMinted),
    ("deletion_batches_committed", .ofCounter m.deletionsCommitted),
    ("deletion_batches_aborted", .ofCounter m.deletionsAborted),
    ("crawls_deleted", .ofCounter m.crawlsDeleted),
    ("bytes_reclaimed", .ofCounter m.bytesReclaimed)]

/-- Metrics from a record; no total may be missing. -/
def ofDatum? (d : Datum) : Option Metrics := do
  let r ← Record.read?
    ["monthly_seconds_credited", "gifted_seconds_credited", "extra_seconds_credited",
      "uncredited_exec_seconds", "presign_reused", "presign_minted", "deletion_batches_committed",
      "deletion_batches_aborted", "crawls_deleted", "bytes_reclaimed"] d
  let total := fun name => r.required name Datum.asCounter
  some {
    monthlySecondsCredited := ← total "monthly_seconds_credited"
    giftedSecondsCredited := ← total "gifted_seconds_credited"
    extraSecondsCredited := ← total "extra_seconds_credited"
    uncreditedExecSeconds := ← total "uncredited_exec_seconds"
    linksReused := ← total "presign_reused"
    linksMinted := ← total "presign_minted"
    deletionsCommitted := ← total "deletion_batches_committed"
    deletionsAborted := ← total "deletion_batches_aborted"
    crawlsDeleted := ← total "crawls_deleted"
    bytesReclaimed := ← total "bytes_reclaimed" }

end Metrics

end ArchiveAccounts
