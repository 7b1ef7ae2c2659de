import ArchiveAccounts.Proofs.Service.Accounted

/-!
# Corrections of crawl configs

After crawls are removed their configs are corrected one after the other, and the deletion is
counted at the end. The first config that is not there ends the corrections: later configs hear
nothing, and the deletion is not counted. Main statement: `deleteCrawls_corrects`; a run in which a
config is left with the totals of crawls that are gone is `deleteCrawls_corrects_butOne`.
-/

namespace ArchiveAccounts
set_option autoImplicit false

/-! ## Configs that are told something -/

namespace Services

/-- What comes of a correction. -/
def answerTo (services : Services) (before : List Event) : Event → Except Failure Unit
  | .correctConfig config size count => do
    if ← services.correctConfig before config size count then return ()
    else throw (.notFound "crawl_config_not_found")
  | _ => return ()

/-- Corrections one after the other, up to the first of which nothing comes: those that are made,
and how they end. -/
def hear (services : Services) (before : List Event) :
    List Event → List Event × Except Failure Unit
  | [] => ([], .ok ())
  | event :: rest =>
    match services.answerTo before event with
    | .error e => ([event], .error e)
    | .ok () =>
      let later := hear services (before ++ [event]) rest
      (event :: later.1, later.2)

variable (services : Services)

/-- What is heard is what comes first, and all if something comes of each. -/
theorem hear_append (before events : List Event) :
    ∃ unheard, events = (services.hear before events).1 ++ unheard ∧
      ((services.hear before events).2 = .ok () → unheard = []) := by
  induction events generalizing before with
  | nil => exact ⟨[], rfl, fun _ => rfl⟩
  | cons event rest ih =>
    rw [hear]
    cases services.answerTo before event with
    | error e => exact ⟨rest, rfl, nofun⟩
    | ok =>
      obtain ⟨unheard, split, all⟩ := ih (before ++ [event])
      exact ⟨unheard, congrArg (event :: ·) split, all⟩

end Services

/-- What a deletion that is carried out moves among the running totals. -/
structure Metrics.CountsCommitted (m after : Metrics) (count size : Nat) : Prop where
  committed : after.deletionsCommitted.toNat = (m.deletionsCommitted.toNat + 1) % UInt64.size
  crawls : after.crawlsDeleted.toNat = (m.crawlsDeleted.toNat + count) % UInt64.size
  bytes : after.bytesReclaimed.toNat = (m.bytesReclaimed.toNat + size) % UInt64.size
  others : after = { m with
    deletionsCommitted := after.deletionsCommitted
    crawlsDeleted := after.crawlsDeleted
    bytesReclaimed := after.bytesReclaimed }

theorem Metrics.countsCommitted_addCommitted (m : Metrics) {crawls bytes : Counter}
    {count size : Nat} (counted : crawls.toNat = count) (sized : bytes.toNat = size) :
    m.CountsCommitted (m.addCommitted crawls bytes) count size where
  committed := UInt64.toNat_add m.deletionsCommitted 1
  crawls := by rw [addCommitted, UInt64.toNat_add, counted]
  bytes := by rw [addCommitted, UInt64.toNat_add, sized]
  others := rfl

/-- What a deletion does with the crawls that are there at its last step, whatever their configs
answer. -/
structure Corrects (services : Services) (org : Organization) (type : CrawlType)
    (removed : List Crawl) (w t : World MemoryStore) (result : Except Failure DeletionOutcome) :
    Prop where
  crawls : ∀ id, t.store.crawls.get? id
    = if id ∈ removed.map (·.id) then none else w.store.crawls.get? id
  org : ∃ current after, w.store.orgs.get? org.id = some current ∧
    t.store.orgs = w.store.orgs.insert after ∧
    current.LosesBytes after type.storageKind (Crawl.bytes removed) ∧
    result = (services.hear w.trace (corrections removed)).2.map fun _ =>
      ⟨.ofNatCapped removed.length, after.storageQuotaReached⟩
  trace : t.trace = w.trace ++ (services.hear w.trace (corrections removed)).1
  heard : ∃ unheard,
    corrections removed = (services.hear w.trace (corrections removed)).1 ++ unheard ∧
      (result.isOk = true → unheard = [])
  metrics :
    if result.isOk then
      w.metrics.CountsCommitted t.metrics (min removed.length Counter.maxNat) (Crawl.bytes removed)
    else t.metrics = w.metrics

namespace Action

section Generic

variable {σ : Type} {services : Services}

theorem run_correctConfig (config : String) (c : Correction) (w : World σ) :
    (correctConfig services config c).run w
      = (services.answerTo w.trace (correctionEvent (config, c)),
        { w with trace := w.trace ++ [correctionEvent (config, c)] }) := by
  rw [correctConfig, Attempt.run_bind, run_ask, correctionEvent, Services.answerTo]
  cases services.correctConfig w.trace config (-c.size.toSigned)
    (-min (c.count : Int) Counter.maxSigned) with
  | error e => rfl
  | ok isThere => cases isThere <;> rfl

/-- Each config is told its correction until one is not there. -/
theorem run_forM_correctConfig (entries : List (String × Correction)) (w : World σ) :
    (entries.forM fun (config, c) => correctConfig services config c).run w
      = ((services.hear w.trace (entries.map correctionEvent)).2,
        { w with
          trace := w.trace ++ (services.hear w.trace (entries.map correctionEvent)).1 }) := by
  induction entries generalizing w with
  | nil =>
    show (Except.ok (), w) = _
    rw [List.map_nil, Services.hear, List.append_nil]
  | cons entry rest ih =>
    show (correctConfig services entry.1 entry.2 >>= fun _ =>
      rest.forM fun (config, c) => correctConfig services config c).run w = _
    rw [Attempt.run_bind, run_correctConfig, List.map_cons, Services.hear]
    cases services.answerTo w.trace (correctionEvent entry) with
    | error e => rfl
    | ok =>
      dsimp only
      rw [ih, List.append_assoc, List.singleton_append]

end Generic

variable (services : Services) {org current : Organization} {type : CrawlType}
  {w : World MemoryStore}

/-- An organization that is there is found. -/
theorem run_getOrg {id : String} (found : w.store.orgs.get? id = some current) :
    (getOrg id).run w = (.ok current, w) := by
  have isThere : w.store.orgs.get? (OrgCall.get id).orgId = some current := found
  rw [getOrg, run_onOrgs_of_get? isThere]
  exact congrArg (Prod.mk _) (World.withOrg_eq_self found)

/-- The corrections of an organization that is there, and the count. -/
theorem run_settle_eq (deleted : Counter) (reclaimed : Reclaimed)
    (found : w.store.orgs.get? org.id = some current) :
    let heard := services.hear w.trace (reclaimed.configs.toList.map correctionEvent)
    (settle services org deleted reclaimed).run w
      = (heard.2.map fun _ => ⟨deleted, current.storageQuotaReached⟩,
        { w with
          trace := w.trace ++ heard.1
          metrics :=
            if heard.2.isOk then w.metrics.addCommitted deleted reclaimed.size
            else w.metrics }) := by
  dsimp only
  rw [settle, Attempt.run_bind, run_forM_correctConfig]
  generalize services.hear w.trace (reclaimed.configs.toList.map correctionEvent) = heard
  obtain ⟨events, ends⟩ := heard
  cases ends with
  | error e => rfl
  | ok =>
    dsimp only
    rw [Attempt.run_bind, run_count]
    dsimp only
    rw [Attempt.run_bind]
    let counted : World MemoryStore :=
      { w with
        trace := w.trace ++ events
        metrics := w.metrics.addCommitted deleted reclaimed.size }
    have isThere : (getOrg org.id).run counted = _ := run_getOrg found
    rw [isThere]
    rfl

/-- Taking the bytes that were reclaimed off an organization that is there. -/
theorem run_shiftBytes_then {rest : CrawlTable} (size : Counter)
    (found : w.store.orgs.get? org.id = some current)
    (k : Action MemoryStore DeletionOutcome) :
    (if size ≠ 0 then
        onOrgs (.shiftBytes org.id (-size.toSigned) type.storageKind) >>= fun _ => k
      else k).run (w.withCrawls rest)
      = k.run ((w.withCrawls rest).withOrg
          (current.shiftBytes (-size.toSigned) type.storageKind)) := by
  split
  · rw [Attempt.run_bind, run_onOrgs_of_get? found, OrgCall.apply]
  · next none_ =>
    have nothing : size.toSigned = 0 := by
      rw [not_not.1 none_]
      rfl
    have kept : (w.withCrawls rest).withOrg current = w.withCrawls rest :=
      World.withOrg_eq_self found
    rw [nothing, Int.neg_zero, Organization.shiftBytes_zero, kept]

section AtCommit

variable {ids gone : List String} {atCommit : World MemoryStore}

/-- The last step of a deletion removes what is there of the batch and takes its bytes off the
organization, and goes on to the corrections. -/
theorem run_commit_eq
    (reclaims : Reclaims org.id (w.store.crawls.listed org.id type ids) gone w atCommit)
    (found : atCommit.store.orgs.get? org.id = some current) :
    let removed := atCommit.store.crawls.listed org.id type ids
    ∃ rest : CrawlTable,
      (∀ id, rest.get? id
        = if id ∈ removed.map (·.id) then none else atCommit.store.crawls.get? id) ∧
      (commit services org (w.store.crawls.listed org.id type ids) type).run atCommit
        = (settle services org (.ofNatCapped removed.length) (Reclaimed.ofCrawls removed)).run
          ((atCommit.withCrawls rest).withOrg
            (current.shiftBytes (-(Reclaimed.ofCrawls removed).size.toSigned)
              type.storageKind)) := by
  intro left
  generalize isBatch : w.store.crawls.listed org.id type ids = batch at *
  obtain ⟨removed, rest, removes, deletes⟩ :=
    run_onCrawls_delete atCommit org.id (batch.map (·.id)) type
  have perm := perm_removed reclaims isBatch.symm deletes
  have same : Reclaimed.ofCrawls (batch.filter fun crawl => removed.contains crawl.id)
      = Reclaimed.ofCrawls left := by
    rw [← Reclaimed.ofCrawls_canceled _ w.now,
      map_canceledAt_removed reclaims isBatch.symm deletes, Reclaimed.ofCrawls_canceled]
  have length : removed.length = left.length := by
    rw [perm.length_eq, List.length_map]
  refine ⟨rest, fun id => ?_, ?_⟩
  · refine (deletes.get?_rest id).trans ?_
    simp only [perm.mem_iff]
    rfl
  · rw [commit, Attempt.run_bind, removes]
    dsimp only
    rw [same, length]
    exact run_shiftBytes_then _ found _

/-- The last step of a deletion, whether it fails or not. -/
theorem corrects_commit
    (reclaims : Reclaims org.id (w.store.crawls.listed org.id type ids) gone w atCommit)
    (found : atCommit.store.orgs.get? org.id = some current) :
    let removed := atCommit.store.crawls.listed org.id type ids
    (Crawl.bytes removed : Int) ≤ Counter.maxSigned →
      ∃ result t, (commit services org (w.store.crawls.listed org.id type ids) type).run atCommit
        = (result, t) ∧ Corrects services org type removed atCommit t result := by
  intro removed fits
  have signed : (Reclaimed.ofCrawls removed).size.toSigned = Crawl.bytes removed :=
    Counter.toSigned_eq_of_toNat (Reclaimed.toNat_size_ofCrawls removed) fits
  obtain ⟨rest, left, commits⟩ := run_commit_eq services reclaims found
  rw [signed] at commits
  let after := current.shiftBytes (-(Crawl.bytes removed : Int)) type.storageKind
  let shifted := (atCommit.withCrawls rest).withOrg after
  have foundAfter : shifted.store.orgs.get? org.id = some after := by
    have named : after.id = org.id := (Register.id_of_get? found : current.id = org.id)
    rw [World.orgs_withOrg, Register.get?_insert, if_pos named.symm]
  have size : (Reclaimed.ofCrawls removed).size.toNat = Crawl.bytes removed := by
    rw [Reclaimed.toNat_size_ofCrawls]
    exact Nat.min_eq_left (Nat.le_trans (Int.ofNat_le.1 fits) (by decide))
  have settles := run_settle_eq services (.ofNatCapped removed.length)
    (Reclaimed.ofCrawls removed) foundAfter
  dsimp only at settles
  rw [map_correctionEvent fits] at settles
  have loses := current.losesBytes_shiftBytes type.storageKind (Crawl.bytes removed)
  obtain ⟨unheard, split, all⟩ := services.hear_append shifted.trace (corrections removed)
  refine ⟨_, _, commits.trans settles, left, ⟨current, after, found, rfl, loses, rfl⟩, rfl,
    ⟨unheard, split, fun done => all ?_⟩, ?_⟩
  · cases ends : (services.hear shifted.trace (corrections removed)).2 with
    | error e =>
      rw [ends] at done
      cases done
    | ok => rfl
  · cases (services.hear shifted.trace (corrections removed)).2 with
    | error e => rfl
    | ok =>
      exact atCommit.metrics.countsCommitted_addCommitted (Counter.toNat_ofNatCapped _) size

end AtCommit

end Action

/-- A deletion whose batch is validated and reclaimed removes what of it is still there, takes its
bytes off the organization, if they are a signed 64-bit number, and corrects the crawl configs up to
the first that is not there. It is counted, and succeeds, if there was none. -/
theorem deleteCrawls_corrects {services : Services} {org current : Organization}
    {ids : List String} {type : CrawlType} {user : Option String} {batch : List Crawl}
    {w atCommit : World MemoryStore}
    (valid : (Action.validate org type user ids.eraseDups).run w = (.ok batch, w))
    (some_ : batch ≠ [])
    (reclaimed : (Action.reclaim services org batch).run w = (.ok (), atCommit))
    (found : w.store.orgs.get? org.id = some current) :
    let removed := atCommit.store.crawls.listed org.id type ids
    (Crawl.bytes removed : Int) ≤ Counter.maxSigned →
      ∃ result t, (Action.deleteCrawls services org ids type user).run w = (result, t) ∧
        Corrects services org type removed atCommit t result := by
  intro removed fits
  have reclaims := Action.reclaims_reclaim reclaimed
  obtain ⟨_, isBatch⟩ := Action.eq_of_validate valid
  have isBatch : batch = w.store.crawls.listed org.id type ids := isBatch
  have anyIds : ids.isEmpty = false := by
    cases ids with
    | nil => exact absurd isBatch some_
    | cons id rest => rfl
  have foundAtCommit : atCommit.store.orgs.get? org.id = some current := by
    rw [reclaims.orgs, found]
  rw [isBatch] at reclaims
  obtain ⟨result, t, commits, corrects⟩ :=
    Action.corrects_commit services reclaims foundAtCommit fits
  refine ⟨result, t, ?_, corrects⟩
  rw [Action.deleteCrawls, anyIds, if_neg Bool.false_ne_true, Attempt.run_bind, valid]
  dsimp only
  rw [List.isEmpty_eq_false_iff.2 some_, if_neg Bool.false_ne_true, Attempt.run_bind, reclaimed,
    isBatch]
  exact commits

/-- Collaborators that lack a crawl config. -/
def lacking (config : String) : Services where
  deleteObject _ _ _ _ := .ok true
  mintLink _ _ _ _ _ := .ok "https://link"
  stop _ _ _ := .ok ⟨true, none⟩
  correctConfig _ other _ _ := .ok (other != config)

/-- No crawl belongs to a config `x`, and `z` is told last. -/
theorem deleteCrawls_corrects_lackingNoneOrLast :
    let w : World MemoryStore := { store := configured, now := .ofSeconds 1714521600 }
    let ids := ["c", "b", "a"]
    ∀ config ∈ ["x", "z"], ∃ atCommit result t,
      (Action.deleteCrawls (lacking config) { id := "o" } ids .crawl none).run w = (result, t) ∧
      (atCommit.store.crawls.listed "o" .crawl ids).map (·.id) = ids ∧
      Corrects (lacking config) { id := "o" } .crawl (atCommit.store.crawls.listed "o" .crawl ids)
        atCommit t result ∧
      (config = "x" → t.metrics
        = { deletionsCommitted := 1, crawlsDeleted := 3, bytesReclaimed := 1200 }) := by
  intro w ids config mem
  let batch := w.store.crawls.listed "o" .crawl ids
  obtain ⟨result, valid, _⟩ := Action.run_validate_eq { id := "o" } .crawl none ids.eraseDups
    (w := w) trivial
  have isBatch : ((Action.validate { id := "o" } .crawl none ids.eraseDups).run w).1
      = .ok batch := by
    decide +kernel
  rw [valid] at isBatch
  obtain rfl : result = .ok batch := isBatch
  have reclaims : ∀ config ∈ ["x", "z"],
      let ran := (Action.reclaim (lacking config) { id := "o" } batch).run w
      ran.1 = .ok () ∧ ran.2.metrics = {} ∧
        (ran.2.store.crawls.listed "o" .crawl ids).map (fun crawl => (crawl.id, crawl.totalSize))
          = [("c", 700), ("b", 100), ("a", 400)] := by
    decide +kernel
  obtain ⟨answer, fresh, left⟩ := reclaims config mem
  rcases reclaimed : (Action.reclaim (lacking config) { id := "o" } batch).run w
    with ⟨result, atCommit⟩
  rw [reclaimed] at answer fresh left
  obtain rfl : result = .ok () := answer
  have listed := congrArg (List.map Prod.fst) left
  have bytes := congrArg (fun l => (l.map fun e => e.2.toNat).sum) left
  rw [List.map_map] at listed
  simp only [List.map_map] at bytes
  have fits : (Crawl.bytes (atCommit.store.crawls.listed "o" .crawl ids) : Int)
      ≤ Counter.maxSigned := by
    rw [Crawl.bytes]
    exact Int.le_trans (Int.le_of_eq (congrArg Int.ofNat bytes)) (by decide)
  have found : w.store.orgs.get? "o" = some { id := "o", bytes := ⟨900, 600, 300, 0⟩ } := by
    decide +kernel
  obtain ⟨result, t, run, corrects⟩ :=
    deleteCrawls_corrects valid (by decide +kernel) reclaimed found fits
  refine ⟨atCommit, result, t, run, listed, corrects, ?_⟩
  rintro rfl
  have answers : ((Action.deleteCrawls (lacking "x") { id := "o" } ids .crawl none).run w).1.isOk
      = true := by
    decide +kernel
  rw [run] at answers
  have counts := corrects.metrics
  have length : (atCommit.store.crawls.listed "o" .crawl ids).length = 3 := by
    rw [← List.length_map, listed]
    rfl
  rw [if_pos answers, fresh, length, Crawl.bytes] at counts
  have crawls : t.metrics.crawlsDeleted = 3 := UInt64.toNat_inj.1 counts.crawls
  have size : t.metrics.bytesReclaimed = 1200 :=
    UInt64.toNat_inj.1 (counts.bytes.trans (congrArg (fun n => (0 + n) % UInt64.size) bytes))
  have committed : t.metrics.deletionsCommitted = 1 := UInt64.toNat_inj.1 counts.committed
  rw [counts.others, crawls, size, committed]

/-- An organization with a finished crawl of each of two configs. -/
def twoConfigs : MemoryStore where
  orgs := Register.insert ∅ { id := "org-1", bytes := ⟨1300, 1000, 300, 0⟩ }
  crawls := [
    { id := "a", orgId := "org-1", userId := some "carl", configId := some "z", type := .crawl,
      state := .complete, files := [{ filename := "f", size := 400 }],
      finished := some (.ofSeconds 1714467600) },
    { id := "c", orgId := "org-1", userId := some "carl", configId := some "y", type := .crawl,
      state := .complete, files := [{ filename := "h", size := 600 }],
      finished := some (.ofSeconds 1714467600) }].foldl Register.insert ∅

/-- One config is not there, so that the other one keeps the bytes and the number of crawls that are
gone, and none of it is counted. -/
theorem deleteCrawls_corrects_butOne :
    let w : World MemoryStore := { store := twoConfigs, now := .ofSeconds 1714564800 }
    let ran := (Action.deleteCrawls (lacking "y") { id := "org-1" } ["c", "a"] .crawl none).run w
    ran.1 = .error (.notFound "crawl_config_not_found") ∧
      ran.2.store.crawls.listed "org-1" .crawl ["c", "a"] = [] ∧
      ran.2.trace.filter Event.isCorrection = [.correctConfig "y" (-600) (-1)] ∧
      corrections (w.store.crawls.listed "org-1" .crawl ["c", "a"])
        = [.correctConfig "y" (-600) (-1), .correctConfig "z" (-400) (-1)] ∧
      ran.2.metrics = {} := by
  decide +kernel

end ArchiveAccounts
