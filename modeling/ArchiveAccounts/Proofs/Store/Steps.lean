import ArchiveAccounts.Proofs.Service.Preserves
import ArchiveAccounts.Proofs.Store.CrawlRows
import ArchiveAccounts.Proofs.Store.OrgRows

/-!
# What calls on a relational store preserve

The steps of which calls consist, with the properties of tables that they keep. Look-ups keep every
property. Main statements: `KeptByRows.perform` and `preserves_onCrawls`.
-/

namespace ArchiveAccounts
set_option autoImplicit false

namespace RelationalStore

/-- A row with the document that is written of a crawl reads as that crawl. -/
theorem crawl?_of_document {crawl : Crawl} {row written : CrawlRow}
    (writes : CrawlRow.ofCrawl? crawl = some written) (same : row.document = written.document) :
    row.crawl? = some crawl := by
  have printable : crawl.isPrintable = true := by
    rw [← Crawl.isSome_toDatum?, ← Option.isSome_map (f := fun d => _)]
    exact Option.isSome_of_eq_some writes
  obtain ⟨other, writesOther, reads⟩ := CrawlRow.exists_ofCrawl? printable
  obtain rfl : other = written := Option.some.inj (writesOther.symm.trans writes)
  rw [CrawlRow.crawl?, same]
  exact reads

section Steps

variable {α β : Type} {P : RelationalStore → Prop}

/-- What comes after a value was needed. -/
theorem preserves_need {value : Option α} {f : α → Attempt RelationalStore β}
    (later : ∀ a, value = some a → Attempt.Preserves P (f a)) :
    Attempt.Preserves P (need value >>= f) := by
  intro s h
  rw [Attempt.run_bind]
  cases value with
  | none => exact h
  | some a => exact later a rfl s h

theorem preserves_find (orgId : String) : Attempt.Preserves P (find orgId) := by
  intro s h
  rw [run_find]
  exact h

theorem preserves_load (orgId : String) : Attempt.Preserves P (load orgId) := by
  refine .bind (preserves_find orgId) fun row => .bind .get fun s => ?_
  intro t h
  cases s.organization? orgId row <;> exact h

/-- A look-up of a crawl. -/
theorem preserves_loadCrawl? (orgId : Option String) (id : String) :
    Attempt.Preserves P (loadCrawl? orgId id) := by
  refine .bind .get fun s => ?_
  split
  · exact .pure _
  · next row _ => exact .ite (fun _ => preserves_need fun crawl _ => .pure _) fun _ => .pure _

theorem preserves_loadCrawl (orgId : Option String) (id : String) :
    Attempt.Preserves P (loadCrawl orgId id) := by
  refine .bind (preserves_loadCrawl? orgId id) fun crawl => ?_
  split
  · exact .pure _
  · exact .throw _

/-- A call on the crawls keeps what is kept when a crawl is written under its id and when rows are
deleted. -/
theorem preserves_onCrawls
    (write : ∀ s row crawl, row.crawl? = some crawl → P s →
      P { s with crawls := s.crawls.insert crawl.id row })
    (delete : ∀ s keep, P s → P { s with crawls := s.crawls.filter keep }) (call : CrawlCall) :
    Attempt.Preserves P (onCrawls call) := by
  have store : ∀ crawl, Attempt.Preserves P (storeCrawl crawl) := by
    intro crawl
    refine preserves_need fun written writes => .getBind fun s h => ?_
    cases s.crawls.get? crawl.id with
    | none => exact h
    | some row => exact write s _ crawl (crawl?_of_document writes rfl) h
  apply Attempt.Preserves.atomically
  cases call with
  | insert crawl =>
    exact preserves_need fun row writes => .change fun s h =>
      write s row crawl (crawl?_of_document writes rfl) h
  | get orgId id => exact preserves_loadCrawl _ id
  | setSignedUrl id filename url expiresAt =>
    refine .bind (preserves_loadCrawl? none id) fun crawl => ?_
    split
    · exact .bind (store _) fun _ => .pure _
    · exact .pure _
  | addReplica id filename replica =>
    exact .bind (preserves_loadCrawl none id) fun crawl => .ite (fun _ => store _) fun _ => .pure _
  | updateMetadata orgId id type update =>
    exact .bind (preserves_loadCrawl _ id) fun crawl => .ite (fun _ => store _) fun _ => .throw _
  | markCanceled id finished =>
    exact .bind (preserves_loadCrawl none id) fun crawl => store _
  | addCollection orgId id collection =>
    refine .bind (preserves_loadCrawl _ id) fun crawl => .bind ?_ fun joined => store joined
    cases crawl.joined collection with
    | error e => exact .throw e
    | ok joined => exact .pure joined
  | removeCollection orgId id collection =>
    exact .bind (preserves_loadCrawl _ id) fun crawl => .ite (fun _ => store _) fun _ => .pure _
  | delete orgId ids type =>
    exact .ite (fun _ => .pure _) fun _ => .check (.getBind fun s h => delete s _ h)

/-- What one new row of the log keeps, any number of them keep. -/
theorem keeps_foldl_append {good : ChangeRow → Prop}
    (append : ∀ s row, good row → P s → P (s.append row)) {rows : List ChangeRow}
    (each : ∀ row ∈ rows, good row) {s : RelationalStore} (before : P s) :
    P (rows.foldl RelationalStore.append s) := by
  induction rows generalizing s with
  | nil => exact before
  | cons row rows ih =>
    obtain ⟨first, later⟩ := List.forall_mem_cons.1 each
    exact ih later (append s row first before)

/-- Whether a property of tables is kept when rows of an organization are written and deleted. -/
structure KeptByRows (P : RelationalStore → Prop) (orgId : String) : Prop where
  put : ∀ s row, P s → P { s with orgs := s.orgs.insert orgId row }
  addSeconds : ∀ s counter period n, P s → P (s.addSeconds orgId counter period n)
  append : ∀ s row, (row.orgId = orgId ∧ ∃ change, row.change? = some change) → P s →
    P (s.append row)
  trim : ∀ s count, P s → P (s.trim orgId count)
  clear : ∀ s, P s → P (s.clear orgId)
  insertSeconds : ∀ s seconds, P s → P (s.insertSeconds orgId seconds)

/-- A call on an organization keeps what is kept when its rows are written and deleted. -/
theorem KeptByRows.perform {call : OrgCall} (h : KeptByRows P call.orgId) :
    Attempt.Preserves P (perform call) := by
  have write : ∀ row, Attempt.Preserves P (RelationalStore.put call.orgId row) :=
    fun row => .change fun s => h.put s row
  have add : ∀ counter period n,
      Attempt.Preserves P (modify fun s => s.addSeconds call.orgId counter period n) :=
    fun counter period n => .change fun s => h.addSeconds s counter period n
  cases call with
  | insert org =>
    refine preserves_need fun rows written => .bind (write _) fun _ => .change fun s before => ?_
    obtain ⟨owned, reads⟩ := ChangeRow.mapM_reads written
    have read := Traverse.exists_iff.1 ⟨_, reads⟩
    refine keeps_foldl_append h.append (fun row mem => ⟨owned row mem, read row mem⟩) ?_
    exact h.insertSeconds _ org.seconds (h.clear s before)
  | get id => exact preserves_load id
  | countSeconds id counter period n =>
    exact .bind (preserves_find id) fun _ => add counter period n
  | creditMonthly id period n quota =>
    refine .bind (preserves_find id) fun _ => .bind .get fun s => preserves_need fun used _ => ?_
    exact .ite (fun _ => .bind (add _ period _) fun _ => .pure _) fun _ => .pure _
  | drawPool id pool period n =>
    refine .bind (preserves_find id) fun row => preserves_need fun left _ => ?_
    refine .ite (fun _ => .bind (write _) fun _ => ?_) fun _ => .pure _
    exact .bind (add _ period _) fun _ => .pure _
  | shiftBytes id delta kind => exact .bind (preserves_find id) fun row => write _
  | updateQuotas id patch modified retention =>
    refine preserves_need fun change written => .bind (preserves_load id) fun org => ?_
    refine .bind (preserves_find id) fun row => .bind (write _) fun _ => ?_
    obtain ⟨owner, reads⟩ := ChangeRow.reads written
    refine .bind (.change fun s => h.append s change ⟨owner, _, reads⟩) fun _ => ?_
    split
    · exact .bind (.change fun s => h.trim s _) fun _ => .pure _
    · exact .pure _

end Steps

end RelationalStore

end ArchiveAccounts
