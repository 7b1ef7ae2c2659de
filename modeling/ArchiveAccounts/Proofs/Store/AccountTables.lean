import ArchiveAccounts.Store.Relational

/-!
# The seconds and the log of a relational store

What the steps on the table of seconds and on the log of quota changes do, as look-ups by key and as
the log of each organization. Main statements: `get?_insertSeconds`, `readSeconds_eq_some`,
`log_append` and `log_trim`.
-/

namespace ArchiveAccounts
set_option autoImplicit false

theorem TimeCounter.eq_of_name_eq {a b : TimeCounter} (h : a.name = b.name) : a = b := by
  revert h
  cases a <;> cases b <;> decide

theorem TimeCounter.mem_all (counter : TimeCounter) : counter ∈ TimeCounter.all := by
  cases counter <;> decide

@[simp] theorem TimeCounter.ofName?_name (counter : TimeCounter) :
    ofName? counter.name = some counter := by
  cases counter <;> rfl

namespace RelationalStore

/-! ## Seconds -/

theorem get?_insertPeriods (orgId : String) (counter : TimeCounter) (periods : Periods)
    (rows : SortedMap SecondsKey Cell) (key : SecondsKey) :
    (insertPeriods orgId counter periods rows).get? key
      = if key.orgId = orgId ∧ key.counter = counter.name then
          ((periods.get? key.period).map Cell.ofCounter).or (rows.get? key)
        else rows.get? key := by
  have entries : ∀ l : List (String × Counter), (l.Pairwise fun a b => compare a.1 b.1 = .lt) →
      ∀ rows : SortedMap SecondsKey Cell,
      (l.foldl (fun rows e =>
        rows.insert ⟨orgId, counter.name, e.1⟩ (.ofCounter e.2)) rows).get? key
        = if key.orgId = orgId ∧ key.counter = counter.name then
            ((SortedMap.lookup key.period l).map Cell.ofCounter).or (rows.get? key)
          else rows.get? key := by
    intro l
    induction l with
    | nil =>
      intro _ rows
      simp [SortedMap.lookup]
    | cons e l ih =>
      intro ordered rows
      obtain ⟨first, ordered⟩ := List.pairwise_cons.1 ordered
      rw [List.foldl_cons, ih ordered, SortedMap.get?_insert, SortedMap.lookup]
      obtain ⟨owner, name, period⟩ := key
      simp only [SecondsKey.mk.injEq, Std.compare_eq_iff_eq, ← and_assoc]
      by_cases mine : owner = orgId ∧ name = counter.name
      · by_cases same : period = e.1
        · rw [if_pos mine, if_pos mine, if_pos ⟨mine, same⟩, if_pos same, same,
            SortedMap.lookup_eq_none first]
          rfl
        · rw [if_pos mine, if_pos mine, if_neg (fun h => same h.2), if_neg same]
      · rw [if_neg mine, if_neg mine, if_neg (fun h => mine h.1)]
  exact entries periods.toList periods.ordered rows

section Seconds

variable (s : RelationalStore) (orgId : String)

/-- The cell of a month of an organization. -/
theorem get?_insertSeconds (seconds : Seconds) (counter : TimeCounter) (period : String) :
    (s.insertSeconds orgId seconds).seconds.get? ⟨orgId, counter.name, period⟩
      = (((seconds.get counter).get? period).map Cell.ofCounter).or
          (s.seconds.get? ⟨orgId, counter.name, period⟩) := by
  have each : ∀ counters : List TimeCounter, counters.Nodup → ∀ rows : SortedMap SecondsKey Cell,
      (counters.foldl (fun rows c => insertPeriods orgId c (seconds.get c) rows) rows).get?
          ⟨orgId, counter.name, period⟩
        = if counter ∈ counters then
            (((seconds.get counter).get? period).map Cell.ofCounter).or
              (rows.get? ⟨orgId, counter.name, period⟩)
          else rows.get? ⟨orgId, counter.name, period⟩ := by
    intro counters
    induction counters with
    | nil => intro _ rows; rfl
    | cons c counters ih =>
      intro once rows
      obtain ⟨notLater, once⟩ := List.nodup_cons.1 once
      rw [List.foldl_cons, ih once, get?_insertPeriods]
      by_cases same : counter = c
      · rw [same, if_neg notLater, if_pos ⟨rfl, rfl⟩, if_pos List.mem_cons_self]
      · have different : counter.name ≠ c.name := fun h => same (TimeCounter.eq_of_name_eq h)
        simp only [different, and_false, if_false, List.mem_cons, same, false_or]
  rw [insertSeconds, each TimeCounter.all (by decide), if_pos counter.mem_all]

theorem get?_insertSeconds_of_ne (seconds : Seconds) {key : SecondsKey}
    (other : key.orgId ≠ orgId) :
    (s.insertSeconds orgId seconds).seconds.get? key = s.seconds.get? key := by
  simp [insertSeconds, TimeCounter.all, get?_insertPeriods, other]

/-- What holds of all cells and of those that are written holds of all cells afterwards. -/
theorem forall_insertSeconds {s : RelationalStore} {P : SecondsKey → Cell → Prop}
    (seconds : Seconds) (before : ∀ key cell, s.seconds.get? key = some cell → P key cell)
    (written : ∀ counter period n, (seconds.get counter).get? period = some n →
      P ⟨orgId, TimeCounter.name counter, period⟩ (.ofCounter n)) :
    ∀ key cell, (s.insertSeconds orgId seconds).seconds.get? key = some cell → P key cell := by
  have each : ∀ (counters : List TimeCounter) (rows : SortedMap SecondsKey Cell),
      (∀ key cell, rows.get? key = some cell → P key cell) → ∀ key cell,
      (counters.foldl (fun rows c => insertPeriods orgId c (seconds.get c) rows) rows).get? key
        = some cell → P key cell := by
    intro counters
    induction counters with
    | nil => exact fun _ known => known
    | cons c counters ih =>
      intro rows known
      apply ih
      intro key cell found
      rw [get?_insertPeriods] at found
      split at found
      · next mine =>
        rcases Option.or_eq_some_iff.1 found with own | ⟨_, older⟩
        · obtain ⟨n, isThere, rfl⟩ := Option.map_eq_some_iff.1 own
          have isKey : key = ⟨orgId, c.name, key.period⟩ := by rw [← mine.1, ← mine.2]
          rw [isKey]
          exact written c key.period n isThere
        · exact known key cell older
      · exact known key cell found
  exact each TimeCounter.all s.seconds before

theorem get?_seconds_clear (key : SecondsKey) :
    (s.clear orgId).seconds.get? key
      = if key.orgId = orgId then none else s.seconds.get? key := by
  rw [clear, SortedMap.get?_filter]
  by_cases mine : key.orgId = orgId
  · rw [if_pos mine]
    cases s.seconds.get? key <;> simp [Option.filter, mine]
  · rw [if_neg mine]
    cases s.seconds.get? key <;> simp [Option.filter, mine]

theorem key_eq_iff {counter other : TimeCounter} {period month : String} :
    (⟨orgId, other.name, month⟩ : SecondsKey) = ⟨orgId, counter.name, period⟩
      ↔ other = counter ∧ month = period := by
  constructor
  · intro h
    injection h with _ name month
    exact ⟨TimeCounter.eq_of_name_eq name, month⟩
  · rintro ⟨rfl, rfl⟩
    rfl

theorem get?_addSeconds (counter : TimeCounter) (period : String) (seconds : Counter)
    (key : SecondsKey) :
    (s.addSeconds orgId counter period seconds).seconds.get? key
      = if key = ⟨orgId, counter.name, period⟩ then
          some ((s.seconds.getD ⟨orgId, counter.name, period⟩ (.integer 0)).plus seconds.toSigned)
        else s.seconds.get? key := by
  rw [addSeconds, SortedMap.get?_insert]

end Seconds

/-- Rows of one organization, each with a known counter and a signed number, are all read. -/
theorem foldlM_readCell {orgId : String} {rows : List (SecondsKey × Cell)}
    (ordered : rows.Pairwise fun a b => compare a.1 b.1 = .lt)
    (known : ∀ e ∈ rows, e.1.orgId = orgId ∧ (∃ counter : TimeCounter, e.1.counter = counter.name)
      ∧ ∃ n, e.2.counter? = some n)
    (acc : Seconds) :
    ∃ result, rows.foldlM readCell acc = some result ∧ ∀ counter period,
      (result.get counter).get? period
        = ((SortedMap.lookup ⟨orgId, counter.name, period⟩ rows).bind Cell.counter?).or
            ((acc.get counter).get? period) := by
  induction rows generalizing acc with
  | nil => exact ⟨acc, rfl, fun _ _ => rfl⟩
  | cons e rows ih =>
    obtain ⟨first, ordered⟩ := List.pairwise_cons.1 ordered
    obtain ⟨owner, ⟨counter, named⟩, n, value⟩ := known e List.mem_cons_self
    obtain ⟨result, run, spec⟩ := ih ordered
      (fun e mem => known e (List.mem_cons_of_mem _ mem)) (acc.put counter e.1.period n)
    refine ⟨result, ?_, ?_⟩
    · rw [List.foldlM_cons, readCell, value, named, TimeCounter.ofName?_name]
      exact run
    · intro other period
      have key : e.1 = ⟨orgId, counter.name, e.1.period⟩ := by rw [← owner, ← named]
      rw [spec, SortedMap.lookup, Seconds.get?_put]
      simp only [Std.compare_eq_iff_eq]
      by_cases same : other = counter ∧ period = e.1.period
      · have absent : SortedMap.lookup e.1 rows = none := SortedMap.lookup_eq_none first
        rw [if_pos same, same.1, same.2, ← key, absent, if_pos rfl, Option.bind_some, value]
        rfl
      · have different : (⟨orgId, other.name, period⟩ : SecondsKey) ≠ e.1 := by
          rw [key]
          exact mt (key_eq_iff orgId).1 same
        rw [if_neg same, if_neg different]

/-- The cells of an organization are read as its seconds. -/
theorem readSeconds_secondsOf {s : RelationalStore} {orgId : String} {seconds : Seconds}
    (cells : ∀ counter period, s.seconds.get? ⟨orgId, counter.name, period⟩
      = ((seconds.get counter).get? period).map Cell.ofCounter)
    (fits : ∀ counter period n, (seconds.get counter).get? period = some n → n.FitsSigned)
    (named : ∀ key cell, s.seconds.get? key = some cell → key.orgId = orgId →
      ∃ counter : TimeCounter, key.counter = counter.name) :
    readSeconds (s.secondsOf orgId) = some seconds := by
  have mem : ∀ e ∈ s.secondsOf orgId, s.seconds.get? e.1 = some e.2 ∧ e.1.orgId = orgId := by
    intro e mem
    obtain ⟨mem, owner⟩ := List.mem_filter.1 mem
    exact ⟨SortedMap.mem_toList_iff.1 mem, eq_of_beq owner⟩
  have known : ∀ e ∈ s.secondsOf orgId, e.1.orgId = orgId
      ∧ (∃ counter : TimeCounter, e.1.counter = counter.name) ∧ ∃ n, e.2.counter? = some n := by
    intro e isRow
    obtain ⟨found, owner⟩ := mem e isRow
    obtain ⟨counter, name⟩ := named e.1 e.2 found owner
    refine ⟨owner, ⟨counter, name⟩, ?_⟩
    have key : e.1 = ⟨orgId, counter.name, e.1.period⟩ := by rw [← owner, ← name]
    rw [key, cells] at found
    obtain ⟨n, isThere, cell⟩ := Option.map_eq_some_iff.1 found
    rw [← cell]
    exact ⟨n, Cell.counter?_ofCounter_of_fits (fits _ _ _ isThere)⟩
  have ordered : (s.secondsOf orgId).Pairwise fun a b => compare a.1 b.1 = .lt :=
    s.seconds.ordered.filter _
  obtain ⟨result, run, spec⟩ := foldlM_readCell ordered known Seconds.none
  rw [readSeconds, run]
  congr 1
  apply Seconds.ext_get?
  intro counter period
  have found : SortedMap.lookup ⟨orgId, counter.name, period⟩ (s.secondsOf orgId)
      = ((seconds.get counter).get? period).map Cell.ofCounter := by
    have filtered := SortedMap.get?_filter s.seconds (fun key _ => key.orgId == orgId)
      ⟨orgId, counter.name, period⟩
    rw [cells] at filtered
    refine filtered.trans ?_
    cases (seconds.get counter).get? period <;> simp [Option.filter]
  rw [spec, found, Seconds.get?_none, Option.or_none]
  cases isThere : (seconds.get counter).get? period with
  | none => rfl
  | some n => exact Cell.counter?_ofCounter_of_fits (fits _ _ _ isThere)

/-! ## The log -/

section Log

variable (s : RelationalStore) (orgId : String)

/-- Whether every number in the log is below the next one. -/
def NumbersBelow (s : RelationalStore) : Prop :=
  ∀ number row, s.changes.get? number = some row → number < s.nextNumber

theorem log_clear (other : String) :
    (s.clear orgId).log other = if other = orgId then [] else s.log other := by
  simp only [log, clear, SortedMap.toList_filter, List.filter_filter]
  by_cases same : other = orgId
  · rw [if_pos same, same, List.filter_eq_nil_iff]
    intro e _ both
    simp at both
  · rw [if_neg same]
    apply List.filter_congr
    intro e _
    by_cases owner : e.2.orgId = other
    · simp [owner, same]
    · simp [owner]

/-- A new row comes last. -/
theorem log_append (below : s.NumbersBelow) (row : ChangeRow) :
    (s.append row).log orgId
      = s.log orgId ++ if row.orgId = orgId then [(s.nextNumber, row)] else [] := by
  have last : ∀ e ∈ s.changes.toList, compare e.1 s.nextNumber = .lt := by
    intro e mem
    exact Nat.compare_eq_lt.2 (below e.1 e.2 (SortedMap.mem_toList_iff.1 mem))
  rw [log, append, SortedMap.toList_insert_of_lt row last, List.filter_append]
  by_cases owner : row.orgId = orgId
  · simp [log, owner]
  · simp [log, owner]

theorem numbersBelow_append (below : s.NumbersBelow) (row : ChangeRow) :
    (s.append row).NumbersBelow := by
  intro number other found
  simp only [append] at found ⊢
  rw [SortedMap.get?_insert] at found
  split at found
  · next same => omega
  · have := below number other found
    omega

/-- New rows of one organization come last, and nothing but the log changes. -/
theorem foldl_append {rows : List ChangeRow} (owned : ∀ row ∈ rows, row.orgId = orgId)
    {s : RelationalStore} (below : s.NumbersBelow) :
    ∃ changes nextNumber, rows.foldl append s = { s with changes, nextNumber } ∧
      (rows.foldl append s).NumbersBelow ∧
      ∀ id, ((rows.foldl append s).log id).map (·.2)
        = (s.log id).map (·.2) ++ if id = orgId then rows else [] := by
  induction rows generalizing s with
  | nil =>
    refine ⟨s.changes, s.nextNumber, rfl, below, ?_⟩
    intro id
    simp
  | cons row rows ih =>
    obtain ⟨changes, nextNumber, same, stillBelow, logs⟩ :=
      ih (fun row mem => owned row (List.mem_cons_of_mem _ mem)) (s.numbersBelow_append below row)
    refine ⟨changes, nextNumber, same, stillBelow, ?_⟩
    intro id
    rw [List.foldl_cons, logs, log_append s id below, owned row List.mem_cons_self,
      List.map_append, List.append_assoc]
    by_cases mine : id = orgId
    · simp [mine]
    · simp [mine, Ne.symm mine]

/-- New rows have numbers from the next one on. -/
theorem mem_log_foldl_append {rows : List ChangeRow} {s : RelationalStore} {orgId : String}
    (below : s.NumbersBelow) {e : Nat × ChangeRow} (mem : e ∈ (rows.foldl append s).log orgId) :
    e ∈ s.log orgId ∨ s.nextNumber ≤ e.1 := by
  induction rows generalizing s with
  | nil => exact .inl mem
  | cons row rows ih =>
    rcases ih (s.numbersBelow_append below row) mem with appended | later
    · rw [log_append s orgId below, List.mem_append] at appended
      rcases appended with old | new
      · exact .inl old
      · split at new
        · rw [List.mem_singleton.1 new]
          exact .inr (Nat.le_refl _)
        · exact nomatch new
    · simp only [append] at later
      exact .inr (by omega)

theorem numbersBelow_clear (below : s.NumbersBelow) : (s.clear orgId).NumbersBelow := by
  intro number row found
  simp only [clear, SortedMap.get?_filter, Option.filter_eq_some_iff] at found
  exact below number row found.1

theorem numbersBelow_trim (below : s.NumbersBelow) (count : Nat) :
    (s.trim orgId count).NumbersBelow := by
  intro number row found
  simp only [trim, SortedMap.get?_filter, Option.filter_eq_some_iff] at found
  exact below number row found.1

theorem filter_contains_newest {l : List (Nat × ChangeRow)}
    (ordered : l.Pairwise fun a b => compare a.1 b.1 = .lt) (count : Nat) :
    l.filter (fun e => ((l.reverse.take count).map (·.1)).contains e.1)
      = l.drop (l.length - count) := by
  rw [List.take_reverse]
  generalize l.length - count = older
  have parts : l.take older ++ l.drop older = l := List.take_append_drop older l
  have ordered : (l.take older ++ l.drop older).Pairwise fun a b => compare a.1 b.1 = .lt := by
    rw [parts]
    exact ordered
  have newest : ∀ n, ((l.drop older).reverse.map (·.1)).contains n = true
      ↔ ∃ e ∈ l.drop older, e.1 = n := by
    intro n
    simp only [List.contains_iff_mem, List.mem_map, List.mem_reverse]
  have split : l.filter (fun e => ((l.drop older).reverse.map (·.1)).contains e.1)
      = (l.take older).filter (fun e => ((l.drop older).reverse.map (·.1)).contains e.1)
        ++ (l.drop older).filter (fun e => ((l.drop older).reverse.map (·.1)).contains e.1) := by
    rw [← List.filter_append, parts]
  have none_ : (l.take older).filter
      (fun e => ((l.drop older).reverse.map (·.1)).contains e.1) = [] := by
    rw [List.filter_eq_nil_iff]
    intro e early isNew
    obtain ⟨e', late, same⟩ := (newest e.1).1 isNew
    have less := (List.pairwise_append.1 ordered).2.2 e early e' late
    simp [same] at less
  have all : (l.drop older).filter
      (fun e => ((l.drop older).reverse.map (·.1)).contains e.1) = l.drop older := by
    rw [List.filter_eq_self]
    intro e mem
    exact (newest e.1).2 ⟨e, mem, rfl⟩
  rw [split, none_, all, List.nil_append]

/-- Only the newest rows of an organization stay, and all of the others. -/
theorem log_trim (count : Nat) (other : String) :
    (s.trim orgId count).log other
      = if other = orgId then (s.log orgId).drop ((s.log orgId).length - count)
        else s.log other := by
  simp only [log, trim, SortedMap.toList_filter, List.filter_filter]
  by_cases same : other = orgId
  · rw [if_pos same, same, ← filter_contains_newest (s.changes.ordered.filter _),
      List.filter_filter]
    apply List.filter_congr
    intro e _
    by_cases owner : e.2.orgId = orgId
    · simp [owner]
    · rw [beq_eq_false_iff_ne.2 owner, Bool.false_and, Bool.and_false]
  · rw [if_neg same]
    apply List.filter_congr
    intro e _
    by_cases owner : e.2.orgId = other
    · simp [owner, same]
    · simp [owner]

end Log

end RelationalStore

end ArchiveAccounts
