import ArchiveAccounts.Proofs.Service.GivenUp
import ArchiveAccounts.Proofs.Service.LinksInTime
import ArchiveAccounts.Proofs.Store.Owners

/-!
# Links that are used again

Links are stored by the names of their files. A crawl that was resolved is resolved again without
any link being minted, until one of the links ends, exactly if each file that needed a link is the
first of its name: a link that is minted for another one is stored with the first. Main statement:
`resolveCrawl_again`.
-/

namespace ArchiveAccounts
set_option autoImplicit false

open Calendar AccountStore

/-! ## Files -/

namespace CrawlFile

/-- Whether a file has a link and its end, or neither. -/
def IsPaired (file : CrawlFile) : Prop := file.signedUrl.isSome = file.expiresAt.isSome

instance (file : CrawlFile) : Decidable file.IsPaired := inferInstanceAs (Decidable (_ = _))

/-- When the link ends with which a file is resolved: the one that it gives out, or a new one. -/
def linkEnds (file : CrawlFile) (now : Moment) (seconds : Counter) : Moment :=
  ((file.usableUrl now).bind fun _ => file.expiresAt).getD (linkEnd now seconds)

/-- A file with a new link. -/
def signed (file : CrawlFile) (url : String) (expiresAt : Moment) : CrawlFile :=
  { file with signedUrl := some url, expiresAt := some expiresAt }

theorem usableUrl_signed {file : CrawlFile} {url : String} {expiresAt now : Moment}
    (before : now.isBefore expiresAt = true) :
    (file.signed url expiresAt).usableUrl now = some url := by
  rw [usableUrl, signed]
  exact if_pos before

/-- A link that can be used at some time could be used before. -/
theorem usableUrl_of_later {file : CrawlFile} {now later : Moment} {url : String}
    (order : now.instant ≤ later.instant) (usable : file.usableUrl later = some url) :
    file.usableUrl now = some url := by
  obtain ⟨expiresAt, keeps, before⟩ := usableUrl_eq_some_iff.1 usable
  exact usableUrl_eq_some_iff.2 ⟨expiresAt, keeps, Int.lt_of_le_of_lt order before⟩

/-- A link that can be used can be used until its end. -/
theorem usableUrl_of_linkEnds {file : CrawlFile} {now later : Moment} {url : String}
    {seconds : Counter} (usable : file.usableUrl now = some url)
    (before : later.isBefore (file.linkEnds now seconds) = true) :
    file.usableUrl later = some url := by
  obtain ⟨expiresAt, keeps, _⟩ := usableUrl_eq_some_iff.1 usable
  rw [linkEnds, usable, Option.bind_some, keeps.2, Option.getD_some] at before
  exact usableUrl_eq_some_iff.2 ⟨expiresAt, keeps, of_decide_eq_true before⟩

/-- A new link takes the place of one that can no longer be used. -/
theorem acceptsExpiry_of_unusable {file : CrawlFile} {now expiresAt : Moment}
    (paired : file.IsPaired) (missing : file.usableUrl now = none)
    (after : now.instant ≤ expiresAt.instant) : Crawl.acceptsExpiry file expiresAt = true := by
  rw [Crawl.acceptsExpiry]
  cases ends : file.expiresAt with
  | none => rfl
  | some old =>
    rw [IsPaired, ends, Option.isSome_some] at paired
    obtain ⟨url, isUrl⟩ := Option.isSome_iff_exists.1 paired
    have ended : ¬now.instant < old.instant := by
      intro before
      have usable := usableUrl_eq_some_iff.2 ⟨old, ⟨isUrl, ends⟩, before⟩
      rw [missing] at usable
      exact nomatch usable
    rw [Option.any_some, Bool.not_eq_true', Moment.isBefore, decide_eq_false_iff_not]
    omega

end CrawlFile

/-- Whether each file that gives out no link is the first of its name. -/
def FirstsNeedLinks (now : Moment) (files : List CrawlFile) : Prop :=
  files.Pairwise fun earlier later =>
    earlier.filename = later.filename → (later.usableUrl now).isSome = true

instance (now : Moment) (files : List CrawlFile) : Decidable (FirstsNeedLinks now files) :=
  inferInstanceAs (Decidable (List.Pairwise _ _))

/-- Whether a file comes after another one of its name. -/
def IsShadowed (file : CrawlFile) (files : List CrawlFile) : Prop :=
  ∃ first : CrawlFile, first.filename = file.filename ∧ [first, file].Sublist files

theorem not_firstsNeedLinks {now : Moment} {files : List CrawlFile}
    (h : ¬FirstsNeedLinks now files) :
    ∃ file, IsShadowed file files ∧ file.usableUrl now = none := by
  rw [FirstsNeedLinks, List.pairwise_iff_forall_sublist] at h
  simp only [not_forall, Bool.not_eq_true, Option.isSome_eq_false_iff, Option.isNone_iff_eq_none]
    at h
  obtain ⟨first, file, sublist, same, missing⟩ := h
  exact ⟨file, ⟨first, same, sublist⟩, missing⟩

namespace Crawl

variable {filename : String} {change : CrawlFile → CrawlFile}

theorem mem_mapFile_go_of_ne {file : CrawlFile} (other : file.filename ≠ filename)
    {files : List CrawlFile} (mem : file ∈ files) : file ∈ mapFile.go filename change files := by
  induction files with
  | nil => exact nomatch mem
  | cons first files ih =>
    rw [mapFile.go]
    split
    · next named =>
      rcases List.mem_cons.1 mem with rfl | mem
      · exact absurd named other
      · exact List.mem_cons_of_mem _ mem
    · rcases List.mem_cons.1 mem with rfl | mem
      · exact List.mem_cons_self
      · exact List.mem_cons_of_mem _ (ih mem)

/-- A change of the first file of a name leaves alone what comes after a file of its own name. -/
theorem isShadowed_mapFile_go (keepsName : ∀ file, (change file).filename = file.filename)
    {file : CrawlFile} {files : List CrawlFile} (shadowed : IsShadowed file files) :
    IsShadowed file (mapFile.go filename change files) := by
  obtain ⟨first, same, sublist⟩ := shadowed
  induction files with
  | nil => exact nomatch sublist
  | cons head files ih =>
    rw [mapFile.go]
    cases sublist with
    | cons _ sublist =>
      split
      · exact ⟨first, same, sublist.cons _⟩
      · obtain ⟨first, same, sublist⟩ := ih sublist
        exact ⟨first, same, sublist.cons _⟩
    | cons_cons _ sublist =>
      split
      · exact ⟨change first, (keepsName first).trans same, sublist.cons_cons _⟩
      · next other =>
        have mem : file ∈ mapFile.go filename change files :=
          mem_mapFile_go_of_ne (same ▸ other) (List.singleton_sublist.1 sublist)
        exact ⟨first, same, (List.singleton_sublist.2 mem).cons_cons _⟩

theorem mapFile_go_append {file : CrawlFile} {done rest : List CrawlFile}
    (first : ∀ earlier ∈ done, earlier.filename ≠ file.filename) :
    mapFile.go file.filename change (done ++ file :: rest) = done ++ change file :: rest := by
  induction done with
  | nil => exact if_pos rfl
  | cons head done ih =>
    obtain ⟨other, others⟩ := List.forall_mem_cons.1 first
    rw [List.cons_append, mapFile.go, if_neg other, ih others, List.cons_append]

/-- A change of the first file of a name leaves alone the files before and after it. -/
theorem mapFile_append {crawl : Crawl} {file : CrawlFile} {done rest : List CrawlFile}
    (files : crawl.files = done ++ file :: rest)
    (first : ∀ earlier ∈ done, earlier.filename ≠ file.filename) :
    crawl.mapFile file.filename change
      = { crawl with files := done ++ change file :: rest } := by
  rw [mapFile, files, mapFile_go_append first]

theorem file?_append {crawl : Crawl} {file : CrawlFile} {done rest : List CrawlFile}
    (files : crawl.files = done ++ file :: rest)
    (first : ∀ earlier ∈ done, earlier.filename ≠ file.filename) :
    crawl.file? file.filename = some file := by
  have noneBefore : done.find? (fun f => f.filename == file.filename) = none := by
    simpa using first
  rw [file?, files, List.find?_append, noneBefore, Option.none_or, List.find?_cons,
    beq_self_eq_true]

/-- A link that is accepted is stored with its file if this is the first of its name. -/
theorem withSignedUrl?_append {crawl : Crawl} {file : CrawlFile} {done rest : List CrawlFile}
    {url : String} {expiresAt : Moment} (files : crawl.files = done ++ file :: rest)
    (first : ∀ earlier ∈ done, earlier.filename ≠ file.filename)
    (accepts : acceptsExpiry file expiresAt = true) :
    crawl.withSignedUrl? file.filename url expiresAt
      = some { crawl with files := done ++ file.signed url expiresAt :: rest } := by
  rw [withSignedUrl?, file?_append files first, Option.any_some, accepts, if_pos rfl,
    mapFile_append files first]
  rfl

end Crawl

/-! ## Stores of links -/

/-- A lawful store in which a signed link changes the crawl that it is for as the crawl says. -/
class LinkStore (σ : Type) [AccountStore σ] extends LawfulStore σ where
  signs {s t : σ} {orgId id filename url : String} {expiresAt : Moment} {crawl : Crawl}
    {isStored : Bool} (sound : IsSound s) (found : lookUpCrawl s orgId id = .ok crawl)
    (done : (AccountStore.onCrawls (.setSignedUrl id filename url expiresAt)).run s
      = (.ok isStored, t)) :
    IsSound t ∧
      lookUpCrawl t orgId id = .ok ((crawl.withSignedUrl? filename url expiresAt).getD crawl)

instance : LinkStore MemoryStore where
  signs {s t orgId id filename url expiresAt crawl isStored} _ found done := by
    refine ⟨trivial, ?_⟩
    obtain ⟨isThere, owner⟩ := MemoryStore.get?_of_lookUpCrawl found
    obtain rfl : ((MemoryStore.onCrawls (.setSignedUrl id filename url expiresAt)).run s).2 = t :=
      congrArg Prod.snd done
    cases accepted : crawl.withSignedUrl? filename url expiresAt with
    | some signed =>
      have sameOwner : signed.orgId = crawl.orgId :=
        congrArg Crawl.Account.orgId (Crawl.account_withSignedUrl? accepted)
      rw [MemoryStore.lookUpCrawl_eq, MemoryStore.get?_setSignedUrl isThere accepted]
      exact if_pos (sameOwner.trans owner)
    | none =>
      have same : ((MemoryStore.onCrawls (.setSignedUrl id filename url expiresAt)).run s).2
          = s := by
        rw [MemoryStore.run_onCrawls, CrawlTable.perform, Attempt.run_bind, Attempt.run_get]
        dsimp only
        rw [isThere, Option.bind_some, accepted]
        rfl
      rw [same]
      exact found

instance : LinkStore RelationalStore where
  signs {s t orgId id filename url expiresAt crawl isStored} sound found done := by
    have soundAfter := RelationalStore.NamesRows.after sound
      (.onCrawls (.setSignedUrl id filename url expiresAt))
    obtain rfl : ((RelationalStore.onCrawls (.setSignedUrl id filename url expiresAt)).run s).2
        = t := congrArg Prod.snd done
    refine ⟨soundAfter, ?_⟩
    obtain ⟨row, isThere, rfl, reads⟩ := RelationalStore.row_of_lookUpCrawl found
    have named : crawl.id = id := sound id row crawl isThere reads
    have done := congrArg Prod.fst done
    revert done
    show ((RelationalStore.onCrawls (.setSignedUrl id filename url expiresAt)).run s).1 = _ → _
    rw [RelationalStore.onCrawls, Attempt.run_atomically]
    simp only [RelationalStore.performOnCrawls, RelationalStore.loadCrawl?, Attempt.run_bind,
      Attempt.run_get, isThere, Option.all_none, if_true, reads, RelationalStore.run_need,
      Attempt.run_pure, Option.bind_some]
    cases accepted : crawl.withSignedUrl? filename url expiresAt with
    | none =>
      intro _
      exact found
    | some signed =>
      have sameId : signed.id = id :=
        (congrArg Crawl.Account.id (Crawl.account_withSignedUrl? accepted)).trans named
      simp only [RelationalStore.storeCrawl, Attempt.run_bind]
      cases writes : CrawlRow.ofCrawl? signed with
      | none =>
        intro failed
        exact nomatch failed
      | some written =>
        intro _
        have readsAfter : ({ row with document := written.document } : CrawlRow).crawl?
            = some signed := RelationalStore.crawl?_of_document writes rfl
        simp only [RelationalStore.run_need, Attempt.run_get, sameId, isThere, Attempt.run_modify,
          Attempt.run_pure]
        rw [RelationalStore.lookUpCrawl_eq, SortedMap.get?_insert, if_pos rfl]
        simp only [RelationalStore.answer, if_true, readsAfter, Option.getD_some]

/-! ## Resolving -/

namespace Action

section Resolve

variable {σ : Type} [AccountStore σ] {services : ObjectService} {seconds : Counter}
  {org : Organization} {crawlId : String} {w t : World σ}

/-- A link that can be used is answered. -/
theorem run_resolveFile_of_usable {file : CrawlFile} {url : String}
    (usable : file.usableUrl w.now = some url) :
    (resolveFile services seconds org crawlId file).run w
      = (.ok (file.describe crawlId (some url)), { w with metrics := w.metrics.addReused }) := by
  rw [resolveFile, Attempt.run_bind, Attempt.run_get]
  dsimp only
  rw [usable]
  rfl

/-- A new link is stored and answered. -/
theorem of_resolveFile_unusable {file : CrawlFile} {d : FileDescriptor}
    (missing : file.usableUrl w.now = none)
    (done : (resolveFile services seconds org crawlId file).run w = (.ok d, t)) :
    ∃ url isStored, d = (file.signed url (linkEnd w.now seconds)).describe crawlId (some url) ∧
      (AccountStore.onCrawls (.setSignedUrl crawlId file.filename url
        (linkEnd w.now seconds))).run w.store = (.ok isStored, t.store) ∧ t.now = w.now := by
  rw [resolveFile, Attempt.run_bind, Attempt.run_get] at done
  dsimp only at done
  rw [missing, mintLink, Attempt.run_bind, Attempt.run_get] at done
  obtain ⟨url, asked, asks, done⟩ := Attempt.run_bind_eq_ok_iff.1 done
  obtain ⟨isStored, stored, stores, done⟩ := Attempt.run_bind_eq_ok_iff.1 done
  obtain ⟨_, counted, counts, done⟩ := Attempt.run_bind_eq_ok_iff.1 done
  obtain ⟨rfl, rfl⟩ := Attempt.run_pure_eq_ok_iff.1 done
  rw [run_ask] at asks
  obtain rfl := congrArg Prod.snd asks
  rw [run_onCrawls] at stores
  have answered : ((AccountStore.onCrawls (.setSignedUrl crawlId file.filename url
      (linkEnd w.now seconds))).run w.store).1 = .ok isStored := congrArg Prod.fst stores
  obtain rfl := congrArg Prod.snd stores
  obtain rfl := congrArg Prod.snd counts
  exact ⟨url, isStored, rfl, Prod.ext answered rfl, rfl⟩

/-- What is answered for a file with a link that can be used. -/
def GivesOut (now : Moment) (crawlId : String) (file : CrawlFile) (d : FileDescriptor) : Prop :=
  ∃ url, file.usableUrl now = some url ∧ d = file.describe crawlId (some url)

/-- Files whose links can all be used are answered with them, and nothing else happens. -/
theorem run_resolveFiles_of_usable {now : Moment} {files : List CrawlFile}
    {descriptors : List FileDescriptor}
    (answers : List.Forall₂ (GivesOut now crawlId) files descriptors) (clock : w.now = now) :
    ∃ metrics, (resolveFiles services seconds org crawlId files).run w
      = (.ok descriptors, { w with metrics }) := by
  rw [resolveFiles]
  induction answers generalizing w with
  | nil => exact ⟨w.metrics, rfl⟩
  | @cons file d files descriptors first _ ih =>
    obtain ⟨url, usable, rfl⟩ := first
    rw [← clock] at usable
    obtain ⟨metrics, run⟩ := @ih { w with metrics := w.metrics.addReused } clock
    refine ⟨metrics, ?_⟩
    rw [List.mapM_cons, Attempt.run_bind, run_resolveFile_of_usable usable]
    dsimp only
    rw [Attempt.run_bind, run]
    rfl

/-- Resolving forgets no event. -/
theorem preserves_trace_resolveFile (before : List Event) (file : CrawlFile) :
    Attempt.Preserves (fun v : World σ => before <+: v.trace)
      (resolveFile services seconds org crawlId file) := by
  refine .bind .get fun v => ?_
  split
  · exact .bind (fun v h => h) fun _ => .pure _
  · refine .bind .get fun v => .bind (fun v h => ?_) fun url => .bind (fun v h => h) fun _ =>
      .bind (fun v h => h) fun _ => .pure _
    exact h.trans (List.prefix_append _ _)

/-- A new link is asked for, whether it is got or not. -/
theorem prefix_trace_resolveFile {file : CrawlFile} (missing : file.usableUrl w.now = none) :
    w.trace ++ [.mintLink org.id file.filename seconds]
      <+: ((resolveFile services seconds org crawlId file).run w).2.trace := by
  rw [resolveFile, Attempt.run_bind, Attempt.run_get]
  dsimp only
  rw [missing, mintLink, Attempt.run_bind, Attempt.run_get]
  dsimp only
  rw [Attempt.run_bind, run_ask]
  cases services.mintLink w.trace w.now org file seconds with
  | error e => exact List.prefix_refl _
  | ok url =>
    have stores : Attempt.Preserves (fun v : World σ =>
        w.trace ++ [.mintLink org.id file.filename seconds] <+: v.trace) (do
          let _ ← onCrawls (.setSignedUrl crawlId file.filename url (linkEnd w.now seconds))
          count Metrics.addMinted
          return (file.signed url (linkEnd w.now seconds)).describe crawlId (some url)) :=
      .bind (fun v h => h) fun _ => .bind (fun v h => h) fun _ => .pure _
    exact stores _ (List.prefix_refl _)

/-- If no link is asked for, all links can be used. -/
theorem usable_of_trace_eq {files : List CrawlFile}
    (same : ((resolveFiles services seconds org crawlId files).run w).2.trace = w.trace) :
    ∀ file ∈ files, (file.usableUrl w.now).isSome = true := by
  induction files generalizing w with
  | nil => exact nofun
  | cons file files ih =>
    cases usable : file.usableUrl w.now with
    | some url =>
      rw [resolveFiles, List.mapM_cons, Attempt.run_bind, run_resolveFile_of_usable usable] at same
      dsimp only at same
      refine List.forall_mem_cons.2 ⟨by rw [usable]; rfl, ?_⟩
      apply ih (w := { w with metrics := w.metrics.addReused })
      rw [Attempt.run_bind] at same
      rw [resolveFiles]
      split at same
      · next run =>
        rw [run]
        exact same
      · next run =>
        rw [run]
        exact same
    | none =>
      have grows : w.trace ++ [.mintLink org.id file.filename seconds]
          <+: ((resolveFiles services seconds org crawlId (file :: files)).run w).2.trace := by
        rw [resolveFiles, List.mapM_cons]
        refine Attempt.of_bind (P := fun v : World σ => _ <+: v.trace)
          (prefix_trace_resolveFile usable) fun d => ?_
        exact .bind (.mapM fun file _ => preserves_trace_resolveFile _ file) fun _ => .pure _
      rw [same] at grows
      have length := grows.length_le
      rw [List.length_append, List.length_singleton] at length
      omega

/-- What is answered says when the link ends. -/
theorem expiresAt_of_resolveFiles {files : List CrawlFile} {descriptors : List FileDescriptor}
    (done : (resolveFiles services seconds org crawlId files).run w = (.ok descriptors, t)) :
    List.Forall₂ (fun file d => d.expiresAt
      = (Rfc3339.print? (file.linkEnds w.now seconds)).getD "") files descriptors := by
  refine Attempt.of_mapM (P := fun v => v.now = w.now) ?_ rfl done
  rintro file _ v u d clock resolved
  rw [← clock, CrawlFile.linkEnds]
  cases usable : file.usableUrl v.now with
  | some url =>
    obtain ⟨expiresAt, keeps, _⟩ := CrawlFile.usableUrl_eq_some_iff.1 usable
    rw [run_resolveFile_of_usable usable] at resolved
    obtain rfl := Except.ok.inj (congrArg Prod.fst resolved)
    obtain rfl := congrArg Prod.snd resolved
    simp only [CrawlFile.describe, keeps.2, Option.bind_some, Option.getD_some, and_true]
  | none =>
    obtain ⟨url, _, rfl, _, sameClock⟩ := of_resolveFile_unusable usable resolved
    exact ⟨rfl, sameClock⟩

end Resolve

section Again

open LawfulStore

variable {σ : Type} [AccountStore σ] [LinkStore σ] {services : ObjectService} {seconds : Counter}
  {org : Organization} {crawlId : String} {w t : World σ} {crawl : Crawl}

/-- What comes of one file that is resolved: its crawl has taken over the new link, if there is
one. -/
theorem of_resolveFile {file : CrawlFile} {d : FileDescriptor} (sound : IsSound w.store)
    (found : lookUpCrawl w.store org.id crawlId = .ok crawl)
    (done : (resolveFile services seconds org crawlId file).run w = (.ok d, t)) :
    t.now = w.now ∧ IsSound t.store ∧
      match file.usableUrl w.now with
      | some url =>
        d = file.describe crawlId (some url) ∧ lookUpCrawl t.store org.id crawlId = .ok crawl
      | none => ∃ url, d = (file.signed url (linkEnd w.now seconds)).describe crawlId (some url) ∧
        lookUpCrawl t.store org.id crawlId = .ok ((crawl.withSignedUrl? file.filename url
          (linkEnd w.now seconds)).getD crawl) := by
  cases usable : file.usableUrl w.now with
  | some url =>
    rw [run_resolveFile_of_usable usable] at done
    obtain rfl := Except.ok.inj (congrArg Prod.fst done)
    obtain rfl := congrArg Prod.snd done
    exact ⟨rfl, sound, rfl, found⟩
  | none =>
    obtain ⟨url, isStored, rfl, stores, sameClock⟩ := of_resolveFile_unusable usable done
    obtain ⟨soundAfter, foundAfter⟩ := LinkStore.signs sound found stores
    exact ⟨sameClock, soundAfter, url, rfl, foundAfter⟩

/-- A file that comes after another one of its name stays as it is. -/
theorem isShadowed_of_resolveFiles {file : CrawlFile} {files : List CrawlFile}
    {descriptors : List FileDescriptor} (sound : IsSound w.store)
    (found : lookUpCrawl w.store org.id crawlId = .ok crawl)
    (shadowed : IsShadowed file crawl.files)
    (done : (resolveFiles services seconds org crawlId files).run w = (.ok descriptors, t)) :
    ∃ after, lookUpCrawl t.store org.id crawlId = .ok after ∧ IsShadowed file after.files := by
  induction files generalizing w crawl descriptors with
  | nil =>
    obtain ⟨_, rfl⟩ := Attempt.run_pure_eq_ok_iff.1 done
    exact ⟨crawl, found, shadowed⟩
  | cons head files ih =>
    rw [resolveFiles, List.mapM_cons] at done
    obtain ⟨d, mid, first, later⟩ := Attempt.run_bind_eq_ok_iff.1 done
    obtain ⟨more, _, rest, ends⟩ := Attempt.run_bind_eq_ok_iff.1 later
    obtain ⟨_, rfl⟩ := Attempt.run_pure_eq_ok_iff.1 ends
    obtain ⟨_, soundMid, stored⟩ := of_resolveFile sound found first
    split at stored
    · exact ih soundMid stored.2 shadowed rest
    · obtain ⟨url, _, foundMid⟩ := stored
      refine ih soundMid foundMid ?_ rest
      cases accepted : crawl.withSignedUrl? head.filename url (linkEnd w.now seconds) with
      | none => exact shadowed
      | some signed =>
        rw [Option.getD_some, Crawl.eq_of_withSignedUrl? accepted, Crawl.mapFile]
        apply Crawl.isShadowed_mapFile_go _ shadowed
        intro file
        rfl

/-- A file that is resolved is stored with the link that is answered, whether that was there or is
new, as long as a new one is needed for the first file of a name only. -/
theorem givesOut_of_resolveFile {later : Moment} {file : CrawlFile} {before rest : List CrawlFile}
    {d : FileDescriptor} (sound : IsSound w.store)
    (found : lookUpCrawl w.store org.id crawlId = .ok crawl)
    (isFiles : crawl.files = before ++ file :: rest)
    (others : ∀ earlier ∈ before, earlier.filename = file.filename →
      (file.usableUrl w.now).isSome = true)
    (paired : file.IsPaired) (order : w.now.instant ≤ later.instant)
    (inTime : later.isBefore (file.linkEnds w.now seconds) = true)
    (done : (resolveFile services seconds org crawlId file).run w = (.ok d, t)) :
    ∃ kept : CrawlFile, kept.filename = file.filename ∧ GivesOut later crawlId kept d ∧
      lookUpCrawl t.store org.id crawlId = .ok { crawl with files := before ++ kept :: rest } := by
  obtain ⟨_, _, stored⟩ := of_resolveFile sound found done
  cases usable : file.usableUrl w.now with
  | some url =>
    rw [usable] at stored
    refine ⟨file, rfl, ⟨url, file.usableUrl_of_linkEnds usable inTime, stored.1⟩, ?_⟩
    rw [stored.2, ← isFiles]
  | none =>
    rw [usable] at stored
    obtain ⟨url, rfl, foundAfter⟩ := stored
    have ends : file.linkEnds w.now seconds = linkEnd w.now seconds := by
      rw [CrawlFile.linkEnds, usable]
      rfl
    rw [ends] at inTime
    have within : later.instant < (linkEnd w.now seconds).instant := of_decide_eq_true inTime
    have firstOfName : ∀ earlier ∈ before, earlier.filename ≠ file.filename := by
      intro earlier mem same
      have some_ := others earlier mem same
      rw [usable] at some_
      cases some_
    have accepts : Crawl.acceptsExpiry file (linkEnd w.now seconds) = true :=
      CrawlFile.acceptsExpiry_of_unusable paired usable (by omega)
    rw [Crawl.withSignedUrl?_append isFiles firstOfName accepts] at foundAfter
    exact ⟨file.signed url (linkEnd w.now seconds), rfl,
      ⟨url, CrawlFile.usableUrl_signed inTime, rfl⟩, foundAfter⟩

/-- Files of which each that needs a link is the first of its name are stored with the links that
are answered. The induction is on the files that are left; those before them, which are done, are
the first of their names too. -/
theorem givesOut_of_resolveFiles {later : Moment} {before files : List CrawlFile}
    {descriptors : List FileDescriptor} (sound : IsSound w.store)
    (found : lookUpCrawl w.store org.id crawlId = .ok crawl)
    (isFiles : crawl.files = before ++ files)
    (firsts : FirstsNeedLinks w.now files)
    (others : ∀ earlier ∈ before, ∀ file ∈ files, earlier.filename = file.filename →
      (file.usableUrl w.now).isSome = true)
    (paired : ∀ file ∈ files, file.IsPaired) (order : w.now.instant ≤ later.instant)
    (inTime : ∀ file ∈ files, later.isBefore (file.linkEnds w.now seconds) = true)
    (done : (resolveFiles services seconds org crawlId files).run w = (.ok descriptors, t)) :
    ∃ after, lookUpCrawl t.store org.id crawlId = .ok { crawl with files := before ++ after } ∧
      List.Forall₂ (GivesOut later crawlId) after descriptors := by
  induction files generalizing w crawl before descriptors with
  | nil =>
    obtain ⟨rfl, rfl⟩ := Attempt.run_pure_eq_ok_iff.1 done
    exact ⟨[], by rw [← isFiles]; exact found, .nil⟩
  | cons head files ih =>
    rw [resolveFiles, List.mapM_cons] at done
    obtain ⟨d, mid, first, rest⟩ := Attempt.run_bind_eq_ok_iff.1 done
    obtain ⟨more, _, rest, ends⟩ := Attempt.run_bind_eq_ok_iff.1 rest
    obtain ⟨rfl, rfl⟩ := Attempt.run_pure_eq_ok_iff.1 ends
    obtain ⟨firstsHead, firsts⟩ := List.pairwise_cons.1 firsts
    obtain ⟨pairedHead, paired⟩ := List.forall_mem_cons.1 paired
    obtain ⟨inTimeHead, inTime⟩ := List.forall_mem_cons.1 inTime
    obtain ⟨clock, soundMid, _⟩ := of_resolveFile sound found first
    obtain ⟨kept, sameName, givesOut, foundMid⟩ := givesOut_of_resolveFile sound found isFiles
      (fun earlier mem => others earlier mem head List.mem_cons_self) pairedHead order inTimeHead
      first
    rw [← List.singleton_append, ← List.append_assoc] at foundMid
    rw [← clock] at firsts others order inTime firstsHead
    have othersMid : ∀ earlier ∈ before ++ [kept], ∀ file ∈ files,
        earlier.filename = file.filename → (file.usableUrl mid.now).isSome = true := by
      intro earlier mem file among same
      rcases List.mem_append.1 mem with mem | mem
      · exact others earlier mem file (List.mem_cons_of_mem _ among) same
      · obtain rfl := List.mem_singleton.1 mem
        exact firstsHead file among (sameName.symm.trans same)
    obtain ⟨after, foundAfter, givesOutAfter⟩ :=
      ih soundMid foundMid rfl firsts othersMid paired order inTime rest
    refine ⟨kept :: after, ?_, .cons givesOut givesOutAfter⟩
    simp only [foundAfter, List.append_assoc, List.singleton_append]

end Again

end Action

/-- What is known of a crawl after it was resolved: its files were answered with links whose ends
the answers say, and until one of them ends the crawl is resolved again. -/
structure ResolvedAgain {σ : Type} [AccountStore σ] (seconds : Counter) (org : Organization)
    (crawl : Crawl) (w t : World σ) (descriptors : List FileDescriptor) : Prop where
  ends : List.Forall₂ (fun file d => d.expiresAt
    = (Rfc3339.print? (file.linkEnds w.now seconds)).getD "") crawl.files descriptors
  /-- No link is asked for again exactly if only the first files of their names needed one. -/
  asksNothing_iff : ∀ (services : ObjectService) (v : World σ), v.store = t.store →
    w.now.instant ≤ v.now.instant →
    (∀ file ∈ crawl.files, v.now.isBefore (file.linkEnds w.now seconds) = true) →
    (((Action.resolveCrawl services seconds org crawl.id).run v).2.trace = v.trace
      ↔ FirstsNeedLinks w.now crawl.files)
  /-- Then the answers are the same, and the store is left as it is. -/
  same : FirstsNeedLinks w.now crawl.files → ∀ (services : ObjectService) (v : World σ),
    v.store = t.store → w.now.instant ≤ v.now.instant →
    (∀ file ∈ crawl.files, v.now.isBefore (file.linkEnds w.now seconds) = true) →
    ∃ metrics, (Action.resolveCrawl services seconds org crawl.id).run v
      = (.ok descriptors, { v with metrics })

section ResolvedAgain

open LawfulStore

variable {σ : Type} [AccountStore σ] [LinkStore σ] {services : ObjectService} {seconds : Counter}
  {org : Organization} {w t : World σ} {crawl : Crawl} {descriptors : List FileDescriptor}

theorem resolvedAgain (sound : IsSound w.store)
    (found : lookUpCrawl w.store org.id crawl.id = .ok crawl)
    (paired : ∀ file ∈ crawl.files, file.IsPaired)
    (done : (Action.resolveCrawl services seconds org crawl.id).run w = (.ok descriptors, t)) :
    ResolvedAgain seconds org crawl w t descriptors := by
  have looksUp : ∀ (services : ObjectService) (v : World σ) (crawl' : Crawl),
      lookUpCrawl v.store org.id crawl.id = .ok crawl' →
      (Action.resolveCrawl services seconds org crawl.id).run v
        = (Action.resolveFiles services seconds org crawl.id crawl'.files).run v := by
    intro services v crawl' there
    rw [Action.resolveCrawl, Attempt.run_bind, Action.run_getCrawl_eq, there]
  rw [looksUp services w crawl found] at done
  have same : FirstsNeedLinks w.now crawl.files → ∀ (services : ObjectService) (v : World σ),
      v.store = t.store → w.now.instant ≤ v.now.instant →
      (∀ file ∈ crawl.files, v.now.isBefore (file.linkEnds w.now seconds) = true) →
      ∃ metrics, (Action.resolveCrawl services seconds org crawl.id).run v
        = (.ok descriptors, { v with metrics }) := by
    intro firsts services v sameStore order inTime
    have isFiles : crawl.files = [] ++ crawl.files := rfl
    obtain ⟨after, foundAfter, answers⟩ := Action.givesOut_of_resolveFiles sound found isFiles
      firsts (List.forall_mem_nil _) paired order inTime done
    rw [← sameStore] at foundAfter
    rw [looksUp services v _ foundAfter]
    exact Action.run_resolveFiles_of_usable answers rfl
  refine ⟨Action.expiresAt_of_resolveFiles done, ?_, same⟩
  intro services v sameStore order inTime
  constructor
  · intro silent
    by_contra notFirsts
    obtain ⟨file, shadowed, missing⟩ := not_firstsNeedLinks notFirsts
    obtain ⟨after, foundAfter, stillShadowed⟩ :=
      Action.isShadowed_of_resolveFiles sound found shadowed done
    rw [← sameStore] at foundAfter
    rw [looksUp services v after foundAfter] at silent
    obtain ⟨first, _, sublist⟩ := stillShadowed
    have mem : file ∈ after.files := sublist.subset (by simp)
    obtain ⟨url, usable⟩ := Option.isSome_iff_exists.1 (Action.usable_of_trace_eq silent file mem)
    rw [CrawlFile.usableUrl_of_later order usable] at missing
    cases missing
  · intro firsts
    obtain ⟨metrics, run⟩ := same firsts services v sameStore order inTime
    rw [run]

end ResolvedAgain

/-- A crawl that was resolved is resolved again, until one of the links ends, without any link being
asked for, with the same answers and without a change of the store, exactly if each file that needed
a link was the first of its name. -/
theorem resolveCrawl_again {services : ObjectService} {seconds : Counter} {org : Organization}
    {crawl : Crawl} (paired : ∀ file ∈ crawl.files, file.IsPaired)
    {descriptors : List FileDescriptor} :
    (∀ w t : World MemoryStore, lookUpCrawl w.store org.id crawl.id = .ok crawl →
      (Action.resolveCrawl services seconds org crawl.id).run w = (.ok descriptors, t) →
      ResolvedAgain seconds org crawl w t descriptors) ∧
    ∀ (calls : List StoreCall) (w t : World RelationalStore), w.store = afterCalls calls {} →
      lookUpCrawl w.store org.id crawl.id = .ok crawl →
      (Action.resolveCrawl services seconds org crawl.id).run w = (.ok descriptors, t) →
      ResolvedAgain seconds org crawl w t descriptors := by
  constructor
  · intro w t found done
    exact resolvedAgain trivial found paired done
  · intro calls w t reached found done
    have sound : RelationalStore.NamesRows w.store := by
      rw [reached]
      exact RelationalStore.namesRows_afterCalls calls RelationalStore.namesRows_empty
    exact resolvedAgain sound found paired done

/-- A collaborator whose links differ with what has happened before. -/
def numberingService : ObjectService where
  deleteObject _ _ _ _ := .ok true
  mintLink before _ _ _ _ := .ok (String.ofList (List.replicate (before.length + 1) 'n'))

/-- A crawl with files whose link has ended, can be used, or is missing. -/
def crawlOfLinks (files : List CrawlFile) : Crawl where
  id := "c"
  orgId := "org-1"
  type := .crawl
  state := .complete
  files

/-- Of the two files of one name the second one has a link that can be used. -/
def endedAndUsable : List CrawlFile :=
  [{ filename := "a", signedUrl := some "old", expiresAt := some (.ofSeconds 1714500000) },
    { filename := "b" },
    { filename := "a", signedUrl := some "new", expiresAt := some (.ofSeconds 1714600000) }]

theorem resolveCrawl_again_endedAndUsable :
    let resolve : Action MemoryStore (List FileDescriptor) :=
      Action.resolveCrawl numberingService 3600 { id := "org-1" } "c"
    let w : World MemoryStore :=
      { store := { crawls := Register.insert ∅ (crawlOfLinks endedAndUsable) }
        now := .ofSeconds 1714564800 }
    let later := Moment.ofSeconds 1714568399
    ∃ descriptors t metrics, resolve.run w = (.ok descriptors, t) ∧
      descriptors.map (·.path) = ["n", "nn", "new"] ∧
      resolve.run { t with now := later }
        = (.ok descriptors, { t with now := later, metrics }) := by
  intro resolve w later
  have answered : (resolve.run w).1.map (·.map (·.path)) = .ok ["n", "nn", "new"] := by
    decide +kernel
  have paired : ∀ file ∈ (crawlOfLinks endedAndUsable).files, file.IsPaired := by decide
  have firsts : FirstsNeedLinks w.now endedAndUsable := by decide
  have inTime : ∀ file ∈ endedAndUsable, later.isBefore (file.linkEnds w.now 3600) = true := by
    decide +kernel
  have order : w.now.instant ≤ later.instant := by decide
  rcases run : resolve.run w with ⟨e | descriptors, t⟩
  · rw [run] at answered
    exact nomatch answered
  · rw [run] at answered
    have again := (resolveCrawl_again paired).1 w t (by decide +kernel) run
    obtain ⟨metrics, same⟩ :=
      again.same firsts numberingService { t with now := later } rfl order inTime
    exact ⟨descriptors, t, metrics, rfl, Except.ok.inj answered, same⟩

/-- The link of the second file of a name is stored with the first one, so that both are answered
with other links when the crawl is resolved again at once. -/
theorem resolveCrawl_again_twins :
    let crawl := crawlOfLinks [{ filename := "a" }, { filename := "a" }]
    let resolve : Action MemoryStore (List FileDescriptor) :=
      Action.resolveCrawl numberingService 3600 { id := "org-1" } "c"
    let w : World MemoryStore :=
      { store := { crawls := Register.insert ∅ crawl }, now := .ofSeconds 1714564800 }
    let first := resolve.run w
    let again := resolve.run first.2
    (∀ file ∈ crawl.files, file.IsPaired ∧ w.now.isBefore (file.linkEnds w.now 3600) = true) ∧
      first.1.map (·.map (·.path)) = .ok ["n", "nn"] ∧
      again.1.map (·.map (·.path)) = .ok ["nn", "nnn"] ∧
      again.2.trace = first.2.trace ++ [.mintLink "org-1" "a" 3600] ∧
      (again.2.store.crawls.get? "c").map Crawl.files
        ≠ (first.2.store.crawls.get? "c").map Crawl.files := by
  decide +kernel

end ArchiveAccounts
