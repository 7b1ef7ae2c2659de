import ArchiveAccounts.Proofs.Storage.KeySpace

/-!
# Links under the public address

A link is signed for the endpoint of a storage and shown under its public address, which takes the
place of the endpoint where the link starts with it. The link starts with the endpoint as URLs are
written, and the endpoint is compared as it stands in the settings. Main statement:
`link_underAccess_iff`.
-/

namespace ArchiveAccounts
set_option autoImplicit false

open Text Calendar Signing

namespace Url

/-- The scheme, the host and the port of a URL as they are written. -/
def origin (url : Url) : String := url.scheme ++ ":" ++ authorityText url.authority

/-- The path of a URL with its query. -/
def target (url : Url) : String := url.path ++ marked "?" url.query

theorem base_eq_append {url : Url} {a : Authority} (authority : url.authority = some a) :
    url.base = url.origin ++ url.path := by
  unfold base origin
  simp [authority]

theorem origin_eq {url : Url} {a : Authority} (authority : url.authority = some a) :
    url.origin = String.ofList (url.scheme.toList ++ ':' :: '/' :: '/' :: placeOf a) := by
  apply String.toList_inj.1
  unfold origin placeOf
  simp [authority, authorityText]

theorem host_ne_empty_of_readHost {scheme s : List Char} {host : Host} {port : Option Nat}
    (reads : readHost scheme s = .ok (host, port)) : host ≠ .empty := by
  unfold readHost at reads
  obtain ⟨hostText, rest⟩ := spanHost false s
  dsimp only at reads
  split at reads
  · cases reads
  · obtain ⟨found, parses, reads⟩ := bind_eq_ok_iff.1 reads
    have named : found ≠ .empty := parseHost_ne_empty parses
    split at reads
    · obtain ⟨p, _, reads⟩ := bind_eq_ok_iff.1 reads
      obtain rfl := congrArg Prod.fst (Except.ok.inj reads)
      exact named
    · obtain rfl := congrArg Prod.fst (Except.ok.inj reads)
      exact named

theorem host_ne_empty_of_readAuthority {scheme written : List Char} {a : Authority}
    (reads : readAuthority scheme written = .ok a) : a.host ≠ .empty := by
  unfold readAuthority at reads
  dsimp only at reads
  cases reading : readHost scheme ((cutAtLastAt written).getD ([], written)).2 with
  | error e =>
    rw [reading] at reads
    cases reads
  | ok hosted =>
    rw [reading] at reads
    rw [← Except.ok.inj reads]
    exact host_ne_empty_of_readHost reading

theorem isPath_of_slashes {slashes : List Char} (areSlashes : ∀ c ∈ slashes, c = '/') :
    IsPath slashes := by
  refine ⟨fun c mem => areSlashes c (List.mem_of_mem_head? mem), ?_, ?_⟩
  · intro c mem
    rw [areSlashes c mem]
    rfl
  · intro c mem
    rw [areSlashes c mem]
    decide

/-- A URL that was read keeps its path when a query is put after it. -/
theorem target_of_parse {address query : String} {u v : Url} (reads : parse address = .ok u)
    (web : IsWeb u.scheme.toList) (isQuery : IsQuery query.toList)
    (again : parse (u.base ++ "?" ++ query) = .ok v) : v.target = u.path ++ "?" ++ query := by
  have oneQuery : ∀ q ∈ some query.toList, IsQuery q :=
    fun q same => Option.some.inj same ▸ isQuery
  obtain ⟨a, _, whole⟩ := parse_base reads web oneQuery
  have text : u.base ++ String.ofList (tailOf (some query.toList)) = u.base ++ "?" ++ query := by
    rw [tailOf, String.ofList_cons, String.ofList_toList, String.append_assoc]
    rfl
  rw [text, again] at whole
  cases hosted : readAuthority u.scheme.toList (placeOf a) with
  | error e =>
    rw [hosted] at whole
    cases whole
  | ok found =>
    rw [hosted] at whole
    obtain rfl := Except.ok.inj whole
    simp only [target, marked, Option.map_some, String.ofList_toList, String.append_assoc]

end Url

namespace ObjectStorage

variable {storage : ObjectStorage} {read : Url}

/-! ## Endpoints -/

/-- What is asked of a storage: the endpoint is a web scheme and a host, with or without a port and
with any slashes after it, that is read as `read`, and the bucket holds letters, digits, `-` and
`_`. -/
structure IsReachedAt (storage : ObjectStorage) (read : Url) : Prop where
  endpoint : Url.IsOrigin (withoutEnd storage.settings.endpoint)
  reads : Url.parse storage.settings.endpoint = .ok read
  bucket : ∀ c ∈ storage.settings.bucket.toList, isNameChar c = true

/-- An address is what is left of it without the slashes at its end, and slashes. -/
theorem exists_slashes (address : String) : ∃ slashes : List Char,
    (∀ c ∈ slashes, c = '/') ∧ address = withoutEnd address ++ String.ofList slashes := by
  let isSlash : Char → Bool := (· == '/')
  refine ⟨(address.toList.reverse.takeWhile isSlash).reverse, ?_, ?_⟩
  · intro c mem
    have slash : isSlash c = true := List.mem_takeWhile_imp (List.mem_reverse.1 mem)
    exact eq_of_beq slash
  · apply String.toList_inj.1
    have whole := congrArg List.reverse
      (List.takeWhile_append_dropWhile (p := isSlash) (l := address.toList.reverse))
    rw [List.reverse_append, List.reverse_reverse] at whole
    simp only [withoutEnd, dropCharEnd, dropChar, String.toList_append, String.toList_ofList]
    exact whole.symm

/-- The address of a file names the host that the endpoint names. -/
theorem exists_target (reached : storage.IsReachedAt read) (orgId filename : String) :
    ∃ u host, parseTarget (storage.url orgId filename) = .ok (u, host) ∧
      u.origin = read.origin ∧ Url.IsWeb u.scheme.toList := by
  obtain ⟨scheme, place, web, isPlace, endpoint⟩ := reached.endpoint
  obtain ⟨slashes, areSlashes, whole⟩ := exists_slashes storage.settings.endpoint
  have noQuery : ∀ q ∈ (none : Option (List Char)), Url.IsQuery q :=
    fun q mem => absurd mem (Option.not_mem_none q)
  have reads := reached.reads
  have text : storage.settings.endpoint = String.ofList (scheme ++ ':' :: '/' :: '/' ::
      (place ++ (slashes ++ Url.tailOf none))) := by
    rw [whole, endpoint, ← String.ofList_append, Url.tailOf]
    simp
  rw [text, Url.parse_parts web isPlace (Url.isPath_of_slashes areSlashes) noQuery] at reads
  have parses := parse_url web isPlace endpoint reached.bucket orgId filename
  cases authority : Url.readAuthority (Url.lower scheme) place with
  | error e =>
    rw [authority] at reads
    cases reads
  | ok a =>
    rw [authority] at reads parses
    have named : a.host ≠ .empty := Url.host_ne_empty_of_readAuthority authority
    obtain rfl := Except.ok.inj reads
    refine ⟨_, _, parseTarget_eq_ok_iff.2 ⟨parses, a.host, if_neg named, rfl⟩, ?_, ?_⟩
    · simp only [Url.origin]
    · rw [String.toList_ofList]
      exact web

/-! ## What is shown -/

section Shown

variable {settings : StorageSettings} {access : String} {u : Url} {a : Authority} {rest : String}

/-- The public address stands for the endpoint where the scheme and the host start with that, and
else the link is shown as it was signed. -/
theorem publicUrl_origin (shown : settings.accessEndpoint = some access)
    (endpoint : Url.IsOrigin (withoutEnd settings.endpoint)) (web : Url.IsWeb u.scheme.toList)
    (authority : u.authority = some a) (slash : rest.toList.head? = some '/') :
    (∀ more, u.origin = withoutEnd settings.endpoint ++ more →
      publicUrl settings (u.origin ++ rest) = withoutEnd access ++ more ++ rest) ∧
    ((∀ more, u.origin ≠ withoutEnd settings.endpoint ++ more) →
      publicUrl settings (u.origin ++ rest) = u.origin ++ rest) := by
  unfold publicUrl
  rw [shown]
  constructor
  · intro more starts
    have dropped : dropLead? (withoutEnd settings.endpoint).toList (u.origin ++ rest).toList
        = some (more ++ rest).toList := by
      rw [dropLead?_eq_some_iff, starts, ← String.toList_append, String.append_assoc]
    simp only [dropped, String.ofList_toList, String.append_assoc]
  · intro apart
    obtain ⟨path, isRest⟩ := List.head?_eq_some_iff.1 slash
    cases dropped : dropLead? (withoutEnd settings.endpoint).toList (u.origin ++ rest).toList with
    | none => rfl
    | some left =>
      -- The endpoint would end within the host.
      rw [dropLead?_eq_some_iff, Url.origin_eq authority, String.toList_append,
        String.toList_ofList, isRest] at dropped
      rw [← String.ofList_toList (s := withoutEnd settings.endpoint)] at endpoint
      simp only [List.append_assoc, List.cons_append] at dropped
      obtain ⟨more, _, isLeft⟩ := exists_rest_of_lead web endpoint dropped
      refine absurd ?_ (apart (String.ofList more))
      apply String.toList_inj.1
      apply (List.append_left_inj ('/' :: path)).1
      rw [Url.origin_eq authority]
      simpa [isLeft] using dropped

/-- The public address is what stands in front of the path and nothing else exactly if the endpoint
is written as the host is, or the host is the public address anyway. -/
theorem publicUrl_origin_iff (shown : settings.accessEndpoint = some access)
    (endpoint : Url.IsOrigin (withoutEnd settings.endpoint)) (web : Url.IsWeb u.scheme.toList)
    (authority : u.authority = some a) (slash : rest.toList.head? = some '/') :
    publicUrl settings (u.origin ++ rest) = withoutEnd access ++ rest ↔
      withoutEnd settings.endpoint = u.origin ∨
        (withoutEnd access = u.origin ∧
          ∀ more, u.origin ≠ withoutEnd settings.endpoint ++ more) := by
  obtain ⟨replaced, kept⟩ := publicUrl_origin shown endpoint web authority slash
  by_cases starts : ∃ more, u.origin = withoutEnd settings.endpoint ++ more
  · obtain ⟨more, starts⟩ := starts
    rw [replaced more starts]
    constructor
    · intro same
      have none_ : more = "" := by
        have texts := congrArg String.toList same
        simpa using texts
      rw [starts, none_, String.append_empty]
      exact .inl rfl
    · rintro (same | ⟨_, apart⟩)
      · have none_ : more = "" := by
          have texts := congrArg String.toList (same.trans starts)
          simpa using texts
        rw [none_, String.append_empty]
      · exact absurd starts (apart more)
  · have apart : ∀ more, u.origin ≠ withoutEnd settings.endpoint ++ more :=
      fun more same => starts ⟨more, same⟩
    rw [kept apart]
    constructor
    · intro same
      have texts := congrArg String.toList same
      refine .inr ⟨?_, apart⟩
      apply String.toList_inj.1
      simpa using texts.symm
    · rintro (same | ⟨same, _⟩)
      · exact absurd (same ▸ String.append_empty.symm) (apart "")
      · rw [same]

end Shown

/-! ## Links -/

/-- How a link that was signed is shown under a public address, for a storage whose endpoint is read
as `read`: `rest` is its path and its query, which follow the host. -/
structure Shows (settings : StorageSettings) (access : String) (read : Url) (link : SignedLink)
    (rest text : String) : Prop where
  signed : link.url = read.origin ++ rest
  slash : rest.toList.head? = some '/'
  target : ∀ u, Url.parse link.url = .ok u → u.target = rest
  underAccess_iff : text = withoutEnd access ++ rest ↔
    withoutEnd settings.endpoint = read.origin ∨
      (withoutEnd access = read.origin ∧
        ∀ more, read.origin ≠ withoutEnd settings.endpoint ++ more)
  replaced : ∀ more, read.origin = withoutEnd settings.endpoint ++ more →
    text = withoutEnd access ++ more ++ rest
  kept : (∀ more, read.origin ≠ withoutEnd settings.endpoint ++ more) → text = link.url

section Links

variable {now : Moment} {orgId filename text access : String} {seconds : Counter}

/-- What a link is signed and shown as. -/
theorem shows_of_link (reached : storage.IsReachedAt read)
    (shown : storage.settings.accessEndpoint = some access)
    (mints : storage.link now orgId filename seconds = .ok text) :
    ∃ link rest, storage.signer.signLink "GET" (storage.url orgId filename) (linkExpiry seconds)
        (.ofMoment now) = .ok link ∧ Shows storage.settings access read link rest text := by
  obtain ⟨_, link, signs, rfl⟩ := link_eq_ok mints
  obtain ⟨u, host, target, sameOrigin, web⟩ := exists_target reached orgId filename
  have reads := (parseTarget_eq_ok_iff.1 target).1
  obtain ⟨a, segments, authority, _, some_, _, path⟩ := Url.exists_parts_of_parse reads web
  let pairs := linkQuery storage.signer u (linkExpiry seconds) (.ofMoment now) link.signature
  let query := joinWith "&" (pairs.map FormEncoded.written)
  let rest := u.path ++ "?" ++ query
  have slash : rest.toList.head? = some '/' := by
    simp [rest, path, Url.joinSegments_eq some_]
  have written : link.url = u.base ++ "?" ++ query := signLink_url target signs
  have signed : link.url = u.origin ++ rest := by
    rw [written, Url.base_eq_append authority]
    simp only [rest, String.append_assoc]
  have again : ∀ v, Url.parse link.url = .ok v → v.target = rest := by
    intro v parses
    rw [written] at parses
    exact Url.target_of_parse reads web (isQuery_join pairs) parses
  obtain ⟨replaced, kept⟩ := publicUrl_origin shown reached.endpoint web authority slash
  have iff := publicUrl_origin_iff shown reached.endpoint web authority slash
  rw [← signed] at replaced kept iff
  rw [sameOrigin] at signed replaced kept iff
  exact ⟨link, rest, signs, signed, slash, again, iff, replaced, kept⟩

end Links

/-- A link is shown as the public address followed by its path and its query exactly if the endpoint
is written as URLs are, but for slashes at its end, or the host that it names is the public address
itself. Else the host stays in place of the public address, or what it goes on with after the
endpoint stays behind it. -/
theorem link_underAccess_iff {access : String} (reached : storage.IsReachedAt read)
    (shown : storage.settings.accessEndpoint = some access) (now : Moment)
    (orgId filename : String) (seconds : Counter) :
    (now.isInUtcCalendar = true → ∃ text, storage.link now orgId filename seconds = .ok text) ∧
    ∀ text, storage.link now orgId filename seconds = .ok text →
      ∃ link rest, storage.signer.signLink "GET" (storage.url orgId filename) (linkExpiry seconds)
          (.ofMoment now) = .ok link ∧ Shows storage.settings access read link rest text := by
  constructor
  · intro inCalendar
    obtain ⟨u, host, target, _⟩ := exists_target reached orgId filename
    exact exists_link inCalendar target seconds
  · intro text mints
    exact shows_of_link reached shown mints

/-- The storage on one host, with another endpoint. -/
def minioAt (endpoint : String) : ObjectStorage :=
  { minio with settings := { minio.settings with endpoint } }

theorem minioAt_isReachedAt {endpoint : String} (place : List Char) {read : Url}
    (written : withoutEnd endpoint = String.ofList ("http".toList ++ ':' :: '/' :: '/' :: place))
    (isPlace : Url.IsPlace place) (reads : Url.parse endpoint = .ok read) :
    (minioAt endpoint).IsReachedAt read where
  endpoint := ⟨"http".toList, place, .inl (by decide), isPlace, written⟩
  reads := reads
  bucket := minio_hasPlainNames.bucket

/-- A link under the public address, with the slash at the end of the endpoint left out. -/
theorem link_underAccess_iff_slash :
    let now := Moment.ofSeconds 1714564800
    let storage := minioAt "http://minio:9000/"
    ∃ read text link rest, storage.IsReachedAt read ∧ read.origin = "http://minio:9000" ∧
      storage.link now "org-1" "a.wacz" 600 = .ok text ∧
      storage.signer.signLink "GET" (storage.url "org-1" "a.wacz") (linkExpiry 600)
        (.ofMoment now) = .ok link ∧
      link.url = "http://minio:9000" ++ rest ∧ text = "https://files.example.org" ++ rest := by
  intro now storage
  let read : Url :=
    { scheme := "http", authority := some { host := .name "minio", port := some 9000 }
      path := "/" }
  have origin : read.origin = "http://minio:9000" := by decide +kernel
  have endpoint : withoutEnd "http://minio:9000/" = read.origin := by decide +kernel
  have reached : storage.IsReachedAt read :=
    minioAt_isReachedAt "minio:9000".toList (by decide)
      ⟨by decide, List.all_eq_true.1 (by decide)⟩ (by decide +kernel)
  obtain ⟨mints, shows⟩ := link_underAccess_iff reached rfl now "org-1" "a.wacz" 600
  obtain ⟨text, minted⟩ := mints (by decide)
  obtain ⟨link, rest, signs, isShown⟩ := shows text minted
  have under : text = withoutEnd "https://files.example.org" ++ rest :=
    isShown.underAccess_iff.2 (.inl endpoint)
  have access : withoutEnd "https://files.example.org" = "https://files.example.org" := by
    decide +kernel
  exact ⟨read, text, link, rest, reached, origin, minted, signs, origin ▸ isShown.signed,
    access ▸ under⟩

/-- With the usual port written out in the endpoint, the link shows the endpoint and not the public
address. -/
theorem link_usualPort :
    let now := Moment.ofSeconds 1714564800
    let storage := minioAt "http://minio:80/"
    ∃ read text link rest, storage.IsReachedAt read ∧
      storage.settings.accessEndpoint = some "https://files.example.org" ∧
      storage.link now "org-1" "a.wacz" 600 = .ok text ∧
      storage.signer.signLink "GET" (storage.url "org-1" "a.wacz") (linkExpiry 600)
        (.ofMoment now) = .ok link ∧
      link.url = "http://minio" ++ rest ∧ rest.toList.head? = some '/' ∧ text = link.url ∧
      text ≠ withoutEnd "https://files.example.org" ++ rest := by
  intro now storage
  let read : Url :=
    { scheme := "http", authority := some { host := .name "minio" }, path := "/" }
  have origin : read.origin = "http://minio" := by decide +kernel
  have reached : storage.IsReachedAt read :=
    minioAt_isReachedAt "minio:80".toList (by decide)
      ⟨by decide, List.all_eq_true.1 (by decide)⟩ (by decide +kernel)
  have apart : ∀ more, read.origin ≠ withoutEnd storage.settings.endpoint ++ more := by
    intro more same
    have endpoint : withoutEnd storage.settings.endpoint = "http://minio:80" := by decide +kernel
    have lengths := congrArg String.length same
    rw [origin, endpoint, String.length_append] at lengths
    have short : "http://minio".length < "http://minio:80".length := by decide
    omega
  have public_ : withoutEnd "https://files.example.org" ≠ read.origin := by decide +kernel
  obtain ⟨u, host, target, _⟩ := exists_target reached "org-1" "a.wacz"
  have inCalendar : now.isInUtcCalendar = true := by decide
  obtain ⟨text, minted⟩ := exists_link inCalendar target 600
  obtain ⟨link, rest, signs, isShown⟩ := shows_of_link reached rfl minted
  refine ⟨read, text, link, rest, reached, rfl, minted, signs, origin ▸ isShown.signed,
    isShown.slash, isShown.kept apart, fun same => ?_⟩
  rcases isShown.underAccess_iff.1 same with endpoint | ⟨access, _⟩
  · exact apart "" (endpoint.symm.trans String.append_empty.symm)
  · exact public_ access

end ObjectStorage

end ArchiveAccounts
