import ArchiveAccounts.ObjectStorage
import ArchiveAccounts.Proofs.Signing.Link
import ArchiveAccounts.Proofs.Url.Encoded

/-!
# The key space of an organization

The address of a file is read as bucket, prefix, organization and file name exactly if no segment of
the file name is `.` or `..`, both where the file is deleted and where a link to it is signed: such
segments are kept by the key and by its strict form, and taken out when the address is read. Main
statement: `object_paths`.
-/

namespace ArchiveAccounts
set_option autoImplicit false

open Text Calendar Signing

namespace ObjectStorage

/-! ## Where files should be -/

/-- Letters, digits, `-` and `_`. -/
def isNameChar (c : Char) : Bool := c.isAlphanum || c == '-' || c == '_'

/-- What is asked of a storage and an organization: the endpoint is a web scheme and a host, the
other names hold letters, digits, `-` and `_`. -/
structure HasPlainNames (storage : ObjectStorage) (orgId : String) : Prop where
  endpoint : Url.IsOrigin (withoutEnd storage.settings.endpoint)
  bucket : ∀ c ∈ storage.settings.bucket.toList, isNameChar c = true
  keyPrefix : ∀ c ∈ storage.settings.keyPrefix.toList, isNameChar c = true ∨ c = '/'
  org : ∀ c ∈ orgId.toList, isNameChar c = true

/-- The prefix without slashes at its ends. -/
def lead (storage : ObjectStorage) : List Char :=
  dropCharEnd '/' (dropChar '/' storage.settings.keyPrefix.toList)

/-- What the names of an organization's files have in front of them. -/
def folder (storage : ObjectStorage) (orgId : String) : String :=
  (if storage.lead.isEmpty then "" else String.ofList storage.lead ++ "/") ++ orgId

/-- What every path of an organization should start with. -/
def keySpace (storage : ObjectStorage) (orgId : String) : String :=
  "/" ++ storage.settings.bucket ++ "/" ++ storage.folder orgId ++ "/"

/-- The path that a file should have. -/
def objectPath (storage : ObjectStorage) (orgId filename : String) : String :=
  "/" ++ storage.settings.bucket ++ "/" ++ Percent.encode .kept (storage.key orgId filename)

/-- Whether a segment of a file name is a place of its own. -/
def IsDots (segment : List Char) : Prop := segment = ['.'] ∨ segment = ['.', '.']

/-- Whether no segment of a file name is one. -/
def StaysBelow (filename : String) : Prop :=
  ∀ segment ∈ splitAt '/' filename.toList, ¬IsDots segment

variable {storage : ObjectStorage} {orgId : String}

theorem key_eq (storage : ObjectStorage) (orgId filename : String) :
    storage.key orgId filename
      = storage.folder orgId ++ "/" ++ String.ofList (dropChar '/' filename.toList) := by
  rw [key, folder, lead]
  split
  · rw [String.empty_append]
  · simp only [String.append_assoc]

theorem mem_of_mem_lead {c : Char} (mem : c ∈ storage.lead) :
    c ∈ storage.settings.keyPrefix.toList := by
  rw [lead, dropCharEnd, List.mem_reverse] at mem
  have inner := (List.dropWhile_sublist _).subset mem
  exact (List.dropWhile_sublist _).subset (List.mem_reverse.1 inner)

theorem HasPlainNames.folder (plain : storage.HasPlainNames orgId) :
    ∀ c ∈ (storage.folder orgId).toList, isNameChar c = true ∨ c = '/' := by
  intro c mem
  rw [ObjectStorage.folder, String.toList_append] at mem
  rcases List.mem_append.1 mem with mem | mem
  · split at mem
    · exact nomatch mem
    · rw [String.toList_append, String.toList_ofList] at mem
      rcases List.mem_append.1 mem with mem | slash
      · exact plain.keyPrefix c (mem_of_mem_lead mem)
      · exact .inr (List.mem_singleton.1 slash)
  · exact .inl (plain.org c mem)

/-! ## Segments of keys -/

theorem keepsChar_of_isNameChar {c : Char} (name : isNameChar c = true) :
    Percent.keepsChar .kept c = true := by
  have ascii : c.toNat < 0x80 := by
    have atMost : ∀ last : Char, c.val ≤ last.val → last.toNat < 0x80 → c.toNat < 0x80 :=
      fun _ most => Nat.lt_of_le_of_lt (UInt32.le_iff_toNat_le.1 most)
    simp only [isNameChar, Bool.or_eq_true, beq_iff_eq] at name
    rcases name with (alphanum | rfl) | rfl
    · rcases Bool.or_eq_true_iff.1 alphanum with letter | digit
      · rcases Bool.or_eq_true_iff.1 letter with upper | lower
        · exact atMost 'Z' (of_decide_eq_true upper).2 (by decide)
        · exact atMost 'z' (of_decide_eq_true (Bool.and_eq_true_iff.1 lower).2) (by decide)
      · exact atMost '9' (of_decide_eq_true (Bool.and_eq_true_iff.1 digit).2) (by decide)
    · decide
    · decide
  exact forall_ascii (P := fun c => isNameChar c = true → Percent.keepsChar .kept c = true)
    (by decide +kernel) ascii name

theorem not_isDots_of_names {segment : List Char} (names : ∀ c ∈ segment, isNameChar c = true) :
    ¬IsDots segment := by
  rintro (rfl | rfl)
  · exact absurd (names '.' List.mem_cons_self) (by decide)
  · exact absurd (names '.' List.mem_cons_self) (by decide)

theorem staysBelow_dropChar (name : List Char) :
    (∀ segment ∈ splitAt '/' (dropChar '/' name), ¬IsDots segment)
      ↔ ∀ segment ∈ splitAt '/' name, ¬IsDots segment := by
  induction name with
  | nil => exact Iff.rfl
  | cons c rest ih =>
    by_cases slash : c = '/'
    · have dropped : dropChar '/' (c :: rest) = dropChar '/' rest :=
        List.dropWhile_cons_of_pos (beq_iff_eq.2 slash)
      have empty : ¬IsDots [] := by
        rintro (same | same) <;> exact nomatch same
      rw [dropped, ih, slash, splitAt_cons_self, List.forall_mem_cons]
      exact ⟨fun below => ⟨empty, below⟩, fun below => below.2⟩
    · have kept : dropChar '/' (c :: rest) = c :: rest :=
        List.dropWhile_cons_of_neg fun same => slash (beq_iff_eq.1 same)
      rw [kept]

/-- A key has no segments of dots but those of the file name. -/
theorem key_staysBelow_iff (plain : storage.HasPlainNames orgId) (filename : String) :
    (∀ segment ∈ splitAt '/' (storage.key orgId filename).toList, ¬IsDots segment)
      ↔ StaysBelow filename := by
  have front : ∀ segment ∈ splitAt '/' (storage.folder orgId).toList, ¬IsDots segment := by
    intro segment mem
    refine not_isDots_of_names fun c inside => ?_
    rcases plain.folder c (mem_of_mem_splitAt mem inside) with name | rfl
    · exact name
    · exact absurd inside (not_mem_of_mem_splitAt mem)
  have text : (storage.key orgId filename).toList
      = (storage.folder orgId).toList ++ '/' :: dropChar '/' filename.toList := by
    rw [key_eq, String.toList_append, String.toList_append, String.toList_ofList, List.append_assoc]
    exact congrArg ((storage.folder orgId).toList ++ ·) (congrArg (['/'] ++ ·) String.toList_ofList)
  rw [text, splitAt_append, List.forall_mem_append, staysBelow_dropChar]
  exact ⟨fun both => both.2, fun below => ⟨front, below⟩⟩

/-- The path that a file should have is below that of its organization. -/
theorem objectPath_eq (plain : storage.HasPlainNames orgId) (filename : String) :
    storage.objectPath orgId filename = storage.keySpace orgId
      ++ Percent.encode .kept (String.ofList (dropChar '/' filename.toList)) := by
  have kept : Percent.encode .kept (storage.folder orgId ++ "/")
      = storage.folder orgId ++ "/" := by
    refine Percent.encode_eq_self fun c mem => ?_
    rw [String.toList_append] at mem
    rcases List.mem_append.1 mem with mem | slash
    · rcases plain.folder c mem with name | rfl
      · exact keepsChar_of_isNameChar name
      · decide
    · rw [List.mem_singleton.1 slash]
      decide
  rw [objectPath, key_eq, Percent.encode_append, kept, keySpace]
  simp only [String.append_assoc]

/-! ## Addresses -/

/-- The segments of the path that is written for a file. -/
def segments (storage : ObjectStorage) (orgId filename : String) : List (List Char) :=
  storage.settings.bucket.toList
    :: splitAt '/' (Percent.encode .kept (storage.key orgId filename)).toList

theorem objectPath_segments (storage : ObjectStorage) (orgId filename : String) :
    storage.objectPath orgId filename
      = String.ofList (Url.joinSegments (storage.segments orgId filename)) := by
  have rest := Url.joinSegments_eq
    (splitAt_ne_nil '/' (Percent.encode .kept (storage.key orgId filename)).toList)
  rw [intercalate_splitAt] at rest
  apply String.toList_inj.1
  rw [segments, Url.joinSegments, List.flatMap_cons, ← Url.joinSegments, rest, objectPath]
  simp

theorem segments_eq (plain : storage.HasPlainNames orgId) (filename : String) :
    storage.segments orgId filename = (storage.settings.bucket.toList
      :: splitAt '/' (storage.key orgId filename).toList).map Url.encodedSegment := by
  have bucket : Url.encodedSegment storage.settings.bucket.toList
      = storage.settings.bucket.toList := by
    rw [Url.encodedSegment, String.ofList_toList, Percent.encode_eq_self]
    exact fun c mem => keepsChar_of_isNameChar (plain.bucket c mem)
  have key := Url.splitAt_encode (storage.key orgId filename).toList
  rw [Url.encodedSegment, String.ofList_toList] at key
  rw [segments, key, List.map_cons, bucket]

/-- No segment of a written path is one of dots exactly if none of the file name is. -/
theorem segments_plain_iff (plain : storage.HasPlainNames orgId) (filename : String) :
    (∀ segment ∈ storage.segments orgId filename,
      Url.isHere segment = false ∧ Url.isAbove segment = false) ↔ StaysBelow filename := by
  have each : ∀ segment, Url.isHere (Url.encodedSegment segment) = false ∧
      Url.isAbove (Url.encodedSegment segment) = false ↔ ¬IsDots segment := by
    intro segment
    rw [← Bool.not_eq_true, ← Bool.not_eq_true, Url.isHere_encodedSegment,
      Url.isAbove_encodedSegment, IsDots, not_or]
  rw [segments_eq plain, List.forall_mem_map, List.forall_mem_cons, each]
  simp only [each]
  rw [key_staysBelow_iff plain]
  exact ⟨fun both => both.2, fun below => ⟨not_isDots_of_names plain.bucket, below⟩⟩

theorem mem_segments_spec (bucket : ∀ c ∈ storage.settings.bucket.toList, isNameChar c = true)
    {filename : String} {segment : List Char} (mem : segment ∈ storage.segments orgId filename) :
    '/' ∉ segment ∧ ∀ c ∈ segment, Percent.isStrict .kept c = true := by
  rcases List.mem_cons.1 mem with rfl | mem
  · refine ⟨fun slash => absurd (bucket '/' slash) (by decide), fun c inside => ?_⟩
    exact Bool.or_eq_true_iff.2 (.inl (keepsChar_of_isNameChar (bucket c inside)))
  · refine ⟨not_mem_of_mem_splitAt mem, fun c inside => ?_⟩
    exact Percent.isStrict_of_mem_encode (mem_of_mem_splitAt mem inside)

/-! ## Addresses that are read -/

/-- What is read of the address of a file. -/
structure Addresses (storage : ObjectStorage) (orgId filename : String) (u : Url) : Prop where
  reads : Url.parse (storage.url orgId filename) = .ok u
  exact_iff : u.path = storage.objectPath orgId filename ↔ StaysBelow filename
  within : StaysBelow filename → ∃ rest, u.path = storage.keySpace orgId ++ rest

theorem segments_escaped (bucket : ∀ c ∈ storage.settings.bucket.toList, isNameChar c = true)
    (orgId filename : String) : ∀ segment ∈ storage.segments orgId filename, ∀ c ∈ segment,
      Url.isPathReserved c = false ∧ c.toNat < 0x80 ∧ c ≠ '\\' := by
  intro segment mem c inside
  exact Percent.forall_strict
    (P := fun c => Url.isPathReserved c = false ∧ c.toNat < 0x80 ∧ c ≠ '\\')
    (by decide +kernel) c ((mem_segments_spec bucket mem).2 c inside)

theorem path_eq_objectPath_iff (plain : storage.HasPlainNames orgId) (filename : String) :
    String.ofList (Url.joinSegments (Url.segmentsOf true
        (Url.joinSegments (storage.segments orgId filename)))) = storage.objectPath orgId filename
      ↔ StaysBelow filename := by
  have escaped := segments_escaped plain.bucket orgId filename
  have noSlashes : ∀ segment ∈ storage.segments orgId filename, '/' ∉ segment ∧ '\\' ∉ segment :=
    fun segment mem => ⟨(mem_segments_spec plain.bucket mem).1,
      fun inside => (escaped segment mem '\\' inside).2.2 rfl⟩
  rw [objectPath_segments, String.ofList_inj, ← segments_plain_iff plain]
  exact Url.joinSegments_segmentsOf_iff (List.cons_ne_nil _ _) noSlashes fun segment mem c inside =>
    ⟨(escaped segment mem c inside).1, (escaped segment mem c inside).2.1⟩

theorem url_eq (storage : ObjectStorage) (orgId filename : String) :
    storage.url orgId filename
      = withoutEnd storage.settings.endpoint ++ storage.objectPath orgId filename := by
  rw [url, objectPath]
  simp only [String.append_assoc]

/-- The address of a file is read part by part: its host is that of the endpoint. -/
theorem parse_url {scheme place : List Char} (web : Url.IsWeb (Url.lower scheme))
    (isPlace : Url.IsPlace place) (endpoint : withoutEnd storage.settings.endpoint
      = String.ofList (scheme ++ ':' :: '/' :: '/' :: place))
    (bucket : ∀ c ∈ storage.settings.bucket.toList, isNameChar c = true)
    (orgId filename : String) :
    Url.parse (storage.url orgId filename) = (Url.readAuthority (Url.lower scheme) place).map
      fun a =>
        { scheme := String.ofList (Url.lower scheme), authority := some a
          path := String.ofList (Url.joinSegments (Url.segmentsOf true
            (Url.joinSegments (storage.segments orgId filename)))) } := by
  have isPath := Url.isPath_joinSegments fun segment mem c inside =>
    have escaped := segments_escaped bucket orgId filename segment mem c inside
    ⟨escaped.1, escaped.2.1⟩
  have noQuery : ∀ q ∈ (none : Option (List Char)), Url.IsQuery q :=
    fun q mem => absurd mem (Option.not_mem_none q)
  have text : storage.url orgId filename = String.ofList (scheme ++ ':' :: '/' :: '/' ::
      (place ++ (Url.joinSegments (storage.segments orgId filename) ++ Url.tailOf none))) := by
    rw [url_eq, endpoint, objectPath_segments, ← String.ofList_append, Url.tailOf, List.append_nil]
    simp only [List.append_assoc, List.cons_append]
  rw [text]
  exact Url.parse_parts web isPlace isPath noQuery

/-- The address of a file names it exactly if no segment of its name is one of dots. -/
theorem addresses_of_parse (plain : storage.HasPlainNames orgId) {filename : String} {u : Url}
    (reads : Url.parse (storage.url orgId filename) = .ok u) :
    storage.Addresses orgId filename u ∧ Url.IsWeb u.scheme.toList := by
  obtain ⟨scheme, place, web, isPlace, endpoint⟩ := plain.endpoint
  have read := reads
  rw [parse_url web isPlace endpoint plain.bucket] at read
  cases authority : Url.readAuthority (Url.lower scheme) place with
  | error e =>
    rw [authority] at read
    cases read
  | ok a =>
    rw [authority] at read
    have exact_iff := path_eq_objectPath_iff plain filename
    obtain rfl := Except.ok.inj read
    have within : StaysBelow filename → ∃ rest, _ = storage.keySpace orgId ++ rest :=
      fun below => ⟨_, (exact_iff.2 below).trans (objectPath_eq plain filename)⟩
    refine ⟨⟨reads, exact_iff, within⟩, ?_⟩
    rw [String.toList_ofList]
    exact web

/-! ## Requests and links -/

theorem signed_eq_ok_iff {α : Type} {x : Except SigningError α} {a : α} :
    signed x = .ok a ↔ x = .ok a := by
  cases x with
  | error e => exact ⟨nofun, nofun⟩
  | ok b => exact ⟨fun same => congrArg _ (Except.ok.inj same), fun same => congrArg _
      (Except.ok.inj same)⟩

theorem deletion_eq_ok {now : Moment} {filename : String} {request : StorageRequest}
    (sends : storage.deletion now orgId filename = .ok request) :
    ∃ u, Url.parse (storage.url orgId filename) = .ok u ∧ request.target = u.print := by
  rw [deletion] at sends
  obtain ⟨time, _, sends⟩ := bind_eq_ok_iff.1 sends
  obtain ⟨signature, _, sends⟩ := bind_eq_ok_iff.1 sends
  obtain ⟨⟨u, host⟩, target, sends⟩ := bind_eq_ok_iff.1 sends
  rw [← Except.ok.inj sends]
  exact ⟨u, (parseTarget_eq_ok_iff.1 (signed_eq_ok_iff.1 target)).1, rfl⟩

theorem signingTime_eq_ok_iff {now : Moment} {time : Timestamp} :
    signingTime now = .ok time ↔ now.isInUtcCalendar = true ∧ time = .ofMoment now := by
  rw [signingTime]
  split
  · next dated => exact ⟨fun same => ⟨dated, (Except.ok.inj same).symm⟩, fun both => both.2 ▸ rfl⟩
  · next undated => exact ⟨nofun, fun both => absurd both.1 undated⟩

theorem link_eq_ok {now : Moment} {filename text : String} {seconds : Counter}
    (mints : storage.link now orgId filename seconds = .ok text) :
    now.isInUtcCalendar = true ∧
      ∃ link, storage.signer.signLink "GET" (storage.url orgId filename) (linkExpiry seconds)
        (.ofMoment now) = .ok link ∧ text = publicUrl storage.settings link.url := by
  rw [link] at mints
  obtain ⟨time, timed, mints⟩ := bind_eq_ok_iff.1 mints
  obtain ⟨dated, rfl⟩ := signingTime_eq_ok_iff.1 timed
  obtain ⟨link, signs, mints⟩ := bind_eq_ok_iff.1 mints
  exact ⟨dated, link, signed_eq_ok_iff.1 signs, (Except.ok.inj mints).symm⟩

theorem isOrigin_append {address : String} (origin : Url.IsOrigin address) {more : List Char}
    (chars : ∀ c ∈ more, Url.isPlaceChar c = true) :
    Url.IsOrigin (address ++ String.ofList more) := by
  obtain ⟨scheme, place, web, isPlace, rfl⟩ := origin
  refine ⟨scheme, place ++ more, web, ⟨?_, ?_⟩, ?_⟩
  · exact List.append_ne_nil_of_left_ne_nil isPlace.some_ _
  · exact List.forall_mem_append.2 ⟨isPlace.chars, chars⟩
  · rw [← String.ofList_append]
    simp only [List.append_assoc, List.cons_append]

/-- An address that a written URL starts with ends within its host. -/
theorem exists_rest_of_lead {scheme place path access rest : List Char} (web : Url.IsWeb scheme)
    (origin : Url.IsOrigin (String.ofList access))
    (starts : scheme ++ ':' :: '/' :: '/' :: (place ++ '/' :: path) = access ++ rest) :
    ∃ more, (∀ c ∈ more, c ∈ place) ∧ rest = more ++ '/' :: path := by
  obtain ⟨scheme', place', web', isPlace', same⟩ := origin
  obtain rfl := String.ofList_inj.1 same
  -- Both schemes end at the first colon.
  have lowerWeb : Url.IsWeb (Url.lower scheme) := web.lower_eq.symm ▸ web
  have cut := Url.cutAt_web lowerWeb ('/' :: '/' :: (place ++ '/' :: path))
  have cut' := Url.cutAt_web web' ('/' :: '/' :: (place' ++ rest))
  simp only [List.append_assoc, List.cons_append] at starts
  rw [starts, cut'] at cut
  obtain ⟨rfl, after⟩ := Prod.mk.inj (Option.some.inj cut.symm)
  injection after with _ after
  injection after with _ after
  rcases List.append_eq_append_iff.1 after with ⟨more, within, tail⟩ | ⟨more, within, tail⟩
  · cases more with
    | nil => exact ⟨[], nofun, tail.symm⟩
    | cons c more =>
      obtain rfl : '/' = c := (List.cons.inj tail).1
      have slash : '/' ∈ place' := within ▸ List.mem_append_right _ List.mem_cons_self
      exact absurd (isPlace'.inside '/' slash) (by decide)
  · exact ⟨more, fun c mem => within ▸ List.mem_append_right _ mem, tail⟩

/-- The public address stands where the endpoint, or the part of it that the host starts with,
stood: the path and what follows it stay. -/
theorem publicUrl_eq {settings : StorageSettings} {scheme place path : List Char}
    (endpoint : Url.IsOrigin (withoutEnd settings.endpoint)) (web : Url.IsWeb scheme)
    (isPlace : Url.IsPlace place) :
    ∃ front, publicUrl settings
        (String.ofList (scheme ++ ':' :: '/' :: '/' :: (place ++ '/' :: path)))
        = front ++ String.ofList ('/' :: path) ∧
      ((∀ access ∈ settings.accessEndpoint, Url.IsOrigin (withoutEnd access)) →
        Url.IsOrigin front) := by
  have asWritten : String.ofList (scheme ++ ':' :: '/' :: '/' :: (place ++ '/' :: path))
      = String.ofList (scheme ++ ':' :: '/' :: '/' :: place) ++ String.ofList ('/' :: path) := by
    rw [← String.ofList_append]
    simp only [List.append_assoc, List.cons_append]
  have isOrigin : Url.IsOrigin (String.ofList (scheme ++ ':' :: '/' :: '/' :: place)) :=
    ⟨scheme, place, web.lower_eq.symm ▸ web, isPlace, rfl⟩
  rw [publicUrl]
  split
  · exact ⟨_, asWritten, fun _ => isOrigin⟩
  · next access shown =>
    split
    · next rest starts =>
      rw [dropLead?_eq_some_iff, String.toList_ofList] at starts
      rw [← String.ofList_toList (s := withoutEnd settings.endpoint)] at endpoint
      obtain ⟨more, inside, rfl⟩ := exists_rest_of_lead web endpoint starts
      refine ⟨withoutEnd access ++ String.ofList more, ?_, fun origins => ?_⟩
      · rw [String.ofList_append, String.append_assoc]
      · exact isOrigin_append (origins access shown) fun c mem => isPlace.chars c (inside c mem)
    · exact ⟨_, asWritten, fun _ => isOrigin⟩

/-- A link that was signed, as clients see it: the path of the URL that it was signed for stays, and
the link is read whenever its own scheme and host are. -/
theorem publicUrl_signLink {settings : StorageSettings}
    (endpoint : Url.IsOrigin (withoutEnd settings.endpoint)) {signer : Signer}
    {method raw : String} {expires : Counter} {time : Timestamp} {link : SignedLink} {u : Url}
    (signs : signer.signLink method raw expires time = .ok link) (reads : Url.parse raw = .ok u)
    (web : Url.IsWeb u.scheme.toList) :
    ∃ front query, publicUrl settings link.url = front ++ u.path ++ "?" ++ query ∧
      ((∀ access ∈ settings.accessEndpoint, Url.IsOrigin (withoutEnd access)) →
        Url.IsOrigin front) ∧
      (Url.IsOrigin front → Url.parse (front ++ u.path ++ "?" ++ query)
        = (Url.parse front).map fun v => { v with path := u.path, query := some query }) := by
  obtain ⟨u', host, target, _⟩ := signLink_eq_ok signs
  obtain rfl : u' = u := Except.ok.inj ((parseTarget_eq_ok_iff.1 target).1.symm.trans reads)
  obtain ⟨a, segments, authority, place, some_, stand, path⟩ := Url.exists_parts_of_parse reads web
  let pairs := linkQuery signer u' expires time link.signature
  let query := joinWith "&" (pairs.map FormEncoded.written)
  have slash := Url.joinSegments_eq some_
  have tail : String.ofList ('/' :: (['/'].intercalate segments ++ '?' :: query.toList))
      = u'.path ++ "?" ++ query := by
    apply String.toList_inj.1
    simp [path, slash]
  have written : link.url = String.ofList (u'.scheme.toList ++ ':' :: '/' :: '/' ::
      (Url.placeOf a ++ '/' :: (['/'].intercalate segments ++ '?' :: query.toList))) := by
    rw [signLink_url target signs, Url.base_eq authority path, slash]
    apply String.toList_inj.1
    simp [query, pairs]
  obtain ⟨front, replaced, isOrigin⟩ := publicUrl_eq endpoint web place
  refine ⟨front, query, ?_, isOrigin, fun origin => ?_⟩
  · rw [written, replaced, tail, String.append_assoc, String.append_assoc, String.append_assoc]
  · rw [path]
    exact Url.parse_below origin some_ stand (isQuery_join pairs)

/-- Where the files of an organization are deleted and where links to them lead: the path is bucket,
prefix, organization and file name, and so below the key space of the organization, exactly if no
segment of the file name is `.` or `..`. -/
theorem object_paths (plain : storage.HasPlainNames orgId) (filename : String) :
    (∀ now request, storage.deletion now orgId filename = .ok request →
      ∃ u, storage.Addresses orgId filename u ∧ request.target = u.print) ∧
    ∀ now seconds text, storage.link now orgId filename seconds = .ok text →
      ∃ u front query, storage.Addresses orgId filename u ∧
        text = front ++ u.path ++ "?" ++ query ∧
        ((∀ access ∈ storage.settings.accessEndpoint, Url.IsOrigin (withoutEnd access)) →
          Url.IsOrigin front) ∧
        (Url.IsOrigin front → Url.parse text
          = (Url.parse front).map fun v => { v with path := u.path, query := some query }) := by
  constructor
  · intro now request sends
    obtain ⟨u, reads, target⟩ := deletion_eq_ok sends
    exact ⟨u, (addresses_of_parse plain reads).1, target⟩
  · intro now seconds text mints
    obtain ⟨_, link, signs, rfl⟩ := link_eq_ok mints
    obtain ⟨u, host, target, _⟩ := signLink_eq_ok signs
    obtain ⟨addresses, web⟩ := addresses_of_parse plain (parseTarget_eq_ok_iff.1 target).1
    obtain ⟨front, query, shown, isOrigin, reads⟩ :=
      publicUrl_signLink plain.endpoint signs addresses.reads web
    rw [shown]
    exact ⟨u, front, query, addresses, rfl, isOrigin, reads⟩

/-! ## Requests and links that are made -/

section Made

variable {now : Moment} {filename host : String} {u : Url}

/-- A file whose address names a host can be deleted at any time in the calendar. -/
theorem exists_deletion (inCalendar : now.isInUtcCalendar = true)
    (target : parseTarget (storage.url orgId filename) = .ok (u, host)) :
    ∃ request, storage.deletion now orgId filename = .ok request ∧ request.target = u.print := by
  have method : Signer.method "DELETE" = .ok "DELETE" := by decide
  obtain ⟨signature, signs⟩ : ∃ signature, storage.signer.sign "DELETE"
      (storage.url orgId filename) ∅ [] (.ofMoment now) = .ok signature := by
    rw [Signer.sign, method, target]
    exact ⟨_, rfl⟩
  rw [deletion]
  exact ⟨_, bind_eq_ok_iff.2 ⟨.ofMoment now, if_pos inCalendar,
    bind_eq_ok_iff.2 ⟨signature, signed_eq_ok_iff.2 signs,
      bind_eq_ok_iff.2 ⟨(u, host), signed_eq_ok_iff.2 target, rfl⟩⟩⟩, rfl⟩

theorem toNat_linkExpiry (seconds : Counter) :
    (linkExpiry seconds).toNat = max 1 (min seconds.toNat maxLinkSeconds) := by
  rw [linkExpiry, UInt64.toNat_ofNat', Nat.mod_eq_of_lt]
  rw [maxLinkSeconds]
  omega

theorem linkExpiry_spec (seconds : Counter) :
    linkExpiry seconds ≠ 0 ∧ (linkExpiry seconds).toNat ≤ maxLinkSeconds := by
  have value := toNat_linkExpiry seconds
  refine ⟨fun zero => ?_, ?_⟩
  · rw [zero] at value
    have : (0 : Counter).toNat = 0 := rfl
    omega
  · rw [value, maxLinkSeconds]
    omega

/-- So can a link to it be signed, for any time asked for. -/
theorem exists_link (inCalendar : now.isInUtcCalendar = true)
    (target : parseTarget (storage.url orgId filename) = .ok (u, host)) (seconds : Counter) :
    ∃ text, storage.link now orgId filename seconds = .ok text := by
  obtain ⟨lasts, ends⟩ := linkExpiry_spec seconds
  obtain ⟨link, signs⟩ : ∃ link, storage.signer.signLink "GET" (storage.url orgId filename)
      (linkExpiry seconds) (.ofMoment now) = .ok link :=
    exists_signLink (by decide) lasts ends target
  rw [ObjectStorage.link]
  exact ⟨_, bind_eq_ok_iff.2 ⟨.ofMoment now, if_pos inCalendar,
    bind_eq_ok_iff.2 ⟨link, signed_eq_ok_iff.2 signs, rfl⟩⟩⟩

end Made

/-! ## A storage on one host -/

/-- A storage with a prefix and a public address. -/
def minio : ObjectStorage where
  settings :=
    { endpoint := "http://minio:9000/", bucket := "crawls", keyPrefix := "/data/"
      accessEndpoint := some "https://files.example.org" }
  signer := { accessKey := "AKID", secretKey := "SECRET", region := "us-east-1", service := "s3" }

theorem minio_hasPlainNames : minio.HasPlainNames "org-1" where
  endpoint := ⟨"http".toList, "minio:9000".toList, .inl (by decide),
    ⟨by decide, List.all_eq_true.1 (by decide)⟩, by decide⟩
  bucket := List.all_eq_true.1 (by decide)
  keyPrefix := List.all_iff_forall_prop.1 (by decide)
  org := List.all_eq_true.1 (by decide)

theorem minio_access :
    ∀ access ∈ minio.settings.accessEndpoint, Url.IsOrigin (withoutEnd access) := by
  intro access shown
  obtain rfl : "https://files.example.org" = access := Option.some.inj shown
  exact ⟨"https".toList, "files.example.org".toList, .inr (by decide),
    ⟨by decide, List.all_eq_true.1 (by decide)⟩, by decide⟩

/-- The path of a file with a blank in its name. -/
theorem object_paths_blank :
    let now := Moment.ofSeconds 1714564800
    let path := "/crawls/data/org-1/crawl%201.wacz"
    minio.HasPlainNames "org-1" ∧
      (∃ (request : StorageRequest) (u : Url),
        minio.deletion now "org-1" "crawl 1.wacz" = .ok request ∧ request.target = u.print ∧
        u.path = path) ∧
      ∃ text front query, minio.link now "org-1" "crawl 1.wacz" 600 = .ok text ∧
        Url.IsOrigin front ∧ text = front ++ path ++ "?" ++ query ∧
        Url.parse text = (Url.parse front).map fun v => { v with path, query := some query } := by
  intro now path
  let read : Url :=
    { scheme := "http", authority := some { host := .name "minio", port := some 9000 }, path }
  have reads : Url.parse (minio.url "org-1" "crawl 1.wacz") = .ok read := by decide +kernel
  have target : parseTarget (minio.url "org-1" "crawl 1.wacz") = .ok (read, "minio:9000") :=
    parseTarget_eq_ok_iff.2 ⟨reads, .name "minio", rfl, by decide +kernel⟩
  have pathOf : ∀ {u}, minio.Addresses "org-1" "crawl 1.wacz" u → u.path = path := by
    intro u addresses
    rw [Except.ok.inj (addresses.reads.symm.trans reads)]
  have inCalendar : now.isInUtcCalendar = true := by decide
  obtain ⟨request, sends, _⟩ := exists_deletion inCalendar target
  obtain ⟨text, mints⟩ := exists_link inCalendar target 600
  obtain ⟨deletes, links⟩ := object_paths minio_hasPlainNames "crawl 1.wacz"
  obtain ⟨u, addresses, printed⟩ := deletes now request sends
  obtain ⟨v, front, query, addresses', written, isOrigin, again⟩ := links now 600 text mints
  have origin := isOrigin minio_access
  have whole := again origin
  rw [pathOf addresses'] at written whole
  exact ⟨minio_hasPlainNames, ⟨request, u, sends, printed, pathOf addresses⟩, text, front, query,
    mints, origin, written, whole⟩

/-- With `..` in the name of a file, the file of another organization is deleted and linked to. -/
theorem paths_aboveOrg :
    let now := Moment.ofSeconds 1714564800
    let path := "/crawls/data/org-2/a.wacz"
    minio.HasPlainNames "org-1" ∧
      path ≠ minio.objectPath "org-1" "../org-2/a.wacz" ∧
      (∃ request, minio.deletion now "org-1" "../org-2/a.wacz" = .ok request ∧
        request.target = "http://minio:9000" ++ path ∧
        request.target = minio.url "org-2" "a.wacz") ∧
      ∃ text front query, minio.link now "org-1" "../org-2/a.wacz" 600 = .ok text ∧
        Url.IsOrigin front ∧ text = front ++ path ++ "?" ++ query := by
  intro now path
  let read : Url :=
    { scheme := "http", authority := some { host := .name "minio", port := some 9000 }, path }
  have reads : Url.parse (minio.url "org-1" "../org-2/a.wacz") = .ok read := by decide +kernel
  have target : parseTarget (minio.url "org-1" "../org-2/a.wacz") = .ok (read, "minio:9000") :=
    parseTarget_eq_ok_iff.2 ⟨reads, .name "minio", rfl, by decide +kernel⟩
  have inCalendar : now.isInUtcCalendar = true := by decide
  obtain ⟨request, sends, printed⟩ := exists_deletion inCalendar target
  obtain ⟨text, mints⟩ := exists_link inCalendar target 600
  obtain ⟨_, link, signs, rfl⟩ := link_eq_ok mints
  obtain ⟨front, query, shown, isOrigin, _⟩ :=
    publicUrl_signLink minio_hasPlainNames.endpoint signs reads (.inl (by decide))
  have elsewhere : request.target = minio.url "org-2" "a.wacz" :=
    printed.trans (by decide +kernel)
  have whole : request.target = "http://minio:9000" ++ path := printed.trans (by decide +kernel)
  exact ⟨minio_hasPlainNames, by decide +kernel, ⟨request, sends, whole, elsewhere⟩, _, front,
    query, mints, isOrigin minio_access, shown⟩

end ObjectStorage

end ArchiveAccounts
