import ArchiveAccounts.Proofs.Signing.HeaderValues
import ArchiveAccounts.Proofs.Storage.KeySpace
import ArchiveAccounts.Proofs.Url.Hosts

/-!
# Headers that are signed

A signed request is sent with four headers besides the signature. The time and the token are always
signed as they are sent; the host and the digest of the payload are signed as the caller gives them.
Main statement: `sign_signs_iff`, which says of each header when it is signed as it is sent.
-/

namespace ArchiveAccounts.Signing
set_option autoImplicit false

open Text Calendar

/-! ## Values in the canonical form -/

theorem isBlank_of_isVisible {c : Char} (visible : Url.isVisible c = true) : isBlank c = false := by
  have small : c.toNat < 0x80 := by
    have most := of_decide_eq_true (Bool.and_eq_true_iff.1 visible).2
    omega
  exact forall_ascii (P := fun c => Url.isVisible c = true → isBlank c = false)
    (by decide +kernel) small visible

theorem isVisible_of_isDigit {c : Char} (digit : c.isDigit = true) : Url.isVisible c = true :=
  Url.isVisible_of_mem_addressChars c (Url.mem_addressChars_of_isDigit digit)

theorem headerValue_of_visible {value : String}
    (visible : ∀ c ∈ value.toList, Url.isVisible c = true) : headerValue value = value :=
  headerValue_eq_self fun c mem => isBlank_of_isVisible (visible c mem)

theorem headerValue_host {url host : String} {u : Url}
    (target : parseTarget url = .ok (u, host)) : headerValue host = host := by
  obtain ⟨reads, named, isNamed, rfl⟩ := parseTarget_eq_ok_iff.1 target
  obtain ⟨a, placed, found⟩ := Option.bind_eq_some_iff.1 isNamed
  have hosted : a.host = named := by
    split at found
    · exact nomatch found
    · exact Option.some.inj found
  refine headerValue_of_visible fun c mem => ?_
  rw [String.toList_append] at mem
  rcases List.mem_append.1 mem with mem | mem
  · rw [← hosted] at mem
    exact Url.isVisible_of_parse_authority reads placed c mem
  · cases port : u.port? with
    | none =>
      rw [port] at mem
      exact nomatch mem
    | some n =>
      rw [port, Option.map_some, Url.marked, String.toList_append] at mem
      rcases List.mem_append.1 mem with colon | digit
      · rw [List.mem_singleton.1 colon]
        decide
      · rw [String.toList_ofList] at digit
        exact isVisible_of_isDigit (Decimal.isDigit_of_mem_digits digit)

theorem headerValue_stamp (m : Moment) :
    headerValue (Timestamp.ofMoment m).stamp = (Timestamp.ofMoment m).stamp := by
  have padded : ∀ width n, ∀ c ∈ Decimal.padded width n, Url.isVisible c = true :=
    fun _ _ _ mem => isVisible_of_isDigit (Decimal.isDigit_of_mem_padded mem)
  have year : ∀ y, ∀ c ∈ Timestamp.year y, Url.isVisible c = true := by
    intro y
    refine List.forall_mem_append.2 ⟨?_, padded _ _⟩
    split
    · exact List.forall_mem_singleton.2 (by decide)
    · exact nofun
  refine headerValue_of_visible ?_
  simp only [Timestamp.ofMoment, String.toList_ofList, List.forall_mem_append, List.forall_mem_cons]
  exact ⟨⟨⟨⟨year _, padded _ _⟩, padded _ _⟩, by decide,
    ⟨padded _ _, padded _ _⟩, padded _ _⟩, by decide, nofun⟩

theorem headerValue_sha256Text (bytes : List UInt8) :
    headerValue (sha256Text bytes) = sha256Text bytes := by
  have each : ∀ b : UInt8, (Hex.lowerByte b).all Url.isVisible = true :=
    Percent.forall_byte (by decide +kernel)
  refine headerValue_of_visible fun c mem => ?_
  rw [sha256Text, Hex.lowerBytes, String.toList_ofList] at mem
  obtain ⟨b, _, digit⟩ := List.mem_flatMap.1 mem
  exact List.all_eq_true.1 (each b) c digit

/-! ## The headers of a request -/

/-- The headers of the caller, joined by name. -/
def givenHeaders (headers : SortedMap String String) : SortedMap String String :=
  headers.toList.foldl (fun m (name, value) => addHeader m name value) ∅

theorem get?_addHeader_of_ne (headers : SortedMap String String) {name other : String}
    (value : String) (distinct : headerName name ≠ other) :
    (addHeader headers name value).get? other = headers.get? other := by
  rw [addHeader]
  split
  · rfl
  · split
    all_goals rw [SortedMap.get?_insert, if_neg (Ne.symm distinct)]

/-- A caller that names a header in no way gives none. -/
theorem get?_givenHeaders_eq_none {headers : SortedMap String String} {name : String}
    (unnamed : ∀ h ∈ headers.toList, headerName h.1 ≠ name) :
    (givenHeaders headers).get? name = none := by
  have fold : ∀ (l : List (String × String)) (m : SortedMap String String),
      (∀ h ∈ l, headerName h.1 ≠ name) →
      (l.foldl (fun m (name, value) => addHeader m name value) m).get? name = m.get? name := by
    intro l
    induction l with
    | nil => exact fun m _ => rfl
    | cons h l ih =>
      intro m unnamed
      obtain ⟨first, others⟩ := List.forall_mem_cons.1 unnamed
      rw [List.foldl_cons, ih _ others]
      exact get?_addHeader_of_ne m h.2 first
  exact fold headers.toList ∅ unnamed

theorem get?_defaultHeader (headers : SortedMap String String) (name value other : String) :
    (defaultHeader headers name value).get? other
      = if other = name then some ((headers.get? name).getD value) else headers.get? other := by
  rw [defaultHeader]
  cases given : headers.get? name with
  | none =>
    rw [Option.isSome_none, if_neg Bool.false_ne_true, SortedMap.get?_insert]
    rfl
  | some earlier =>
    rw [Option.isSome_some, if_pos rfl]
    split
    · next same => rw [same, given, Option.getD_some]
    · rfl

/-- A header that is signed: the token and the time as they are, the host and the digest unless the
caller gives another one, and everything else as the caller gives it. -/
theorem get?_signedHeaders (headers : SortedMap String String) (host stamp payloadHash : String)
    (token : Option String) (name : String) :
    (signedHeaders headers host stamp payloadHash token).get? name
      = if name = "x-amz-security-token" ∧ token.isSome then token.map headerValue
        else if name = "x-amz-content-sha256" then
          some (((givenHeaders headers).get? name).getD payloadHash)
        else if name = "x-amz-date" then some stamp
        else if name = "host" then some (((givenHeaders headers).get? name).getD host)
        else (givenHeaders headers).get? name := by
  let hosted := defaultHeader (givenHeaders headers) "host" host
  let hashed := defaultHeader (hosted.insert "x-amz-date" stamp) "x-amz-content-sha256" payloadHash
  have others : hashed.get? name = if name = "x-amz-content-sha256" then
      some (((givenHeaders headers).get? name).getD payloadHash)
      else if name = "x-amz-date" then some stamp
      else if name = "host" then some (((givenHeaders headers).get? name).getD host)
      else (givenHeaders headers).get? name := by
    have digest : (hosted.insert "x-amz-date" stamp).get? "x-amz-content-sha256"
        = (givenHeaders headers).get? "x-amz-content-sha256" := by
      rw [SortedMap.get?_insert, if_neg (by decide), get?_defaultHeader, if_neg (by decide)]
    rw [get?_defaultHeader, digest, SortedMap.get?_insert, get?_defaultHeader]
    split
    · next same => rw [same]
    · split
      · rfl
      · split
        · next same => rw [same]
        · rfl
  cases token with
  | none => exact others.trans (if_neg fun both => Bool.false_ne_true both.2).symm
  | some token =>
    refine (SortedMap.get?_insert hashed "x-amz-security-token" name (headerValue token)).trans ?_
    by_cases isToken : name = "x-amz-security-token"
    · rw [if_pos isToken, if_pos ⟨isToken, rfl⟩]
      rfl
    · have notToken : ¬(name = "x-amz-security-token" ∧ (some token).isSome) := fun both =>
        isToken both.1
      rw [if_neg isToken, if_neg notToken, others]

/-! ## What is sent and what is signed -/

/-- The headers besides the signature that a signed request is sent with. -/
def SignedRequest.sent (r : SignedRequest) : List (String × String) :=
  [("host", r.host), ("x-amz-content-sha256", r.payloadHash), ("x-amz-date", r.stamp)]
    ++ (r.securityToken.map fun token => ("x-amz-security-token", token)).toList

theorem SignedRequest.forall_sent {r : SignedRequest} {P : String → String → Prop} :
    (∀ h ∈ r.sent, P h.1 h.2) ↔ P "host" r.host ∧ P "x-amz-content-sha256" r.payloadHash ∧
      P "x-amz-date" r.stamp ∧ ∀ token ∈ r.securityToken, P "x-amz-security-token" token := by
  rw [sent, List.forall_mem_append, List.forall_mem_cons, List.forall_mem_cons,
    List.forall_mem_singleton, and_assoc, and_assoc]
  refine and_congr_right fun _ => and_congr_right fun _ => and_congr_right fun _ => ?_
  cases r.securityToken with
  | none => exact ⟨fun _ => nofun, fun _ => nofun⟩
  | some token => simp

/-- A request signs headers: its canonical request is made of a line for each of them, of their
names, which are also those that it says are signed, and of the digest of the payload. -/
structure SignedRequest.Covers (r : SignedRequest) (headers : SortedMap String String) : Prop where
  names : r.headerNames = Signing.headerNames headers
  request : ∃ method path query, r.canonicalRequest
    = joinWith "\n" [method, path, query, headerLines headers, Signing.headerNames headers,
      r.payloadHash]

/-- Whether the text of a request signs a header: the name is among those that are signed, and there
is a line with the name and the value. -/
def SignedRequest.Signs (r : SignedRequest) (name value : String) : Prop :=
  name.toList ∈ splitAt ';' r.headerNames.toList ∧
    (name ++ ":" ++ value).toList ∈ splitAt '\n' r.canonicalRequest.toList

/-- The pieces of texts that are joined are the pieces of each of them. -/
theorem splitAt_intercalate_eq_flatMap {c : Char} {parts : List (List Char)} (some_ : parts ≠ []) :
    splitAt c ([c].intercalate parts) = parts.flatMap (splitAt c) := by
  induction parts with
  | nil => exact absurd rfl some_
  | cons first rest ih =>
    cases rest with
    | nil => rw [List.intercalate_singleton, List.flatMap_singleton]
    | cons next rest =>
      rw [List.intercalate_cons_cons, List.append_assoc, List.singleton_append, splitAt_append,
        ih (List.cons_ne_nil _ _)]
      rfl

theorem mem_splitAt_intercalate {c : Char} {parts : List (List Char)} {part piece : List Char}
    (mem : part ∈ parts) (within : piece ∈ splitAt c part) :
    piece ∈ splitAt c ([c].intercalate parts) := by
  rw [splitAt_intercalate_eq_flatMap (List.ne_nil_of_mem mem)]
  exact List.mem_flatMap.2 ⟨part, mem, within⟩

theorem toList_headerLines (headers : SortedMap String String) :
    (headerLines headers).toList
      = headers.toList.flatMap fun h => (h.1 ++ ":" ++ h.2).toList ++ ['\n'] := by
  have fold : ∀ (l : List (String × String)) (lines : String),
      (l.foldl (fun lines (h : String × String) => lines ++ h.1 ++ ":" ++ h.2 ++ "\n") lines).toList
        = lines.toList ++ l.flatMap fun h => (h.1 ++ ":" ++ h.2).toList ++ ['\n'] := by
    intro l
    induction l with
    | nil => exact fun lines => (List.append_nil _).symm
    | cons h l ih =>
      intro lines
      rw [List.foldl_cons, ih, List.flatMap_cons]
      simp only [String.toList_append, List.append_assoc]
      rfl
  exact fold headers.toList ""

/-- The pieces of lines that end are the pieces of each line, and nothing behind the last one. -/
theorem splitAt_lines {α : Type} (line : α → List Char) (items : List α) :
    splitAt '\n' (items.flatMap fun a => line a ++ ['\n'])
      = items.flatMap (fun a => splitAt '\n' (line a)) ++ [[]] := by
  induction items with
  | nil => rfl
  | cons first items ih =>
    rw [List.flatMap_cons, List.append_assoc, List.singleton_append, splitAt_append, ih,
      List.flatMap_cons, List.append_assoc]

namespace SignedRequest.Covers

variable {r : SignedRequest} {headers : SortedMap String String}

theorem signs (covers : r.Covers headers) {name value : String}
    (listed : headers.get? name = some value) (noSemicolon : ';' ∉ name.toList)
    (noBreak : '\n' ∉ (name ++ ":" ++ value).toList) : r.Signs name value := by
  constructor
  · rw [covers.names, Signing.headerNames, joinWith, String.toList_intercalate]
    refine mem_splitAt_intercalate
      (List.mem_map_of_mem (SortedMap.mem_keys_iff.2 ⟨value, listed⟩)) ?_
    rw [splitAt_of_not_mem noSemicolon]
    exact List.mem_singleton_self _
  · obtain ⟨method, path, query, text⟩ := covers.request
    have isPart : (headerLines headers).toList ∈ [method, path, query, headerLines headers,
        Signing.headerNames headers, r.payloadHash].map String.toList :=
      List.mem_map_of_mem (by simp)
    rw [text, joinWith, String.toList_intercalate]
    refine mem_splitAt_intercalate isPart ?_
    have isLine : (name ++ ":" ++ value).toList ∈ splitAt '\n' (name ++ ":" ++ value).toList := by
      rw [splitAt_of_not_mem noBreak]
      exact List.mem_singleton_self _
    rw [toList_headerLines, splitAt_lines]
    refine List.mem_append_left _ (List.mem_flatMap.2 ⟨(name, value), ?_, isLine⟩)
    exact SortedMap.mem_toList_iff.2 listed

/-- The last line of the canonical request is the digest of the payload. -/
theorem lastLine (covers : r.Covers headers) (noBreak : '\n' ∉ r.payloadHash.toList) :
    (splitAt '\n' r.canonicalRequest.toList).getLast? = some r.payloadHash.toList := by
  obtain ⟨method, path, query, text⟩ := covers.request
  have apart : [method, path, query, headerLines headers, Signing.headerNames headers,
      r.payloadHash].map String.toList = [method, path, query, headerLines headers,
        Signing.headerNames headers].map String.toList ++ [r.payloadHash.toList] := rfl
  rw [text, joinWith, String.toList_intercalate, apart]
  refine (congrArg List.getLast? (splitAt_intercalate_eq_flatMap
    (List.append_ne_nil_of_right_ne_nil _ (List.cons_ne_nil _ _)))).trans ?_
  rw [List.flatMap_append, List.flatMap_singleton, splitAt_of_not_mem noBreak,
    List.getLast?_concat]

end SignedRequest.Covers

section Sign

variable {signer : Signer} {rawMethod url : String} {headers : SortedMap String String}
  {payload : List UInt8} {time : Timestamp} {r : SignedRequest}

/-- What a request that was signed is made of. -/
theorem sign_eq_ok (signs : signer.sign rawMethod url headers payload time = .ok r) :
    (∃ u, parseTarget url = .ok (u, r.host)) ∧ r.stamp = time.stamp ∧
      r.payloadHash = sha256Text payload ∧ r.securityToken = signer.sessionToken ∧
      r.Covers (signedHeaders headers r.host r.stamp r.payloadHash r.securityToken) := by
  rw [Signer.sign] at signs
  obtain ⟨method, _, signs⟩ := bind_eq_ok_iff.1 signs
  obtain ⟨⟨u, host⟩, target, signs⟩ := bind_eq_ok_iff.1 signs
  obtain rfl := Except.ok.inj signs
  exact ⟨⟨u, target⟩, rfl, rfl, rfl, rfl, method, _, _, rfl⟩

/-- What decides whether a header is signed as it is sent: the host and the digest of the payload
are, if the caller gives none or the same. -/
def AgreesWith (headers : SortedMap String String) (name value : String) : Prop :=
  name = "host" ∨ name = "x-amz-content-sha256" →
    ∀ given ∈ (givenHeaders headers).get? name, given = value

theorem agreesWith_of_unnamed {name : String} (value : String)
    (unnamed : ∀ h ∈ headers.toList, headerName h.1 ≠ name) : AgreesWith headers name value := by
  intro _ given isGiven
  rw [get?_givenHeaders_eq_none unnamed] at isGiven
  exact nomatch isGiven

variable {m : Moment} (signs : signer.sign rawMethod url headers payload (.ofMoment m) = .ok r)

include signs

theorem headerValue_payloadHash : headerValue r.payloadHash = r.payloadHash := by
  obtain ⟨_, _, digest, _⟩ := sign_eq_ok signs
  rw [digest]
  exact headerValue_sha256Text payload

theorem get?_signedHeaders_iff : ∀ h ∈ r.sent,
    (signedHeaders headers r.host r.stamp r.payloadHash r.securityToken).get? h.1
        = some (headerValue h.2) ↔ AgreesWith headers h.1 (headerValue h.2) := by
  have hash := headerValue_payloadHash signs
  obtain ⟨⟨u, target⟩, stamp, _⟩ := sign_eq_ok signs
  have time : headerValue r.stamp = r.stamp := by
    rw [stamp]
    exact headerValue_stamp m
  have kept : ∀ (given : Option String) (value : String),
      some (given.getD value) = some value ↔ ∀ v ∈ given, v = value := by
    intro given value
    cases given <;> simp
  refine (SignedRequest.forall_sent (P := fun name value =>
    (signedHeaders headers r.host r.stamp r.payloadHash r.securityToken).get? name
        = some (headerValue value) ↔ AgreesWith headers name (headerValue value))).2
    ⟨?_, ?_, ?_, fun token isToken => ?_⟩
  · rw [get?_signedHeaders, headerValue_host target, AgreesWith]
    simp [kept]
  · rw [get?_signedHeaders, hash, AgreesWith]
    simp [kept]
  · rw [get?_signedHeaders, time, AgreesWith]
    simp
  · rw [get?_signedHeaders, Option.mem_def.1 isToken, AgreesWith]
    simp

/-- A header on which the caller agrees stands in the text that is signed as it is sent. -/
theorem signs_of_agreesWith {h : String × String} (isSent : h ∈ r.sent)
    (agrees : AgreesWith headers h.1 (headerValue h.2)) : r.Signs h.1 (headerValue h.2) := by
  obtain ⟨_, _, _, _, covers⟩ := sign_eq_ok signs
  have plain : ';' ∉ h.1.toList ∧ '\n' ∉ h.1.toList :=
    SignedRequest.forall_sent (P := fun name _ => ';' ∉ name.toList ∧ '\n' ∉ name.toList).2
      ⟨by decide, by decide, by decide, fun _ _ => by decide⟩ h isSent
  refine covers.signs ((get?_signedHeaders_iff signs h isSent).2 agrees) plain.1 ?_
  simp only [String.toList_append, List.mem_append, not_or]
  exact ⟨⟨plain.2, by decide⟩, newline_not_mem_headerValue _⟩

theorem lastLine_canonicalRequest :
    (splitAt '\n' r.canonicalRequest.toList).getLast?
      = some (headerValue r.payloadHash).toList := by
  obtain ⟨_, _, _, _, covers⟩ := sign_eq_ok signs
  have hash := headerValue_payloadHash signs
  rw [hash]
  refine covers.lastLine ?_
  rw [← hash]
  exact newline_not_mem_headerValue _

/-- Of a request that was signed, each header is signed as it is sent exactly if the caller agrees;
then its name and its value, in the canonical form, stand in the text that is signed. The text ends
with the digest of the payload that is sent. -/
theorem sign_signs_iff :
    ∃ signed, r.Covers signed ∧
      (∀ h ∈ r.sent, signed.get? h.1 = some (headerValue h.2)
        ↔ AgreesWith headers h.1 (headerValue h.2)) ∧
      (∀ h ∈ r.sent, AgreesWith headers h.1 (headerValue h.2) → r.Signs h.1 (headerValue h.2)) ∧
      (splitAt '\n' r.canonicalRequest.toList).getLast?
        = some (headerValue r.payloadHash).toList := by
  obtain ⟨_, _, _, _, covers⟩ := sign_eq_ok signs
  exact ⟨_, covers, get?_signedHeaders_iff signs, fun h => signs_of_agreesWith signs,
    lastLine_canonicalRequest signs⟩

end Sign

/-- A signer with a token. -/
def signerWithToken : Signer where
  accessKey := "AKID"
  secretKey := "SECRET"
  sessionToken := some " a \t b "
  region := "us-east-1"
  service := "s3"

theorem parseTarget_minio : parseTarget "http://minio:9000/a" = .ok
    ({ scheme := "http", authority := some { host := .name "minio", port := some 9000 }
       path := "/a" }, "minio:9000") := by
  decide +kernel

/-- A caller that gives a time and a token, which are not taken, and the host that is sent. -/
theorem sign_signs_iff_sameHost :
    let headers := SortedMap.ofList
      [(" HOST ", " minio:9000 "), ("X-Amz-Date", "now"), ("x-amz-security-token", "c")]
    ∃ r, signerWithToken.sign "GET" "http://minio:9000/a" headers [] (.ofMoment (.ofSeconds 0))
        = .ok r ∧
      ("x-amz-security-token", " a \t b ") ∈ r.sent ∧ ("host", "minio:9000") ∈ r.sent ∧
      ∀ h ∈ r.sent, r.Signs h.1 (headerValue h.2) := by
  intro headers
  obtain ⟨r, signs⟩ : ∃ r, signerWithToken.sign "GET" "http://minio:9000/a" headers []
      (.ofMoment (.ofSeconds 0)) = .ok r := ⟨_, rfl⟩
  obtain ⟨⟨u, target⟩, _, _, token, _⟩ := sign_eq_ok signs
  have host : r.host = "minio:9000" :=
    congrArg Prod.snd (Except.ok.inj (target.symm.trans parseTarget_minio))
  have sameHost : (givenHeaders headers).get? "host" = some (headerValue "minio:9000") := by
    decide +kernel
  have undigested : (givenHeaders headers).get? "x-amz-content-sha256" = none := by decide +kernel
  have agrees : ∀ h ∈ r.sent, AgreesWith headers h.1 (headerValue h.2) := by
    refine (SignedRequest.forall_sent (P := fun name value =>
      AgreesWith headers name (headerValue value))).2 ⟨?_, ?_, ?_, ?_⟩
    · intro _ given isGiven
      rw [sameHost] at isGiven
      rw [host]
      exact (Option.some.inj isGiven).symm
    · intro _ given isGiven
      rw [undigested] at isGiven
      exact nomatch isGiven
    · exact fun other => absurd other (by decide)
    · exact fun _ _ other => absurd other (by decide)
  obtain ⟨_, _, _, each, _⟩ := sign_signs_iff signs
  refine ⟨r, signs, ?_, ?_, fun h isSent => each h isSent (agrees h isSent)⟩
  · rw [SignedRequest.sent, token]
    exact List.mem_append_right _ (List.mem_singleton_self _)
  · rw [SignedRequest.sent, host]
    exact List.mem_cons_self

/-- A host that the caller names is signed instead of the one that is sent, at noon and without a
token, and so is a digest, while the text ends with the digest that is sent. -/
theorem signs_ownHost :
    let signer := { signerWithToken with sessionToken := none }
    let signing := fun headers => signer.sign "GET" "http://minio:9000/a" (.ofList headers) []
      (.ofMoment (.ofSeconds 1714564800))
    (∃ r signed, signing [("Host", "other.example")] = .ok r ∧ r.Covers signed ∧
      r.host = "minio:9000" ∧ signed.get? "host" = some "other.example") ∧
    ∃ r signed, signing [("X-Amz-Content-Sha256", "UNSIGNED-PAYLOAD")] = .ok r ∧ r.Covers signed ∧
      r.payloadHash = sha256Text [] ∧
      signed.get? "x-amz-content-sha256" = some "UNSIGNED-PAYLOAD" := by
  intro signer signing
  constructor
  · obtain ⟨r, signs⟩ : ∃ r, signing [("Host", "other.example")] = .ok r := ⟨_, rfl⟩
    obtain ⟨⟨u, target⟩, _, _, _, covers⟩ := sign_eq_ok signs
    have host : r.host = "minio:9000" :=
      congrArg Prod.snd (Except.ok.inj (target.symm.trans parseTarget_minio))
    have other : (givenHeaders (.ofList [("Host", "other.example")])).get? "host"
        = some "other.example" := by
      decide +kernel
    refine ⟨r, _, signs, covers, host, ?_⟩
    rw [get?_signedHeaders, other]
    rfl
  · obtain ⟨r, signs⟩ : ∃ r, signing [("X-Amz-Content-Sha256", "UNSIGNED-PAYLOAD")] = .ok r :=
      ⟨_, rfl⟩
    obtain ⟨_, _, digest, _, covers⟩ := sign_eq_ok signs
    have other : (givenHeaders (.ofList [("X-Amz-Content-Sha256", "UNSIGNED-PAYLOAD")])).get?
        "x-amz-content-sha256" = some "UNSIGNED-PAYLOAD" := by
      decide +kernel
    refine ⟨r, _, signs, covers, digest, ?_⟩
    rw [get?_signedHeaders, other]
    rfl

/-! ## Deletions -/

/-- A file is deleted by a request that is sent with the signature and with headers all of which are
signed. -/
theorem signs_deletion {storage : ObjectStorage} {now : Moment} {orgId filename : String}
    {request : StorageRequest} (sends : storage.deletion now orgId filename = .ok request) :
    ∃ r, storage.signer.sign "DELETE" (storage.url orgId filename) ∅ [] (.ofMoment now) = .ok r ∧
      request.headers = ("authorization", r.authorization) :: r.sent ∧
      ∀ h ∈ r.sent, r.Signs h.1 (headerValue h.2) := by
  rw [ObjectStorage.deletion] at sends
  obtain ⟨time, timed, sends⟩ := bind_eq_ok_iff.1 sends
  obtain ⟨_, rfl⟩ := ObjectStorage.signingTime_eq_ok_iff.1 timed
  obtain ⟨r, signs, sends⟩ := bind_eq_ok_iff.1 sends
  have signs := ObjectStorage.signed_eq_ok_iff.1 signs
  obtain ⟨_, _, sends⟩ := bind_eq_ok_iff.1 sends
  refine ⟨r, signs, ?_, fun h isSent => ?_⟩
  · rw [← Except.ok.inj sends]
    rfl
  · exact signs_of_agreesWith signs isSent (agreesWith_of_unnamed _ (List.forall_mem_nil _))

end ArchiveAccounts.Signing
