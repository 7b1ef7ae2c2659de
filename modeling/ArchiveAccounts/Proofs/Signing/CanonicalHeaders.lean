import ArchiveAccounts.Proofs.Signing.Headers
import ArchiveAccounts.Proofs.Signing.Link
import ArchiveAccounts.Proofs.Text.ByteOrder

/-!
# Headers in a canonical request

The headers that are signed have one form: their names in lower case and in order, each once, and
on lines of their own with their values. Callers that write the same headers in another way have
them signed alike. Main statement: `sign_canonical`.
-/

namespace ArchiveAccounts.Signing
set_option autoImplicit false

open Text

/-! ## Names -/

/-- Whether a name can stand in a list of names and at the front of a line. -/
def IsPlain (name : String) : Prop := ∀ c ∈ ['\n', ':', ';'], c ∉ name.toList

instance (name : String) : Decidable (IsPlain name) :=
  decidable_of_iff _ (List.all_iff_forall_prop (p := fun c => c ∉ name.toList))

/-- Whether a name has no capital letters of ASCII. -/
def IsLower (name : String) : Prop := ∀ c ∈ name.toList, c.isUpper = false

instance (name : String) : Decidable (IsLower name) :=
  decidable_of_iff _ (List.all_iff_forall_prop (p := fun c : Char => c.isUpper = false))

/-- A capital letter becomes another letter, and no other character is changed. -/
theorem toLower_cases (c : Char) :
    c.isUpper = false ∧ c.toLower = c ∨ c.toLower.isUpper = false ∧ c.toLower.isAlpha = true := by
  by_cases upper : c.isUpper = true
  · have ascii : c.toNat < 0x80 := by
      have most : c.toNat ≤ 90 := (of_decide_eq_true upper).2
      omega
    exact .inr (forall_ascii (P := fun c => c.isUpper = true →
      c.toLower.isUpper = false ∧ c.toLower.isAlpha = true) (by decide +kernel) ascii upper)
  · exact .inl ⟨Bool.eq_false_iff.2 upper, dif_neg fun within => upper (decide_eq_true within)⟩

theorem isLower_headerName (name : String) : IsLower (headerName name) := by
  intro c mem
  rw [headerName, String.toList_ofList] at mem
  obtain ⟨d, _, rfl⟩ := List.mem_map.1 mem
  rcases toLower_cases d with ⟨lower, same⟩ | ⟨lower, _⟩
  · rw [same]
    exact lower
  · exact lower

theorem isPlain_headerName {name : String} (plain : IsPlain name) : IsPlain (headerName name) := by
  intro c sign mem
  rw [headerName, String.toList_ofList] at mem
  obtain ⟨d, inside, rfl⟩ := List.mem_map.1 mem
  have signs : ∀ c ∈ ['\n', ':', ';'], c.isAlpha = false :=
    List.all_iff_forall_prop.1 (by decide)
  rcases toLower_cases d with ⟨_, same⟩ | ⟨_, letter⟩
  · rw [same] at sign
    exact plain d sign (mem_of_mem_trimChars inside)
  · exact Bool.eq_false_iff.1 (signs _ sign) letter

/-! ## The headers of the caller -/

section Given

variable {headers : SortedMap String String} {P : String → String → Prop}

theorem forall_addHeader {name value : String}
    (earlier : ∀ n v, headers.get? n = some v → P n v)
    (own : P (headerName name) (headerValue value))
    (join : ∀ n v w, P n v → P n w → v ≠ "" → P n (v ++ "," ++ w)) :
    ∀ n v, (addHeader headers name value).get? n = some v → P n v := by
  have put : ∀ v, P (headerName name) v →
      ∀ n w, (headers.insert (headerName name) v).get? n = some w → P n w := by
    intro v holds n w found
    rw [SortedMap.get?_insert] at found
    split at found
    · next same =>
      rw [same, ← Option.some.inj found]
      exact holds
    · exact earlier n w found
  rw [addHeader]
  split
  · exact earlier
  · split
    · exact put _ own
    · exact put _ own
    · next _ before filled listed =>
      exact put _ (join _ _ _ (earlier _ _ listed) own filled)

/-- What holds of each header of the caller and of joined values holds of all that are given. -/
theorem forall_givenHeaders (each : ∀ h ∈ headers.toList, P (headerName h.1) (headerValue h.2))
    (join : ∀ n v w, P n v → P n w → v ≠ "" → P n (v ++ "," ++ w)) :
    ∀ n v, (givenHeaders headers).get? n = some v → P n v := by
  rw [givenHeaders]
  refine List.foldlRecOn (motive := fun m : SortedMap String String =>
    ∀ n v, m.get? n = some v → P n v) _ _ ?_ ?_
  · exact fun _ _ none_ => nomatch none_
  · exact fun m earlier h mem => forall_addHeader earlier (each h mem) join

end Given

/-- What holds of the headers of the caller, of joined values and of the headers that every request
has holds of all headers that are signed. -/
theorem forall_signedHeaders {headers : SortedMap String String} {P : String → String → Prop}
    {host stamp payloadHash : String} {token : Option String}
    (each : ∀ h ∈ headers.toList, P (headerName h.1) (headerValue h.2))
    (join : ∀ n v w, P n v → P n w → v ≠ "" → P n (v ++ "," ++ w))
    (isHost : P "host" host) (isStamp : P "x-amz-date" stamp)
    (isHash : P "x-amz-content-sha256" payloadHash)
    (isToken : ∀ t ∈ token, P "x-amz-security-token" (headerValue t)) :
    ∀ h ∈ (signedHeaders headers host stamp payloadHash token).toList, P h.1 h.2 := by
  intro ⟨name, value⟩ mem
  have given := forall_givenHeaders each join
  have orElse : ∀ {name other}, P name other →
      P name (((givenHeaders headers).get? name).getD other) := by
    intro name other holds
    cases listed : (givenHeaders headers).get? name with
    | none => exact holds
    | some value => exact given name value listed
  have found := SortedMap.mem_toList_iff.1 mem
  rw [get?_signedHeaders] at found
  split at found
  · next both =>
    obtain ⟨t, isSome⟩ := Option.isSome_iff_exists.1 both.2
    rw [isSome, Option.map_some] at found
    rw [← Option.some.inj found, both.1]
    exact isToken t isSome
  · split at found
    · next same =>
      rw [← Option.some.inj found, same]
      exact orElse isHash
    · split at found
      · next same =>
        rw [← Option.some.inj found, same]
        exact isStamp
      · split at found
        · next same =>
          rw [← Option.some.inj found, same]
          exact orElse isHost
        · exact given name value found

/-! ## One form -/

/-- Whether headers are in the form in which they are signed: the names in lower case, in the order
of their bytes and each once, the values collapsed except for the time. -/
structure IsCanonical (headers : SortedMap String String) : Prop where
  ascending : headers.keys.Pairwise fun a b => Utf8.bytes a < Utf8.bytes b
  nodup : headers.keys.Nodup
  lower : ∀ name ∈ headers.keys, IsLower name
  collapsed : ∀ h ∈ headers.toList, h.1 ≠ "x-amz-date" → IsCollapsed h.2.toList

/-- The line of a header. -/
def headerLine (h : String × String) : List Char := (h.1 ++ ":" ++ h.2).toList

/-- Whether a request of a method shows headers: their names, as they are listed, and a line for
each of them in the same order, from which it is read, after the lines of the method, the path and
the query. -/
structure SignedRequest.Shows (r : SignedRequest) (method : String)
    (headers : List (String × String)) : Prop where
  names : splitAt ';' r.headerNames.toList = headers.map fun h => h.1.toList
  lines : ∃ path query, splitAt '\n' r.canonicalRequest.toList
    = splitAt '\n' method.toList ++ [path, query] ++ headers.map headerLine
      ++ [[], r.headerNames.toList, r.payloadHash.toList]
  reads : ∀ h ∈ headers, cutAt ':' (headerLine h) = some (h.1.toList, h.2.toList)

/-- Whether a header can be signed: what is asked of each one by itself. -/
structure IsSigned (name value : String) : Prop where
  plain : IsPlain name
  lower : IsLower name
  oneLine : '\n' ∉ value.toList
  collapsed : name ≠ "x-amz-date" → IsCollapsed value.toList

namespace IsSigned

variable {name value other : String}

theorem of_collapsed (plain : IsPlain name) (lower : IsLower name)
    (collapsed : IsCollapsed value.toList) : IsSigned name value where
  plain := plain
  lower := lower
  oneLine := collapsed.newline_not_mem
  collapsed _ := collapsed

theorem join (h : IsSigned name value) (k : IsSigned name other) (some_ : value ≠ "") :
    IsSigned name (value ++ "," ++ other) := by
  have joined : (value ++ "," ++ other).toList = value.toList ++ ',' :: other.toList := by
    rw [String.toList_append, String.toList_append, List.append_assoc]
    rfl
  refine ⟨h.plain, h.lower, ?_, fun notDate => ?_⟩
  · rw [joined, List.mem_append, List.mem_cons, not_or, not_or]
    exact ⟨h.oneLine, by decide, k.oneLine⟩
  · have filled : value.toList ≠ [] := fun empty => some_ (String.toList_eq_nil_iff.1 empty)
    rw [joined]
    exact (h.collapsed notDate).append_cons filled (k.collapsed notDate) (.inl (by decide))

end IsSigned

/-! ## What is written of headers -/

theorem cutAt_headerLine {h : String × String} (plain : IsPlain h.1) :
    cutAt ':' (headerLine h) = some (h.1.toList, h.2.toList) := by
  refine cutAt_eq_some_iff.2 ⟨?_, plain ':' (by decide)⟩
  rw [headerLine, String.toList_append, String.toList_append, List.append_assoc]
  rfl

theorem toList_headerNames (headers : SortedMap String String) :
    (headerNames headers).toList = [';'].intercalate (headers.toList.map fun h => h.1.toList) := by
  rw [headerNames, joinWith, String.toList_intercalate, SortedMap.keys, List.map_map]
  rfl

section Written

variable {headers : SortedMap String String} (each : ∀ h ∈ headers.toList, IsSigned h.1 h.2)

include each

theorem newline_not_mem_headerNames : '\n' ∉ (headerNames headers).toList := by
  intro mem
  rw [toList_headerNames] at mem
  rcases Url.mem_intercalate mem with semicolon | ⟨name, among, inside⟩
  · exact absurd semicolon (by decide)
  · obtain ⟨h, isHeader, rfl⟩ := List.mem_map.1 among
    exact (each h isHeader).plain '\n' (by decide) inside

theorem splitAt_headerNames (some_ : headers.toList ≠ []) :
    splitAt ';' (headerNames headers).toList = headers.toList.map fun h => h.1.toList := by
  rw [toList_headerNames]
  refine splitAt_intercalate (List.map_eq_nil_iff.not.2 some_) fun name among => ?_
  obtain ⟨h, isHeader, rfl⟩ := List.mem_map.1 among
  exact (each h isHeader).plain ';' (by decide)

theorem splitAt_headerLines :
    splitAt '\n' (headerLines headers).toList = headers.toList.map headerLine ++ [[]] := by
  have whole : ∀ h ∈ headers.toList, splitAt '\n' (headerLine h) = [headerLine h] := by
    intro h mem
    apply splitAt_of_not_mem
    simp only [headerLine, String.toList_append, List.mem_append, not_or]
    exact ⟨⟨(each h mem).plain '\n' (by decide), by decide⟩, (each h mem).oneLine⟩
  rw [toList_headerLines, splitAt_lines, List.map_eq_flatMap, List.flatMap_def, List.flatMap_def]
  exact congrArg (fun pieces => pieces.flatten ++ [[]]) (List.map_congr_left whole)

end Written

/-! ## Requests -/

section Sign

variable {signer : Signer} {rawMethod url : String} {headers : SortedMap String String}
  {payload : List UInt8} {time : Timestamp} {r : SignedRequest}

/-- The headers that a request says are signed. -/
def SignedRequest.signed (r : SignedRequest) (headers : SortedMap String String) :
    SortedMap String String :=
  signedHeaders headers r.host r.stamp r.payloadHash r.securityToken

theorem canonicalRequest_of_sign
    (signs : signer.sign rawMethod url headers payload time = .ok r) :
    ∃ u, parseTarget url = .ok (u, r.host) ∧
      r.canonicalRequest = joinWith "\n" [trim rawMethod, canonicalPath signer.service u.path,
        canonicalQuery (queryPairs u), headerLines (r.signed headers),
        Signing.headerNames (r.signed headers), r.payloadHash] := by
  rw [Signer.sign] at signs
  obtain ⟨method, isMethod, signs⟩ := bind_eq_ok_iff.1 signs
  obtain ⟨⟨u, host⟩, target, signs⟩ := bind_eq_ok_iff.1 signs
  obtain rfl := Except.ok.inj signs
  rw [Signer.method] at isMethod
  split at isMethod
  · cases isMethod
  · rw [← Except.ok.inj isMethod]
    exact ⟨u, target, rfl⟩

theorem newline_not_mem_canonicalPath (service path : String) :
    '\n' ∉ (canonicalPath service path).toList := by
  have strict : ∀ s, '\n' ∉ (Percent.encode .kept s).toList := fun s mem =>
    Percent.forall_strict (P := (· ≠ '\n')) (by decide +kernel) '\n'
      (Percent.isStrict_of_mem_encode mem) rfl
  rw [canonicalPath]
  split
  · decide
  · split
    · exact strict _
    · exact strict _

theorem newline_not_mem_canonicalQuery (pairs : List (String × String)) :
    '\n' ∉ (canonicalQuery pairs).toList := by
  rw [canonicalQuery_eq]
  intro mem
  rcases mem_join mem with amp | equals | strict
  · exact absurd amp (by decide)
  · exact absurd equals (by decide)
  · exact Percent.forall_strict (P := (· ≠ '\n')) (by decide +kernel) '\n' strict rfl

theorem mem_keys_signed (r : SignedRequest) (headers : SortedMap String String) :
    (∀ name ∈ ["host", "x-amz-content-sha256", "x-amz-date"], name ∈ (r.signed headers).keys) ∧
      (r.securityToken.isSome → "x-amz-security-token" ∈ (r.signed headers).keys) := by
  constructor
  · intro name mem
    rw [SortedMap.mem_keys_iff, SignedRequest.signed, get?_signedHeaders]
    simp only [List.mem_cons, List.not_mem_nil, or_false] at mem
    rcases mem with rfl | rfl | rfl <;> exact ⟨_, rfl⟩
  · intro isSome
    obtain ⟨token, isToken⟩ := Option.isSome_iff_exists.1 isSome
    rw [SortedMap.mem_keys_iff, SignedRequest.signed, get?_signedHeaders, isToken]
    exact ⟨headerValue token, rfl⟩

variable (signs : signer.sign rawMethod url headers payload time = .ok r)
  (plain : ∀ h ∈ headers.toList, IsPlain h.1) (oneLine : '\n' ∉ time.stamp.toList)

include signs plain oneLine

theorem isSigned_of_sign : ∀ h ∈ (r.signed headers).toList, IsSigned h.1 h.2 := by
  obtain ⟨⟨u, target⟩, stamp, digest, _⟩ := sign_eq_ok signs
  have host : IsCollapsed r.host.toList := by
    rw [← headerValue_host target]
    exact isCollapsed_headerValue r.host
  have hash : IsCollapsed r.payloadHash.toList := by
    rw [digest, ← headerValue_sha256Text]
    exact isCollapsed_headerValue _
  refine forall_signedHeaders (fun h mem => ?_) (fun name value other => .join) ?_ ?_ ?_ ?_
  · exact .of_collapsed (isPlain_headerName (plain h mem)) (isLower_headerName h.1)
      (isCollapsed_headerValue h.2)
  · exact .of_collapsed (by decide) (by decide) host
  · rw [← stamp] at oneLine
    exact ⟨by decide, by decide, oneLine, fun notDate => absurd rfl notDate⟩
  · exact .of_collapsed (by decide) (by decide) hash
  · exact fun token _ => .of_collapsed (by decide) (by decide) (isCollapsed_headerValue token)

theorem isCanonical_of_sign : IsCanonical (r.signed headers) := by
  have each := isSigned_of_sign signs plain oneLine
  refine ⟨?_, SortedMap.nodup_keys _, ?_, fun h mem => (each h mem).collapsed⟩
  · rw [SortedMap.keys, List.pairwise_map]
    exact (r.signed headers).ordered.imp Utf8.bytes_lt_of_compare
  · intro name mem
    obtain ⟨value, found⟩ := SortedMap.mem_keys_iff.1 mem
    exact (each _ (SortedMap.mem_toList_iff.2 found)).lower

theorem shows_of_sign : r.Shows (trim rawMethod) (r.signed headers).toList := by
  have each := isSigned_of_sign signs plain oneLine
  obtain ⟨_, _, digest, _, covers⟩ := sign_eq_ok signs
  have names : r.headerNames = headerNames (r.signed headers) := covers.names
  refine ⟨?_, ?_, fun h mem => cutAt_headerLine (each h mem).plain⟩
  · rw [names]
    refine splitAt_headerNames each fun empty => ?_
    have host := (mem_keys_signed r headers).1 "host" (by decide)
    rw [SortedMap.keys, empty] at host
    exact absurd host List.not_mem_nil
  · obtain ⟨u, _, text⟩ := canonicalRequest_of_sign signs
    refine ⟨(canonicalPath signer.service u.path).toList, (canonicalQuery (queryPairs u)).toList, ?_⟩
    have hash : '\n' ∉ r.payloadHash.toList := by
      rw [digest, ← headerValue_sha256Text]
      exact newline_not_mem_headerValue _
    rw [text, names, joinWith, String.toList_intercalate]
    refine (splitAt_intercalate_eq_flatMap (List.cons_ne_nil _ _)).trans ?_
    simp only [List.map_cons, List.map_nil, List.flatMap_cons, List.flatMap_nil,
      splitAt_of_not_mem (newline_not_mem_canonicalPath _ _),
      splitAt_of_not_mem (newline_not_mem_canonicalQuery _), splitAt_headerLines each,
      splitAt_of_not_mem (newline_not_mem_headerNames each), splitAt_of_not_mem hash,
      List.append_assoc, List.cons_append, List.nil_append]

end Sign

/-! ## Other ways of writing headers -/

/-- Whether two names are the same but for the blanks around them and the case of their letters. -/
def SameName (a b : String) : Prop :=
  (trimChars a.toList).map Char.toLower = (trimChars b.toList).map Char.toLower

instance (a b : String) : Decidable (SameName a b) :=
  inferInstanceAs (Decidable ((trimChars a.toList).map Char.toLower = (trimChars b.toList).map
    Char.toLower))

/-- Whether two headers are the same but for the way in which they are written. -/
structure SameHeader (h k : String × String) : Prop where
  name : SameName h.1 k.1
  words : words h.2.toList = words k.2.toList

instance (h k : String × String) : Decidable (SameHeader h k) :=
  decidable_of_iff (SameName h.1 k.1 ∧ words h.2.toList = words k.2.toList)
    ⟨fun both => ⟨both.1, both.2⟩, fun same => ⟨same.name, same.words⟩⟩

/-- Whether no header is named twice. Headers without a name do not count. -/
def DistinctNames (headers : SortedMap String String) : Prop :=
  headers.toList.Pairwise fun h k => allBlank h.1 = false → ¬SameName h.1 k.1

instance (headers : SortedMap String String) : Decidable (DistinctNames headers) :=
  inferInstanceAs (Decidable (headers.toList.Pairwise _))

/-- Whether two callers give the same headers, each of them once. -/
structure GivesAlike (headers other : SortedMap String String) : Prop where
  distinct : DistinctNames headers
  distinctOther : DistinctNames other
  forth : ∀ h ∈ headers.toList, allBlank h.1 = false → ∃ k ∈ other.toList, SameHeader h k
  back : ∀ k ∈ other.toList, allBlank k.1 = false → ∃ h ∈ headers.toList, SameHeader h k

theorem headerName_eq_iff {a b : String} : headerName a = headerName b ↔ SameName a b :=
  String.ofList_inj

theorem headerName_eq_empty_iff {name : String} : headerName name = "" ↔ allBlank name = true := by
  rw [headerName, String.ofList_eq_empty_iff, List.map_eq_nil_iff, trimChars_eq_nil_iff, allBlank,
    List.all_eq_true]

theorem addHeader_of_unnamed {headers : SortedMap String String} {name : String} (value : String)
    (unnamed : headerName name = "") : addHeader headers name value = headers := if_pos unnamed

theorem addHeader_of_new {headers : SortedMap String String} {name : String} (value : String)
    (named : headerName name ≠ "") (new : headers.get? (headerName name) = none) :
    addHeader headers name value = headers.insert (headerName name) (headerValue value) := by
  rw [addHeader]
  refine (if_neg named).trans ?_
  rw [new]

/-- Headers of different names are added to others one by one. -/
theorem get?_foldl_addHeader {l : List (String × String)} (m : SortedMap String String)
    (distinct : l.Pairwise fun h k => allBlank h.1 = false → ¬SameName h.1 k.1)
    (new : ∀ h ∈ l, m.get? (headerName h.1) = none) {name value : String} :
    (l.foldl (fun m h => addHeader m h.1 h.2) m).get? name = some value ↔
      m.get? name = some value ∨
        name ≠ "" ∧ ∃ h ∈ l, headerName h.1 = name ∧ headerValue h.2 = value := by
  induction l generalizing m with
  | nil =>
    refine ⟨.inl, fun found => found.resolve_right ?_⟩
    rintro ⟨_, h, mem, _⟩
    exact nomatch mem
  | cons h l ih =>
    obtain ⟨first, others⟩ := List.pairwise_cons.1 distinct
    obtain ⟨newHere, newLater⟩ := List.forall_mem_cons.1 new
    rw [List.foldl_cons, List.exists_mem_cons_iff]
    by_cases unnamed : headerName h.1 = ""
    -- A header without a name is not added, so it is none of those that are found.
    · rw [addHeader_of_unnamed h.2 unnamed, ih m others newLater]
      refine or_congr_right (and_congr_right fun named => ⟨.inr, fun found => ?_⟩)
      exact found.resolve_left fun here => named (here.1.symm.trans unnamed)
    · have newThere : ∀ k ∈ l,
          (m.insert (headerName h.1) (headerValue h.2)).get? (headerName k.1) = none := by
        intro k mem
        have other : headerName k.1 ≠ headerName h.1 := by
          rw [Ne, eq_comm, headerName_eq_iff]
          exact first k mem (Bool.eq_false_iff.2 fun blank =>
            unnamed (headerName_eq_empty_iff.2 blank))
        rw [SortedMap.get?_insert, if_neg other]
        exact newLater k mem
      rw [addHeader_of_new h.2 unnamed newHere, ih _ others newThere, SortedMap.get?_insert]
      by_cases here : name = headerName h.1
      · simp [here, newHere, unnamed]
      · simp [here, Ne.symm here]

/-- A caller that names no header twice gives each one as it is. -/
theorem get?_givenHeaders_eq_some_iff {headers : SortedMap String String}
    (distinct : DistinctNames headers) {name value : String} :
    (givenHeaders headers).get? name = some value ↔
      name ≠ "" ∧ ∃ h ∈ headers.toList, headerName h.1 = name ∧ headerValue h.2 = value := by
  refine (get?_foldl_addHeader ∅ distinct fun _ _ => rfl).trans ?_
  exact ⟨fun found => found.resolve_left nofun, .inr⟩

/-- Callers that give the same headers have the same ones signed. -/
theorem givenHeaders_eq_of_alike {headers other : SortedMap String String}
    (alike : GivesAlike headers other) : givenHeaders headers = givenHeaders other := by
  apply SortedMap.ext_get?
  intro name
  apply Option.ext
  intro value
  rw [get?_givenHeaders_eq_some_iff alike.distinct,
    get?_givenHeaders_eq_some_iff alike.distinctOther]
  refine and_congr_right fun named => ?_
  have notBlank : ∀ h : String × String, headerName h.1 = name → allBlank h.1 = false := by
    rintro h rfl
    rw [Ne, headerName_eq_empty_iff] at named
    exact Bool.eq_false_iff.2 named
  constructor
  · rintro ⟨h, mem, isName, rfl⟩
    obtain ⟨k, among, same⟩ := alike.forth h mem (notBlank h isName)
    exact ⟨k, among, (headerName_eq_iff.2 same.name).symm.trans isName,
      (headerValue_eq_of_words same.words).symm⟩
  · rintro ⟨k, mem, isName, rfl⟩
    obtain ⟨h, among, same⟩ := alike.back k mem (notBlank k isName)
    exact ⟨h, among, (headerName_eq_iff.2 same.name).trans isName,
      headerValue_eq_of_words same.words⟩

theorem signedHeaders_eq_of_alike {headers other : SortedMap String String}
    (alike : GivesAlike headers other) (host stamp payloadHash : String) (token : Option String) :
    signedHeaders headers host stamp payloadHash token
      = signedHeaders other host stamp payloadHash token := by
  apply SortedMap.ext_get?
  intro name
  rw [get?_signedHeaders, get?_signedHeaders, givenHeaders_eq_of_alike alike]

theorem sign_eq_of_alike {headers other : SortedMap String String}
    (alike : GivesAlike headers other) (signer : Signer) (rawMethod url : String)
    (payload : List UInt8) (time : Timestamp) :
    signer.sign rawMethod url headers payload time
      = signer.sign rawMethod url other payload time := by
  simp only [Signer.sign, signedHeaders_eq_of_alike alike]

/-- A request that is signed with plain names of headers and a time of one line lists the names of
its headers in the order of their bytes, each once and in lower case, among them the host, the time,
the digest of the payload and the token if there is one. It has a line for each of them in that
order, with a collapsed value except for the time. Callers that give the same headers, each of them
once, have the same request signed in whatever way they write them. -/
theorem sign_canonical :
    (∀ (signer : Signer) rawMethod url headers payload time r,
      (∀ h ∈ headers.toList, IsPlain h.1) → '\n' ∉ time.stamp.toList →
      signer.sign rawMethod url headers payload time = .ok r →
      IsCanonical (r.signed headers) ∧ r.Shows (trim rawMethod) (r.signed headers).toList ∧
        (∀ name ∈ ["host", "x-amz-content-sha256", "x-amz-date"],
          name ∈ (r.signed headers).keys) ∧
        (signer.sessionToken.isSome → "x-amz-security-token" ∈ (r.signed headers).keys)) ∧
    ∀ (signer : Signer) rawMethod url headers other payload time, GivesAlike headers other →
      signer.sign rawMethod url headers payload time
        = signer.sign rawMethod url other payload time := by
  constructor
  · intro signer rawMethod url headers payload time r plain oneLine signs
    obtain ⟨_, _, _, token, _⟩ := sign_eq_ok signs
    have listed := mem_keys_signed r headers
    rw [token] at listed
    exact ⟨isCanonical_of_sign signs plain oneLine, shows_of_sign signs plain oneLine, listed⟩
  · intro signer rawMethod url headers other payload time alike
    exact sign_eq_of_alike alike signer rawMethod url payload time

/-- Names in other cases and blanks of other kinds, and a header without a name. -/
theorem sign_canonical_rewritten :
    let headers := SortedMap.ofList [("HOST", " minio:9000 "), ("X-a", "b\u00A0\t c"), ("", "d")]
    let other := SortedMap.ofList [(" Host ", "minio:9000"), ("x-A\t", "\nb c ")]
    ∃ r, signerWithToken.sign "PUT" "http://minio:9000/a" headers [] (.ofMoment (.ofSeconds 0))
        = .ok r ∧
      signerWithToken.sign "PUT" "http://minio:9000/a" other [] (.ofMoment (.ofSeconds 0))
        = .ok r ∧
      IsCanonical (r.signed headers) ∧ r.Shows "PUT" (r.signed headers).toList ∧
      "x-amz-security-token" ∈ (r.signed headers).keys := by
  intro headers other
  have plain : ∀ h ∈ headers.toList, IsPlain h.1 := by decide +kernel
  have alike : GivesAlike headers other :=
    ⟨by decide +kernel, by decide +kernel, by decide +kernel, by decide +kernel⟩
  obtain ⟨r, signs⟩ : ∃ r, signerWithToken.sign "PUT" "http://minio:9000/a" headers []
      (.ofMoment (.ofSeconds 0)) = .ok r := ⟨_, rfl⟩
  obtain ⟨canonical, rewritten⟩ := sign_canonical
  have same := rewritten signerWithToken "PUT" "http://minio:9000/a" headers other []
    (.ofMoment (.ofSeconds 0)) alike
  obtain ⟨form, shows, _, token⟩ := canonical _ _ _ _ _ _ r plain (by decide +kernel) signs
  have method : trim "PUT" = "PUT" := by decide +kernel
  rw [method] at shows
  exact ⟨r, signs, same.symm.trans signs, form, shows, token (by decide)⟩

end ArchiveAccounts.Signing
