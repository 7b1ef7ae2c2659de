import ArchiveAccounts.Proofs.Url.Printed
import ArchiveAccounts.Signing.Signer

/-!
# Links that verify themselves

Whoever follows a signed link finds in it all that was signed: the pairs of its query but the last
one, which is the signature, make the canonical query again whatever the caller's own query was.
Main statement: `signLink_verifies`.
-/

namespace ArchiveAccounts.Signing
set_option autoImplicit false

open Text

/-! ## Queries in order -/

/-- The order of pairs, as a comparison. -/
def comparePairs : String × String → String × String → Ordering :=
  compareLex (compareOn Prod.fst) (compareOn Prod.snd)

theorem pairLe_eq (a b : String × String) : pairLe a b = (comparePairs a b).isLE := rfl

instance : Std.TransCmp comparePairs :=
  inferInstanceAs (Std.TransCmp (compareLex (compareOn Prod.fst) (compareOn Prod.snd)))

theorem pairLe_trans {a b c : String × String} (ab : pairLe a b = true) (bc : pairLe b c = true) :
    pairLe a c = true := by
  rw [pairLe_eq] at ab bc ⊢
  exact Std.TransCmp.isLE_trans ab bc

theorem pairLe_total (a b : String × String) : (pairLe a b || pairLe b a) = true := by
  have swap : comparePairs b a = (comparePairs a b).swap := Std.OrientedCmp.eq_swap
  rw [pairLe_eq, pairLe_eq, swap]
  cases comparePairs a b <;> rfl

/-- A pair in the strict form. -/
def escapePair (pair : String × String) : String × String :=
  (Percent.encode .encoded pair.1, Percent.encode .encoded pair.2)

/-- The order of pairs in a canonical query. -/
def writtenLe (a b : String × String) : Bool := pairLe (escapePair a) (escapePair b)

/-- Pairs in the order that a canonical query has them in. -/
def inOrder (pairs : List (String × String)) : List (String × String) := pairs.mergeSort writtenLe

theorem inOrder_perm (pairs : List (String × String)) : (inOrder pairs).Perm pairs :=
  List.mergeSort_perm _ _

theorem inOrder_inOrder (pairs : List (String × String)) :
    inOrder (inOrder pairs) = inOrder pairs := by
  have trans : ∀ a b c, writtenLe a b = true → writtenLe b c = true → writtenLe a c = true :=
    fun a b c => pairLe_trans (a := escapePair a) (b := escapePair b) (c := escapePair c)
  have total : ∀ a b, (writtenLe a b || writtenLe b a) = true :=
    fun a b => pairLe_total (escapePair a) (escapePair b)
  exact List.mergeSort_of_pairwise (List.pairwise_mergeSort trans total pairs)

theorem canonicalQuery_eq (pairs : List (String × String)) :
    canonicalQuery pairs = joinWith "&" ((inOrder pairs).map FormEncoded.written) := by
  have sorted : (inOrder pairs).map escapePair = (pairs.map escapePair).mergeSort pairLe :=
    List.map_mergeSort fun _ _ _ _ => rfl
  rw [canonicalQuery]
  show joinWith "&" (((pairs.map escapePair).mergeSort pairLe).map _) = _
  rw [← sorted, List.map_map]
  rfl

theorem canonicalQuery_inOrder (pairs : List (String × String)) :
    canonicalQuery (inOrder pairs) = canonicalQuery pairs := by
  rw [canonicalQuery_eq, inOrder_inOrder, ← canonicalQuery_eq]

/-! ## The signature in the query -/

/-- The pair that a link ends with. -/
def signaturePair (signature : String) : String × String := ("X-Amz-Signature", signature)

theorem lowerByte_kept :
    ∀ b : UInt8, (Hex.lowerByte b).all (Percent.keepsChar .encoded) = true := by
  refine Percent.forall_byte ?_
  decide +kernel

theorem encode_lowerBytes (bytes : List UInt8) :
    Percent.encode .encoded (Hex.lowerBytes bytes) = Hex.lowerBytes bytes := by
  refine Percent.encode_eq_self fun c mem => ?_
  rw [Hex.lowerBytes, String.toList_ofList] at mem
  obtain ⟨b, _, digit⟩ := List.mem_flatMap.1 mem
  exact List.all_eq_true.1 (lowerByte_kept b) c digit

theorem written_signature (signer : Signer) (date text : String) :
    FormEncoded.written (signaturePair (signer.signature date text))
      = "X-Amz-Signature=" ++ signer.signature date text := by
  have name : Percent.encode .encoded "X-Amz-Signature" = "X-Amz-Signature" :=
    Percent.encode_eq_self (List.all_eq_true.1 (by decide +kernel))
  rw [FormEncoded.written, signaturePair, name, Signer.signature, encode_lowerBytes]
  rfl

theorem linkPairs_ne_nil (signer : Signer) (expires : Counter) (time : Timestamp) :
    signer.linkPairs expires time ≠ [] :=
  List.append_ne_nil_of_right_ne_nil _ (List.cons_ne_nil _ _)

/-- The query of a link is made of pairs, of which the signature is the last one. -/
theorem query_concat {pairs : List (String × String)} (some_ : pairs ≠ []) (signer : Signer)
    (date text : String) :
    canonicalQuery pairs ++ "&X-Amz-Signature=" ++ signer.signature date text
      = joinWith "&" ((inOrder pairs ++ [signaturePair (signer.signature date text)]).map
          FormEncoded.written) := by
  have mark : "&X-Amz-Signature=" = "&" ++ "X-Amz-Signature=" := by decide
  have filled : (inOrder pairs).map FormEncoded.written ≠ [] := by
    rw [Ne, List.map_eq_nil_iff]
    intro empty
    exact some_ (List.nil_perm.1 (empty ▸ inOrder_perm pairs))
  rw [List.map_append, List.map_singleton, written_signature, joinWith,
    String.intercalate_append_of_ne_nil filled (List.cons_ne_nil _ _), ← joinWith,
    ← canonicalQuery_eq, String.intercalate_singleton, mark]
  simp only [String.append_assoc]

/-! ## Links as they are read -/

theorem mem_join {pairs : List (String × String)} {c : Char}
    (mem : c ∈ (joinWith "&" (pairs.map FormEncoded.written)).toList) :
    c = '&' ∨ c = '=' ∨ Percent.isStrict .encoded c = true := by
  rw [joinWith, String.toList_intercalate, List.map_map] at mem
  rcases Url.mem_intercalate mem with amp | ⟨part, among, inside⟩
  · exact .inl (List.mem_singleton.1 amp)
  · obtain ⟨pair, _, rfl⟩ := List.mem_map.1 among
    rcases FormEncoded.mem_written inside with strict | equals
    · exact .inr (.inr strict)
    · exact .inr (.inl equals)

theorem isQuery_join (pairs : List (String × String)) :
    Url.IsQuery (joinWith "&" (pairs.map FormEncoded.written)).toList := by
  intro c mem
  rcases mem_join mem with rfl | rfl | strict
  · decide
  · decide
  · exact Percent.forall_strict
      (P := fun c => Url.isSpecialQueryReserved c = false ∧ c.toNat < 0x80)
      (by decide +kernel) c strict

/-- A link verifies: whoever reads it as `read`, with `host` for the header of the request, finds the
signature in its last pair and rebuilds from all else what was signed. -/
structure SignedLink.Verifies (link : SignedLink) (signer : Signer) (rawMethod : String)
    (time : Timestamp) (read : Url) (host : String) (rest : List (String × String)) : Prop where
  reads : Url.parse link.url = .ok read
  names : ∃ named, read.host? = some named ∧
    host = named.print ++ read.port?.elim "" fun port => ":" ++ String.ofList (Decimal.digits port)
  pairs : queryPairs read = rest ++ [("X-Amz-Signature", link.signature)]
  /-- The one header that is signed has a line of its own and a blank one after it, then comes its
  name, and there is no payload. -/
  request : link.canonicalRequest = "\n".intercalate
    [trim rawMethod, canonicalPath signer.service read.path, canonicalQuery rest, "host:" ++ host,
      "", "host", "UNSIGNED-PAYLOAD"]
  stringToSign : link.stringToSign = "\n".intercalate
    ["AWS4-HMAC-SHA256", time.stamp,
      "/".intercalate [time.date, signer.region, signer.service, "aws4_request"],
      sha256Text (Utf8.bytes link.canonicalRequest)]
  signature : link.signature = signer.signature time.date link.stringToSign

variable {signer : Signer} {rawMethod url : String} {expires : Counter} {time : Timestamp}
  {link : SignedLink} {u v : Url}

/-- A target is a URL that names a host, with the host and the port as they are written. -/
theorem parseTarget_eq_ok_iff {raw host : String} : parseTarget raw = .ok (u, host) ↔
    Url.parse raw = .ok u ∧ ∃ named, u.host? = some named ∧
      host = named.print ++ Url.marked ":" (u.port?.map fun port =>
        String.ofList (Decimal.digits port)) := by
  rw [parseTarget]
  cases Url.parse raw with
  | error e => exact ⟨nofun, fun both => nomatch both.1⟩
  | ok v =>
    dsimp only
    constructor
    · intro reads
      split at reads
      · exact nomatch reads
      · next named found =>
        obtain ⟨rfl, rfl⟩ := Prod.mk.inj (Except.ok.inj reads)
        exact ⟨rfl, named, found, rfl⟩
    · rintro ⟨reads, named, found, rfl⟩
      obtain rfl := Except.ok.inj reads
      rw [found]

/-- What a link that was signed is made of. -/
theorem signLink_eq_ok (signs : signer.signLink rawMethod url expires time = .ok link) :
    ∃ u host, parseTarget url = .ok (u, host) ∧
      link.canonicalRequest = signer.linkRequest (trim rawMethod) u.path
        (canonicalQuery (queryPairs u ++ signer.linkPairs expires time)) host ∧
      link.stringToSign = stringToSign time (signer.scope time) link.canonicalRequest ∧
      link.signature = signer.signature time.date link.stringToSign ∧
      link.url = u.base ++ "?" ++ canonicalQuery (queryPairs u ++ signer.linkPairs expires time)
        ++ "&X-Amz-Signature=" ++ link.signature := by
  rw [Signer.signLink] at signs
  obtain ⟨method, named, signs⟩ := bind_eq_ok_iff.1 signs
  have trimmed : method = trim rawMethod := by
    rw [Signer.method] at named
    split at named
    · exact nomatch named
    · exact (Except.ok.inj named).symm
  split at signs
  · exact nomatch signs
  · obtain ⟨⟨u, host⟩, target, signs⟩ := bind_eq_ok_iff.1 signs
    rw [trimmed] at signs
    obtain rfl := Except.ok.inj signs
    exact ⟨u, host, target, rfl, rfl, rfl, rfl⟩

/-- The query of a link: what the URL asked for and what the signer adds in order, and the signature
at the end. -/
def linkQuery (signer : Signer) (u : Url) (expires : Counter) (time : Timestamp)
    (signature : String) : List (String × String) :=
  inOrder (queryPairs u ++ signer.linkPairs expires time) ++ [signaturePair signature]

/-- The text of a link that was signed. -/
theorem signLink_url {host : String} (target : parseTarget url = .ok (u, host))
    (signs : signer.signLink rawMethod url expires time = .ok link) :
    link.url = u.base ++ "?" ++ joinWith "&"
      ((linkQuery signer u expires time link.signature).map FormEncoded.written) := by
  obtain ⟨u', host', target', _, _, signature, text⟩ := signLink_eq_ok signs
  obtain ⟨rfl, rfl⟩ := Prod.mk.inj (Except.ok.inj (target.symm.trans target'))
  have some_ : queryPairs u ++ signer.linkPairs expires time ≠ [] :=
    List.append_ne_nil_of_right_ne_nil _ (linkPairs_ne_nil _ _ _)
  have whole := query_concat some_ signer time.date link.stringToSign
  rw [← signature, String.append_assoc] at whole
  rw [text, String.append_assoc, String.append_assoc, whole, linkQuery]

/-- A link that lasts for up to a week is signed for every URL that names a host. -/
theorem exists_signLink {host : String} (named : allBlank rawMethod = false) (lasts : expires ≠ 0)
    (ends : expires.toNat ≤ maxLinkSeconds) (target : parseTarget url = .ok (u, host)) :
    ∃ link, signer.signLink rawMethod url expires time = .ok link := by
  have method : Signer.method rawMethod = .ok (trim rawMethod) := by
    rw [Signer.method, named, if_neg Bool.false_ne_true]
  rw [Signer.signLink, method, target]
  simp only [decide_eq_false lasts, decide_eq_false (Nat.not_lt.2 ends), Bool.or_false,
    Bool.false_eq_true, if_false]
  exact ⟨_, rfl⟩

/-- A link verifies itself, whatever the method, the query and the fragment of the URL that it was
signed for: it names the same path and the same pairs besides its own, and the canonical request
that is rebuilt from it is the one that was signed. The host and the port of the URL, written
without query and fragment, are assumed to be read as they are. -/
theorem signLink_verifies (signs : signer.signLink rawMethod url expires time = .ok link)
    (reads : Url.parse url = .ok u) (web : Url.IsWeb u.scheme.toList)
    (stable : ∃ v, Url.parse u.base = .ok v ∧ v.host? = u.host? ∧ v.port? = u.port?) :
    ∃ read host rest, link.Verifies signer rawMethod time read host rest ∧
      read.path = u.path ∧ rest.Perm (queryPairs u ++ signer.linkPairs expires time) := by
  obtain ⟨u', host, target, request, text, signature, _⟩ := signLink_eq_ok signs
  obtain ⟨reads', named, isNamed, isHost⟩ := parseTarget_eq_ok_iff.1 target
  obtain rfl : u' = u := Except.ok.inj (reads'.symm.trans reads)
  obtain ⟨v, plain, sameHost, samePort⟩ := stable
  obtain ⟨read, reading, hostRead, portRead, path, query⟩ :=
    Url.parse_withQuery reads web plain
      (isQuery_join (linkQuery signer u' expires time link.signature))
  rw [← signLink_url target signs] at reading
  rw [← portRead.trans samePort] at isHost
  refine ⟨read, host, inOrder (queryPairs u' ++ signer.linkPairs expires time),
    ⟨reading, ⟨named, (hostRead.trans sameHost).trans isNamed, ?_⟩, ?_, ?_, text, signature⟩, path,
    inOrder_perm _⟩
  · rw [isHost]
    cases read.port? <;> rfl
  · rw [queryPairs, query]
    exact FormEncoded.decode_join _
  · rw [path, canonicalQuery_inOrder]
    exact request

/-- A link for a URL with a name, a port, a query of its own and a fragment. -/
theorem signLink_verifies_ownQuery :
    let signer : Signer :=
      { accessKey := "AKIDEXAMPLE", secretKey := "SECRET", sessionToken := some "a+b/c="
        region := "us-east-1", service := "s3" }
    let time : Timestamp := { stamp := "20130524T000000Z", date := "20130524" }
    let url := "HTTPS://ann@Example.com:8443/a/../c d?b=2&a=+x%FF&b&X-Amz-Date=z#end"
    let u : Url :=
      { scheme := "https"
        authority := some { username := "ann", host := .name "example.com", port := some 8443 }
        path := "/c%20d", query := some "b=2&a=+x%FF&b&X-Amz-Date=z", fragment := some "end" }
    ∃ link, signer.signLink " GET " url 600 time = .ok link ∧
      Url.parse url = .ok u ∧ Url.IsWeb u.scheme.toList ∧
      (∃ v, Url.parse u.base = .ok v ∧ v.host? = u.host? ∧ v.port? = u.port?) ∧
      ∃ read host rest, link.Verifies signer " GET " time read host rest ∧
        read.path = u.path ∧ rest.Perm (queryPairs u ++ signer.linkPairs 600 time) := by
  intro signer time url u
  have reads : Url.parse url = .ok u := by decide +kernel
  have target : parseTarget url = .ok (u, "example.com:8443") :=
    parseTarget_eq_ok_iff.2 ⟨reads, .name "example.com", rfl, by decide +kernel⟩
  have web : Url.IsWeb u.scheme.toList := .inr rfl
  have plain : Url.parse u.base = .ok { u with query := none, fragment := none } := by
    decide +kernel
  obtain ⟨link, signs⟩ : ∃ link, signer.signLink " GET " url 600 time = .ok link :=
    exists_signLink (by decide) (by decide) (by decide) target
  have stable : ∃ v, Url.parse u.base = .ok v ∧ v.host? = u.host? ∧ v.port? = u.port? :=
    ⟨_, plain, rfl, rfl⟩
  exact ⟨link, signs, reads, web, stable, signLink_verifies signs reads web stable⟩

end ArchiveAccounts.Signing
