import ArchiveAccounts.Proofs.Signing.Link

/-!
# Parameters in a canonical query

A canonical query is made of the parameters and of nothing else: neither their order nor the way in
which they were escaped is in it, and no two lists of other parameters share one. Main statement:
`canonicalQuery_identifies`.
-/

namespace ArchiveAccounts.Signing
set_option autoImplicit false

open Text

/-! ## One order for each list of pairs -/

instance : Std.LawfulEqCmp comparePairs where
  eq_of_compare {a b} h := by
    have h : (compare a.1 b.1).then (compare a.2 b.2) = .eq := h
    simp only [Ordering.then_eq_eq, Std.compare_eq_iff_eq] at h
    exact Prod.ext h.1 h.2

theorem pairLe_antisymm {a b : String × String} (ab : pairLe a b = true)
    (ba : pairLe b a = true) : a = b := by
  rw [pairLe_eq] at ab ba
  exact Std.LawfulEqCmp.eq_of_compare (Std.OrientedCmp.isLE_antisymm ab ba)

/-- A pair is read from its strict form. -/
theorem escapePair_inj {a b : String × String} (same : escapePair a = escapePair b) : a = b := by
  obtain ⟨name, value⟩ := Prod.mk.inj same
  exact Prod.ext (Percent.encode_injective .encoded name) (Percent.encode_injective .encoded value)

theorem writtenLe_antisymm {a b : String × String} (ab : writtenLe a b = true)
    (ba : writtenLe b a = true) : a = b :=
  escapePair_inj (pairLe_antisymm ab ba)

theorem pairwise_inOrder (pairs : List (String × String)) :
    (inOrder pairs).Pairwise fun a b => writtenLe a b = true := by
  apply List.pairwise_mergeSort
  · exact fun a b c => pairLe_trans (a := escapePair a) (b := escapePair b) (c := escapePair c)
  · exact fun a b => pairLe_total (escapePair a) (escapePair b)

/-- The order of a canonical query does not depend on the order of the pairs. -/
theorem inOrder_eq_iff {p q : List (String × String)} : inOrder p = inOrder q ↔ q.Perm p := by
  constructor
  · intro same
    have back := inOrder_perm q
    rw [← same] at back
    exact back.symm.trans (inOrder_perm p)
  · intro perm
    have both : (inOrder p).Perm (inOrder q) :=
      (inOrder_perm p).trans (perm.symm.trans (inOrder_perm q).symm)
    exact both.eq_of_pairwise (fun a b _ _ => writtenLe_antisymm) (pairwise_inOrder p)
      (pairwise_inOrder q)

/-! ## What a canonical query says -/

/-- A canonical query reads as its parameters in order. -/
theorem decode_canonicalQuery (pairs : List (String × String)) :
    FormEncoded.decode (canonicalQuery pairs).toList = inOrder pairs := by
  rw [canonicalQuery_eq]
  exact FormEncoded.decode_join _

theorem canonicalQuery_eq_iff {p q : List (String × String)} :
    canonicalQuery p = canonicalQuery q ↔ q.Perm p := by
  rw [← inOrder_eq_iff]
  constructor
  · intro same
    rw [← decode_canonicalQuery p, same, decode_canonicalQuery]
  · intro same
    rw [canonicalQuery_eq, same, ← canonicalQuery_eq]

/-! ## Requests -/

/-- Whether two URLs name the same place and ask for the same parameters, in any order. -/
structure AsksAlike (u v : Url) : Prop where
  base : v.base = u.base
  path : v.path = u.path
  pairs : (queryPairs v).Perm (queryPairs u)

section Requests

variable {url other host : String} {u v : Url} (alike : AsksAlike u v)
  (target : parseTarget url = .ok (u, host)) (targetOther : parseTarget other = .ok (v, host))
  (signer : Signer) (rawMethod : String) (time : Timestamp)

include alike target targetOther

theorem sign_alike (headers : SortedMap String String) (payload : List UInt8) :
    signer.sign rawMethod other headers payload time
      = signer.sign rawMethod url headers payload time := by
  have query : canonicalQuery (queryPairs v) = canonicalQuery (queryPairs u) :=
    canonicalQuery_eq_iff.2 alike.pairs.symm
  rw [Signer.sign, Signer.sign, target, targetOther]
  simp only [bind, Except.bind, alike.path, query]

theorem signLink_alike (expires : Counter) :
    signer.signLink rawMethod other expires time = signer.signLink rawMethod url expires time := by
  have query : canonicalQuery (queryPairs v ++ signer.linkPairs expires time)
      = canonicalQuery (queryPairs u ++ signer.linkPairs expires time) :=
    canonicalQuery_eq_iff.2 (alike.pairs.symm.append_right _)
  rw [Signer.signLink, Signer.signLink, target, targetOther]
  simp only [bind, Except.bind, alike.base, alike.path, query]

end Requests

/-- Two lists of parameters have the same canonical query exactly if they hold the same parameters,
each as often. The query reads as these parameters, and what is read has that query again. So URLs
that only write the parameters in another way are signed alike, in their headers as in links. -/
theorem canonicalQuery_identifies :
    (∀ p q, canonicalQuery p = canonicalQuery q ↔ q.Perm p) ∧
    (∀ p, (FormEncoded.decode (canonicalQuery p).toList).Perm p ∧
      canonicalQuery (FormEncoded.decode (canonicalQuery p).toList) = canonicalQuery p) ∧
    ∀ url other u v host, parseTarget url = .ok (u, host) → parseTarget other = .ok (v, host) →
      AsksAlike u v → ∀ (signer : Signer) rawMethod time,
        (∀ headers payload, signer.sign rawMethod other headers payload time
          = signer.sign rawMethod url headers payload time) ∧
        ∀ expires, signer.signLink rawMethod other expires time
          = signer.signLink rawMethod url expires time := by
  refine ⟨fun p q => canonicalQuery_eq_iff, ?_, ?_⟩
  · intro p
    rw [decode_canonicalQuery]
    exact ⟨inOrder_perm p, canonicalQuery_inOrder p⟩
  · intro url other u v host target targetOther alike signer rawMethod time
    exact ⟨sign_alike alike target targetOther signer rawMethod time,
      signLink_alike alike target targetOther signer rawMethod time⟩

/-- A signer without a token. -/
def signerWithoutToken : Signer where
  accessKey := "AKID"
  secretKey := "SECRET"
  region := "us-east-1"
  service := "s3"

/-- Names and values with signs of the query itself, in another order and with other escapes. -/
theorem canonicalQuery_identifies_reordered :
    let url := "http://minio:9000/a?b=%26%3D&a=+%2B&b&b=%25#top"
    let other := "HTTP://minio:9000/x/../a?&%62=&b=%26=&b=%&a=%20%2b"
    let u : Url :=
      { scheme := "http", authority := some { host := .name "minio", port := some 9000 }
        path := "/a", query := some "b=%26%3D&a=+%2B&b&b=%25", fragment := some "top" }
    let v : Url := { u with query := some "&%62=&b=%26=&b=%&a=%20%2b", fragment := none }
    parseTarget url = .ok (u, "minio:9000") ∧ parseTarget other = .ok (v, "minio:9000") ∧
      AsksAlike u v ∧
      ∀ time, signerWithoutToken.signLink "GET" other 600 time
        = signerWithoutToken.signLink "GET" url 600 time := by
  intro url other u v
  have target : parseTarget url = .ok (u, "minio:9000") := by decide +kernel
  have targetOther : parseTarget other = .ok (v, "minio:9000") := by decide +kernel
  have alike : AsksAlike u v := ⟨by decide +kernel, rfl, by decide +kernel⟩
  obtain ⟨_, _, signed⟩ := canonicalQuery_identifies
  refine ⟨target, targetOther, alike, fun time => ?_⟩
  exact (signed url other u v _ target targetOther alike signerWithoutToken "GET" time).2 600

end ArchiveAccounts.Signing
