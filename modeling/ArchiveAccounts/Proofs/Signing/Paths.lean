import ArchiveAccounts.Proofs.Signing.CanonicalHeaders

/-!
# Paths that are signed

A text is escaped once: it is read from its strict form, whatever escapes it seems to hold itself, so
that object storage signs a path as it is written exactly if its names are written in that form.
Main statement: `paths_escapedOnce`.
-/

namespace ArchiveAccounts.Signing
set_option autoImplicit false

open Text

/-- Whether a canonical request begins with a line for the method and one for the path. -/
def BeginsWith (request method path : String) : Prop :=
  ∃ rest, request = method ++ "\n" ++ path ++ "\n" ++ rest

theorem beginsWith_join (method path line : String) (lines : List String) :
    BeginsWith (joinWith "\n" (method :: path :: line :: lines)) method path := by
  refine ⟨joinWith "\n" (line :: lines), ?_⟩
  simp only [joinWith, String.intercalate_cons_cons, String.append_assoc]

/-! ## Paths of objects -/

theorem canonicalPath_slash (names : String) : canonicalPath "s3" ("/" ++ names)
    = "/" ++ Percent.encode .kept (Percent.decode names) := by
  have slash : Percent.encode .kept "/" = "/" := by decide +kernel
  have some_ : "/" ++ names ≠ "" := by
    rw [Ne, String.append_eq_empty_iff]
    exact fun empty => absurd empty.1 (by decide)
  have read := Percent.decode_encode_append .kept "/" names
  rw [slash] at read
  rw [canonicalPath, if_neg some_, if_pos rfl, read, Percent.encode_append, slash]

/-- Object storage signs a path as it is written exactly if the names in it are a strict form. -/
theorem canonicalPath_eq_self_iff {names : String} :
    canonicalPath "s3" ("/" ++ names) = "/" ++ names ↔ ∃ s, names = Percent.encode .kept s := by
  rw [canonicalPath_slash, String.append_right_inj]
  constructor
  · exact fun same => ⟨Percent.decode names, same.symm⟩
  · rintro ⟨s, rfl⟩
    rw [Percent.decode_encode]

section Requests

variable {signer : Signer} {rawMethod url host : String} {u : Url}
  (target : parseTarget url = .ok (u, host))

include target

theorem beginsWith_of_sign {headers : SortedMap String String} {payload : List UInt8}
    {time : Timestamp} {r : SignedRequest}
    (signs : signer.sign rawMethod url headers payload time = .ok r) :
    BeginsWith r.canonicalRequest (trim rawMethod) (canonicalPath signer.service u.path) := by
  obtain ⟨u', target', text⟩ := canonicalRequest_of_sign signs
  obtain rfl := (Prod.mk.inj (Except.ok.inj (target.symm.trans target'))).1
  rw [text]
  exact beginsWith_join _ _ _ _

theorem beginsWith_of_signLink {expires : Counter} {time : Timestamp} {link : SignedLink}
    (signs : signer.signLink rawMethod url expires time = .ok link) :
    BeginsWith link.canonicalRequest (trim rawMethod) (canonicalPath signer.service u.path) := by
  obtain ⟨u', host', target', text, _⟩ := signLink_eq_ok signs
  obtain rfl := (Prod.mk.inj (Except.ok.inj (target.symm.trans target'))).1
  rw [text, Signer.linkRequest]
  exact beginsWith_join _ _ _ _

end Requests

/-- A text is read from its strict form, with slashes kept or escaped, so that no two texts share one
and a strict form that is read and escaped again is the same. Where a signer for object storage is
given a URL with a slash and names as its path, the path is signed as it is written exactly if the
names are a strict form, and then it is the second line of what is signed, in requests as in
links. -/
theorem paths_escapedOnce :
    (∀ slash s, Percent.decode (Percent.encode slash s) = s) ∧
    (∀ slash, Function.Injective (Percent.encode slash)) ∧
    (∀ slash s, Percent.encode slash (Percent.decode (Percent.encode slash s))
      = Percent.encode slash s) ∧
    ∀ (signer : Signer) (u : Url) (names : String), signer.service = "s3" →
      u.path = "/" ++ names →
      (canonicalPath signer.service u.path = u.path ↔ ∃ s, names = Percent.encode .kept s) ∧
      ((∃ s, names = Percent.encode .kept s) → ∀ url host, parseTarget url = .ok (u, host) →
        (∀ rawMethod headers payload time r,
          signer.sign rawMethod url headers payload time = .ok r →
            BeginsWith r.canonicalRequest (trim rawMethod) u.path) ∧
        ∀ rawMethod expires time link,
          signer.signLink rawMethod url expires time = .ok link →
            BeginsWith link.canonicalRequest (trim rawMethod) u.path) := by
  refine ⟨Percent.decode_encode, Percent.encode_injective, ?_, ?_⟩
  · intro slash s
    rw [Percent.decode_encode]
  · intro signer u names storage isPath
    have whole : canonicalPath signer.service u.path = u.path
        ↔ ∃ s, names = Percent.encode .kept s := by
      rw [storage, isPath]
      exact canonicalPath_eq_self_iff
    refine ⟨whole, fun strict url host target => ⟨?_, ?_⟩⟩
    · intro rawMethod headers payload time r signs
      have begins := beginsWith_of_sign target signs
      rwa [whole.2 strict] at begins
    · intro rawMethod expires time link signs
      have begins := beginsWith_of_signLink target signs
      rwa [whole.2 strict] at begins

/-- A name that looks escaped already, with a character of two bytes and an escape at its end. -/
theorem paths_escapedOnce_escapesInName :
    let signer : Signer :=
      { accessKey := "AKID", secretKey := "SECRET", region := "us-east-1", service := "s3" }
    let time : Timestamp := { stamp := "20130524T000000Z", date := "20130524" }
    let url := "https://b.example/org-1/my%20file%252F%C3%A9.wacz%25"
    let u : Url :=
      { scheme := "https", authority := some { host := .name "b.example" }
        path := "/org-1/my%20file%252F%C3%A9.wacz%25" }
    signer.service = "s3" ∧ u.path = "/" ++ "org-1/my%20file%252F%C3%A9.wacz%25" ∧
      parseTarget url = .ok (u, "b.example") ∧
      "org-1/my%20file%252F%C3%A9.wacz%25" = Percent.encode .kept "org-1/my file%2Fé.wacz%" ∧
      canonicalPath signer.service u.path = u.path ∧
      ∃ link, signer.signLink "GET" url 60 time = .ok link ∧
        BeginsWith link.canonicalRequest "GET" "/org-1/my%20file%252F%C3%A9.wacz%25" := by
  intro signer time url u
  have target : parseTarget url = .ok (u, "b.example") := by decide +kernel
  have isPath : u.path = "/" ++ "org-1/my%20file%252F%C3%A9.wacz%25" := by decide
  have strict : "org-1/my%20file%252F%C3%A9.wacz%25"
      = Percent.encode .kept "org-1/my file%2Fé.wacz%" := by decide +kernel
  obtain ⟨_, _, _, paths⟩ := paths_escapedOnce
  obtain ⟨whole, begins⟩ := paths signer u _ rfl isPath
  obtain ⟨_, links⟩ := begins ⟨_, strict⟩ url _ target
  obtain ⟨link, signs⟩ : ∃ link, signer.signLink "GET" url 60 time = .ok link :=
    exists_signLink (by decide) (by decide) (by decide) target
  exact ⟨rfl, isPath, target, strict, whole.2 ⟨_, strict⟩, link, signs,
    links "GET" 60 time link signs⟩

end ArchiveAccounts.Signing
