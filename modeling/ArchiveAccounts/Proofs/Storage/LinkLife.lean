import ArchiveAccounts.Proofs.Calendar.RoundTrip
import ArchiveAccounts.Proofs.Storage.KeySpace
import ArchiveAccounts.Proofs.Url.Query
import ArchiveAccounts.Service.Links

/-!
# How long links are accepted

A link says in its query from when on it is accepted, and for how many seconds; it is used until the
end that is kept with it. Main statements: `mintedUntil_of_link`, what a link that was signed says,
and `instant_linkEnd_le_iff`, when it is not used after that.
-/

namespace ArchiveAccounts
set_option autoImplicit false

open Text Calendar Signing

/-! ## Stamps -/

namespace Calendar

theorem natAbs_yearOfDay_lt {day : Int} (first : firstSecond / 86400 ≤ day)
    (last : day ≤ lastSecond / 86400) : (yearOfDay day).natAbs < 10 ^ (3 + 1) := by
  obtain ⟨start, stop⟩ := daysBeforeYear_yearOfDay day
  simp only [daysBeforeYear, firstSecond, lastSecond] at *
  omega

end Calendar

namespace Signing

/-- The sign of a year and its digits. -/
def spanSign : List Char → Int × List Char
  | '-' :: rest => (-1, rest)
  | s => (1, s)

/-- The second that a stamp such as `20240501T120000Z` writes. -/
def secondOfStamp? (stamp : String) : Option Int := do
  let (sign, rest) := spanSign stamp.toList
  let (year, rest) ← Rfc3339.digits? 0 4 rest
  let (month, rest) ← Rfc3339.digits? 0 2 rest
  let (day, rest) ← Rfc3339.digits? 0 2 rest
  let rest ← Rfc3339.expect? 'T' rest
  let (hour, rest) ← Rfc3339.digits? 0 2 rest
  let (minute, rest) ← Rfc3339.digits? 0 2 rest
  let (second, rest) ← Rfc3339.digits? 0 2 rest
  let rest ← Rfc3339.expect? 'Z' rest
  if rest.isEmpty then
    some (Date.toDay ⟨sign * year, month, day⟩ * 86400
      + (hour * 3600 + minute * 60 + second : Nat))
  else none

theorem spanSign_year (year : Int) (rest : List Char) :
    spanSign (Timestamp.year year ++ rest)
      = (if year < 0 then -1 else 1, Decimal.padded 4 year.natAbs ++ rest) := by
  rw [Timestamp.year]
  split
  · rfl
  · rw [List.nil_append]
    have digits : ∀ c ∈ Decimal.padded 4 year.natAbs, c.isDigit = true :=
      fun c => Decimal.isDigit_of_mem_padded
    rw [spanSign.eq_def]
    split
    · next starts =>
      cases written : Decimal.padded 4 year.natAbs with
      | nil => exact absurd (List.append_eq_nil_iff.1 written).2 (Decimal.digits_ne_nil _)
      | cons c more =>
        rw [written] at starts digits
        obtain rfl := (List.cons.inj starts).1
        exact absurd (digits '-' List.mem_cons_self) (by decide)
    · rfl

/-- The stamp of a moment of the calendar writes its second. -/
theorem secondOfStamp?_ofMoment {m : Moment} (dated : m.isInUtcCalendar = true) :
    secondOfStamp? (Timestamp.ofMoment m).stamp = some m.seconds := by
  obtain ⟨first, last⟩ := Bool.and_eq_true_iff.1 dated
  have isShown : m.inUtc.shown = m.seconds := Int.add_zero _
  have first : firstSecond ≤ m.inUtc.shown := isShown ▸ of_decide_eq_true first
  have last : m.inUtc.shown ≤ lastSecond := isShown ▸ of_decide_eq_true last
  obtain ⟨_, sameDay, month, day⟩ := Date.ofDay_spec (m.inUtc.shown / 86400)
  have year : m.inUtc.date.year.natAbs < 10 ^ (3 + 1) :=
    natAbs_yearOfDay_lt (Int.ediv_le_ediv (by decide) first) (Int.ediv_le_ediv (by decide) last)
  have month : m.inUtc.date.month < 10 ^ (1 + 1) := Nat.lt_of_le_of_lt month (by decide)
  have day : m.inUtc.date.day < 10 ^ (1 + 1) := Nat.lt_of_le_of_lt day (by decide)
  have time : m.inUtc.secondOfDay < 86400 := by
    rw [Moment.secondOfDay]
    omega
  have hour : m.inUtc.secondOfDay / 3600 < 10 ^ (1 + 1) := by omega
  have minute : m.inUtc.secondOfDay / 60 % 60 < 10 ^ (1 + 1) := by omega
  have second : m.inUtc.secondOfDay % 60 < 10 ^ (1 + 1) := by omega
  have sameYear : (if m.inUtc.date.year < 0 then -1 else 1) * (m.inUtc.date.year.natAbs : Int)
      = m.inUtc.date.year := by
    split <;> omega
  have value : m.inUtc.date.toDay * 86400 + (m.inUtc.secondOfDay / 3600 * 3600
      + m.inUtc.secondOfDay / 60 % 60 * 60 + m.inUtc.secondOfDay % 60 : Nat) = m.seconds := by
    rw [Moment.date, sameDay]
    simp only [Moment.secondOfDay] at time ⊢
    omega
  rw [secondOfStamp?, Timestamp.ofMoment, String.toList_ofList]
  simp only [List.append_assoc, List.cons_append, spanSign_year, Option.bind_eq_bind,
    Rfc3339.digits?_padded _ year, Rfc3339.digits?_padded _ month, Rfc3339.digits?_padded _ day,
    Rfc3339.digits?_padded _ hour, Rfc3339.digits?_padded _ minute,
    Rfc3339.digits?_padded _ second, Rfc3339.expect?, Option.bind_some, if_true,
    List.isEmpty_nil, sameYear, value]

/-! ## What a link says -/

/-- When the pairs of a query say that a link is no longer accepted: so many seconds after its date,
counted from 1970-01-01T00:00:00Z. -/
def acceptedUntil? (pairs : List (String × String)) : Option Int := do
  let start ← secondOfStamp? (← pairs.lookup "X-Amz-Date")
  let seconds ← Decimal.number? (← pairs.lookup "X-Amz-Expires").toList
  return start + seconds

/-- The pairs in the query of a link, which is what follows its last question mark. -/
def pairsOfLink (text : String) : List (String × String) :=
  FormEncoded.decode ((splitAt '?' text.toList).getLast (splitAt_ne_nil _ _))

theorem lookup_eq_some {pairs : List (String × String)} {name value : String}
    (mem : (name, value) ∈ pairs) (only : ∀ other, (name, other) ∈ pairs → other = value) :
    pairs.lookup name = some value := by
  induction pairs with
  | nil => exact nomatch mem
  | cons first pairs ih =>
    obtain ⟨key, other⟩ := first
    by_cases same : name = key
    · subst same
      rw [List.lookup_cons_self, only other List.mem_cons_self]
    · rw [List.lookup_cons, beq_eq_false_iff_ne.2 same]
      rcases List.mem_cons.1 mem with here | later
      · exact absurd (congrArg Prod.fst here) same
      · exact ih later fun other mem => only other (List.mem_cons_of_mem _ mem)

section Pairs

variable (signer : Signer) (expires : Counter) (time : Timestamp) (signature : String)

/-- What a link says besides the query of its URL. -/
def ownPairs : List (String × String) :=
  signer.linkPairs expires time ++ [signaturePair signature]

theorem mem_ownPairs_date_iff (value : String) :
    ("X-Amz-Date", value) ∈ ownPairs signer expires time signature ↔ value = time.stamp := by
  simp [ownPairs, Signer.linkPairs, signaturePair]

theorem mem_ownPairs_expires_iff (value : String) :
    ("X-Amz-Expires", value) ∈ ownPairs signer expires time signature
      ↔ value = String.ofList (Decimal.digits expires.toNat) := by
  simp [ownPairs, Signer.linkPairs, signaturePair]

theorem linkQuery_perm (u : Url) : (linkQuery signer u expires time signature).Perm
    (queryPairs u ++ ownPairs signer expires time signature) := by
  rw [linkQuery, ownPairs, ← List.append_assoc]
  exact (inOrder_perm _).append_right _

end Pairs

/-- Pairs with a date and seconds of which no other ones are there say when they end, in whatever
order they are. -/
theorem acceptedUntil?_of_perm {signer : Signer} {expires : Counter} {m : Moment}
    {signature : String} {pairs : List (String × String)} (dated : m.isInUtcCalendar = true)
    (same : pairs.Perm (ownPairs signer expires (.ofMoment m) signature)) :
    acceptedUntil? pairs = some (m.seconds + expires.toNat) := by
  have date : pairs.lookup "X-Amz-Date" = some (Timestamp.ofMoment m).stamp :=
    lookup_eq_some (same.mem_iff.2 ((mem_ownPairs_date_iff ..).2 rfl)) fun other mem =>
      (mem_ownPairs_date_iff ..).1 (same.mem_iff.1 mem)
  have seconds : pairs.lookup "X-Amz-Expires"
      = some (String.ofList (Decimal.digits expires.toNat)) :=
    lookup_eq_some (same.mem_iff.2 ((mem_ownPairs_expires_iff ..).2 rfl)) fun other mem =>
      (mem_ownPairs_expires_iff ..).1 (same.mem_iff.1 mem)
  simp only [acceptedUntil?, date, seconds, Option.bind_eq_bind, Option.bind_some,
    secondOfStamp?_ofMoment dated, String.toList_ofList, Decimal.number?_digits]
  rfl

end Signing

namespace ObjectStorage

variable {storage : ObjectStorage} {orgId filename text : String}

/-- A link to a file that is accepted until some second: among the pairs of its query, besides those
that the URL of the file has itself, are a date and the seconds from then on. Where the URL has no
query of its own they can be read off the link. -/
structure MintedUntil (storage : ObjectStorage) (orgId filename text : String) (ends : Int) :
    Prop where
  isQuery : ∃ (u : Url) (host : String) (pairs own : List (String × String)),
    parseTarget (storage.url orgId filename) = .ok (u, host) ∧
    text = publicUrl storage.settings
      (u.base ++ "?" ++ joinWith "&" (pairs.map FormEncoded.written)) ∧
    pairs.Perm (queryPairs u ++ own) ∧ acceptedUntil? own = some ends
  reads : '?' ∉ (storage.url orgId filename).toList → acceptedUntil? (pairsOfLink text) = some ends

/-- The public address leaves the query of a link alone, if there is no question mark in what it
takes the place of. -/
theorem publicUrl_query {settings : StorageSettings} (base query : String)
    (free : '?' ∉ (withoutEnd settings.endpoint).toList) :
    ∃ front, publicUrl settings (base ++ "?" ++ query) = front ++ "?" ++ query := by
  rw [publicUrl]
  split
  · exact ⟨base, rfl⟩
  · next access _ =>
    split
    · next rest starts =>
      rw [dropLead?_eq_some_iff, String.toList_append, String.toList_append, List.append_assoc]
        at starts
      have kept : ∃ front, rest = front ++ '?' :: query.toList := by
        rcases List.append_eq_append_iff.1 starts with ⟨more, within, tail⟩ | ⟨more, _, tail⟩
        · cases more with
          | nil => exact ⟨[], tail.symm⟩
          | cons c more =>
            obtain rfl : '?' = c := (List.cons.inj tail).1
            exact absurd (within ▸ List.mem_append_right _ List.mem_cons_self) free
        · exact ⟨more, tail⟩
      obtain ⟨front, rfl⟩ := kept
      refine ⟨withoutEnd access ++ String.ofList front, ?_⟩
      apply String.toList_inj.1
      simp
    · exact ⟨base, rfl⟩

theorem pairsOfLink_append (front : String) (pairs : List (String × String)) :
    pairsOfLink (front ++ "?" ++ joinWith "&" (pairs.map FormEncoded.written)) = pairs := by
  have free : '?' ∉ (joinWith "&" (pairs.map FormEncoded.written)).toList := by
    intro mem
    rcases mem_join mem with amp | equals | strict
    · exact absurd amp (by decide)
    · exact absurd equals (by decide)
    · exact absurd strict (by decide)
  have text : (front ++ "?" ++ joinWith "&" (pairs.map FormEncoded.written)).toList
      = front.toList ++ '?' :: (joinWith "&" (pairs.map FormEncoded.written)).toList := by
    rw [String.toList_append, String.toList_append, List.append_assoc]
    rfl
  simp only [pairsOfLink, text, splitAt_append, splitAt_of_not_mem free,
    List.getLast_append_singleton]
  exact FormEncoded.decode_join pairs

/-- When a link that is signed now for some seconds is no longer accepted. -/
def linkAcceptedUntil (now : Moment) (seconds : Counter) : Int :=
  now.seconds + (linkExpiry seconds).toNat

/-- Links that are signed say when they end. -/
theorem mintedUntil_of_link {now : Moment} {seconds : Counter}
    (mints : storage.link now orgId filename seconds = .ok text) :
    storage.MintedUntil orgId filename text (linkAcceptedUntil now seconds) := by
  obtain ⟨dated, link, signs, rfl⟩ := link_eq_ok mints
  obtain ⟨u, host, target, _⟩ := signLink_eq_ok signs
  have perm := linkQuery_perm storage.signer (linkExpiry seconds) (.ofMoment now) link.signature u
  rw [signLink_url target signs]
  refine ⟨⟨u, host, _, _, target, rfl, perm, ?_⟩, fun free => ?_⟩
  · exact acceptedUntil?_of_perm dated (.refl _)
  · have noQuery : queryPairs u = [] := by
      rw [queryPairs, Url.query_eq_none_of_parse free (parseTarget_eq_ok_iff.1 target).1]
    have endpoint : '?' ∉ (withoutEnd storage.settings.endpoint).toList := by
      intro mem
      rw [url_eq, String.toList_append] at free
      exact free (List.mem_append_left _ mem)
    obtain ⟨front, shown⟩ := publicUrl_query u.base _ endpoint
    rw [noQuery] at perm
    rw [shown, pairsOfLink_append]
    exact acceptedUntil?_of_perm dated perm

/-! ## When links end -/

/-- Whether a link is used for a week at the most, or the calendar ends within a week. -/
def UsedInTime (now : Moment) (seconds : Counter) : Prop :=
  seconds.toNat ≤ maxLinkSeconds ∨ lastSecond < now.shown + maxLinkSeconds

instance (now : Moment) (seconds : Counter) : Decidable (UsedInTime now seconds) :=
  inferInstanceAs (Decidable (_ ∨ _))

theorem instant_linkEnd {now : Moment} (shows : firstSecond ≤ now.shown) (seconds : Counter) :
    (linkEnd now seconds).instant
      = if now.shown + seconds.toSigned ≤ lastSecond then
          (now.seconds + seconds.toSigned) * 1000000000 + now.nanos
        else (lastSecond - now.offset) * 1000000000 + 999999999 := by
  have signed : (seconds.toSigned.toNat : Int) = seconds.toSigned := by
    rw [Counter.toSigned, Counter.maxSigned]
    omega
  rw [linkEnd, Moment.addSecondsCapped, Moment.addSeconds?, signed]
  by_cases fits : now.shown + seconds.toSigned ≤ lastSecond
  · rw [if_pos ⟨by omega, fits⟩, if_pos fits]
    rfl
  · rw [if_neg fun both => fits both.2, if_neg fits]
    rfl

/-- Exactly then a link is not used after the storage stops accepting it, on a clock that shows a
whole second of the calendar. -/
theorem instant_linkEnd_le_iff {now : Moment} (whole : now.nanos = 0)
    (shows : firstSecond ≤ now.shown) (seconds : Counter) :
    (linkEnd now seconds).instant ≤ linkAcceptedUntil now seconds * 1000000000
      ↔ UsedInTime now seconds := by
  have used : seconds.toSigned = min (seconds.toNat : Int) 9223372036854775807 := rfl
  have accepted := toNat_linkExpiry seconds
  rw [instant_linkEnd shows, linkAcceptedUntil, UsedInTime, whole]
  simp only [maxLinkSeconds] at accepted ⊢
  split
  · omega
  · simp only [Moment.shown] at *
    omega

end ObjectStorage

/-- Settings ask for less than a week. -/
theorem Settings.toNat_linkSeconds_le {settings : Settings} {env : Environment} {seconds : Counter}
    (asked : settings.linkSeconds env = .ok seconds) : seconds.toNat ≤ maxLinkSeconds := by
  obtain ⟨minutes, _, asked⟩ := bind_eq_ok_iff.1 asked
  rw [← Except.ok.inj asked, ArchiveAccounts.linkSeconds, UInt64.toNat_ofNat', maxLinkSeconds]
  exact Nat.le_trans (Nat.mod_le _ _) (by omega)

end ArchiveAccounts
