import ArchiveAccounts.Proofs.Url.Printed

/-!
# Hosts that are written

The host of a URL is written in visible ASCII characters, whatever the scheme. Main statement:
`isVisible_of_parse_authority`.
-/

namespace ArchiveAccounts.Url
set_option autoImplicit false

open Text

/-- Whether a character is ASCII and neither a blank nor a control character. -/
def isVisible (c : Char) : Bool := decide (0x20 < c.toNat) && decide (c.toNat < 0x7F)

namespace Domain

theorem ascii_of_mem_writeLabel {label : List Char} {c : Char} (mem : c ∈ writeLabel label) :
    c.toNat < 0x80 := by
  rw [writeLabel] at mem
  split at mem
  · next ascii => exact of_decide_eq_true (List.all_eq_true.1 ascii c mem)
  · rcases List.mem_append.1 mem with mark | mem
    · have marks : ∀ c ∈ punycodeMark, c.toNat < 0x80 := List.all_iff_forall_prop.1 (by decide)
      exact marks c mark
    · rcases Punycode.mem_encode mem with ⟨_, ascii⟩ | rfl | ⟨n, small, rfl⟩
      · exact ascii
      · decide
      · have digits : ∀ n < 36, (Punycode.digit n).toNat < 0x80 := by decide +kernel
        exact digits n small

theorem isVisible_of_toAscii? {domain ascii : List Char} (writes : toAscii? domain = some ascii) :
    ∀ c ∈ ascii, isVisible c = true := by
  intro c mem
  have free := not_isForbidden_of_toAscii? writes c mem
  obtain ⟨form, _, writes⟩ := Option.bind_eq_some_iff.1 writes
  obtain ⟨labels, _, writes⟩ := Option.bind_eq_some_iff.1 writes
  split at writes
  · rw [← Option.some.inj writes] at mem
    have small : c.toNat < 0x80 := by
      rcases mem_intercalate mem with dot | ⟨written, among, inside⟩
      · rw [List.mem_singleton.1 dot]
        decide
      · obtain ⟨label, _, rfl⟩ := List.mem_map.1 among
        exact ascii_of_mem_writeLabel inside
    exact forall_ascii (P := fun c => isForbidden c = false → isVisible c = true)
      (by decide +kernel) small free
  · exact nomatch writes

end Domain

theorem isVisible_of_mem_addressChars : ∀ c ∈ addressChars, isVisible c = true :=
  List.all_iff_forall_prop.1 (by decide)

theorem isVisible_of_parseHost {s : List Char} {host : Host} (reads : parseHost s = .ok host) :
    ∀ c ∈ host.print.toList, isVisible c = true := by
  rw [parseHost.eq_def] at reads
  split at reads
  · split at reads
    · cases reads
    · next address _ =>
      cases found : Ipv6.parse? address with
      | none =>
        rw [found] at reads
        cases reads
      | some pieces =>
        rw [found] at reads
        rw [← Except.ok.inj reads, Host.print, String.toList_ofList]
        exact fun c mem => isVisible_of_mem_addressChars c (mem_addressChars_of_mem_ipv6Text mem)
  · split at reads
    · cases reads
    · next domain writes =>
      split at reads
      · cases reads
      · split at reads
        · cases found : Ipv4.parse? domain with
          | none =>
            rw [found] at reads
            cases reads
          | some address =>
            rw [found] at reads
            rw [← Except.ok.inj reads, Host.print, String.toList_ofList]
            exact fun c mem =>
              isVisible_of_mem_addressChars c (mem_addressChars_of_mem_ipv4Text mem)
        · rw [← Except.ok.inj reads, Host.print, String.toList_ofList]
          exact Domain.isVisible_of_toAscii? writes

theorem isVisible_of_parseOpaqueHost {s : List Char} {host : Host}
    (reads : parseOpaqueHost s = .ok host) : ∀ c ∈ host.print.toList, isVisible c = true := by
  rw [parseOpaqueHost.eq_def] at reads
  split at reads
  · exact isVisible_of_parseHost reads
  · obtain rfl := Except.ok.inj reads
    exact nofun
  · split at reads
    · exact nomatch reads
    · next allowed =>
      obtain rfl := Except.ok.inj reads
      rw [Host.print, String.toList_ofList]
      intro c mem
      have visible : ∀ c, isForbiddenInHost c = false → isControl c = false → c.toNat < 0x80 →
          isVisible c = true := fun c notForbidden notControl ascii =>
        forall_ascii (P := fun c => isForbiddenInHost c = false → isControl c = false →
          isVisible c = true) (by decide +kernel) ascii notForbidden notControl
      rcases Percent.mem_escape mem with ⟨inText, notControl, ascii⟩ | escape
      · refine visible c ?_ notControl ascii
        exact Bool.eq_false_iff.2 fun forbidden =>
          allowed (List.any_eq_true.2 ⟨c, inText, forbidden⟩)
      · have each : ∀ c ∈ Percent.escapeChars, isVisible c = true :=
          List.all_iff_forall_prop.1 (by decide)
        exact each c escape

theorem check_eq_ok_iff {β : Type} {p : Prop} [Decidable p] {e : UrlError}
    {f : PUnit → Except UrlError β} {b : β} :
    (if p then Except.error e >>= f else f ⟨⟩) = .ok b ↔ ¬p ∧ f ⟨⟩ = .ok b := by
  split
  · next refused => exact ⟨nofun, fun passed => absurd refused passed.1⟩
  · next passed => exact ⟨fun done => ⟨passed, done⟩, fun both => both.2⟩

theorem ite_bind_eq_ok_iff {α β : Type} {p : Prop} [Decidable p] {x y : Except UrlError α}
    {f : α → Except UrlError β} {b : β} :
    (if p then x >>= f else y >>= f) = .ok b
      ↔ ∃ a, (if p then x else y) = .ok a ∧ f a = .ok b := by
  split
  · exact bind_eq_ok_iff
  · exact bind_eq_ok_iff

theorem mem_of_spanPort {s after : List Char} {n port : Nat}
    (reads : spanPort n s = .ok (port, after)) : ∀ c ∈ after, c ∈ s := by
  induction s generalizing n with
  | nil =>
    obtain rfl : [] = after := congrArg Prod.snd (Except.ok.inj reads)
    exact fun c mem => mem
  | cons d rest ih =>
    rw [spanPort] at reads
    split at reads
    · split at reads
      · cases reads
      · exact fun c mem => List.mem_cons_of_mem d (ih reads c mem)
    · split at reads
      · obtain rfl : d :: rest = after := congrArg Prod.snd (Except.ok.inj reads)
        exact fun c mem => mem
      · cases reads

theorem mem_of_parsePort {scheme s after : List Char} {port : Option Nat}
    (reads : parsePort scheme s = .ok (port, after)) : ∀ c ∈ after, c ∈ s := by
  rw [parsePort] at reads
  obtain ⟨⟨n, rest⟩, spans, reads⟩ := bind_eq_ok_iff.1 reads
  obtain rfl : rest = after := congrArg Prod.snd (Except.ok.inj reads)
  exact mem_of_spanPort spans

/-- The host of an authority is read from its text, and so is what comes after the authority. -/
theorem parseAuthority_eq_ok {scheme s after : List Char} {special : Bool} {a : Authority}
    (reads : parseAuthority scheme special s = .ok (a, after)) :
    (∃ text, (if special then parseHost text else parseOpaqueHost text) = .ok a.host) ∧
      ∀ c ∈ after, c ∈ s := by
  have inside : ∀ c ∈ ((cutAtLastAt (s.takeWhile fun c => !endsAuthority special c)).getD
      ([], s.takeWhile fun c => !endsAuthority special c)).2, c ∈ s :=
    fun c mem => (List.takeWhile_sublist _).subset (mem_of_mem_hostAndPort mem)
  have behind : ∀ c ∈ s.dropWhile fun c => !endsAuthority special c, c ∈ s :=
    fun c mem => (List.dropWhile_sublist _).subset mem
  rw [parseAuthority] at reads
  generalize (cutAtLastAt (s.takeWhile fun c => !endsAuthority special c)).getD
    ([], s.takeWhile fun c => !endsAuthority special c) = parts at reads inside
  obtain ⟨user, hostAndPort⟩ := parts
  obtain ⟨_, reads⟩ := check_eq_ok_iff.1 reads
  generalize (cutAt ':' user).getD (user, []) = names at reads
  have whole := spanHost_append false hostAndPort
  generalize spanHost false hostAndPort = spanned at reads whole
  obtain ⟨username, password⟩ := names
  obtain ⟨hostText, rest⟩ := spanned
  have portInside : ∀ c ∈ rest, c ∈ s := fun c mem =>
    inside c (whole ▸ List.mem_append_right _ mem)
  obtain ⟨_, reads⟩ := check_eq_ok_iff.1 reads
  obtain ⟨host, found, reads⟩ := ite_bind_eq_ok_iff.1 reads
  obtain ⟨_, reads⟩ := check_eq_ok_iff.1 reads
  suffices ends : a.host = host ∧ ∀ c ∈ after, c ∈ s from ⟨⟨_, ends.1 ▸ found⟩, ends.2⟩
  beta_reduce at reads
  extract_lets finish at reads
  have ends : ∀ port, finish port = .ok (a, after) → a.host = host ∧ after = port.2 := by
    intro port reads
    obtain ⟨_, reads⟩ := check_eq_ok_iff.1 reads
    have same := Except.ok.inj reads
    exact ⟨(congrArg (·.1.host) same).symm, (congrArg Prod.snd same).symm⟩
  split at reads
  · obtain ⟨port, parses, reads⟩ := bind_eq_ok_iff.1 reads
    obtain ⟨sameHost, rfl⟩ := ends port reads
    refine ⟨sameHost, fun c mem => ?_⟩
    rcases List.mem_append.1 (mem_of_parsePort parses c mem) with mem | mem
    · exact portInside c (List.mem_cons_of_mem _ mem)
    · exact behind c mem
  · obtain ⟨port, parses, reads⟩ := bind_eq_ok_iff.1 reads
    obtain ⟨sameHost, rfl⟩ := ends port reads
    obtain rfl := Except.ok.inj parses
    refine ⟨sameHost, fun c mem => ?_⟩
    rcases List.mem_append.1 mem with mem | mem
    · exact portInside c mem
    · exact behind c mem

theorem isVisible_of_parseAuthority {scheme s after : List Char} {special : Bool} {a : Authority}
    (reads : parseAuthority scheme special s = .ok (a, after)) :
    ∀ c ∈ a.host.print.toList, isVisible c = true := by
  obtain ⟨⟨text, found⟩, _⟩ := parseAuthority_eq_ok reads
  split at found
  · exact isVisible_of_parseHost found
  · exact isVisible_of_parseOpaqueHost found

theorem isVisible_of_parseFileHost {s rest : List Char} {host : Host}
    (reads : parseFileHost s = .ok (host, rest)) : ∀ c ∈ host.print.toList, isVisible c = true := by
  have empty : ∀ c ∈ Host.empty.print.toList, isVisible c = true := nofun
  rw [parseFileHost] at reads
  split at reads
  · obtain rfl : Host.empty = host := congrArg Prod.fst (Except.ok.inj reads)
    exact empty
  · split at reads
    · obtain rfl : Host.empty = host := congrArg Prod.fst (Except.ok.inj reads)
      exact empty
    · obtain ⟨found, parses, reads⟩ := bind_eq_ok_iff.1 reads
      obtain rfl := congrArg Prod.fst (Except.ok.inj reads)
      dsimp only
      split
      · exact empty
      · exact isVisible_of_parseHost parses

theorem isVisible_of_parseFile {s : List Char} {url : Url} (reads : parseFile s = .ok url)
    {a : Authority} (placed : url.authority = some a) :
    ∀ c ∈ a.host.print.toList, isVisible c = true := by
  have empty : ∀ c ∈ Host.empty.print.toList, isVisible c = true := nofun
  rw [parseFile.eq_def] at reads
  extract_lets finish at reads
  have ends : ∀ hosted : Host × List Char, (∀ c ∈ hosted.1.print.toList, isVisible c = true) →
      finish hosted = .ok url → ∀ c ∈ a.host.print.toList, isVisible c = true := by
    intro hosted visible reads
    obtain rfl := Except.ok.inj reads
    obtain ⟨drive, host⟩ : ∃ drive : Bool, a.host = if drive = true then .empty else hosted.1 :=
      ⟨_, (congrArg Authority.host (Option.some.inj placed)).symm⟩
    rw [host]
    split
    · exact empty
    · exact visible
  have without : ∀ rest, (Except.ok (Host.empty, rest) >>= finish) = .ok url →
      ∀ c ∈ a.host.print.toList, isVisible c = true := fun rest reads =>
    ends (.empty, rest) empty reads
  split at reads
  · split at reads
    · obtain ⟨hosted, parses, reads⟩ := bind_eq_ok_iff.1 reads
      exact ends hosted (isVisible_of_parseFileHost parses) reads
    · exact without _ reads
  · exact without _ reads

/-- The host of an authority that was read is written in visible characters. -/
theorem isVisible_of_parse_authority {raw : String} {url : Url} (reads : parse raw = .ok url)
    {a : Authority} (placed : url.authority = some a) :
    ∀ c ∈ a.host.print.toList, isVisible c = true := by
  rw [parse] at reads
  split at reads
  · cases reads
  · split at reads
    · exact isVisible_of_parseFile reads placed
    · split at reads
      · obtain ⟨⟨b, rest⟩, hosted, reads⟩ := bind_eq_ok_iff.1 reads
        obtain rfl := Except.ok.inj reads
        obtain rfl : b = a := Option.some.inj placed
        exact isVisible_of_parseAuthority hosted
      · rw [parseOther.eq_def] at reads
        split at reads
        · obtain ⟨⟨b, rest⟩, hosted, reads⟩ := bind_eq_ok_iff.1 reads
          obtain rfl := Except.ok.inj reads
          obtain rfl : b = a := Option.some.inj placed
          exact isVisible_of_parseAuthority hosted
        · obtain rfl := Except.ok.inj reads
          cases placed
        · obtain rfl := Except.ok.inj reads
          cases placed

end ArchiveAccounts.Url
