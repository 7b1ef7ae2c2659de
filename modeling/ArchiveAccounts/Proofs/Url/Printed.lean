import ArchiveAccounts.Data.Traverse
import ArchiveAccounts.Proofs.Url.Reading
import Mathlib.Data.List.Basic
import Mathlib.Data.List.TakeWhile

/-!
# URLs that are written

What a URL of the schemes `http` and `https` is made of once it is read. Main statements:
`exists_parts_of_parse`: its text without query and fragment is made of a scheme, a host with its
port and segments, as `parse_parts` reads them; `parse_withQuery`: another query does not change
what else it names.
-/

namespace ArchiveAccounts
set_option autoImplicit false

namespace Url

open Text

theorem mem_intercalate {α : Type} {separator : List α} {parts : List (List α)} {a : α}
    (mem : a ∈ separator.intercalate parts) : a ∈ separator ∨ ∃ part ∈ parts, a ∈ part := by
  induction parts with
  | nil => exact nomatch mem
  | cons part rest ih =>
    cases rest with
    | nil =>
      rw [List.intercalate_singleton] at mem
      exact .inr ⟨part, List.mem_cons_self, mem⟩
    | cons next rest =>
      rw [List.intercalate_cons_cons, List.append_assoc] at mem
      rcases List.mem_append.1 mem with mem | mem
      · exact .inr ⟨part, List.mem_cons_self, mem⟩
      · rcases List.mem_append.1 mem with mem | mem
        · exact .inl mem
        · rcases ih mem with mem | ⟨other, among, inside⟩
          · exact .inl mem
          · exact .inr ⟨other, List.mem_cons_of_mem _ among, inside⟩

/-! ## Domain names -/

namespace Punycode

/-- Whether a character is a digit of Punycode. -/
def IsDigit (c : Char) : Prop := ∃ n < 36, c = digit n

theorem isDigit_of_mem_distance {bias k q : Nat} {c : Char} (mem : c ∈ distance bias k q) :
    IsDigit c := by
  have least : 1 ≤ threshold k bias := Nat.le_max_left _ _
  have most : threshold k bias ≤ 26 := Nat.max_le.2 ⟨by decide, Nat.min_le_left _ _⟩
  fun_induction distance bias k q with
  | case1 k q t small =>
    rw [List.mem_singleton] at mem
    exact ⟨q, by omega, mem⟩
  | case2 k q t large ih =>
    rcases List.mem_cons.1 mem with rfl | mem
    · have small := Nat.mod_lt (q - t) (by omega : 36 - t > 0)
      exact ⟨_, by omega, rfl⟩
    · exact ih mem (Nat.le_max_left _ _) (Nat.max_le.2 ⟨by decide, Nat.min_le_left _ _⟩)

/-- What is written so far is what is meant to be, if it is at the start. -/
theorem mem_output_foldl {P : Char → Prop} (digits : ∀ c, IsDigit c → P c) (points ms : List Nat)
    (w : Writer) (start : ∀ c ∈ w.output, P c) :
    ∀ c ∈ (ms.foldl (Writer.write points) w).output, P c := by
  have pass : ∀ (m : Nat) (points : List Nat) (w : Writer), (∀ c ∈ w.output, P c) →
      ∀ c ∈ (points.foldl (Writer.pass m) w).output, P c := by
    intro m points
    induction points with
    | nil => exact fun w start => start
    | cons point points ih =>
      intro w start
      refine ih _ ?_
      rw [Writer.pass]
      split
      · exact start
      · split
        · refine List.forall_mem_append.2 ⟨start, fun c mem => ?_⟩
          exact digits c (isDigit_of_mem_distance mem)
        · exact start
  induction ms generalizing w with
  | nil => exact start
  | cons m ms ih => exact ih _ (pass m points _ start)

theorem mem_encode {label : List Char} {c : Char} (mem : c ∈ encode label) :
    (c ∈ label ∧ c.toNat < 0x80) ∨ c = '-' ∨ IsDigit c := by
  refine mem_output_foldl (P := fun c => (c ∈ label ∧ c.toNat < 0x80) ∨ c = '-' ∨ IsDigit c)
    (fun c digit => .inr (.inr digit)) _ _ _ ?_ c mem
  intro c start
  dsimp only at start
  split at start
  · exact nomatch start
  · rcases List.mem_append.1 start with basic | hyphen
    · obtain ⟨own, ascii⟩ := List.mem_filter.1 basic
      exact .inl ⟨own, of_decide_eq_true ascii⟩
    · exact .inr (.inl (List.mem_singleton.1 hyphen))

end Punycode

namespace Domain

theorem not_isForbidden_of_normalForm? {s form : List Char} (normal : normalForm? s = some form) :
    ∀ c ∈ form, isForbidden c = false := by
  obtain ⟨mapped, _, normal⟩ := Option.bind_eq_some_iff.1 normal
  dsimp only at normal
  split at normal
  · exact nomatch normal
  · next free =>
    intro c mem
    rw [← Option.some.inj normal] at mem
    by_contra forbidden
    exact free (List.any_eq_true.2 ⟨c, mem, Bool.not_eq_false _ ▸ forbidden⟩)

theorem not_isForbidden_of_readLabel? {label read : List Char}
    (reads : readLabel? label = some read)
    (free : ∀ c ∈ label, isForbidden c = false) : ∀ c ∈ read, isForbidden c = false := by
  rw [readLabel?] at reads
  split at reads
  · split at reads
    · rw [← Option.some.inj reads]
      exact free
    · obtain ⟨written, _, reads⟩ := Option.bind_eq_some_iff.1 reads
      split at reads
      · next normal =>
        simp only [Bool.and_eq_true, beq_iff_eq] at normal
        rw [← Option.some.inj reads]
        exact not_isForbidden_of_normalForm? normal.1.2
      · cases reads
  · split at reads
    · rw [← Option.some.inj reads]
      exact free
    · cases reads

theorem not_isForbidden_of_writeLabel {label : List Char}
    (free : ∀ c ∈ label, isForbidden c = false) :
    ∀ c ∈ writeLabel label, isForbidden c = false := by
  intro c mem
  rw [writeLabel] at mem
  split at mem
  · exact free c mem
  · rcases List.mem_append.1 mem with mark | mem
    · have marks : ∀ c ∈ punycodeMark, isForbidden c = false :=
        List.all_iff_forall_prop.1 (by decide)
      exact marks c mark
    · rcases Punycode.mem_encode mem with ⟨own, _⟩ | rfl | ⟨n, small, rfl⟩
      · exact free c own
      · decide
      · have digits : ∀ n < 36, isForbidden (Punycode.digit n) = false := by decide +kernel
        exact digits n small

/-- A domain in its ASCII form holds nothing that is forbidden. -/
theorem not_isForbidden_of_toAscii? {domain ascii : List Char}
    (writes : toAscii? domain = some ascii) : ∀ c ∈ ascii, isForbidden c = false := by
  obtain ⟨form, normal, writes⟩ := Option.bind_eq_some_iff.1 writes
  obtain ⟨labels, reads, writes⟩ := Option.bind_eq_some_iff.1 writes
  split at writes
  · have free := not_isForbidden_of_normalForm? normal
    have each : ∀ label ∈ labels, ∀ c ∈ label, isForbidden c = false := by
      intro label mem
      obtain ⟨piece, among, read⟩ := Traverse.exists_of_mem reads mem
      exact not_isForbidden_of_readLabel? read fun c inside =>
        free c (mem_of_mem_splitAt among inside)
    rw [← Option.some.inj writes]
    intro c mem
    rcases mem_intercalate mem with dot | ⟨written, among, inside⟩
    · rw [List.mem_singleton.1 dot]
      decide
    · obtain ⟨label, listed, rfl⟩ := List.mem_map.1 among
      exact not_isForbidden_of_writeLabel (each label listed) c inside
  · exact nomatch writes

end Domain

/-! ## Hosts -/

theorem isPlaceChar_of_not_isForbidden {c : Char} (free : Domain.isForbidden c = false) :
    isPlaceChar c = true := by
  simp only [Domain.isForbidden, Bool.or_eq_false_iff, decide_eq_false_iff_not, Nat.not_le,
    List.contains_cons, beq_eq_false_iff_ne] at free
  obtain ⟨⟨visible, _⟩, hash, slash, _, _, _, question, _, _, backslash, _⟩ := free
  simp [isPlaceChar, endsAuthority, visible, hash, slash, question, backslash]

theorem mem_toDigitsCore {base fuel n : Nat} {digits : List Char} {c : Char} (valid : 0 < base)
    (mem : c ∈ Nat.toDigitsCore base fuel n digits) :
    c ∈ digits ∨ ∃ d < base, c = Nat.digitChar d := by
  induction fuel generalizing n digits with
  | zero => exact .inl mem
  | succ fuel ih =>
    have last : c ∈ Nat.digitChar (n % base) :: digits →
        c ∈ digits ∨ ∃ d < base, c = Nat.digitChar d := by
      intro mem
      rcases List.mem_cons.1 mem with same | mem
      · exact .inr ⟨n % base, Nat.mod_lt _ valid, same⟩
      · exact .inl mem
    rw [Nat.toDigitsCore] at mem
    split at mem
    · exact last mem
    · rcases ih mem with mem | digit
      · exact last mem
      · exact .inr digit

/-- The characters in which IP addresses are written. -/
def addressChars : List Char := "0123456789abcdef.:[]".toList

theorem mem_addressChars_of_isDigit {c : Char} (digit : c.isDigit = true) : c ∈ addressChars := by
  have most : c.val ≤ 57 := of_decide_eq_true (Bool.and_eq_true_iff.1 digit).2
  exact forall_ascii (P := fun c => c.isDigit = true → c ∈ addressChars)
    (by decide +kernel) (Nat.lt_of_le_of_lt most (by decide)) digit

theorem mem_addressChars_of_mem_lowerNumber {n : Nat} {c : Char} (mem : c ∈ Hex.lowerNumber n) :
    c ∈ addressChars := by
  rcases mem_toDigitsCore (by decide) mem with none_ | ⟨d, small, rfl⟩
  · exact nomatch none_
  · have each : ∀ d < 16, Nat.digitChar d ∈ addressChars := by decide
    exact each d small

theorem mem_addressChars_of_mem_ipv4Text {address : Nat} {c : Char}
    (mem : c ∈ Host.ipv4Text address) : c ∈ addressChars := by
  rcases mem_intercalate mem with dot | ⟨part, among, inside⟩
  · rw [List.mem_singleton.1 dot]
    decide
  · obtain ⟨shift, _, rfl⟩ := List.mem_map.1 among
    exact mem_addressChars_of_isDigit (Decimal.isDigit_of_mem_digits inside)

theorem mem_addressChars_of_mem_piecesText {pieces : List Nat} {c : Char}
    (mem : c ∈ Host.piecesText pieces) : c ∈ addressChars := by
  rcases mem_intercalate mem with colon | ⟨part, among, inside⟩
  · rw [List.mem_singleton.1 colon]
    decide
  · obtain ⟨piece, _, rfl⟩ := List.mem_map.1 among
    exact mem_addressChars_of_mem_lowerNumber inside

theorem mem_addressChars_of_mem_ipv6Text {pieces : List Nat} {c : Char}
    (mem : c ∈ '[' :: Host.ipv6Text pieces ++ [']']) : c ∈ addressChars := by
  rcases List.mem_append.1 mem with mem | close
  · rcases List.mem_cons.1 mem with rfl | mem
    · decide
    · rw [Host.ipv6Text] at mem
      obtain ⟨start, length⟩ := Host.longestZeroRun pieces
      dsimp only at mem
      split at mem
      · exact mem_addressChars_of_mem_piecesText mem
      · rcases List.mem_append.1 mem with mem | mem
        · rcases List.mem_append.1 mem with mem | colons
          · exact mem_addressChars_of_mem_piecesText mem
          · have each : [':', ':'] ⊆ addressChars := by decide
            exact each colons
        · exact mem_addressChars_of_mem_piecesText mem
  · rw [List.mem_singleton.1 close]
    decide

theorem isPlaceChar_of_mem_addressChars : ∀ c ∈ addressChars, isPlaceChar c = true :=
  List.all_iff_forall_prop.1 (by decide)

theorem isPlace_ipv4 (address : Nat) : IsPlace (Host.ipv4Text address) := by
  refine ⟨?_, fun c mem => isPlaceChar_of_mem_addressChars c (mem_addressChars_of_mem_ipv4Text mem)⟩
  rw [Host.ipv4Text, List.map_cons, List.map_cons, List.intercalate_cons_cons, List.append_assoc]
  exact List.append_ne_nil_of_left_ne_nil (Decimal.digits_ne_nil _) _

theorem isPlace_ipv6 (pieces : List Nat) : IsPlace ('[' :: Host.ipv6Text pieces ++ [']']) :=
  ⟨List.cons_ne_nil _ _, fun c mem =>
    isPlaceChar_of_mem_addressChars c (mem_addressChars_of_mem_ipv6Text mem)⟩

/-- A host that is read is written in characters that end no host. -/
theorem isPlace_of_parseHost {s : List Char} {host : Host} (reads : parseHost s = .ok host) :
    IsPlace host.print.toList := by
  rw [parseHost.eq_def] at reads
  split at reads
  · split at reads
    · cases reads
    · next address _ =>
      cases found : Ipv6.parse? address with
      | none =>
        rw [found] at reads
        cases reads
      | some pieces =>
        rw [found] at reads
        rw [← Except.ok.inj reads, Host.print, String.toList_ofList]
        exact isPlace_ipv6 pieces
  · split at reads
    · cases reads
    · next domain writes =>
      split at reads
      · cases reads
      · next filled =>
        split at reads
        · cases found : Ipv4.parse? domain with
          | none =>
            rw [found] at reads
            cases reads
          | some address =>
            rw [found] at reads
            rw [← Except.ok.inj reads, Host.print, String.toList_ofList]
            exact isPlace_ipv4 address
        · rw [← Except.ok.inj reads, Host.print, String.toList_ofList]
          refine ⟨?_, fun c mem => ?_⟩
          · rintro rfl
            exact filled rfl
          · exact isPlaceChar_of_not_isForbidden (Domain.not_isForbidden_of_toAscii? writes c mem)

/-! ## The part with the host -/

/-- What is written between the slashes of a URL and its path. -/
def placeOf (a : Authority) : List Char :=
  (credentials a).toList ++ (a.host.print.toList
    ++ (marked ":" (a.port.map fun port => String.ofList (Decimal.digits port))).toList)

theorem isPlaceChar_of_mem_escape {part : List Char} {c : Char}
    (mem : c ∈ Percent.escape isUserReserved part) : isPlaceChar c = true := by
  have escapes : ∀ c ∈ Percent.escapeChars, isUserReserved c = false :=
    List.all_iff_forall_prop.1 (by decide +kernel)
  obtain ⟨free, ascii⟩ := Percent.free_of_mem_escape escapes mem
  exact forall_ascii (P := fun c => isUserReserved c = false → isPlaceChar c = true)
    (by decide +kernel) ascii free

/-- What is written for a host that was read is a place. -/
theorem isPlace_placeOf {a : Authority}
    (username : ∀ c ∈ a.username.toList, isPlaceChar c = true)
    (password : ∀ c ∈ a.password.toList, isPlaceChar c = true)
    (host : IsPlace a.host.print.toList) : IsPlace (placeOf a) := by
  refine ⟨?_, fun c mem => ?_⟩
  · exact List.append_ne_nil_of_right_ne_nil _ (List.append_ne_nil_of_left_ne_nil host.some_ _)
  · rcases List.mem_append.1 mem with mem | mem
    · rw [credentials] at mem
      split at mem
      · exact nomatch mem
      · simp only [String.toList_append, List.mem_append] at mem
        rcases mem with (mem | mem) | at_
        · exact username c mem
        · split at mem
          · exact nomatch mem
          · rw [String.toList_append] at mem
            rcases List.mem_append.1 mem with colon | mem
            · rw [List.mem_singleton.1 colon]
              decide
            · exact password c mem
        · rw [List.mem_singleton.1 at_]
          decide
    · rcases List.mem_append.1 mem with mem | mem
      · exact host.chars c mem
      · cases port : a.port with
        | none =>
          rw [port] at mem
          exact nomatch mem
        | some n =>
          rw [port, Option.map_some, marked, String.toList_append] at mem
          rcases List.mem_append.1 mem with colon | digit
          · rw [List.mem_singleton.1 colon]
            decide
          · rw [String.toList_ofList] at digit
            exact isPlaceChar_of_mem_addressChars c
              (mem_addressChars_of_isDigit (Decimal.isDigit_of_mem_digits digit))

theorem isPlace_of_readHost {scheme s : List Char} {host : Host} {port : Option Nat}
    (reads : readHost scheme s = .ok (host, port)) : IsPlace host.print.toList := by
  rw [readHost] at reads
  obtain ⟨hostText, rest⟩ := spanHost false s
  dsimp only at reads
  split at reads
  · exact nomatch reads
  · obtain ⟨found, parses, reads⟩ := bind_eq_ok_iff.1 reads
    have same : found = host := by
      split at reads
      · obtain ⟨p, _, reads⟩ := bind_eq_ok_iff.1 reads
        exact congrArg Prod.fst (Except.ok.inj reads)
      · exact congrArg Prod.fst (Except.ok.inj reads)
    rw [← same]
    exact isPlace_of_parseHost parses

theorem isPlace_of_readAuthority {scheme written : List Char} {a : Authority}
    (reads : readAuthority scheme written = .ok a) : IsPlace (placeOf a) := by
  rw [readAuthority] at reads
  dsimp only at reads
  cases reading : readHost scheme ((cutAtLastAt written).getD ([], written)).2 with
  | error e =>
    rw [reading] at reads
    cases reads
  | ok hosted =>
    rw [reading] at reads
    rw [← Except.ok.inj reads]
    refine isPlace_placeOf (fun c mem => ?_) (fun c mem => ?_) (isPlace_of_readHost reading)
    · rw [String.toList_ofList] at mem
      exact isPlaceChar_of_mem_escape mem
    · rw [String.toList_ofList] at mem
      exact isPlaceChar_of_mem_escape mem

theorem isPlace_of_parseAuthority {scheme s after : List Char} {a : Authority}
    (reads : parseAuthority scheme true s = .ok (a, after)) : IsPlace (placeOf a) := by
  let within : Char → Bool := fun c => !endsAuthority true c
  have inside : ∀ c ∈ s.takeWhile within, endsAuthority true c = false := by
    intro c mem
    have held := List.mem_takeWhile_imp mem
    rw [Bool.not_eq_true'] at held
    exact held
  have ends : ∀ c ∈ (s.dropWhile within).head?, endsAuthority true c = true := by
    intro c mem
    have stopped := List.head?_dropWhile_not within s
    rw [Option.mem_def.1 mem] at stopped
    have stopped : (!endsAuthority true c) = false := stopped
    rw [Bool.not_eq_false'] at stopped
    exact stopped
  rw [← List.takeWhile_append_dropWhile (p := within) (l := s),
    parseAuthority_append scheme inside ends] at reads
  cases reading : readAuthority scheme (s.takeWhile within) with
  | error e =>
    rw [reading] at reads
    exact nomatch reads
  | ok found =>
    rw [reading] at reads
    obtain rfl : found = a := congrArg Prod.fst (Except.ok.inj reads)
    exact isPlace_of_readAuthority reading

/-! ## Whole URLs -/

theorem isPath_joinSegments {segments : List (List Char)}
    (escaped : ∀ segment ∈ segments, ∀ c ∈ segment, isPathReserved c = false ∧ c.toNat < 0x80) :
    IsPath (joinSegments segments) := by
  have chars : ∀ c ∈ joinSegments segments, startsTail c = false ∧ 0x20 < c.toNat := by
    intro c mem
    rcases mem_joinSegments mem with rfl | ⟨segment, among, inside⟩
    · decide
    · obtain ⟨free, ascii⟩ := escaped segment among c inside
      exact forall_ascii
        (P := fun c => isPathReserved c = false → startsTail c = false ∧ 0x20 < c.toNat)
        (by decide +kernel) ascii free
  refine ⟨?_, fun c mem => (chars c mem).1, fun c mem => (chars c mem).2⟩
  cases segments with
  | nil => exact nofun
  | cons segment rest =>
    intro c mem
    exact (Option.some.inj mem).symm

/-! ## Whole URLs of other schemes -/

theorem scheme_of_parseFile {s : List Char} {url : Url} (reads : parseFile s = .ok url) :
    url.scheme = "file" := by
  rw [parseFile.eq_def] at reads
  split at reads
  · split at reads
    · obtain ⟨⟨host, rest⟩, _, reads⟩ := bind_eq_ok_iff.1 reads
      rw [← Except.ok.inj reads]
      rfl
    · rw [← Except.ok.inj reads]
      rfl
  · rw [← Except.ok.inj reads]
    rfl

theorem scheme_of_parseOther {scheme s : List Char} {url : Url}
    (reads : parseOther scheme s = .ok url) : url.scheme = String.ofList scheme := by
  rw [parseOther.eq_def] at reads
  split at reads
  · obtain ⟨⟨authority, rest⟩, _, reads⟩ := bind_eq_ok_iff.1 reads
    rw [← Except.ok.inj reads]
    rfl
  · rw [← Except.ok.inj reads]
    rfl
  · rw [← Except.ok.inj reads]
    rfl

theorem IsSegment.isPath {segments : List (List Char)}
    (plain : ∀ segment ∈ segments, IsSegment segment) : IsPath (joinSegments segments) :=
  isPath_joinSegments fun segment mem => (plain segment mem).escaped

/-- A web URL that was read is made of a place and of segments that stand for themselves. -/
theorem exists_parts_of_parse {raw : String} {url : Url} (reads : parse raw = .ok url)
    (web : IsWeb url.scheme.toList) :
    ∃ (a : Authority) (segments : List (List Char)), url.authority = some a ∧
      IsPlace (placeOf a) ∧ segments ≠ [] ∧ (∀ segment ∈ segments, IsSegment segment) ∧
      url.path = String.ofList (joinSegments segments) := by
  rw [parse] at reads
  split at reads
  · cases reads
  · next scheme rest _ =>
    split at reads
    · rw [scheme_of_parseFile reads] at web
      rcases web with same | same <;> exact absurd same (by decide)
    · split at reads
      · obtain ⟨⟨a, after⟩, reading, reads⟩ := bind_eq_ok_iff.1 reads
        have place := isPlace_of_parseAuthority reading
        obtain rfl := Except.ok.inj reads
        refine ⟨a, segmentsOf true (spanPath after).1, rfl, place, segmentsOf_ne_nil _,
          fun segment => isSegment_of_mem_segmentsOf, ?_⟩
        simp only [parseAfterAuthority, Bool.not_true, Bool.and_false, Bool.false_eq_true, if_false]
        rfl
      · next other =>
        rw [scheme_of_parseOther reads, String.toList_ofList] at web
        rcases web with rfl | rfl <;> exact absurd rfl other

/-- The text of a URL without its query and its fragment. -/
theorem base_eq {url : Url} {a : Authority} {segments : List (List Char)}
    (authority : url.authority = some a) (path : url.path = String.ofList (joinSegments segments)) :
    url.base = String.ofList
      (url.scheme.toList ++ ':' :: '/' :: '/' :: (placeOf a ++ joinSegments segments)) := by
  apply String.toList_inj.1
  rw [base, authority, path, placeOf]
  simp [authorityText]

/-- A web URL that is written with some other query has the path that it had, and the host and the
port that are read from their text. -/
theorem parse_base {raw : String} {url : Url} (reads : parse raw = .ok url)
    (web : IsWeb url.scheme.toList) {query : Option (List Char)}
    (isQuery : ∀ q ∈ query, IsQuery q) :
    ∃ a, url.authority = some a ∧ parse (url.base ++ String.ofList (tailOf query))
      = (readAuthority url.scheme.toList (placeOf a)).map fun again =>
        { scheme := url.scheme, authority := some again, path := url.path
          query := query.map String.ofList } := by
  obtain ⟨a, segments, authority, place, some_, plain, path⟩ := exists_parts_of_parse reads web
  refine ⟨a, authority, ?_⟩
  have lowerWeb : IsWeb (lower url.scheme.toList) := web.lower_eq.symm ▸ web
  have parsed := parse_parts lowerWeb place (IsSegment.isPath plain) isQuery
  rw [web.lower_eq, segmentsOf_joinSegments some_ plain, String.ofList_toList, ← path] at parsed
  have text : url.base ++ String.ofList (tailOf query) = String.ofList (url.scheme.toList ++ ':'
      :: '/' :: '/' :: (placeOf a ++ (joinSegments segments ++ tailOf query))) := by
    rw [base_eq authority path, ← String.ofList_append]
    simp only [List.append_assoc, List.cons_append]
  rw [text]
  exact parsed

/-- A web URL that reads without its query reads with any other, and names the same host, port and
path. -/
theorem parse_withQuery {raw : String} {url v : Url} (reads : parse raw = .ok url)
    (web : IsWeb url.scheme.toList) (again : parse url.base = .ok v) {query : String}
    (isQuery : IsQuery query.toList) :
    ∃ read, parse (url.base ++ "?" ++ query) = .ok read ∧ read.host? = v.host? ∧
      read.port? = v.port? ∧ read.path = url.path ∧ read.query = some query := by
  have text : url.base ++ "?" ++ query
      = url.base ++ String.ofList (tailOf (some query.toList)) := by
    rw [tailOf, String.ofList_cons, String.ofList_toList, String.append_assoc]
    rfl
  have noTail : url.base ++ String.ofList (tailOf none) = url.base := String.append_empty
  have noQuery : ∀ q ∈ (none : Option (List Char)), IsQuery q :=
    fun q mem => absurd mem (Option.not_mem_none q)
  have oneQuery : ∀ q ∈ some query.toList, IsQuery q := fun q same => Option.some.inj same ▸ isQuery
  obtain ⟨a, named, plain⟩ := parse_base reads web noQuery
  obtain ⟨a', named', full⟩ := parse_base reads web oneQuery
  obtain rfl : a = a' := Option.some.inj (named.symm.trans named')
  rw [noTail, again] at plain
  rw [← text] at full
  cases authority : readAuthority url.scheme.toList (placeOf a) with
  | error e =>
    rw [authority] at plain
    cases plain
  | ok found =>
    rw [authority] at plain full
    obtain rfl := Except.ok.inj plain
    exact ⟨_, full, rfl, rfl, rfl, congrArg some String.ofList_toList⟩

/-! ## What is below a host -/

/-- Whether an address is a web scheme, `://` and a host, with or without a port. -/
def IsOrigin (address : String) : Prop :=
  ∃ scheme place, IsWeb (lower scheme) ∧ IsPlace place ∧
    address = String.ofList (scheme ++ ':' :: '/' :: '/' :: place)

/-- An address below a host is read whenever the host is, with segments that stand for themselves
as its path. -/
theorem parse_below {front : String} (origin : IsOrigin front) {segments : List (List Char)}
    (some_ : segments ≠ []) (plain : ∀ segment ∈ segments, IsSegment segment) {query : String}
    (isQuery : IsQuery query.toList) :
    parse (front ++ String.ofList (joinSegments segments) ++ "?" ++ query)
      = (parse front).map fun v =>
        { v with path := String.ofList (joinSegments segments), query := some query } := by
  obtain ⟨scheme, place, web, isPlace, rfl⟩ := origin
  have isEmpty : IsPath [] := ⟨nofun, nofun, nofun⟩
  have noQuery : ∀ q ∈ (none : Option (List Char)), IsQuery q :=
    fun q mem => absurd mem (Option.not_mem_none q)
  have oneQuery : ∀ q ∈ some query.toList, IsQuery q := fun q same => Option.some.inj same ▸ isQuery
  have alone := parse_parts web isPlace isEmpty noQuery
  have whole := parse_parts web isPlace (IsSegment.isPath plain) oneQuery
  have text : String.ofList (scheme ++ ':' :: '/' :: '/' :: place)
      ++ String.ofList (joinSegments segments) ++ "?" ++ query = String.ofList (scheme ++ ':'
        :: '/' :: '/' :: (place ++ (joinSegments segments ++ tailOf (some query.toList)))) := by
    apply String.toList_inj.1
    simp [tailOf]
  rw [tailOf, List.append_nil, List.append_nil] at alone
  rw [text, whole, alone, segmentsOf_joinSegments some_ plain]
  cases readAuthority (lower scheme) place with
  | error e => rfl
  | ok a =>
    simp only [Option.map_some, String.ofList_toList]
    rfl

end Url

end ArchiveAccounts
