import ArchiveAccounts.Proofs.Url.Path
import ArchiveAccounts.Url.Parser

/-!
# URLs that are read

A URL of the schemes `http` and `https` is read part by part: what its host and port are does not
depend on what follows them. Main statement: `parse_web`.
-/

namespace ArchiveAccounts
set_option autoImplicit false

open Text

theorem bind_eq_ok_iff {ε α β : Type} {x : Except ε α} {f : α → Except ε β} {b : β} :
    (x >>= f) = .ok b ↔ ∃ a, x = .ok a ∧ f a = .ok b := by
  cases x with
  | error e => exact ⟨nofun, nofun⟩
  | ok a =>
    constructor
    · exact fun done => ⟨a, rfl, done⟩
    · rintro ⟨_, ⟨⟩, done⟩
      exact done

namespace Url

/-- The host and the port that a text in a special URL names. -/
def readHost (scheme s : List Char) : Except UrlError (Host × Option Nat) :=
  let (hostText, rest) := spanHost false s
  if hostText = [] then .error .emptyHost
  else do
    let host ← parseHost hostText
    match rest with
    | ':' :: port => return (host, (← parsePort scheme port).1)
    | _ => return (host, none)

/-- Who asks, and where. -/
def readAuthority (scheme written : List Char) : Except UrlError Authority :=
  let (user, hostAndPort) := (cutAtLastAt written).getD ([], written)
  let (username, password) := (cutAt ':' user).getD (user, [])
  (readHost scheme hostAndPort).map fun (host, port) =>
    { username := String.ofList (Percent.escape isUserReserved username)
      password := String.ofList (Percent.escape isUserReserved password), host, port }

/-! ## Hosts and ports -/

theorem parseHost_ne_empty {s : List Char} {host : Host} (reads : parseHost s = .ok host) :
    host ≠ .empty := by
  rintro rfl
  rw [parseHost.eq_def] at reads
  split at reads
  · split at reads
    · exact nomatch reads
    · next address _ =>
      cases found : Ipv6.parse? address <;> rw [found] at reads <;> exact nomatch reads
  · split at reads
    · exact nomatch reads
    · next domain _ =>
      split at reads
      · exact nomatch reads
      · split at reads
        · cases found : Ipv4.parse? domain <;> rw [found] at reads <;> exact nomatch reads
        · exact nomatch reads

/-- The host's text and what follows it are the text. -/
theorem spanHost_append (inBrackets : Bool) (s : List Char) :
    (spanHost inBrackets s).1 ++ (spanHost inBrackets s).2 = s := by
  induction s generalizing inBrackets with
  | nil => rfl
  | cons c rest ih =>
    rw [spanHost]
    split
    · rfl
    · exact congrArg (c :: ·) (ih _)

theorem spanHost_rest (inBrackets : Bool) (s : List Char) :
    (spanHost inBrackets s).2 = [] ∨ ∃ port, (spanHost inBrackets s).2 = ':' :: port := by
  induction s generalizing inBrackets with
  | nil => exact .inl rfl
  | cons c rest ih =>
    rw [spanHost]
    split
    · next colon => exact .inr ⟨rest, by rw [colon.1]⟩
    · exact ih _

/-- What ends the part with the host is no digit, and ends a port. -/
theorem ends_spec {c : Char} (ends : endsAuthority true c = true) :
    Decimal.digit? c = none ∧ (c == '/' || c == '\\' || c == '?' || c == '#') = true := by
  simp only [endsAuthority, Bool.true_and, Bool.or_eq_true, beq_iff_eq] at ends
  rcases ends with ((rfl | rfl) | rfl) | rfl <;> decide

theorem not_ends_spec {c : Char} (inside : endsAuthority true c = false) :
    (c == '/' || c == '\\' || c == '?' || c == '#') = false := by
  simp only [endsAuthority, Bool.true_and, Bool.or_eq_false_iff] at inside ⊢
  obtain ⟨⟨⟨slash, question⟩, hash⟩, backslash⟩ := inside
  exact ⟨⟨⟨slash, backslash⟩, question⟩, hash⟩

theorem spanPort_append (n : Nat) {port after : List Char}
    (inside : ∀ c ∈ port, endsAuthority true c = false)
    (ends : ∀ c ∈ after.head?, endsAuthority true c = true) :
    spanPort n (port ++ after) = (spanPort n port).map fun (p, _) => (p, after) := by
  induction port generalizing n with
  | nil =>
    cases after with
    | nil => rfl
    | cons c rest =>
      obtain ⟨noDigit, stops⟩ := ends_spec (ends c rfl)
      show spanPort n (c :: rest) = .ok (n, c :: rest)
      rw [spanPort, noDigit]
      exact if_pos stops
  | cons c port ih =>
    obtain ⟨now, later⟩ := List.forall_mem_cons.1 inside
    rw [List.cons_append, spanPort, spanPort]
    cases Decimal.digit? c with
    | none =>
      dsimp only
      rw [not_ends_spec now, if_neg Bool.false_ne_true]
      rfl
    | some d =>
      dsimp only
      split
      · rfl
      · exact ih _ later

theorem parsePort_append (scheme : List Char) {port after : List Char}
    (inside : ∀ c ∈ port, endsAuthority true c = false)
    (ends : ∀ c ∈ after.head?, endsAuthority true c = true) :
    parsePort scheme (port ++ after) = (parsePort scheme port).map fun (p, _) => (p, after) := by
  have digit : (port ++ after).head?.bind Decimal.digit? = port.head?.bind Decimal.digit? := by
    cases port with
    | cons c port => rfl
    | nil =>
      cases after with
      | nil => rfl
      | cons c rest => exact (ends_spec (ends c rfl)).1
  rw [parsePort, parsePort, spanPort_append 0 inside ends, digit]
  cases spanPort 0 port with
  | error e => rfl
  | ok p => rfl

theorem mem_of_mem_hostAndPort {written : List Char} {c : Char}
    (mem : c ∈ ((cutAtLastAt written).getD ([], written)).2) : c ∈ written := by
  rw [cutAtLastAt] at mem
  cases cut : cutAt '@' written.reverse with
  | none =>
    rw [cut] at mem
    exact mem
  | some parts =>
    rw [cut] at mem
    obtain ⟨whole, _⟩ := cutAt_eq_some_iff.1 cut
    rw [← List.mem_reverse, whole]
    exact List.mem_append_left _ (List.mem_reverse.1 mem)

/-! ## The part with the host -/

section Lists

variable {α : Type} {p : α → Bool} {l rest : List α}

theorem takeWhile_append (within : ∀ a ∈ l, p a = true) (stops : ∀ a ∈ rest.head?, p a = false) :
    (l ++ rest).takeWhile p = l := by
  rw [List.takeWhile_append_of_pos within]
  cases rest with
  | nil => exact List.append_nil l
  | cons a rest =>
    rw [List.takeWhile_cons_of_neg (Bool.eq_false_iff.1 (stops a rfl)), List.append_nil]

theorem dropWhile_append (within : ∀ a ∈ l, p a = true) (stops : ∀ a ∈ rest.head?, p a = false) :
    (l ++ rest).dropWhile p = rest := by
  rw [List.dropWhile_append_of_pos within]
  cases rest with
  | nil => rfl
  | cons a rest => exact List.dropWhile_cons_of_neg (Bool.eq_false_iff.1 (stops a rfl))

end Lists

theorem ok_bind {α β : Type} (a : α) (f : α → Except UrlError β) :
    ((Except.ok a : Except UrlError α) >>= f) = f a :=
  rfl

theorem parseAuthority_append (scheme : List Char) {written after : List Char}
    (inside : ∀ c ∈ written, endsAuthority true c = false)
    (ends : ∀ c ∈ after.head?, endsAuthority true c = true) :
    parseAuthority scheme true (written ++ after)
      = (readAuthority scheme written).map fun a => (a, after) := by
  have within : ∀ c ∈ written, (!endsAuthority true c) = true := by
    intro c mem
    rw [inside c mem]
    rfl
  have stops : ∀ c ∈ after.head?, (!endsAuthority true c) = false := by
    intro c mem
    rw [ends c mem]
    rfl
  have front : (written ++ after).takeWhile (fun c => !endsAuthority true c) = written :=
    takeWhile_append within stops
  have back : (written ++ after).dropWhile (fun c => !endsAuthority true c) = after :=
    dropWhile_append within stops
  have subset : ∀ c ∈ ((cutAtLastAt written).getD ([], written)).2, c ∈ written :=
    fun c => mem_of_mem_hostAndPort
  rw [parseAuthority, front, back, readAuthority]
  generalize (cutAtLastAt written).any (fun (user, _) => user.isEmpty) = nobody
  generalize (cutAtLastAt written).getD ([], written) = parts at *
  obtain ⟨user, hostAndPort⟩ := parts
  dsimp only at subset
  unfold readHost
  generalize (cutAt ':' user).getD (user, []) = names
  have rest_ := spanHost_rest false hostAndPort
  rcases spanned : spanHost false hostAndPort with ⟨hostText, rest⟩
  rw [spanned] at rest_
  by_cases none_ : hostText = []
  · simp only [spanned, none_, List.isEmpty_nil, Bool.and_true, if_true]
    split <;> rfl
  · have some_ : hostAndPort.isEmpty = false := by
      rw [List.isEmpty_eq_false_iff]
      rintro rfl
      injection spanned with same
      exact none_ same.symm
    have hostThere : hostText.isEmpty = false := List.isEmpty_eq_false_iff.2 none_
    simp only [spanned, some_, hostThere, Bool.and_false, Bool.false_and, Bool.false_eq_true,
      if_false, if_true, if_neg none_]
    cases reads : parseHost hostText with
    | error e => rfl
    | ok host =>
      have named := parseHost_ne_empty reads
      rcases rest_ with rfl | ⟨port, rfl⟩
      · simp only [ok_bind, named, decide_false, Bool.false_and, Bool.false_eq_true, if_false]
        rfl
      · have inPort : ∀ c ∈ port, endsAuthority true c = false := by
          intro c mem
          have whole := spanHost_append false hostAndPort
          rw [spanned] at whole
          apply inside c (subset c _)
          rw [← whole]
          exact List.mem_append_right _ (List.mem_cons_of_mem _ mem)
        have digits := parsePort_append scheme inPort ends
        simp only [ok_bind, named, decide_false, Bool.false_and, Bool.false_eq_true, if_false,
          digits]
        cases parsePort scheme port with
        | error e => rfl
        | ok p => rfl

/-! ## Whole URLs -/

/-- The schemes `http` and `https`. -/
def IsWeb (scheme : List Char) : Prop := scheme = "http".toList ∨ scheme = "https".toList

/-- Whether a character can stand between the slashes of a URL and its path. -/
def isPlaceChar (c : Char) : Bool := !endsAuthority true c && decide (0x20 < c.toNat)

/-- Whether a text can stand there. -/
structure IsPlace (place : List Char) : Prop where
  some_ : place ≠ []
  chars : ∀ c ∈ place, isPlaceChar c = true

theorem IsPlace.inside {place : List Char} (h : IsPlace place) :
    ∀ c ∈ place, endsAuthority true c = false := by
  intro c mem
  have both := Bool.and_eq_true_iff.1 (h.chars c mem)
  rw [Bool.not_eq_true'] at both
  exact both.1

theorem IsPlace.visible {place : List Char} (h : IsPlace place) : ∀ c ∈ place, 0x20 < c.toNat := by
  intro c mem
  exact of_decide_eq_true (Bool.and_eq_true_iff.1 (h.chars c mem)).2

/-- Whether a text is a path as it is written, with a slash at its start. -/
structure IsPath (path : List Char) : Prop where
  starts : ∀ c ∈ path.head?, c = '/'
  inside : ∀ c ∈ path, startsTail c = false
  visible : ∀ c ∈ path, 0x20 < c.toNat

/-- Whether a text is a query as it is written. -/
def IsQuery (query : List Char) : Prop :=
  ∀ c ∈ query, isSpecialQueryReserved c = false ∧ c.toNat < 0x80

/-- A query with its mark. -/
def tailOf : Option (List Char) → List Char
  | none => []
  | some query => '?' :: query

theorem cleanInput_of_visible {s : List Char} (visible : ∀ c ∈ s, 0x20 < c.toNat) :
    cleanInput (String.ofList s) = s := by
  have kept : ∀ l : List Char, (∀ c ∈ l, 0x20 < c.toNat) → l.dropWhile isTrimmed = l := by
    intro l visible
    cases l with
    | nil => rfl
    | cons c rest =>
      have now := visible c List.mem_cons_self
      exact List.dropWhile_cons_of_neg (by rw [isTrimmed, decide_eq_true_iff]; omega)
  have reversed : s.reverse.dropWhile isTrimmed = s.reverse :=
    kept s.reverse fun c mem => visible c (List.mem_reverse.1 mem)
  rw [cleanInput, String.toList_ofList, kept s visible, reversed, List.reverse_reverse,
    List.filter_eq_self]
  intro c mem
  have now := visible c mem
  have notSkipped : isSkipped c = false := by
    simp only [isSkipped, Bool.or_eq_false_iff, beq_eq_false_iff_ne]
    refine ⟨⟨?_, ?_⟩, ?_⟩ <;> rintro rfl <;> exact absurd now (by decide)
  rw [notSkipped]
  rfl

/-- The scheme as it is read. -/
def lower (scheme : List Char) : List Char := scheme.map Char.toLower

theorem IsWeb.lower_eq {scheme : List Char} (web : IsWeb scheme) : lower scheme = scheme := by
  rcases web with rfl | rfl <;> rfl

theorem isAlpha_of_toLower {c : Char} (letter : c.toLower.isAlpha = true) : c.isAlpha = true := by
  by_cases upper : c.isUpper = true
  · exact Bool.or_eq_true_iff.2 (.inl upper)
  · have same : c.toLower = c := dif_neg fun within => upper (decide_eq_true within)
    rw [← same]
    exact letter

theorem isAlpha_of_web {scheme : List Char} (web : IsWeb (lower scheme)) :
    ∀ c ∈ scheme, c.isAlpha = true := by
  have letters : ∀ c ∈ lower scheme, c.isAlpha = true := by
    rcases web with same | same <;> rw [same] <;> exact List.all_eq_true.1 (by decide)
  exact fun c mem => isAlpha_of_toLower (letters c.toLower (List.mem_map_of_mem mem))

theorem cutAt_web {scheme : List Char} (web : IsWeb (lower scheme)) (rest : List Char) :
    cutAt ':' (scheme ++ ':' :: rest) = some (scheme, rest) := by
  have noColon : ':' ∉ scheme := fun mem => absurd (isAlpha_of_web web ':' mem) (by decide)
  exact cutAt_eq_some_iff.2 ⟨rfl, noColon⟩

theorem scheme?_web {scheme : List Char} (web : IsWeb (lower scheme)) (rest : List Char) :
    scheme? (scheme ++ ':' :: rest) = some (lower scheme, rest) := by
  have letters := isAlpha_of_web web
  have cut := cutAt_web web rest
  cases scheme with
  | nil => rcases web with same | same <;> exact nomatch same
  | cons first others =>
    have held : (first :: others).all isSchemeChar = true := by
      rw [List.all_eq_true]
      intro c mem
      simp only [isSchemeChar, Char.isAlphanum, letters c mem, Bool.true_or]
    rw [List.cons_append] at cut ⊢
    rw [scheme?, cut]
    dsimp only
    rw [letters first List.mem_cons_self, held]
    rfl

theorem visible_of_isAlpha {c : Char} (letter : c.isAlpha = true) : 0x20 < c.toNat := by
  rcases Bool.or_eq_true_iff.1 letter with upper | lower
  · have least := UInt32.le_iff_toNat_le.1 (of_decide_eq_true upper).1
    exact Nat.lt_of_lt_of_le (by decide : 0x20 < 'A'.toNat) least
  · have least := UInt32.le_iff_toNat_le.1 (of_decide_eq_true (Bool.and_eq_true_iff.1 lower).1)
    exact Nat.lt_of_lt_of_le (by decide : 0x20 < 'a'.toNat) least

/-- A web URL is read part by part. -/
theorem parse_web {scheme place tail : List Char} (web : IsWeb (lower scheme))
    (isPlace : IsPlace place) (ends : ∀ c ∈ tail.head?, endsAuthority true c = true)
    (visible : ∀ c ∈ tail, 0x20 < c.toNat) :
    parse (String.ofList (scheme ++ ':' :: '/' :: '/' :: (place ++ tail)))
      = (readAuthority (lower scheme) place).map fun a =>
        parseAfterAuthority true (lower scheme) (some a) tail := by
  have allVisible : ∀ c ∈ scheme ++ ':' :: '/' :: '/' :: (place ++ tail), 0x20 < c.toNat := by
    intro c mem
    simp only [List.mem_append, List.mem_cons] at mem
    rcases mem with mem | rfl | rfl | rfl | mem | mem
    · exact visible_of_isAlpha (isAlpha_of_web web c mem)
    · decide
    · decide
    · decide
    · exact isPlace.visible c mem
    · exact visible c mem
  have special : lower scheme ≠ ['f', 'i', 'l', 'e'] ∧
      (usualPort? (lower scheme)).isSome = true := by
    rcases web with same | same <;> rw [same] <;> decide
  have slashes : ('/' :: '/' :: (place ++ tail)).dropWhile isSlash = place ++ tail := by
    show (place ++ tail).dropWhile isSlash = place ++ tail
    cases place with
    | nil => exact absurd rfl isPlace.some_
    | cons c rest =>
      have inside := isPlace.inside c List.mem_cons_self
      refine List.dropWhile_cons_of_neg fun slash => ?_
      rcases Bool.or_eq_true_iff.1 slash with same | same
      · rw [eq_of_beq same] at inside
        exact nomatch inside
      · rw [eq_of_beq same] at inside
        exact nomatch inside
  rw [parse, cleanInput_of_visible allVisible, scheme?_web web]
  dsimp only
  rw [if_neg special.1, if_pos special.2, slashes,
    parseAuthority_append (lower scheme) isPlace.inside ends]
  cases readAuthority (lower scheme) place with
  | error e => rfl
  | ok a => rfl

theorem visible_of_free {c : Char} (free : isSpecialQueryReserved c = false) :
    0x20 < c.toNat := by
  simp only [isSpecialQueryReserved, isQueryReserved, isControl, Bool.or_eq_false_iff,
    decide_eq_false_iff_not, beq_eq_false_iff_ne] at free
  obtain ⟨⟨⟨⟨⟨⟨⟨control, _⟩, space⟩, _⟩, _⟩, _⟩, _⟩, _⟩ := free
  have notSpace : c.toNat ≠ 0x20 := by
    intro same
    apply space
    rw [← Char.ofNat_toNat c, same]
  omega

theorem startsTail_of_tailOf {query : Option (List Char)} :
    ∀ c ∈ (tailOf query).head?, startsTail c = true := by
  intro c mem
  cases query with
  | none => exact nomatch mem
  | some q =>
    obtain rfl : '?' = c := Option.some.inj mem
    rfl

/-- The path and the query of a URL after its authority. -/
theorem parseAfterAuthority_eq (scheme : List Char) (a : Authority) {path : List Char}
    {query : Option (List Char)} (isPath : IsPath path) (isQuery : ∀ q ∈ query, IsQuery q) :
    parseAfterAuthority true scheme (some a) (path ++ tailOf query)
      = { scheme := String.ofList scheme, authority := some a
          path := String.ofList (joinSegments (segmentsOf true path))
          query := query.map String.ofList } := by
  have notMark : ∀ c ∈ path, (!startsTail c) = true := by
    intro c mem
    rw [isPath.inside c mem]
    rfl
  have marks : ∀ c ∈ (tailOf query).head?, (!startsTail c) = false := by
    intro c mem
    rw [startsTail_of_tailOf c mem]
    rfl
  have span : spanPath (path ++ tailOf query) = (path, tailOf query) := by
    rw [spanPath, takeWhile_append notMark marks, dropWhile_append notMark marks]
  rw [parseAfterAuthority, span]
  simp only [Bool.not_true, Bool.and_false, Bool.false_eq_true, if_false]
  cases query with
  | none => rfl
  | some q =>
    have free := isQuery q rfl
    have noHash : ∀ c ∈ q, (c != '#') = true := by
      intro c mem
      rw [bne_iff_ne]
      rintro rfl
      exact absurd (free '#' mem).1 (by decide)
    have whole : q.takeWhile (· != '#') = q ∧ q.dropWhile (· != '#') = [] := by
      have stops : ∀ c ∈ ([] : List Char).head?, (c != '#') = false := nofun
      have front := takeWhile_append noHash stops
      have back := dropWhile_append noHash stops
      rw [List.append_nil] at front back
      exact ⟨front, back⟩
    rw [tailOf, withTail, spanQuery]
    simp only [whole, if_true]
    rw [Percent.escape_eq_self free]
    rfl

/-- A web URL is read from its parts: nothing in its path or its query changes its host. -/
theorem parse_parts {scheme place path : List Char} {query : Option (List Char)}
    (web : IsWeb (lower scheme)) (isPlace : IsPlace place) (isPath : IsPath path)
    (isQuery : ∀ q ∈ query, IsQuery q) :
    parse (String.ofList (scheme ++ ':' :: '/' :: '/' :: (place ++ (path ++ tailOf query))))
      = (readAuthority (lower scheme) place).map fun a =>
        { scheme := String.ofList (lower scheme), authority := some a
          path := String.ofList (joinSegments (segmentsOf true path))
          query := query.map String.ofList } := by
  have ends : ∀ c ∈ (path ++ tailOf query).head?, endsAuthority true c = true := by
    intro c mem
    cases path with
    | nil =>
      have mark := startsTail_of_tailOf c mem
      rcases Bool.or_eq_true_iff.1 mark with same | same <;> rw [eq_of_beq same] <;> rfl
    | cons first rest =>
      rw [isPath.starts c mem]
      rfl
  have visible : ∀ c ∈ path ++ tailOf query, 0x20 < c.toNat := by
    intro c mem
    rcases List.mem_append.1 mem with mem | mem
    · exact isPath.visible c mem
    · cases query with
      | none => exact nomatch mem
      | some q =>
        rcases List.mem_cons.1 mem with rfl | mem
        · decide
        · exact visible_of_free (isQuery q rfl c mem).1
  rw [parse_web web isPlace ends visible]
  congr 1
  funext a
  exact parseAfterAuthority_eq (lower scheme) a isPath isQuery

end Url

end ArchiveAccounts
