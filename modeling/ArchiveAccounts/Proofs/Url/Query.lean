import ArchiveAccounts.Proofs.Url.Hosts

/-!
# Texts without a query

What is read of a text after its host is written in it, so that a URL has a query only where the
text has a question mark. Main statement: `query_eq_none_of_parse`.
-/

namespace ArchiveAccounts.Url
set_option autoImplicit false

open Text

theorem mem_of_mem_cleanInput {s : String} {c : Char} (mem : c ∈ cleanInput s) : c ∈ s.toList := by
  have trimmed := (List.mem_filter.1 mem).1
  have fromEnd := (List.dropWhile_sublist _).subset (List.mem_reverse.1 trimmed)
  exact (List.dropWhile_sublist _).subset (List.mem_reverse.1 fromEnd)

theorem mem_of_scheme? {s scheme rest : List Char} (reads : scheme? s = some (scheme, rest)) :
    ∀ c ∈ rest, c ∈ s := by
  intro c mem
  cases s with
  | nil => cases reads
  | cons first s =>
    rw [scheme?] at reads
    split at reads
    · next cut =>
      split at reads
      · obtain rfl := congrArg Prod.snd (Option.some.inj reads)
        rw [(cutAt_eq_some_iff.1 cut).1]
        exact List.mem_append_right _ (List.mem_cons_of_mem _ mem)
      · cases reads
    · cases reads

theorem mem_of_mem_tail {s : List Char} {c : Char} (mem : c ∈ (spanPath s).2) : c ∈ s :=
  (List.dropWhile_sublist _).subset mem

theorem mem_of_parseFileHost {s rest : List Char} {host : Host}
    (reads : parseFileHost s = .ok (host, rest)) : ∀ c ∈ rest, c ∈ s := by
  have behind : ∀ c ∈ s.dropWhile fun c => !endsAuthority true c, c ∈ s :=
    fun c mem => (List.dropWhile_sublist _).subset mem
  rw [parseFileHost] at reads
  split at reads
  · obtain rfl := congrArg Prod.snd (Except.ok.inj reads)
    exact fun c mem => mem
  · split at reads
    · obtain rfl := congrArg Prod.snd (Except.ok.inj reads)
      exact behind
    · obtain ⟨_, _, reads⟩ := bind_eq_ok_iff.1 reads
      obtain rfl := congrArg Prod.snd (Except.ok.inj reads)
      exact behind

section Free

variable {s : List Char} (free : '?' ∉ s)

include free

theorem spanQuery_eq (special : Bool) : spanQuery special s = (none, s) := by
  rw [spanQuery.eq_def]
  split
  · exact absurd List.mem_cons_self free
  · rfl

theorem query_withTail (special : Bool) (url : Url) : (withTail special url s).query = none := by
  rw [withTail, spanQuery_eq free]

theorem query_parseAfterAuthority (special : Bool) (scheme : List Char)
    (authority : Option Authority) :
    (parseAfterAuthority special scheme authority s).query = none :=
  query_withTail (fun mem => free (mem_of_mem_tail mem)) special _

theorem query_of_parseOther {scheme : List Char} {url : Url}
    (reads : parseOther scheme s = .ok url) : url.query = none := by
  rw [parseOther.eq_def] at reads
  split at reads
  · next rest =>
    obtain ⟨⟨a, after⟩, hosted, reads⟩ := bind_eq_ok_iff.1 reads
    obtain rfl := Except.ok.inj reads
    refine query_parseAfterAuthority (fun mem => free ?_) false scheme _
    exact List.mem_cons_of_mem _ (List.mem_cons_of_mem _ ((parseAuthority_eq_ok hosted).2 '?' mem))
  · obtain rfl := Except.ok.inj reads
    exact query_parseAfterAuthority free false scheme _
  · obtain rfl := Except.ok.inj reads
    exact query_withTail (fun mem => free (mem_of_mem_tail mem)) false _

theorem query_of_parseFile {url : Url} (reads : parseFile s = .ok url) : url.query = none := by
  rw [parseFile.eq_def] at reads
  extract_lets finish at reads
  have ends : ∀ hosted : Host × List Char, (∀ c ∈ hosted.2, c ∈ s) →
      finish hosted = .ok url → url.query = none := by
    intro hosted within reads
    obtain rfl := Except.ok.inj reads
    exact query_withTail (fun mem => free (within '?' (mem_of_mem_tail mem))) true _
  split at reads
  · next a b rest =>
    split at reads
    · obtain ⟨hosted, parses, reads⟩ := bind_eq_ok_iff.1 reads
      refine ends hosted (fun c mem => ?_) reads
      exact List.mem_cons_of_mem _ (List.mem_cons_of_mem _ (mem_of_parseFileHost parses c mem))
    · exact ends (.empty, _) (fun c mem => mem) reads
  · exact ends (.empty, _) (fun c mem => mem) reads

end Free

/-- A text without a question mark is read without a query. -/
theorem query_eq_none_of_parse {raw : String} {url : Url} (free : '?' ∉ raw.toList)
    (reads : parse raw = .ok url) : url.query = none := by
  rw [parse] at reads
  split at reads
  · cases reads
  · next scheme rest found =>
    have inRest : '?' ∉ rest := fun mem =>
      free (mem_of_mem_cleanInput (mem_of_scheme? found '?' mem))
    split at reads
    · exact query_of_parseFile inRest reads
    · split at reads
      · obtain ⟨⟨a, after⟩, hosted, reads⟩ := bind_eq_ok_iff.1 reads
        obtain rfl := Except.ok.inj reads
        refine query_parseAfterAuthority (fun mem => inRest ?_) true scheme _
        exact (List.dropWhile_sublist _).subset ((parseAuthority_eq_ok hosted).2 '?' mem)
      · exact query_of_parseOther inRest reads

end ArchiveAccounts.Url
