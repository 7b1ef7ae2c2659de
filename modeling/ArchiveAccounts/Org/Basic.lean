import ArchiveAccounts.Crawl.Kind
import ArchiveAccounts.Data.SortedMap
import ArchiveAccounts.Org.Quotas

/-!
# Organizations

An organization with its users, its quotas and what it has used: bytes stored, seconds by calendar
month, and seconds left in two pools that carry over from month to month.
-/

namespace ArchiveAccounts
set_option autoImplicit false

/-- What a user may do. -/
inductive Role where
  | viewer
  | crawler
  | owner
  deriving DecidableEq, Repr

/-- The roles by name. -/
def Role.names : List (String × Role) :=
  [("viewer", .viewer), ("crawler", .crawler), ("owner", .owner)]

/-- The name of a role. -/
def Role.name : Role → String
  | viewer => "viewer"
  | crawler => "crawler"
  | owner => "owner"

/-- What seconds of a month are counted as. -/
inductive TimeCounter where
  /-- All running time. -/
  | usage
  /-- Execution time, credited or not. -/
  | crawlExec
  /-- Execution time under the monthly quota. -/
  | monthly
  /-- Execution time out of the gifted pool. -/
  | gifted
  /-- Execution time out of the extra pool. -/
  | extra
  deriving DecidableEq, Repr

/-- All time counters, in the order in which they are reported. -/
def TimeCounter.all : List TimeCounter := [.usage, .crawlExec, .monthly, .gifted, .extra]

/-- The name of a counter. -/
def TimeCounter.name : TimeCounter → String
  | usage => "usage"
  | crawlExec => "crawlExecSeconds"
  | monthly => "monthlyExecSeconds"
  | gifted => "giftedExecSeconds"
  | extra => "extraExecSeconds"

/-- The counter of a given name. -/
def TimeCounter.ofName? (name : String) : Option TimeCounter :=
  TimeCounter.all.find? fun counter => counter.name == name

/-- A pool of seconds that carries over from month to month. -/
inductive Pool where
  | gifted
  | extra
  deriving DecidableEq, Repr

/-- The counter of the seconds taken out of a pool. -/
def Pool.counter : Pool → TimeCounter
  | gifted => .gifted
  | extra => .extra

/-- The quota that grants the minutes of a pool. -/
def Pool.quota : Pool → QuotaName
  | gifted => .giftedExecMinutes
  | extra => .extraExecMinutes

/-- One value for each counter. -/
structure PerCounter (α : Type) where
  usage : α
  crawlExec : α
  monthly : α
  gifted : α
  extra : α
  deriving DecidableEq

namespace PerCounter

variable {α β : Type}

/-- The value for a counter. -/
def get (s : PerCounter α) : TimeCounter → α
  | .usage => s.usage
  | .crawlExec => s.crawlExec
  | .monthly => s.monthly
  | .gifted => s.gifted
  | .extra => s.extra

/-- Another value for a counter. -/
def set (s : PerCounter α) (counter : TimeCounter) (value : α) : PerCounter α :=
  match counter with
  | .usage => { s with usage := value }
  | .crawlExec => { s with crawlExec := value }
  | .monthly => { s with monthly := value }
  | .gifted => { s with gifted := value }
  | .extra => { s with extra := value }

/-- The value that `f` gives for each counter. -/
def ofFn (f : TimeCounter → α) : PerCounter α :=
  ⟨f .usage, f .crawlExec, f .monthly, f .gifted, f .extra⟩

@[simp] theorem get_ofFn (f : TimeCounter → α) (counter : TimeCounter) :
    (ofFn f).get counter = f counter := by
  cases counter <;> rfl

@[simp] theorem get_set (s : PerCounter α) (counter other : TimeCounter) (value : α) :
    (s.set counter value).get other = if other = counter then value else s.get other := by
  cases counter <;> cases other <;> rfl

theorem ext_get {s t : PerCounter α} (h : ∀ counter, s.get counter = t.get counter) : s = t := by
  obtain ⟨⟩ := s
  obtain ⟨⟩ := t
  simp only [mk.injEq]
  exact ⟨h .usage, h .crawlExec, h .monthly, h .gifted, h .extra⟩

end PerCounter

/-- Seconds by calendar month. -/
abbrev Periods := SortedMap String Counter

/-- Seconds by calendar month for each counter. -/
abbrev Seconds := PerCounter Periods

namespace Seconds

/-- No seconds at all. -/
def none : Seconds := .ofFn fun _ => ∅

instance : Inhabited Seconds := ⟨none⟩

/-- The seconds of one month; 0 where none were counted. -/
def inPeriod (s : Seconds) (counter : TimeCounter) (period : String) : Counter :=
  (s.get counter).getD period 0

/-- Sets the seconds of one month. -/
def put (s : Seconds) (counter : TimeCounter) (period : String) (value : Counter) : Seconds :=
  s.set counter ((s.get counter).insert period value)

theorem get?_put (s : Seconds) (counter other : TimeCounter) (period month : String)
    (value : Counter) :
    ((s.put counter period value).get other).get? month
      = if other = counter ∧ month = period then some value else (s.get other).get? month := by
  rw [put, PerCounter.get_set]
  by_cases same : other = counter
  · rw [if_pos same, SortedMap.get?_insert, same]
    simp only [true_and]
  · rw [if_neg same, if_neg (fun h => same h.1)]

/-- Seconds with the same look-ups are equal. -/
theorem ext_get? {s t : Seconds}
    (h : ∀ counter period, (s.get counter).get? period = (t.get counter).get? period) : s = t :=
  PerCounter.ext_get fun counter => SortedMap.ext_get? (h counter)

@[simp] theorem get?_none (counter : TimeCounter) (period : String) :
    (none.get counter).get? period = Option.none := by
  cases counter <;> rfl

/-- Adds to the seconds of one month, which gets an entry even for none. -/
def add (s : Seconds) (counter : TimeCounter) (period : String) (value : Counter) : Seconds :=
  s.put counter period (Counter.plus (s.inPeriod counter period) value)

end Seconds

/-- One value for each pool. -/
structure PerPool (α : Type) where
  gifted : α
  extra : α
  deriving DecidableEq, Repr

namespace PerPool

variable {α β : Type}

/-- The value for a pool. -/
def get (p : PerPool α) : Pool → α
  | .gifted => p.gifted
  | .extra => p.extra

/-- Another value for a pool. -/
def set (p : PerPool α) (pool : Pool) (value : α) : PerPool α :=
  match pool with
  | .gifted => { p with gifted := value }
  | .extra => { p with extra := value }

/-- Each value changed by `f`. -/
def map (f : α → β) (p : PerPool α) : PerPool β := ⟨f p.gifted, f p.extra⟩

@[simp] theorem get_map (f : α → β) (p : PerPool α) (pool : Pool) :
    (p.map f).get pool = f (p.get pool) := by
  cases pool <;> rfl

@[simp] theorem set_get (p : PerPool α) (pool : Pool) : p.set pool (p.get pool) = p := by
  cases pool <;> rfl

theorem map_set (f : α → β) (p : PerPool α) (pool : Pool) (value : α) :
    (p.set pool value).map f = (p.map f).set pool (f value) := by
  cases pool <;> rfl

@[simp] theorem get_set (p : PerPool α) (pool other : Pool) (value : α) :
    (p.set pool value).get other = if other = pool then value else p.get other := by
  cases pool <;> cases other <;> rfl

theorem ext_get {p q : PerPool α} (h : ∀ pool, p.get pool = q.get pool) : p = q := by
  obtain ⟨⟩ := p
  obtain ⟨⟩ := q
  simp only [mk.injEq]
  exact ⟨h .gifted, h .extra⟩

end PerPool

/-- Seconds left in each pool. -/
abbrev Pools := PerPool Counter

/-- Empty pools. -/
def Pools.none : Pools := ⟨0, 0⟩

instance : Inhabited Pools := ⟨Pools.none⟩

/-- A total and its parts by kind. -/
structure ByteTotals (α : Type) where
  total : α
  crawls : α
  uploads : α
  profiles : α
  deriving DecidableEq, Repr

namespace ByteTotals

variable {α β : Type}

/-- The part of a kind. -/
def get (b : ByteTotals α) : StorageKind → α
  | .crawl => b.crawls
  | .upload => b.uploads
  | .profile => b.profiles

/-- Another part for a kind; the total stays. -/
def set (b : ByteTotals α) (kind : StorageKind) (value : α) : ByteTotals α :=
  match kind with
  | .crawl => { b with crawls := value }
  | .upload => { b with uploads := value }
  | .profile => { b with profiles := value }

/-- The total and each part changed by `f`. -/
def map (f : α → β) (b : ByteTotals α) : ByteTotals β :=
  ⟨f b.total, f b.crawls, f b.uploads, f b.profiles⟩

/-- The total and the part of one kind changed by `f`. -/
def change (b : ByteTotals α) (kind : StorageKind) (f : α → α) : ByteTotals α :=
  { b.set kind (f (b.get kind)) with total := f b.total }

@[simp] theorem get_change (b : ByteTotals α) (kind other : StorageKind) (f : α → α) :
    (b.change kind f).get other = if other = kind then f (b.get other) else b.get other := by
  cases kind <;> cases other <;> rfl

/-- A change may be made before or after all values are mapped. -/
theorem map_change (b : ByteTotals α) (f : α → β) (g : α → α) (g' : β → β) (kind : StorageKind)
    (total : g' (f b.total) = f (g b.total)) (part : g' (f (b.get kind)) = f (g (b.get kind))) :
    (b.map f).change kind g' = (b.change kind g).map f := by
  cases kind <;> simp_all [map, change, set, get]

@[simp] theorem total_change (b : ByteTotals α) (kind : StorageKind) (f : α → α) :
    (b.change kind f).total = f b.total :=
  rfl

end ByteTotals

/-- Bytes stored, in all and by kind. -/
abbrev StoredBytes := ByteTotals Counter

namespace StoredBytes

/-- No bytes at all. -/
def none : StoredBytes := ⟨0, 0, 0, 0⟩

instance : Inhabited StoredBytes := ⟨none⟩

/-- Moves the total and one kind by the same signed amount, each as far as its ends allow. -/
def shift (b : StoredBytes) (delta : Int) (kind : StorageKind) : StoredBytes :=
  b.change kind fun n => Counter.shift n delta

end StoredBytes

/-- An organization and its account. -/
structure Organization where
  id : String := ""
  name : String := ""
  users : SortedMap String Role := ∅
  quotas : Quotas := .none
  bytes : StoredBytes := .none
  seconds : Seconds := .none
  pools : Pools := .none
  quotaChanges : List QuotaChange := []
  deriving DecidableEq

namespace Organization

instance : Inhabited Organization := ⟨{}⟩

/-- The organization with one more owner. -/
def withOwner (org : Organization) (user : String) : Organization :=
  { org with users := org.users.insert user .owner }

/-- Whether a user owns the organization. -/
def isOwner (org : Organization) (user : String) : Bool := org.users.get? user == some .owner

/-- The owners, in the order of their ids. -/
def owners (org : Organization) : List String := org.users.keys.filter org.isOwner

end Organization

end ArchiveAccounts
