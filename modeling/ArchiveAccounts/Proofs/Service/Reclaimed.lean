import ArchiveAccounts.Data.SortedSet
import ArchiveAccounts.Service.Deletion
import Mathlib.Algebra.Ring.Nat

/-!
# What crawls take up

The bytes of crawls, in all and by crawl config, as a deletion adds them up. Main statement:
`Reclaimed.toList_ofCrawls`, each config of the crawls has one entry, in ascending order, with the
number of its crawls and their bytes.
-/

namespace ArchiveAccounts
set_option autoImplicit false

namespace SortedMap

variable {α : Type}

/-- The keys of a map as a set. -/
def keySet (m : SortedMap String α) : SortedSet String :=
  ⟨m.keys, m.ordered.map _ fun _ _ h => h⟩

/-- A map is told by its keys and the value of each. -/
theorem toList_eq_map {m : SortedMap String α} {keys : SortedSet String} {value : String → α}
    (isThere : ∀ k, (∃ v, m.get? k = some v) ↔ k ∈ keys)
    (is : ∀ k v, m.get? k = some v → v = value k) :
    m.toList = keys.toList.map fun k => (k, value k) := by
  have same : m.keySet = keys := by
    apply SortedSet.ext_mem
    intro k
    exact mem_keys_iff.trans (isThere k)
  have each : ∀ e ∈ m.toList, e = (e.1, value e.1) := by
    intro e mem
    rw [← is e.1 e.2 (mem_toList_iff.1 mem)]
  rw [← same]
  show m.toList = (m.toList.map (·.1)).map fun k => (k, value k)
  rw [List.map_map]
  exact (List.map_id _).symm.trans (List.map_congr_left each)

end SortedMap

namespace Crawl

/-- The bytes of crawls. -/
def bytes (crawls : List Crawl) : Nat := (crawls.map fun crawl => crawl.totalSize.toNat).sum

/-- The crawls of a crawl config. -/
def ofConfig (config : String) (crawls : List Crawl) : List Crawl :=
  crawls.filter fun crawl => crawl.configId == some config

theorem ofConfig_cons (config : String) (crawl : Crawl) (crawls : List Crawl) :
    ofConfig config (crawl :: crawls)
      = if crawl.configId = some config then crawl :: ofConfig config crawls
        else ofConfig config crawls := by
  simp only [ofConfig, List.filter_cons, beq_iff_eq]

theorem bytes_cons (crawl : Crawl) (crawls : List Crawl) :
    bytes (crawl :: crawls) = crawl.totalSize.toNat + bytes crawls :=
  rfl

/-- The crawl configs of crawls. -/
def configs (crawls : List Crawl) : SortedSet String := .ofList (crawls.filterMap (·.configId))

theorem mem_configs {config : String} {crawls : List Crawl} :
    config ∈ configs crawls ↔ ∃ crawl ∈ crawls, crawl.configId = some config := by
  rw [configs, SortedSet.mem_ofList, List.mem_filterMap]

theorem bytes_ofConfig_le (config : String) (crawls : List Crawl) :
    bytes (ofConfig config crawls) ≤ bytes crawls := by
  induction crawls with
  | nil => exact Nat.le_refl 0
  | cons crawl crawls ih =>
    rw [ofConfig_cons, bytes_cons]
    split
    · rw [bytes_cons]
      omega
    · omega

end Crawl

namespace Reclaimed

/-- What is taken off the totals of a crawl config for crawls. -/
def correction (config : String) (crawls : List Crawl) : Correction where
  count := (Crawl.ofConfig config crawls).length
  size := Counter.ofNatCapped (Crawl.bytes (Crawl.ofConfig config crawls))

theorem getD_add (r : Reclaimed) (crawl : Crawl) (config : String) :
    (r.add crawl).configs.getD config {}
      = if crawl.configId = some config then
          ⟨(r.configs.getD config {}).count + 1,
            Counter.plus (r.configs.getD config {}).size crawl.totalSize⟩
        else r.configs.getD config {} := by
  rw [add]
  cases crawl.configId with
  | none => rfl
  | some own =>
    dsimp only
    rw [SortedMap.getD, SortedMap.get?_insert]
    by_cases same : config = own
    · rw [if_pos same, if_pos (congrArg some same.symm), same]
      rfl
    · rw [if_neg same, if_neg fun h => same (Option.some.inj h).symm]
      rfl

theorem getD_configs (config : String) (crawls : List Crawl) :
    (ofCrawls crawls).configs.getD config {} = correction config crawls := by
  have from_ : ∀ r : Reclaimed, (crawls.foldl add r).configs.getD config {}
      = ⟨(r.configs.getD config {}).count + (Crawl.ofConfig config crawls).length,
          Counter.ofNatCapped ((r.configs.getD config {}).size.toNat
            + Crawl.bytes (Crawl.ofConfig config crawls))⟩ := by
    induction crawls with
    | nil =>
      intro r
      exact congrArg (Correction.mk _) (Counter.ofNatCapped_toNat _).symm
    | cons crawl crawls ih =>
      intro r
      rw [List.foldl_cons, ih, getD_add, Crawl.ofConfig_cons]
      by_cases own : crawl.configId = some config
      · have size : ∀ more : Nat,
            Counter.ofNatCapped ((Counter.plus (r.configs.getD config {}).size
              crawl.totalSize).toNat + more)
            = .ofNatCapped ((r.configs.getD config {}).size.toNat
                + (crawl.totalSize.toNat + more)) := by
          intro more
          apply UInt64.toNat_inj.1
          rw [Counter.toNat_ofNatCapped, Counter.toNat_ofNatCapped, Counter.toNat_plus]
          omega
        rw [if_pos own, if_pos own, size, Crawl.bytes_cons, List.length_cons]
        exact congrArg (Correction.mk · _) (Nat.add_right_comm _ 1 _)
      · rw [if_neg own, if_neg own]
  rw [ofCrawls, from_]
  show Correction.mk (0 + _) (Counter.ofNatCapped (0 + _)) = _
  rw [Nat.zero_add, Nat.zero_add]
  rfl

theorem isThere_configs (config : String) (crawls : List Crawl) :
    (∃ c, (ofCrawls crawls).configs.get? config = some c) ↔ config ∈ Crawl.configs crawls := by
  have from_ : ∀ r : Reclaimed, ((crawls.foldl add r).configs.get? config).isSome = true
      ↔ (r.configs.get? config).isSome = true ∨
        ∃ crawl ∈ crawls, crawl.configId = some config := by
    induction crawls with
    | nil =>
      intro r
      simp
    | cons crawl crawls ih =>
      intro r
      simp only [List.foldl_cons, ih, List.mem_cons, exists_eq_or_imp, ← or_assoc]
      apply or_congr_left
      rw [add]
      cases crawl.configId with
      | none => simp
      | some own =>
        dsimp only
        rw [SortedMap.get?_insert]
        by_cases same : config = own
        · simp [same]
        · simp [same, Ne.symm same]
  rw [Crawl.mem_configs, ← Option.isSome_iff_exists, ofCrawls, from_]
  exact or_iff_right nofun

/-- Cancellation does not change what crawls take up. -/
theorem ofCrawls_canceled (crawls : List Crawl) (finished : Calendar.Moment) :
    ofCrawls (crawls.map (·.canceledAt finished)) = ofCrawls crawls :=
  List.foldl_map

/-- Each config of the crawls is corrected once, in ascending order, by the number of its crawls and
their bytes. -/
theorem toList_ofCrawls (crawls : List Crawl) :
    (ofCrawls crawls).configs.toList
      = (Crawl.configs crawls).toList.map fun config => (config, correction config crawls) := by
  apply SortedMap.toList_eq_map fun config => isThere_configs config crawls
  intro config c found
  rw [← getD_configs, SortedMap.getD, found]
  rfl

end Reclaimed

end ArchiveAccounts
