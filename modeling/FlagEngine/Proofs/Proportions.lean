import FlagEngine.Proofs.Allocation
import Mathlib.Data.Rat.Floor
import Mathlib.Data.Set.Card
import Mathlib.Order.Interval.Finset.Nat

/-!
# Proportional bucketing

The hashes with a bucket value below a bound are the first ones, up to the exact share of the bound rounded up
(`ofHash_lt_iff_lt_ceil`). So the number of hashes that a range gets differs by less than one from its share:
`buckets_proportionally`.
-/

namespace FlagEngine.Traffic

variable {hash : UInt32} {ranges : List TrafficRange} {r : TrafficRange} {a b i m n : Nat}

/-- Bounds may be compared before the hash is scaled down. -/
theorem ofHash_lt_iff (hash : UInt32) (n : Nat) :
    (ofHash hash).toNat < n ↔ hash.toNat * bucketCount < n * UInt32.size := by
  rw [toNat_ofHash]
  exact Nat.div_lt_iff_lt_mul (by decide)

/-! ## Shares -/

/-- The exact share of the hashes below a bound. -/
def share (n : Nat) : ℚ :=
  n * UInt32.size / bucketCount

theorem bucketCount_pos : (0 : ℚ) < bucketCount :=
  Nat.cast_pos.mpr (by decide)

theorem ofHash_lt_iff_lt_ceil : (ofHash hash).toNat < n ↔ hash.toNat < ⌈share n⌉₊ := by
  rw [ofHash_lt_iff, Nat.lt_ceil, share, lt_div_iff₀ bucketCount_pos]
  exact_mod_cast Iff.rfl

theorem share_nonneg (n : Nat) : 0 ≤ share n := by
  unfold share
  positivity

theorem share_mono (h : m ≤ n) : share m ≤ share n := by
  unfold share
  gcongr

theorem ceil_share_le (h : n ≤ bucketCount) : ⌈share n⌉₊ ≤ UInt32.size := by
  have hall : share bucketCount = UInt32.size := mul_div_cancel_left₀ _ bucketCount_pos.ne'
  rw [Nat.ceil_le, ← hall]
  exact share_mono h

/-! ## Counting hashes -/

theorem ncard_interval (h : b ≤ UInt32.size) : {hash : UInt32 | a ≤ hash.toNat ∧ hash.toNat < b}.ncard = b - a := by
  have himage : UInt32.toNat '' {hash : UInt32 | a ≤ hash.toNat ∧ hash.toNat < b} = Finset.Ico a b := by
    ext n
    rw [Finset.coe_Ico, Set.mem_Ico]
    constructor
    · rintro ⟨hash, hbounds, rfl⟩
      exact hbounds
    · intro hbounds
      have hn : (UInt32.ofNat n).toNat = n := UInt32.toNat_ofNat_of_lt' (Nat.lt_of_lt_of_le hbounds.2 h)
      exact ⟨UInt32.ofNat n, by rwa [Set.mem_ofPred_eq, hn], hn⟩
  rw [← Set.ncard_image_of_injective _ fun _ _ h => UInt32.toNat_inj.mp h, himage, Set.ncard_coe_finset, Nat.card_Ico]

theorem ncard_ofHash (h : n ≤ bucketCount) :
    {hash | m ≤ (ofHash hash).toNat ∧ (ofHash hash).toNat < n}.ncard = ⌈share n⌉₊ - ⌈share m⌉₊ := by
  have hset : {hash | m ≤ (ofHash hash).toNat ∧ (ofHash hash).toNat < n}
      = {hash | ⌈share m⌉₊ ≤ hash.toNat ∧ hash.toNat < ⌈share n⌉₊} := by
    ext hash
    rw [Set.mem_ofPred_eq, Set.mem_ofPred_eq, ofHash_lt_iff_lt_ceil, ← Nat.not_lt, ofHash_lt_iff_lt_ceil, Nat.not_lt]
  rw [hset, ncard_interval (ceil_share_le h)]

/-- The roundings of two bounds differ by less than one. -/
theorem abs_ncard_ofHash_sub_lt_one (hle : m ≤ n) (h : n ≤ bucketCount) :
    |({hash | m ≤ (ofHash hash).toNat ∧ (ofHash hash).toNat < n}.ncard : ℚ) - (share n - share m)| < 1 := by
  rw [ncard_ofHash h, Nat.cast_sub (Nat.ceil_mono (share_mono hle)), abs_lt]
  have hm := Nat.le_ceil (share m)
  have hm' := Nat.ceil_lt_add_one (share_nonneg m)
  have hn := Nat.le_ceil (share n)
  have hn' := Nat.ceil_lt_add_one (share_nonneg n)
  constructor <;> linarith

/-- Ends in ascending order are not before the beginnings. -/
theorem start_le_end (hascending : ranges.Pairwise (·.endOfRange ≤ ·.endOfRange)) (hr : ranges[i]? = some r) :
    start ranges i ≤ r.endOfRange := by
  obtain ⟨hi, rfl⟩ := List.getElem?_eq_some_iff.mp hr
  refine (ends_le_iff_start_le hascending (Nat.le_of_lt hi)).mp fun b hb => ?_
  obtain ⟨j, hj, rfl⟩ := List.mem_take_iff_getElem.mp hb
  exact List.pairwise_iff_getElem.mp hascending j i _ hi (by omega)

theorem gets_ofHash_iff (hascending : ranges.Pairwise (·.endOfRange ≤ ·.endOfRange)) (hr : ranges[i]? = some r)
    (hash : UInt32) :
    Gets ranges (ofHash hash) i r ↔
      (start ranges i).toNat ≤ (ofHash hash).toNat ∧ (ofHash hash).toNat < r.endOfRange.toNat := by
  rw [gets_iff_of_ascending hascending hr, UInt32.le_iff_toNat_le, UInt32.lt_iff_toNat_lt]

/-- **Bucketing is proportional.** The bucket value of a key is that of its hash and in range, and a bucketing id is
allocated by the hash of the id and the salt. A bucket value is below a bound just if the hash is below the same part
of all hashes. So where the ends of ranges ascend, the number of hashes that a range gets differs by less than one from
the part of the bucket values that it covers. No two ranges get the same hash, and its entity is that of the range that
gets it. -/
theorem buckets_proportionally :
    (∀ key, Sharder.murmur key = ofHash (Murmur.hashText 1 key) ∧ (Sharder.murmur key).toNat < bucketCount) ∧
    (∀ bucketingId salt ranges, Sharder.murmur.bucket? bucketingId salt ranges
      = allocate? ranges (ofHash (Murmur.hashText 1 (bucketingId ++ salt)))) ∧
    (∀ (hash : UInt32) (n : Nat), (ofHash hash).toNat < n ↔ hash.toNat * bucketCount < n * UInt32.size) ∧
    ∀ ranges : List TrafficRange, ranges.Pairwise (·.endOfRange ≤ ·.endOfRange) →
      (∀ r ∈ ranges, r.endOfRange.toNat ≤ bucketCount) →
      (∀ i r, ranges[i]? = some r →
        |({hash | Gets ranges (ofHash hash) i r}.ncard : ℚ)
          - (r.endOfRange.toNat - (start ranges i).toNat) * UInt32.size / bucketCount| < 1) ∧
      ∀ hash i r, Gets ranges (ofHash hash) i r →
        allocate? ranges (ofHash hash) = r.entity? ∧ ∀ j r', Gets ranges (ofHash hash) j r' → i = j := by
  refine ⟨fun key => ⟨rfl, ofHash_lt _⟩, fun _ _ _ => rfl, ofHash_lt_iff, ?_⟩
  intro ranges hascending hends
  refine ⟨fun i r hr => ?_, fun hash i r h => ?_⟩
  · have hshares : ((r.endOfRange.toNat : ℚ) - (start ranges i).toNat) * UInt32.size / bucketCount
        = share r.endOfRange.toNat - share (start ranges i).toNat := by
      rw [share, share, sub_mul, sub_div]
    simp only [gets_ofHash_iff hascending hr, hshares]
    exact abs_ncard_ofHash_sub_lt_one (UInt32.le_iff_toNat_le.mp (start_le_end hascending hr))
      (hends r (List.mem_of_getElem? hr))
  · exact ⟨h.allocate?_eq, fun j r' h' => h.unique h'⟩

/-- No bucket values at all, and two thirds of them. The empty key is in the first third. -/
theorem buckets_proportionally_of_thirds :
    let ranges : List TrafficRange := [⟨"a", 3333⟩, ⟨"b", 3333⟩, ⟨"c", 10000⟩]
    |({hash | Gets ranges (ofHash hash) 1 ⟨"b", 3333⟩}.ncard : ℚ) - (3333 - 3333) * UInt32.size / bucketCount| < 1 ∧
      |({hash | Gets ranges (ofHash hash) 2 ⟨"c", 10000⟩}.ncard : ℚ) - (10000 - 3333) * UInt32.size / bucketCount| < 1 ∧
      Gets ranges (ofHash 0x55532617) 0 ⟨"a", 3333⟩ ∧ allocate? ranges (ofHash 0x55532617) = some "a" ∧
      Sharder.murmur "" = 3175 ∧ Sharder.murmur.bucket? "" "" ranges = some "a" := by
  intro ranges
  obtain ⟨hkeys, hids, -, hranges⟩ := buckets_proportionally
  obtain ⟨hshares, houtcome⟩ := hranges ranges (by decide) (by decide)
  have hb : |(_ : ℚ) - ((3333 : Nat) - (3333 : Nat)) * UInt32.size / bucketCount| < 1 := hshares 1 ⟨"b", 3333⟩ rfl
  have hc : |(_ : ℚ) - ((10000 : Nat) - (3333 : Nat)) * UInt32.size / bucketCount| < 1 := hshares 2 ⟨"c", 10000⟩ rfl
  have hgets : Gets ranges (ofHash 0x55532617) 0 ⟨"a", 3333⟩ := .zero (by decide)
  obtain ⟨ha, -⟩ := houtcome _ _ _ hgets
  have hkey : Sharder.murmur "" = 3175 := (hkeys "").1.trans (by decide +kernel)
  have hid : Sharder.murmur.bucket? "" "" ranges = some "a" := (hids "" "" ranges).trans (by decide +kernel)
  exact ⟨hb, hc, hgets, ha, hkey, hid⟩

end FlagEngine.Traffic
