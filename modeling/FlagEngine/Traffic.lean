import FlagEngine.Datafile.Basic
import FlagEngine.Murmur

/-!
# Traffic

A user is given a bucket value below `Traffic.bucketCount`, and ranges of these values are allocated to
entities.
-/

namespace FlagEngine

namespace Traffic

/-- The number of bucket values. -/
def bucketCount : Nat := 10000

/-- The bucket value of a hash, all of them being equally likely. -/
def ofHash (hash : UInt32) : UInt32 :=
  UInt32.ofNat (hash.toNat * bucketCount / 0x100000000)

theorem toNat_ofHash (hash : UInt32) : (ofHash hash).toNat = hash.toNat * bucketCount / 0x100000000 := by
  have h := hash.toNat_lt
  have hlt : hash.toNat * bucketCount / 0x100000000 < 0x100000000 := by
    rw [bucketCount]; omega
  rw [ofHash, UInt32.toNat_ofNat_of_lt' hlt]

theorem ofHash_lt (hash : UInt32) : (ofHash hash).toNat < bucketCount := by
  have h := hash.toNat_lt
  rw [toNat_ofHash, bucketCount]
  omega

/-- The entity of the first range that ends after a bucket value. An empty entity is none. -/
def allocate? (ranges : List TrafficRange) (value : UInt32) : Option String :=
  ((ranges.find? fun r => value < r.endOfRange).map (·.entityId)).filter (!·.isEmpty)

@[simp] theorem allocate?_nil (value : UInt32) : allocate? [] value = none := rfl

theorem allocate?_cons (r : TrafficRange) (ranges : List TrafficRange) (value : UInt32) :
    allocate? (r :: ranges) value
      = if value < r.endOfRange then if r.entityId.isEmpty then none else some r.entityId
        else allocate? ranges value := by
  by_cases h : value < r.endOfRange
  · by_cases he : r.entityId.isEmpty <;> simp [allocate?, h, he, Option.filter]
  · simp [allocate?, h]

end Traffic

/-- Assigns a bucket value to a bucketing key. -/
abbrev Sharder := String → UInt32

namespace Sharder

/-- Spreads the bucketing keys evenly over the bucket values. -/
def murmur : Sharder :=
  fun key => Traffic.ofHash (Murmur.hashText 1 key)

/-- The bucket value of a bucketing id. The salt keeps different rules independent. -/
def value (sharder : Sharder) (bucketingId salt : String) : UInt32 :=
  sharder (bucketingId ++ salt)

/-- The entity that a bucketing id is allocated to. -/
def bucket? (sharder : Sharder) (bucketingId salt : String) (ranges : List TrafficRange) :
    Option String :=
  Traffic.allocate? ranges (sharder.value bucketingId salt)

end Sharder

end FlagEngine
