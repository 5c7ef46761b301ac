import FlagEngine.Bandit.Basic
import FlagEngine.Index

/-!
# The cache of bandit decisions

A bounded cache that evicts the least recently used entry. While a decision is being fetched its entry
may be removed, or all of them. The caller of `Cache.begin` therefore holds a ticket, and
`Cache.complete` writes nothing if the key of the ticket was removed, or the cache reset, since then.
-/

namespace FlagEngine.Bandit

/-- How long an entry lives. Lifetimes that are too long for the clock, so that no entry can be written, are left
out. -/
structure Lifetime where
  nanos : Nat
deriving DecidableEq, Repr

def Lifetime.ofMillis (n : Nat) : Lifetime :=
  ⟨n * 1000000⟩

/-- The state of a cache when a fetch began. -/
structure Ticket where
  generation : UInt64
  epoch : UInt64
deriving DecidableEq, Repr, Inhabited

/-- An entry with the time at which it expires. -/
structure Stored where
  entry : Entry
  expiry : Nat
deriving DecidableEq, Repr

structure Cache where
  /-- The largest number of entries. -/
  capacity : Nat
  lifetime : Lifetime
  /-- The time, in nanoseconds since the cache was set up. -/
  now : Nat
  /-- Entries by key, the most recently used one first. -/
  entries : List (String × Stored)
  /-- Counts the resets, and the times that `removals` was full. -/
  generation : UInt64
  /-- Counts the removals. -/
  epoch : UInt64
  /-- The epoch of the latest removal of each key in this generation. -/
  removals : Index UInt64

/-- What a call finds in the cache. -/
inductive Finding where
  | hit (e : Entry)
  | miss (t : Ticket)
deriving DecidableEq, Repr

instance : Inhabited Finding := ⟨.miss default⟩

namespace Cache

def defaultCapacity : Nat := 10000

def defaultMillis : Nat := 30 * 60 * 1000

/-- The largest number of removals that are kept apart by key. -/
def removalLimit : Nat := 10000

def empty (capacity : Nat) (lifetime : Lifetime) : Cache where
  capacity
  lifetime
  now := 0
  entries := []
  generation := 0
  epoch := 0
  removals := ∅

instance : Inhabited Cache := ⟨empty defaultCapacity (.ofMillis defaultMillis)⟩

/-- The number of entries, expired ones included. -/
def size (c : Cache) : Nat :=
  c.entries.length

/-- Lets time pass. -/
def elapse (c : Cache) (nanos : Nat) : Cache :=
  { c with now := c.now + nanos }

/-- The entry of a key, expired or not. -/
def stored? (c : Cache) (key : String) : Option Stored :=
  c.entries.lookup key

/-- The entry of a key unless it is expired. -/
def live? (c : Cache) (key : String) : Option Stored :=
  (c.stored? key).filter fun s => c.now < s.expiry

/-- Takes an entry out. This is no removal that a ticket could notice. -/
def drop (c : Cache) (key : String) : Cache :=
  { c with entries := c.entries.filter fun e => e.1 != key }

/-- Puts an entry in front, for a whole lifetime. The least recently used entry makes room for it. -/
def save (c : Cache) (key : String) (e : Entry) : Cache :=
  { c with
    entries := ((key, ⟨e, c.now + c.lifetime.nanos⟩) :: (c.drop key).entries).take c.capacity }

/-- The live entry of a key. -/
def peek? (c : Cache) (key : String) : Option Entry :=
  (c.live? key).map (·.entry)

/-- The live entry of a key, which thereby is the most recently used one. An expired entry is taken out. -/
def lookup (c : Cache) (key : String) : Option Entry × Cache :=
  match c.live? key with
  | some s => (some s.entry, { c with entries := (key, s) :: (c.drop key).entries })
  | none => (none, c.drop key)

def remove (c : Cache) (key : String) : Cache :=
  let epoch := c.epoch + 1
  if removalLimit ≤ c.removals.size ∧ key ∉ c.removals then
    { c.drop key with
      epoch
      generation := c.generation + 1
      removals := (∅ : Index UInt64).insert key epoch }
  else
    { c.drop key with epoch, removals := c.removals.insert key epoch }

def reset (c : Cache) : Cache :=
  { c with entries := [], generation := c.generation + 1, removals := ∅ }

def ticket (c : Cache) : Ticket :=
  ⟨c.generation, c.epoch⟩

/-- Whether neither a reset nor a removal of the key has happened since the ticket. -/
def isCurrent (c : Cache) (key : String) (t : Ticket) : Bool :=
  c.generation == t.generation && c.removals[key]?.all (· ≤ t.epoch)

/-- What the options of a call do before it looks up. -/
def prepare (c : Cache) (key : String) (options : CacheOptions) : Cache :=
  let c := if options.reset then c.reset else c
  if options.invalidate then c.remove key else c

/-- Looks up a decision for attributes with the given fingerprint. An entry for other attributes is
taken out. -/
def begin (c : Cache) (key fingerprint : String) (options : CacheOptions) : Finding × Cache :=
  let c := c.prepare key options
  if options.ignore then (.miss c.ticket, c)
  else
    match c.lookup key with
    | (some e, c) =>
      if e.fingerprint = fingerprint then (.hit e, c)
      else (.miss c.ticket, c.drop key)
    | (none, c) => (.miss c.ticket, c)

/-- Writes a fetched decision unless the ticket is out of date. Says whether it was written. -/
def complete (c : Cache) (key : String) (e : Entry) (t : Ticket) : Bool × Cache :=
  if c.isCurrent key t && c.capacity != 0 then (true, c.save key e) else (false, c)

@[simp] theorem lookup_fst (c : Cache) (key : String) : (c.lookup key).1 = c.peek? key := by
  unfold lookup peek?
  cases c.live? key <;> rfl

private theorem lookup_filter_ne {α : Type} (entries : List (String × α)) (key other : String) :
    (entries.filter fun e => e.1 != key).lookup other
      = if other = key then none else entries.lookup other := by
  induction entries with
  | nil => simp
  | cons e entries ih =>
    by_cases hk : e.1 = key
    · have hne : (e.1 != key) = false := by simpa using hk
      rw [List.filter_cons_of_neg (by simp [hne]), ih, List.lookup_cons]
      by_cases ho : other = key
      · simp [ho]
      · have : (other == e.1) = false := by simpa [hk] using ho
        simp [this]
    · have hne : (e.1 != key) = true := by simpa using hk
      rw [List.filter_cons_of_pos (by simp [hne]), List.lookup_cons, List.lookup_cons, ih]
      by_cases ho : other = e.1
      · have : other ≠ key := fun h => hk (ho ▸ h)
        simp [ho, hk]
      · have : (other == e.1) = false := by simpa using ho
        simp [this]

theorem stored?_drop (c : Cache) (key other : String) :
    (c.drop key).stored? other = if other = key then none else c.stored? other := by
  simp only [stored?, drop, lookup_filter_ne]

theorem stored?_save_self (c : Cache) (key : String) (e : Entry) (hc : c.capacity ≠ 0) :
    (c.save key e).stored? key = some ⟨e, c.now + c.lifetime.nanos⟩ := by
  obtain ⟨n, hn⟩ := Nat.exists_eq_succ_of_ne_zero hc
  simp [stored?, save, hn]

end Cache

end FlagEngine.Bandit
