import FlagEngine.Murmur
import Mathlib.Data.Nat.Digits.Lemmas

/-!
# The blocks of a hash

Every step that changes the state of a hash can be undone: multiplying by an odd number, rotating, and taking the
exclusive or with a shifted copy. So two blocks never take a state to the same one (`mix_injective`), what
follows keeps two states apart (`absorb_left_injective`), and texts that differ in a single block have different
hashes: `separates_blocks`.
-/

namespace FlagEngine.Murmur

open Function (Injective LeftInverse)

variable {k c d s t : UInt32} {xs ys : List UInt8} {block : Nat}

/-! ## Operations on words -/

/-- An odd number has an inverse modulo `2 ^ 32`. -/
theorem mul_injective (h : c * d = 1) : Injective (· * c) := by
  have hinverse : LeftInverse (· * d) (· * c) := by
    intro x
    dsimp only
    rw [UInt32.mul_assoc, h, UInt32.mul_one]
  exact hinverse.injective

/-- A word that is its own shift has no highest bit. -/
theorem eq_zero_of_shiftRight_eq_self (hpos : 0 < k.toNat) (hlt : k.toNat < 32) (h : d >>> k = d) : d = 0 := by
  by_contra hne
  have hd : 0 < d.toNat := Nat.pos_of_ne_zero fun hzero => hne (UInt32.toNat_inj.mp hzero)
  have hless : d.toNat >>> k.toNat < d.toNat := by
    rw [Nat.shiftRight_eq_div_pow]
    exact Nat.div_lt_self hd (Nat.one_lt_two_pow (Nat.ne_of_gt hpos))
  have heq : d.toNat >>> k.toNat = d.toNat := by
    have h := congrArg UInt32.toNat h
    rwa [UInt32.toNat_shiftRight, Nat.mod_eq_of_lt hlt] at h
  exact Nat.ne_of_lt hless heq

theorem xor_shiftRight_injective (hpos : 0 < k.toNat) (hlt : k.toNat < 32) :
    Injective fun x => x ^^^ (x >>> k) := by
  intro x y h
  have h : x ^^^ (x >>> k) = y ^^^ (y >>> k) := h
  -- the places where two such words differ are shifted onto themselves
  have hshift : (x ^^^ y) >>> k = x ^^^ y := by
    calc (x ^^^ y) >>> k
      _ = x >>> k ^^^ y >>> k := UInt32.shiftRight_xor
      _ = x ^^^ (x ^^^ x >>> k) ^^^ y >>> k := by rw [← UInt32.xor_assoc, UInt32.xor_self, UInt32.zero_xor]
      _ = x ^^^ (y ^^^ y >>> k) ^^^ y >>> k := by rw [h]
      _ = x ^^^ y := by rw [UInt32.xor_assoc, UInt32.xor_assoc, UInt32.xor_self, UInt32.xor_zero]
  exact UInt32.xor_eq_zero_iff.mp (eq_zero_of_shiftRight_eq_self hpos hlt hshift)

theorem toBitVec_rotateLeft (hpos : 0 < k.toNat) (hlt : k.toNat < 32) (x : UInt32) :
    (rotateLeft x k).toBitVec = x.toBitVec.rotateLeft k.toNat := by
  have hback : (32 - k).toNat = 32 - k.toNat :=
    UInt32.toNat_sub_of_le _ _ (UInt32.le_iff_toNat_le.mpr (Nat.le_of_lt hlt))
  have hmod : (32 - k.toNat) % 32 = 32 - k.toNat := Nat.mod_eq_of_lt (by omega)
  apply BitVec.eq_of_toNat_eq
  rw [rotateLeft, UInt32.toNat_toBitVec, UInt32.toNat_or, UInt32.toNat_shiftLeft, UInt32.toNat_shiftRight,
    BitVec.toNat_rotateLeft, hback, Nat.mod_eq_of_lt hlt, hmod]
  rfl

theorem rotateRight_rotateLeft {w r : Nat} (hlt : r < w) (x : BitVec w) :
    (x.rotateLeft r).rotateRight r = x := by
  apply BitVec.eq_of_getLsbD_eq
  intro i hi
  rw [BitVec.getLsbD_rotateRight, Nat.mod_eq_of_lt hlt]
  by_cases h : i < w - r
  · have hbit : ¬ r + i < r := by omega
    have hin : r + i < w := by omega
    simp only [h, BitVec.getLsbD_rotateLeft, Nat.mod_eq_of_lt hlt, hbit, hin, decide_true, decide_false, cond_true,
      cond_false, Bool.true_and, Nat.add_sub_cancel_left]
  · have hbit : i - (w - r) < r := by omega
    have hback : w - r + (i - (w - r)) = i := by omega
    simp only [h, BitVec.getLsbD_rotateLeft, Nat.mod_eq_of_lt hlt, hi, hbit, hback, decide_true, decide_false,
      cond_true, cond_false, Bool.true_and]

theorem rotateLeft_injective (hpos : 0 < k.toNat) (hlt : k.toNat < 32) : Injective (rotateLeft · k) := by
  intro x y h
  have h : (x.toBitVec.rotateLeft k.toNat).rotateRight k.toNat
      = (y.toBitVec.rotateLeft k.toNat).rotateRight k.toNat := by
    rw [← toBitVec_rotateLeft hpos hlt, ← toBitVec_rotateLeft hpos hlt]
    exact congrArg (fun x : UInt32 => x.toBitVec.rotateRight k.toNat) h
  rw [rotateRight_rotateLeft hlt, rotateRight_rotateLeft hlt] at h
  exact UInt32.toBitVec_inj.mp h

/-! ## Words of bytes -/

theorem lt_of_mem_map_toNat (xs : List UInt8) : ∀ n ∈ xs.map UInt8.toNat, n < 256 := by
  simp only [List.forall_mem_map]
  exact fun b _ => b.toNat_lt

/-- Up to four bytes are the digits of their word. -/
theorem toNat_word (h : xs.length ≤ 4) : (word xs).toNat = Nat.ofDigits 256 (xs.map UInt8.toNat) := by
  induction xs with
  | nil => rfl
  | cons b bs ih =>
    have hlength : bs.length ≤ 3 := Nat.le_of_succ_le_succ h
    have hlt : (word bs).toNat < 256 ^ 3 := by
      rw [ih (Nat.le_succ_of_le hlength)]
      have hpow : 256 ^ (bs.map UInt8.toNat).length ≤ 256 ^ 3 :=
        Nat.pow_le_pow_right (by decide) (by rwa [List.length_map])
      exact Nat.lt_of_lt_of_le (Nat.ofDigits_lt_base_pow_length (by decide) (lt_of_mem_map_toNat bs)) hpow
    have hshift : (word bs <<< 8).toNat = (word bs).toNat <<< 8 := by
      rw [UInt32.toNat_shiftLeft]
      refine Nat.mod_eq_of_lt ?_
      rw [Nat.shiftLeft_eq]
      exact Nat.mul_lt_mul_of_pos_right hlt (by decide)
    rw [word, UInt32.toNat_or, hshift, UInt8.toNat_toUInt32, Nat.or_comm,
      ← Nat.shiftLeft_add_eq_or_of_lt b.toNat_lt, Nat.shiftLeft_eq, ih (Nat.le_succ_of_le hlength), List.map_cons,
      Nat.ofDigits_cons, Nat.add_comm, Nat.mul_comm]

theorem eq_of_word_eq (hlength : xs.length = ys.length) (hle : xs.length ≤ 4) (h : word xs = word ys) :
    xs = ys := by
  have h := congrArg UInt32.toNat h
  rw [toNat_word hle, toNat_word (hlength ▸ hle)] at h
  have hmap : xs.map UInt8.toNat = ys.map UInt8.toNat :=
    Nat.ofDigits_inj_of_len_eq (by decide) (by rwa [List.length_map, List.length_map]) (lt_of_mem_map_toNat xs)
      (lt_of_mem_map_toNat ys) h
  exact List.map_injective_iff.mpr (fun _ _ => UInt8.toNat_inj.mp) hmap

/-! ## Steps of the hash -/

theorem scramble_injective : Injective scramble := by
  intro x y h
  have hrotated := mul_injective (d := 0x56ed309b) (by decide) h
  have hmultiplied := rotateLeft_injective (by decide) (by decide) hrotated
  exact mul_injective (d := 0xdee13bb1) (by decide) hmultiplied

/-- The state and the block leave their exclusive or behind. -/
theorem xor_eq_of_mix_eq {x y : UInt32} (h : mix s x = mix t y) : s ^^^ scramble x = t ^^^ scramble y := by
  have hmultiplied := (UInt32.add_left_inj _).mp h
  have hrotated := mul_injective (d := 0xcccccccd) (by decide) hmultiplied
  exact rotateLeft_injective (by decide) (by decide) hrotated

theorem mix_injective (s : UInt32) : Injective (mix s) :=
  fun _ _ h => scramble_injective ((UInt32.xor_right_inj s).mp (xor_eq_of_mix_eq h))

theorem mix_left_injective (x : UInt32) : Injective (mix · x) :=
  fun _ _ h => (UInt32.xor_left_inj (scramble x)).mp (xor_eq_of_mix_eq h)

theorem avalanche_injective : Injective avalanche := by
  intro x y h
  have hsecond := xor_shiftRight_injective (by decide) (by decide) h
  have hshifted := mul_injective (d := 0x7ed1b41d) (by decide) hsecond
  have hfirst := xor_shiftRight_injective (by decide) (by decide) hshifted
  have hx := mul_injective (d := 0xa5cb9243) (by decide) hfirst
  exact xor_shiftRight_injective (by decide) (by decide) hx

theorem hash_eq_iff (seed : UInt32) (hlength : xs.length = ys.length) :
    hash seed xs = hash seed ys ↔ absorb seed xs = absorb seed ys := by
  rw [hash, hash, avalanche_injective.eq_iff, hlength, UInt32.xor_left_inj]

/-! ## Runs over a text -/

theorem absorb_block (s : UInt32) (a b c d : UInt8) (rest : List UInt8) :
    absorb s (a :: b :: c :: d :: rest) = absorb (mix s (word [a, b, c, d])) rest := by
  rw [absorb.eq_def]

theorem absorb_of_length_lt (h : xs.length < 4) (s : UInt32) : absorb s xs = s ^^^ scramble (word xs) := by
  match xs with
  | [] | [_] | [_, _] | [_, _, _] => rw [absorb.eq_def]

theorem length_lt_of_no_block (h : ∀ a b c d rest, xs = a :: b :: c :: d :: rest → False) : xs.length < 4 := by
  match xs with
  | [] | [_] | [_, _] | [_, _, _] => simp
  | a :: b :: c :: d :: rest => exact (h a b c d rest rfl).elim

theorem exists_block (h : 4 ≤ xs.length) : ∃ a b c d rest, xs = a :: b :: c :: d :: rest := by
  match xs with
  | a :: b :: c :: d :: rest => exact ⟨a, b, c, d, rest, rfl⟩

/-- The rest of a text keeps states apart. -/
theorem absorb_left_injective (xs : List UInt8) : Injective (absorb · xs) := by
  intro s t h
  dsimp only at h
  induction s, xs using absorb.induct generalizing t with
  | case1 s a b c d rest ih =>
    rw [absorb_block, absorb_block] at h
    exact mix_left_injective _ (ih h)
  | case2 s tail htail =>
    have htail := length_lt_of_no_block htail
    rw [absorb_of_length_lt htail, absorb_of_length_lt htail] at h
    exact (UInt32.xor_left_inj _).mp h

/-- Texts that agree outside a block and lead to the same state agree in the block too. -/
theorem eq_of_absorb_eq (hlength : xs.length = ys.length) (hagree : ∀ i, i / 4 ≠ block → xs[i]? = ys[i]?)
    (h : absorb s xs = absorb s ys) : xs = ys := by
  induction s, xs using absorb.induct generalizing ys block with
  | case1 s a b c d rest ih =>
    have hlong : 4 ≤ ys.length := by
      rw [← hlength]
      exact Nat.le_add_left 4 rest.length
    obtain ⟨a', b', c', d', rest', rfl⟩ := exists_block hlong
    rw [absorb_block, absorb_block] at h
    have hrest (i : Nat) (hi : i / 4 + 1 ≠ block) : rest[i]? = rest'[i]? := hagree (i + 4) (by omega)
    cases block with
    | zero =>
      -- what follows is the same, and it keeps the states apart that the first blocks lead to
      obtain rfl : rest = rest' := List.ext_getElem? fun i => hrest i (Nat.succ_ne_zero _)
      have hword := mix_injective s (absorb_left_injective rest h)
      have hblock : [a, b, c, d] = [a', b', c', d'] := eq_of_word_eq rfl (Nat.le_refl 4) hword
      simpa using hblock
    | succ block =>
      obtain rfl : a = a' := Option.some.inj (hagree 0 (by omega))
      obtain rfl : b = b' := Option.some.inj (hagree 1 (by omega))
      obtain rfl : c = c' := Option.some.inj (hagree 2 (by omega))
      obtain rfl : d = d' := Option.some.inj (hagree 3 (by omega))
      have hlength : rest.length = rest'.length := by simpa using hlength
      have hrest : ∀ i, i / 4 ≠ block → rest[i]? = rest'[i]? := fun i hi => hrest i (by omega)
      rw [ih hlength hrest h]
  | case2 s tail htail =>
    have htail := length_lt_of_no_block htail
    rw [absorb_of_length_lt htail, absorb_of_length_lt (hlength ▸ htail), UInt32.xor_right_inj] at h
    exact eq_of_word_eq hlength (Nat.le_of_lt htail) (scramble_injective h)

/-- The texts have the same length and differ, but in one block only: in the four bytes from a multiple of four on, or
in the one to three bytes left over at the end. -/
structure DifferInBlock (block : Nat) (xs ys : List UInt8) : Prop where
  length_eq : xs.length = ys.length
  ne : xs ≠ ys
  agree : ∀ i, i / 4 ≠ block → xs[i]? = ys[i]?

theorem differInBlock_iff :
    DifferInBlock block xs ys ↔
      xs.length = ys.length ∧ xs ≠ ys ∧ ∀ i < xs.length, i / 4 ≠ block → xs[i]? = ys[i]? := by
  constructor
  · rintro ⟨hlength, hne, hagree⟩
    exact ⟨hlength, hne, fun i _ => hagree i⟩
  · rintro ⟨hlength, hne, hagree⟩
    refine ⟨hlength, hne, fun i hi => ?_⟩
    rcases Nat.lt_or_ge i xs.length with hlt | hge
    · exact hagree i hlt hi
    · rw [List.getElem?_eq_none hge, List.getElem?_eq_none (hlength ▸ hge)]

instance : Decidable (DifferInBlock block xs ys) :=
  decidable_of_iff _ differInBlock_iff.symm

/-- **Each block counts**: texts that differ in one block only have different hashes, whatever the seed. -/
theorem separates_blocks (seed : UInt32) (h : DifferInBlock block xs ys) : hash seed xs ≠ hash seed ys := by
  intro heq
  have habsorb : absorb seed xs = absorb seed ys := (hash_eq_iff seed h.length_eq).mp heq
  exact h.ne (eq_of_absorb_eq h.length_eq h.agree habsorb)

/-- The second block is a whole one and the third one is the end of a text. -/
theorem separates_blocks_of_ten :
    let text := [0, 1, 2, 3, 4, 5, 6, 7, 8, 9]
    let inside := [0, 1, 2, 3, 7, 6, 5, 4, 8, 9]
    let atEnd := [0, 1, 2, 3, 4, 5, 6, 7, 9, 8]
    (DifferInBlock 1 text inside ∧ hash 1 text ≠ hash 1 inside) ∧
      DifferInBlock 2 text atEnd ∧ hash 1 text ≠ hash 1 atEnd := by
  intro text inside atEnd
  have hinside : DifferInBlock 1 text inside := by decide
  have hatEnd : DifferInBlock 2 text atEnd := by decide
  exact ⟨⟨hinside, separates_blocks 1 hinside⟩, hatEnd, separates_blocks 1 hatEnd⟩

end FlagEngine.Murmur
