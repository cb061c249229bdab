import Mathlib.Data.List.Basic
import Mathlib.Algebra.Order.Ring.Nat

/-!
# Key derivation: `p_sha1` and `p_sha256`

`asyncua/crypto/uacrypto.py` derives the keys of a secure channel with the `P_hash` function of
RFC 2246 (TLS 1.0): a `while` loop extends a byte buffer one keyed-hash block at a time until it
holds the total size asked for, and a `for` loop cuts it into one part per size. `p_sha1` and
`p_sha256` differ only in the keyed hash, so both are `pHash` applied to their own.

The keyed hashes are not modelled, only what the loops rely on: each call returns exactly
`size` bytes (20 for SHA-1, 32 for SHA-256).
-/

namespace Asyncua

/-- A keyed hash returning `size` bytes, as `hmac_sha1` (20) and `hmac_sha256` (32) do. -/
structure Hmac (size : Nat) where
  digest : List UInt8 → List UInt8 → List UInt8
  length_digest : ∀ key message, (digest key message).length = size
  size_pos : 0 < size

variable {size : Nat} (hmac : Hmac size) (secret seed : List UInt8)

/-- The `while` loop of `p_sha1`: `accum = hmac(secret, accum)`, then
`result += hmac(secret, accum + seed)`, as long as `len(result) < full_size`. -/
def pHashLoop (fullSize : Nat) (accum result : List UInt8) : List UInt8 :=
  if result.length < fullSize then
    pHashLoop fullSize (hmac.digest secret accum)
      (result ++ hmac.digest secret (hmac.digest secret accum ++ seed))
  else result
termination_by fullSize - result.length
decreasing_by
  simp only [List.length_append, hmac.length_digest]
  have := hmac.size_pos
  omega

/-- The `for` loop that cuts the buffer: `parts.append(result[:size])`, then
`result = result[size:]`. -/
def splitParts : List Nat → List UInt8 → List (List UInt8)
  | [], _ => []
  | n :: sizes, result => result.take n :: splitParts sizes (result.drop n)

/-- `p_sha1(secret, seed, sizes)` and `p_sha256`, for the keyed hash each uses; `full_size` is
the sum of the sizes. -/
def pHash (sizes : List Nat) : List (List UInt8) :=
  splitParts sizes (pHashLoop hmac secret seed sizes.sum seed [])

/-- `p_sha1`. -/
def pSha1 (hmacSha1 : Hmac 20) (secret seed : List UInt8) (sizes : List Nat) :
    List (List UInt8) :=
  pHash hmacSha1 secret seed sizes

/-- `p_sha256`. -/
def pSha256 (hmacSha256 : Hmac 32) (secret seed : List UInt8) (sizes : List Nat) :
    List (List UInt8) :=
  pHash hmacSha256 secret seed sizes

/-! ### The `P_hash` stream of RFC 2246 -/

/-- `A(0) = seed`, `A(j) = HMAC(secret, A(j - 1))`. -/
def pHashA : Nat → List UInt8
  | 0 => seed
  | j + 1 => hmac.digest secret (pHashA j)

/-- The first `n` blocks of the stream `HMAC(secret, A(1) + seed) ++ HMAC(secret, A(2) + seed)
++ ...`. -/
def pHashStream : Nat → List UInt8
  | 0 => []
  | n + 1 => pHashStream n ++ hmac.digest secret (pHashA hmac secret seed (n + 1) ++ seed)

/-- Byte `p` of the stream: byte `p % size` of block `p / size + 1`. -/
def pHashByte (p : Nat) : UInt8 :=
  (hmac.digest secret (pHashA hmac secret seed (p / size + 1) ++ seed)).get
    ⟨p % size, by rw [hmac.length_digest]; exact Nat.mod_lt _ hmac.size_pos⟩

@[simp] lemma length_pHashStream (n : Nat) :
    (pHashStream hmac secret seed n).length = n * size := by
  induction n with
  | zero => simp [pHashStream]
  | succ n ih => simp [pHashStream, ih, hmac.length_digest, Nat.succ_mul]

/-- The stream is the sequence of bytes `pHashByte`: every prefix of whole blocks agrees with
it. -/
lemma getElem_pHashStream (n p : Nat) (hp : p < (pHashStream hmac secret seed n).length) :
    (pHashStream hmac secret seed n)[p] = pHashByte hmac secret seed p := by
  induction n with
  | zero => simp at hp
  | succ n ih =>
    simp only [pHashStream]
    by_cases h : p < (pHashStream hmac secret seed n).length
    · rw [List.getElem_append_left h, ih h]
    · rw [List.getElem_append_right (Nat.le_of_not_lt h)]
      simp only [length_pHashStream] at h hp ⊢
      have hdiv : p / size = n := Nat.div_eq_of_lt_le (by omega) (by simpa using hp)
      have hmod : p % size = p - n * size := by rw [Nat.mod_def, hdiv, Nat.mul_comm]
      simp [pHashByte, hdiv, hmod]

/-- The `while` loop stops on a whole number of blocks of the stream, at least `fullSize` bytes
long. -/
lemma pHashLoop_stream (fullSize j : Nat) :
    ∃ N, pHashLoop hmac secret seed fullSize (pHashA hmac secret seed j)
        (pHashStream hmac secret seed j) = pHashStream hmac secret seed N ∧
      fullSize ≤ N * size := by
  refine pHashLoop.induct hmac secret seed fullSize
    (fun accum result => ∀ j, accum = pHashA hmac secret seed j →
      result = pHashStream hmac secret seed j →
      ∃ N, pHashLoop hmac secret seed fullSize accum result = pHashStream hmac secret seed N ∧
        fullSize ≤ N * size) ?_ ?_ _ _ j rfl rfl
  · -- one more block: the loop state moves from block `j` to block `j + 1`
    intro accum result hlt ih j ha hr
    subst ha hr
    obtain ⟨N, hN, hle⟩ := ih (j + 1) rfl rfl
    exact ⟨N, by rw [pHashLoop, if_pos hlt]; exact hN, hle⟩
  · -- the loop exits with the blocks it has
    intro accum result hge j ha hr
    subst ha hr
    refine ⟨j, by rw [pHashLoop, if_neg hge], ?_⟩
    simp only [length_pHashStream] at hge
    omega

/-- The `for` loop hands out consecutive slices of the buffer: part `i` holds the bytes from the
sum of the sizes before `i` on. -/
lemma splitParts_getElem? (byte : Nat → UInt8) (sizes : List Nat) (r : List UInt8) (off : Nat)
    (hr : ∀ p (hp : p < r.length), r[p] = byte (off + p)) (hsum : sizes.sum ≤ r.length)
    (i : Nat) :
    (splitParts sizes r)[i]? =
      sizes[i]?.map fun n => (List.range n).map fun j => byte (off + (sizes.take i).sum + j) := by
  induction sizes generalizing r off i with
  | nil => simp [splitParts]
  | cons n ns ih =>
    simp only [List.sum_cons] at hsum
    cases i with
    | zero =>
      simp only [splitParts, List.getElem?_cons_zero, Option.map_some', List.take_zero,
        List.sum_nil, Nat.add_zero, Option.some.injEq]
      refine List.ext_getElem (by simp; omega) fun j h₁ h₂ => ?_
      simp [hr]
    | succ k =>
      have hr' : ∀ p (hp : p < (r.drop n).length), (r.drop n)[p] = byte (off + n + p) :=
        fun p hp => by simp [hr, Nat.add_assoc]
      simp only [splitParts, List.getElem?_cons_succ, ih (r.drop n) (off + n) hr'
        (by simp; omega) k, List.take_succ_cons, List.sum_cons, Nat.add_assoc]

/-- `p_sha1`/`p_sha256` for any keyed hash: part `i` is the slice of the `P_hash` stream that
starts at the sum of the sizes before `i` and is `sizes[i]` bytes long, and there is one part per
size. -/
theorem pHash_getElem? (sizes : List Nat) (i : Nat) :
    (pHash hmac secret seed sizes)[i]? =
      sizes[i]?.map fun n =>
        (List.range n).map fun j => pHashByte hmac secret seed ((sizes.take i).sum + j) := by
  obtain ⟨N, hN, hle⟩ := pHashLoop_stream hmac secret seed sizes.sum 0
  simp only [pHashA, pHashStream] at hN
  rw [pHash, hN, splitParts_getElem? (pHashByte hmac secret seed) sizes _ 0
    (fun p hp => by rw [getElem_pHashStream, Nat.zero_add]) (by simpa using hle)]
  simp

/-- `p_sha1` and `p_sha256` return one part per size, part `i` being the `sizes[i]` bytes of the
RFC 2246 `P_hash` stream that start at the sum of the sizes before `i`. -/
theorem pSha1_pSha256_parts (hmacSha1 : Hmac 20) (hmacSha256 : Hmac 32)
    (secret seed : List UInt8) (sizes : List Nat) :
    (∀ i, (pSha1 hmacSha1 secret seed sizes)[i]? =
      sizes[i]?.map fun n =>
        (List.range n).map fun j => pHashByte hmacSha1 secret seed ((sizes.take i).sum + j)) ∧
    (∀ i, (pSha256 hmacSha256 secret seed sizes)[i]? =
      sizes[i]?.map fun n =>
        (List.range n).map fun j => pHashByte hmacSha256 secret seed ((sizes.take i).sum + j)) :=
  ⟨pHash_getElem? hmacSha1 secret seed sizes, pHash_getElem? hmacSha256 secret seed sizes⟩

/-- Asking for more keys leaves the first ones as they were: with any keyed hash, so for `p_sha1`
and `p_sha256` alike, the parts for `sizes` are the first parts for `sizes ++ more`. -/
theorem pHash_append (sizes more : List Nat) :
    (pHash hmac secret seed (sizes ++ more)).take sizes.length = pHash hmac secret seed sizes := by
  apply List.ext_getElem?
  intro i
  rw [List.getElem?_take, pHash_getElem?, pHash_getElem?]
  split_ifs with hi
  · rw [List.getElem?_append_left hi, List.take_append_of_le_length (by omega)]
  · rw [List.getElem?_eq_none (by omega)]
    rfl

end Asyncua
