import TensorScan.Word

set_option autoImplicit false

/-! # Elements as bytes

Elements are stored one after another, each as its bytes from the least significant one up.
Reading takes whole elements and leaves what is too short for one.

Writing and reading undo each other: `wordsOfBytes_bytesOfWords` says that nothing written is
lost, and `bytesOfWords_wordsOfBytes` that stored bytes, if they are whole elements, are
exactly what writing them again gives.
-/

namespace TensorScan

/-! ## One number -/

/-- The `n` lowest bytes of a number, least significant first. -/
def bytesOfNat : Nat → Nat → List UInt8
  | 0, _ => []
  | n + 1, v => UInt8.ofNat v :: bytesOfNat n (v / 256)

/-- The number with these bytes, least significant first. -/
def natOfBytes : List UInt8 → Nat
  | [] => 0
  | b :: rest => b.toNat + 256 * natOfBytes rest

@[simp] theorem length_bytesOfNat (n v : Nat) : (bytesOfNat n v).length = n := by
  induction n generalizing v with
  | zero => rfl
  | succ n ih => simp [bytesOfNat, ih]

/-- One more byte has room for 256 times as many numbers. -/
theorem one_shiftLeft_byte (n : Nat) : 1 <<< (8 * (n + 1)) = 256 * 1 <<< (8 * n) := by
  rw [Nat.one_shiftLeft, Nat.one_shiftLeft, Nat.mul_succ, Nat.pow_add, Nat.mul_comm]

theorem natOfBytes_bytesOfNat (n v : Nat) :
    natOfBytes (bytesOfNat n v) = v % 1 <<< (8 * n) := by
  induction n generalizing v with
  | zero => simp [bytesOfNat, natOfBytes, Nat.mod_one]
  | succ n ih =>
      rw [bytesOfNat, natOfBytes, ih, one_shiftLeft_byte, Nat.mod_mul]
      simp

theorem bytesOfNat_natOfBytes (bytes : List UInt8) :
    bytesOfNat bytes.length (natOfBytes bytes) = bytes := by
  induction bytes with
  | nil => rfl
  | cons b rest ih =>
      have hb : b.toNat < 256 := b.toNat_lt
      have hdiv : (b.toNat + 256 * natOfBytes rest) / 256 = natOfBytes rest := by omega
      have hmod : UInt8.ofNat (b.toNat + 256 * natOfBytes rest) = b := by
        apply UInt8.toNat_inj.mp
        simp only [UInt8.toNat_ofNat']
        omega
      simp only [List.length_cons, natOfBytes, bytesOfNat, hdiv, hmod, ih]

theorem natOfBytes_lt (bytes : List UInt8) :
    natOfBytes bytes < 1 <<< (8 * bytes.length) := by
  induction bytes with
  | nil => simp [natOfBytes]
  | cons b rest ih =>
      have hb : b.toNat < 256 := b.toNat_lt
      rw [natOfBytes, List.length_cons, one_shiftLeft_byte]
      omega

/-! ## One element -/

namespace Word

def toBytes (d : DType) (w : Word d) : List UInt8 := bytesOfNat d.byteSize w.toNat

def ofBytes (d : DType) (bytes : List UInt8) : Word d := BitVec.ofNat d.bitWidth (natOfBytes bytes)

@[simp] theorem length_toBytes (d : DType) (w : Word d) : (toBytes d w).length = d.byteSize := by
  simp [toBytes]

@[simp] theorem ofBytes_toBytes (d : DType) (w : Word d) : ofBytes d (toBytes d w) = w := by
  apply BitVec.eq_of_toNat_eq
  have hw : w.toNat < 1 <<< (8 * d.byteSize) := by
    rw [Nat.one_shiftLeft]
    exact w.isLt
  simp [ofBytes, toBytes, natOfBytes_bytesOfNat, Nat.mod_eq_of_lt hw]

theorem toBytes_ofBytes {d : DType} {bytes : List UInt8} (h : bytes.length = d.byteSize) :
    toBytes d (ofBytes d bytes) = bytes := by
  have hlt : natOfBytes bytes < 1 <<< (8 * d.byteSize) := h ▸ natOfBytes_lt bytes
  rw [Nat.one_shiftLeft] at hlt
  unfold toBytes ofBytes
  rw [BitVec.toNat_ofNat, DType.bitWidth, Nat.mod_eq_of_lt hlt, ← h, bytesOfNat_natOfBytes]

end Word

/-! ## Many elements -/

/-- The first `count` pieces of `size` bytes each. -/
def pieces (size : Nat) : Nat → List UInt8 → List (List UInt8)
  | 0, _ => []
  | count + 1, bytes => bytes.take size :: pieces size count (bytes.drop size)

def bytesOfWords (d : DType) (words : List (Word d)) : List UInt8 :=
  words.flatMap (Word.toBytes d)

def wordsOfBytes (d : DType) (bytes : List UInt8) : List (Word d) :=
  (pieces d.byteSize (bytes.length / d.byteSize) bytes).map (Word.ofBytes d)

@[simp] theorem length_pieces (size count : Nat) (bytes : List UInt8) :
    (pieces size count bytes).length = count := by
  induction count generalizing bytes with
  | zero => rfl
  | succ count ih => simp [pieces, ih]

@[simp] theorem length_wordsOfBytes (d : DType) (bytes : List UInt8) :
    (wordsOfBytes d bytes).length = bytes.length / d.byteSize := by
  simp [wordsOfBytes]

@[simp] theorem length_bytesOfWords (d : DType) (words : List (Word d)) :
    (bytesOfWords d words).length = words.length * d.byteSize := by
  induction words with
  | nil => simp [bytesOfWords]
  | cons w rest ih =>
      rw [bytesOfWords, List.flatMap_cons, List.length_append, ← bytesOfWords, ih,
        Word.length_toBytes, List.length_cons, Nat.add_mul, Nat.one_mul, Nat.add_comm]

theorem wordsOfBytes_bytesOfWords (d : DType) (words : List (Word d)) :
    wordsOfBytes d (bytesOfWords d words) = words := by
  rw [wordsOfBytes, length_bytesOfWords, Nat.mul_div_cancel _ d.byteSize_pos]
  induction words with
  | nil => rfl
  | cons w rest ih =>
      rw [bytesOfWords, List.flatMap_cons, ← bytesOfWords, List.length_cons, pieces,
        List.take_left' (Word.length_toBytes d w), List.drop_left' (Word.length_toBytes d w),
        List.map_cons, Word.ofBytes_toBytes, ih]

theorem bytesOfWords_wordsOfBytes {d : DType} {bytes : List UInt8} {count : Nat}
    (h : bytes.length = count * d.byteSize) : bytesOfWords d (wordsOfBytes d bytes) = bytes := by
  rw [wordsOfBytes, h, Nat.mul_div_cancel _ d.byteSize_pos]
  induction count generalizing bytes with
  | zero =>
      have hnil : bytes = [] := List.eq_nil_of_length_eq_zero (by simpa using h)
      simp [hnil, pieces, bytesOfWords]
  | succ count ih =>
      have hlen : bytes.length = count * d.byteSize + d.byteSize := by
        rw [h, Nat.add_mul, Nat.one_mul]
      have htake : (bytes.take d.byteSize).length = d.byteSize := by
        rw [List.length_take]; omega
      have hdrop : (bytes.drop d.byteSize).length = count * d.byteSize := by
        rw [List.length_drop]; omega
      rw [pieces, List.map_cons, bytesOfWords, List.flatMap_cons, ← bytesOfWords, ih hdrop,
        Word.toBytes_ofBytes htake, List.take_append_drop]

end TensorScan
