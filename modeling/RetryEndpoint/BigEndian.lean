import Mathlib.Algebra.Group.Nat.Defs
import Mathlib.Data.List.Basic
import Mathlib.Data.List.Induction

/-! Byte strings, their slices, and fixed-width big-endian numbers. A slice is
total: past the end of the string it is shorter than its width, and reading a
byte there gives zero. Whoever uses them has checked the length before. -/
namespace RetryEndpoint.BigEndian

abbrev Bytes := List UInt8

def slice (raw : Bytes) (lo hi : Nat) : Bytes := (raw.drop lo).take (hi - lo)
def byteAt (raw : Bytes) (i : Nat) : UInt8 := raw.getD i 0

theorem sliceLength {raw : Bytes} {lo hi : Nat} (inside : hi ≤ raw.length) :
    (slice raw lo hi).length = hi - lo := by
  simp only [slice, List.length_take, List.length_drop]
  omega

theorem sliceAppendSlice (raw : Bytes) {lo mid hi : Nat} (low : lo ≤ mid) (high : mid ≤ hi) :
    slice raw lo mid ++ slice raw mid hi = slice raw lo hi := by
  have drop : raw.drop mid = (raw.drop lo).drop (mid - lo) := by
    rw [List.drop_drop]
    congr 1
    omega
  have width : hi - lo = (mid - lo) + (hi - mid) := by omega
  simp only [slice, drop, width, List.take_add]

theorem sliceRight {xs ys : Bytes} {lo hi n : Nat} (len : xs.length = n) :
    slice (xs ++ ys) (n + lo) (n + hi) = slice ys lo hi := by
  subst n
  simp only [slice, List.drop_append]
  congr 1
  · omega
  · simp

theorem sliceLeft {xs ys : Bytes} {lo hi : Nat} (order : lo ≤ hi) (inside : hi ≤ xs.length) :
    slice (xs ++ ys) lo hi = slice xs lo hi := by
  have short : hi - lo ≤ (xs.drop lo).length := by rw [List.length_drop]; omega
  rw [slice, List.drop_append_of_le_length (by omega), List.take_append_of_le_length short, slice]

theorem sliceMiddle {xs ys zs : Bytes} {lo hi : Nat} (start : xs.length = lo) (stop : lo + ys.length = hi) :
    slice (xs ++ ys ++ zs) lo hi = ys := by
  subst lo hi
  simp [slice]

theorem sliceField {fields : List Bytes} {field : Bytes} {i lo hi : Nat} (found : fields[i]? = some field)
    (start : (fields.take i).flatten.length = lo) (stop : lo + field.length = hi) :
    slice fields.flatten lo hi = field := by
  obtain ⟨inside, same⟩ := List.getElem?_eq_some_iff.mp found
  have split : fields.flatten = (fields.take i).flatten ++ field ++ (fields.drop (i + 1)).flatten := by
    conv_lhs => rw [← List.take_append_drop i fields, List.drop_eq_getElem_cons inside, same]
    simp
  rw [split]
  exact sliceMiddle start stop

theorem byteField {fields : List Bytes} {b : UInt8} {i place : Nat} (found : fields[i]? = some [b])
    (start : (fields.take i).flatten.length = place) : byteAt fields.flatten place = b := by
  have one : (fields.flatten.drop place).take (place + 1 - place) = [b] := sliceField found start rfl
  rw [Nat.add_sub_cancel_left, List.take_one, List.head?_drop] at one
  cases there : fields.flatten[place]? with
  | none => simp [there] at one
  | some c =>
    rw [there] at one
    rw [byteAt, List.getD_eq_getElem?_getD, there]
    exact List.singleton_inj.mp one

theorem sliceAll {xs : Bytes} {n : Nat} (len : xs.length = n) : slice xs 0 n = xs := by
  subst n
  simp [slice]

theorem sliceSlice (raw : Bytes) {lo hi a b : Nat} (inside : lo + b ≤ hi) :
    slice (slice raw lo hi) a b = slice raw (lo + a) (lo + b) := by
  have width : min (b - a) (hi - lo - a) = lo + b - (lo + a) := by omega
  simp only [slice, List.drop_take, List.take_take, List.drop_drop, width]

def encode : Nat → Nat → Bytes
  | 0, _ => []
  | width + 1, n => encode width (n / 256) ++ [UInt8.ofNat (n % 256)]

def decode (raw : Bytes) : Nat := raw.foldl (fun n b => n * 256 + b.toNat) 0

@[simp] theorem encodeLength (width n : Nat) : (encode width n).length = width := by
  induction width generalizing n with
  | zero => rfl
  | succ width ih => simp [encode, ih]

theorem decodeSnoc (raw : Bytes) (b : UInt8) : decode (raw ++ [b]) = decode raw * 256 + b.toNat := by
  simp [decode]

theorem decodeEncode (width n : Nat) : decode (encode width n) = n % 256 ^ width := by
  induction width generalizing n with
  | zero => simp [encode, decode, Nat.mod_one]
  | succ width ih =>
    have split : n % 256 ^ (width + 1) = n / 256 % 256 ^ width * 256 + n % 256 := by
      rw [Nat.pow_succ', Nat.mod_mul, Nat.add_comm, Nat.mul_comm]
    rw [encode, decodeSnoc, ih, split]
    simp

theorem decodeBound (raw : Bytes) : decode raw < 256 ^ raw.length := by
  induction raw using List.reverseRecOn with
  | nil => simp [decode]
  | append_singleton raw b ih =>
    have small := b.toNat_lt
    rw [decodeSnoc, List.length_append, List.length_singleton, Nat.pow_succ]
    omega

theorem encodeDecode {width : Nat} {raw : Bytes} (len : raw.length = width) :
    encode width (decode raw) = raw := by
  induction width generalizing raw with
  | zero => rw [List.length_eq_zero_iff.mp len]; rfl
  | succ width ih =>
    obtain ⟨front, b, rfl⟩ := (List.eq_nil_or_concat raw).resolve_left (by intro e; simp [e] at len)
    have small := b.toNat_lt
    have quotient : (decode front * 256 + b.toNat) / 256 = decode front := by omega
    have remainder : (decode front * 256 + b.toNat) % 256 = b.toNat := by omega
    rw [List.concat_eq_append, decodeSnoc, encode, quotient, remainder, ih (by simpa using len)]
    simp

def uint16 (raw : Bytes) : UInt16 := UInt16.ofNat (decode raw)
def uint32 (raw : Bytes) : UInt32 := UInt32.ofNat (decode raw)
def uint64 (raw : Bytes) : UInt64 := UInt64.ofNat (decode raw)
def putUint16 (x : UInt16) : Bytes := encode 2 x.toNat
def putUint32 (x : UInt32) : Bytes := encode 4 x.toNat
def putUint64 (x : UInt64) : Bytes := encode 8 x.toNat

@[simp] theorem putUint64Length (x : UInt64) : (putUint64 x).length = 8 := encodeLength ..

@[simp] theorem putUint16Length (x : UInt16) : (putUint16 x).length = 2 := encodeLength ..

@[simp] theorem putUint32Length (x : UInt32) : (putUint32 x).length = 4 := encodeLength ..

theorem uint16Put (x : UInt16) : uint16 (putUint16 x) = x := by
  have small := x.toNat_lt
  rw [uint16, putUint16, decodeEncode, Nat.mod_eq_of_lt (by simpa using small), UInt16.ofNat_toNat]

theorem uint32Put (x : UInt32) : uint32 (putUint32 x) = x := by
  have small := x.toNat_lt
  rw [uint32, putUint32, decodeEncode, Nat.mod_eq_of_lt (by simpa using small), UInt32.ofNat_toNat]

theorem uint64Put (x : UInt64) : uint64 (putUint64 x) = x := by
  have small := x.toNat_lt
  rw [uint64, putUint64, decodeEncode, Nat.mod_eq_of_lt (by simpa using small), UInt64.ofNat_toNat]

theorem putUint32Read {raw : Bytes} (len : raw.length = 4) : putUint32 (uint32 raw) = raw := by
  have small := decodeBound raw
  rw [len] at small
  rw [uint32, putUint32, UInt32.toNat_ofNat', Nat.mod_eq_of_lt (by simpa using small)]
  exact encodeDecode len

theorem putUint64Read {raw : Bytes} (len : raw.length = 8) : putUint64 (uint64 raw) = raw := by
  have small := decodeBound raw
  rw [len] at small
  rw [uint64, putUint64, UInt64.toNat_ofNat', Nat.mod_eq_of_lt (by simpa using small)]
  exact encodeDecode len

end RetryEndpoint.BigEndian
