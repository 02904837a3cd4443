import RetryEndpoint.BigEndian

/-! Slice and index expressions that can go wrong, and buffers that are read into
again and again. An access is an Option and none is the panic; inside its bounds it is
the total access of the same name. The upper bound of a slice is taken to be the
length, where the language allows the capacity. -/
namespace RetryEndpoint.CheckedBytes
open BigEndian

def sub (raw : Bytes) (lo hi : Nat) : Option Bytes :=
  if lo ≤ hi ∧ hi ≤ raw.length then some (slice raw lo hi) else none

def get (raw : Bytes) (i : Nat) : Option UInt8 := raw[i]?

theorem subInside {raw : Bytes} {lo hi : Nat} (order : lo ≤ hi) (inside : hi ≤ raw.length) :
    sub raw lo hi = some (slice raw lo hi) := if_pos ⟨order, inside⟩

theorem getInside {raw : Bytes} {i : Nat} (inside : i < raw.length) : get raw i = some (byteAt raw i) := by
  rw [get, byteAt, List.getD_eq_getElem?_getD, List.getElem?_eq_getElem inside, Option.getD_some]

theorem subTail {raw : Bytes} {lo : Nat} (inside : lo ≤ raw.length) :
    sub raw lo raw.length = some (raw.drop lo) := by
  have width : (raw.drop lo).length = raw.length - lo := List.length_drop
  rw [subInside inside (Nat.le_refl _), slice, ← width, List.take_length]

structure Buffer (size : Nat) where
  bytes : Bytes
  sized : bytes.length = size

def Buffer.make (size : Nat) : Buffer size := ⟨List.replicate size 0, List.length_replicate⟩

variable {size : Nat} (buf : Buffer size) (datagram : Bytes)

/- A read: what does not fit is cut off, and what is not written over stays. -/
def Buffer.read : Buffer size where
  bytes := datagram.take size ++ buf.bytes.drop (min datagram.length size)
  sized := by
    rw [List.length_append, List.length_take, List.length_drop, buf.sized]
    omega

def readLength (size : Nat) (datagram : Bytes) : Nat := min datagram.length size

theorem readLengthTake : (datagram.take size).length = readLength size datagram := by
  rw [List.length_take, Nat.min_comm, readLength]

theorem readHead : sub (buf.read datagram).bytes 0 (readLength size datagram) = some (datagram.take size) := by
  have inside : readLength size datagram ≤ (buf.read datagram).bytes.length := by
    rw [(buf.read datagram).sized]
    exact Nat.min_le_right ..
  rw [subInside (Nat.zero_le _) inside]
  have whole : slice ([] ++ datagram.take size ++ buf.bytes.drop (min datagram.length size)) 0
      (readLength size datagram) = datagram.take size :=
    sliceMiddle rfl (by rw [Nat.zero_add, readLengthTake])
  rw [← whole]
  rfl

theorem readSlice {lo hi : Nat} (order : lo ≤ hi) (inside : hi ≤ readLength size datagram) :
    sub (buf.read datagram).bytes lo hi = some (slice (datagram.take size) lo hi) := by
  have long : readLength size datagram ≤ size := Nat.min_le_right ..
  rw [subInside order (by rw [(buf.read datagram).sized]; omega)]
  have short : hi ≤ (datagram.take size).length := by rw [readLengthTake]; exact inside
  have left : slice (buf.read datagram).bytes lo hi = slice (datagram.take size) lo hi := sliceLeft order short
  rw [left]

theorem readByte {i : Nat} (inside : i < readLength size datagram) :
    get (buf.read datagram).bytes i = some (byteAt (datagram.take size) i) := by
  have short : i < (datagram.take size).length := by rw [readLengthTake]; exact inside
  have first : (buf.read datagram).bytes[i]? = (datagram.take size)[i]? := List.getElem?_append_left short
  rw [get, first, ← getInside short, get]

end RetryEndpoint.CheckedBytes
