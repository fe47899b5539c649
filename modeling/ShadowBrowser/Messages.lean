/-
The messages of the control connections, as bytes.

A message is a type byte, the id and the payload length in network order, and the
payload.  A stream of messages is cut anywhere by the socket.

* `Message.encode` — the bytes of a message;
* `complete` — the messages of a stream that lie within its first bytes;
* `EndsInLongBody` — the first bytes of the stream end inside the payload of a
  message that is longer than a low-water mark can be.
-/
import ShadowBrowser.Cell
import ShadowBrowser.TcpChannel

namespace ShadowBrowser

/-- `htonl`, as the four bytes that are written. -/
def htonl (n : ℕ) : List UInt8 :=
  [UInt8.ofNat (n / 2 ^ 24), UInt8.ofNat (n / 2 ^ 16), UInt8.ofNat (n / 2 ^ 8), UInt8.ofNat n]

/-- `ntohl`, of the four bytes that were read. -/
def ntohl (a b c d : UInt8) : ℕ :=
  a.toNat * 2 ^ 24 + b.toNat * 2 ^ 16 + c.toNat * 2 ^ 8 + d.toNat

theorem ntohl_htonl {n : ℕ} (h : n < 2 ^ 32) :
    ntohl (UInt8.ofNat (n / 2 ^ 24)) (UInt8.ofNat (n / 2 ^ 16)) (UInt8.ofNat (n / 2 ^ 8))
      (UInt8.ofNat n) = n := by
  simp only [ntohl, UInt8.toNat_ofNat']
  omega

/-- A message, with an id of 32 bits and a payload whose length is one of 16 bits. -/
structure Message where
  type : UInt8
  id : ℕ
  payload : List UInt8
  id_lt : id < 2 ^ 32
  length_le : payload.length ≤ 0xffff

/-- What `onRecvMsg` is called with. -/
structure RecvMsg where
  type : UInt8
  id : ℕ
  len : ℕ
  data : List UInt8
  deriving DecidableEq, Repr

namespace Message

/-- The call by which a message is delivered. -/
def asRecvMsg (m : Message) : RecvMsg :=
  { type := m.type, id := m.id, len := m.payload.length, data := m.payload }

/-- `header_size_`, with the id: `MSG_TYPE_SIZE + MSG_ID_SIZE + MSG_LEN_SIZE`. -/
def headerSize : ℕ := 1 + 4 + 2

/-- The bytes of a message. -/
def encode (m : Message) : List UInt8 :=
  [m.type] ++ htonl m.id ++ htons m.payload.length ++ m.payload

/-- The number of bytes of a message. -/
def size (m : Message) : ℕ := headerSize + m.payload.length

theorem length_encode (m : Message) : m.encode.length = m.size := by
  simp [encode, size, htonl, htons, headerSize]
  omega

theorem headerSize_le_size (m : Message) : headerSize ≤ m.size := Nat.le_add_right _ _

end Message

open Message

/-- The bytes of a list of messages. -/
def encodeAll (ms : List Message) : List UInt8 := ms.flatMap encode

/-- The number of bytes of a list of messages. -/
def sizeAll : List Message → ℕ
  | [] => 0
  | m :: ms => m.size + sizeAll ms

theorem length_encodeAll (ms : List Message) : (encodeAll ms).length = sizeAll ms := by
  induction ms with
  | nil => rfl
  | cons m ms ih =>
    rw [sizeAll, ← ih, ← m.length_encode]
    simp [encodeAll]

theorem sizeAll_append (ms ms' : List Message) :
    sizeAll (ms ++ ms') = sizeAll ms + sizeAll ms' := by
  induction ms with
  | nil => simp [sizeAll]
  | cons m ms ih =>
    simp only [List.cons_append, sizeAll, ih]
    omega

/-- The messages of the stream `ms` that lie within its first `n` bytes. -/
def complete : List Message → ℕ → List Message
  | [], _ => []
  | m :: ms, n => if m.size ≤ n then m :: complete ms (n - m.size) else []

/-- The first `n` bytes of the stream `ms` end behind the header and before the end of a
message whose size is above `0xffff`. -/
def EndsInLongBody : List Message → ℕ → Prop
  | [], _ => False
  | m :: ms, n =>
    if m.size ≤ n then EndsInLongBody ms (n - m.size) else headerSize ≤ n ∧ 0xffff < m.size

/-- Only the first `k` bytes of the messages `todo` are there, and none of them is complete. -/
def Partial (todo : List Message) (k : ℕ) : Prop := ∀ m ∈ todo.head?, k < m.size

theorem complete_append {done todo : List Message} {k : ℕ} (h : Partial todo k) :
    complete (done ++ todo) (sizeAll done + k) = done := by
  induction done with
  | nil =>
    cases todo with
    | nil => rfl
    | cons m todo =>
      have hm : k < m.size := h m rfl
      simp only [List.nil_append, sizeAll, Nat.zero_add, complete]
      rw [if_neg (by omega)]
  | cons m done ih =>
    have hk : m.size + sizeAll done + k - m.size = sizeAll done + k := by omega
    simp only [List.cons_append, sizeAll, complete]
    rw [if_pos (by omega), hk, ih]

theorem endsInLongBody_append {done todo : List Message} {k : ℕ} (h : Partial todo k) :
    EndsInLongBody (done ++ todo) (sizeAll done + k) ↔
      headerSize ≤ k ∧ ∃ m ∈ todo.head?, 0xffff < m.size := by
  induction done with
  | nil =>
    cases todo with
    | nil => simp [EndsInLongBody]
    | cons m todo =>
      have hm : k < m.size := h m rfl
      simp only [List.nil_append, sizeAll, Nat.zero_add, EndsInLongBody]
      rw [if_neg (by omega)]
      simp
  | cons m done ih =>
    have hk : m.size + sizeAll done + k - m.size = sizeAll done + k := by omega
    simp only [List.cons_append, sizeAll, EndsInLongBody]
    rw [if_pos (by omega), hk, ih]

/-- All messages lie within the whole stream. -/
theorem complete_length (ms : List Message) : complete ms (encodeAll ms).length = ms := by
  have h : complete (ms ++ []) (sizeAll ms + 0) = ms := complete_append (by simp [Partial])
  rw [length_encodeAll]
  simpa using h

end ShadowBrowser
