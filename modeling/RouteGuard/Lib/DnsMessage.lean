import RouteGuard.Lib.ByteAccess

/-! # Messages of the domain name system

The wire format of a message with one question: names are labels behind their
lengths, closed by an empty label or by a pointer to another name. -/
set_option autoImplicit false
namespace DnsMessage

open ByteAccess

/-! ## Names -/

structure Label where
  bytes : List UInt8
  length_pos : 0 < bytes.length
  length_le : bytes.length ≤ 63
deriving DecidableEq, Repr

def Label.wire (label : Label) : List UInt8 := UInt8.ofNat label.bytes.length :: label.bytes

/-- How the labels of a name end: at the root, or at the rest of a name somewhere else. -/
inductive NameEnd where
  | root
  | pointer (offset : Fin (2 ^ 14))
deriving DecidableEq, Repr

def NameEnd.wire : NameEnd → List UInt8
  | .root => [0]
  | .pointer offset => [UInt8.ofNat (192 + offset.val / 256), UInt8.ofNat offset.val]

structure Name where
  labels : List Label
  ending : NameEnd
deriving DecidableEq, Repr

def labelsWire (labels : List Label) : List UInt8 := labels.flatMap Label.wire

def Name.wire (name : Name) : List UInt8 := labelsWire name.labels ++ name.ending.wire

/-- The length byte of a label has neither of its two upper bits set. -/
theorem Label.length_byte (label : Label) :
    (UInt8.ofNat label.bytes.length).toNat = label.bytes.length ∧
      UInt8.ofNat label.bytes.length ≠ 0 ∧ UInt8.ofNat label.bytes.length &&& 0xC0 ≠ 0xC0 := by
  have hpos := label.length_pos
  have hle := label.length_le
  have hsmall : ∀ n : Fin 64, 0 < n.val → UInt8.ofNat n.val ≠ 0 ∧
      UInt8.ofNat n.val &&& 0xC0 ≠ 0xC0 := by decide
  refine ⟨?_, hsmall ⟨label.bytes.length, by omega⟩ hpos⟩
  rw [UInt8.toNat_ofNat']
  omega

/-- The first byte of a pointer has both. -/
theorem pointer_byte (offset : Fin (2 ^ 14)) :
    UInt8.ofNat (192 + offset.val / 256) ≠ 0 ∧
      UInt8.ofNat (192 + offset.val / 256) &&& 0xC0 = 0xC0 := by
  have hupper : ∀ n : Fin 64, UInt8.ofNat (192 + n.val) ≠ 0 ∧
      UInt8.ofNat (192 + n.val) &&& 0xC0 = 0xC0 := by decide
  exact hupper ⟨offset.val / 256, by omega⟩

/-! ## Questions and records -/

structure Header where
  id : UInt16
  flags : UInt16
  qdcount : UInt16
  ancount : UInt16
  nscount : UInt16
  arcount : UInt16
deriving DecidableEq, Repr

def Header.wire (header : Header) : List UInt8 :=
  bytes16 header.id ++ bytes16 header.flags ++ bytes16 header.qdcount ++ bytes16 header.ancount ++
    bytes16 header.nscount ++ bytes16 header.arcount

structure Question where
  labels : List Label
  labels_ne : labels ≠ []
  qtype : UInt16
  qclass : UInt16
deriving DecidableEq, Repr

/-- The name of a question is not compressed. -/
def Question.name (question : Question) : Name := ⟨question.labels, .root⟩

def Question.wire (question : Question) : List UInt8 :=
  question.name.wire ++ (bytes16 question.qtype ++ bytes16 question.qclass)

structure ResourceRecord where
  owner : Name
  rtype : UInt16
  rclass : UInt16
  ttl : UInt32
  data : List UInt8
  data_lt : data.length < 2 ^ 16
deriving DecidableEq, Repr

def ResourceRecord.fields (record : ResourceRecord) : List UInt8 :=
  bytes16 record.rtype ++ bytes16 record.rclass ++ bytes32 record.ttl ++
    bytes16 (UInt16.ofNat record.data.length)

def ResourceRecord.wire (record : ResourceRecord) : List UInt8 :=
  record.owner.wire ++ (record.fields ++ record.data)

theorem Header.wire_length (header : Header) : header.wire.length = 12 := rfl

theorem ResourceRecord.fields_length (record : ResourceRecord) : record.fields.length = 10 := rfl

theorem ResourceRecord.length_toNat (record : ResourceRecord) :
    (UInt16.ofNat record.data.length).toNat = record.data.length := by
  have hlt := record.data_lt
  rw [UInt16.toNat_ofNat']
  omega

/-! ## Exchanges -/

/-- A query with one question, and a response that repeats it before its records.  What follows
the question in the query, and the records in the response, is arbitrary. -/
structure Exchange where
  queryHeader : Header
  one_question : queryHeader.qdcount = 1
  question : Question
  queryRest : List UInt8
  responseHeader : Header
  records : List ResourceRecord
  count_records : responseHeader.ancount.toNat = records.length
  responseRest : List UInt8

def Exchange.query (ex : Exchange) : List UInt8 :=
  ex.queryHeader.wire ++ (ex.question.wire ++ ex.queryRest)

def Exchange.response (ex : Exchange) : List UInt8 :=
  ex.responseHeader.wire ++
    (ex.question.wire ++ (ex.records.flatMap ResourceRecord.wire ++ ex.responseRest))

end DnsMessage
