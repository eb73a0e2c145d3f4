import InsightRelay.Wire.Field

/-! Message codecs: a message type is a list of fields, and decoding merges field after field. -/

namespace InsightRelay.Wire

/-- A part of a message that can be looked at and replaced. -/
structure Part (M A : Type) where
  get : M → A
  set : A → M → M

/-- A scalar type: the value that need not be sent, the bytes of a field, and the payloads it reads. -/
structure Scalar (A : Type) where
  blank : A
  write : (number : Nat) → A → Bytes
  size : (number : Nat) → A → Nat
  read : Payload → Option A

/-- Texts, sent as UTF-8. -/
def text : Scalar String where
  blank := ""
  write number value := writeBytesField number value.utf8ByteSize value.toUTF8.data.toList
  size number value := bytesFieldSize number value.utf8ByteSize
  read
    -- Bytes that are no UTF-8 make the whole message unreadable.
    | .bytes content => String.fromUTF8? ⟨content.toArray⟩
    | _ => none

/-- Integers of sixty-four bits, sent as their two's complement. -/
def integer64 : Scalar Int64 where
  blank := 0
  write number value := writeVarintField number value.toUInt64.toNat
  size number value := varintFieldSize number value.toUInt64.toNat
  read
    | .varint value => some (Int64.ofNat value)
    | _ => none

/-- Integers of thirty-two bits, sent as two's complements of sixty-four bits and read from the low
half of what is sent. -/
def integer32 : Scalar Int32 where
  blank := 0
  write number value := writeVarintField number value.toInt64.toUInt64.toNat
  size number value := varintFieldSize number value.toInt64.toUInt64.toNat
  read
    | .varint value => some (Int32.ofNat value)
    | _ => none

/-- A field of a message type: how it is written, and how an occurrence changes a message. -/
structure FieldCodec (M : Type) where
  number : Nat
  write : M → Bytes
  size : M → Nat
  merge : (depth : Nat) → Payload → M → Option M

/-- A message type: the message without any field, and its fields in the order of their numbers. -/
structure Codec (M : Type) where
  blank : M
  fields : List (FieldCodec M)

namespace Codec

variable {M : Type} (codec : Codec M)

/-- The bytes of a message. -/
def write (message : M) : Bytes :=
  codec.fields.flatMap fun field => field.write message

/-- The number of bytes of a message, found without writing it. -/
def size (message : M) : Nat :=
  codec.fields.foldr (fun field size => field.size message + size) 0

/-- The field with a number. -/
def field? (number : Nat) : Option (FieldCodec M) :=
  codec.fields.find? fun field => field.number == number

/-- A field that occurs changes the message, or nothing if its number is unknown. -/
def step (depth : Nat) (message : M) (field : Field) : Option M :=
  match codec.field? field.number with
  | some known => known.merge depth field.payload message
  -- A number that is not known is passed over, so older readers read newer messages.
  | none => some message

/-- The fields of some bytes are merged into a message one after the other. -/
def mergeBytes (depth : Nat) (message : M) (bytes : Bytes) : Option M := do
  (← readFields depth bytes).foldlM (codec.step depth) message

/-- The depth to which the groups and messages inside a message may be nested. -/
def greatestDepth : Nat := 100

/-- The message of some bytes. -/
def read (bytes : Bytes) : Option M :=
  codec.mergeBytes greatestDepth codec.blank bytes

end Codec

namespace FieldCodec

variable {M A S : Type}

/-- A scalar that is sent unless it is blank; the last occurrence counts. -/
def plain [DecidableEq A] (number : Nat) (scalar : Scalar A) (part : Part M A) : FieldCodec M where
  number := number
  write message :=
    if part.get message = scalar.blank then [] else scalar.write number (part.get message)
  size message :=
    if part.get message = scalar.blank then 0 else scalar.size number (part.get message)
  merge _ payload message := (scalar.read payload).map fun value => part.set value message

/-- A scalar that is sent whenever it is set; the last occurrence counts. -/
def optional (number : Nat) (scalar : Scalar A) (part : Part M (Option A)) : FieldCodec M where
  number := number
  write message := ((part.get message).map (scalar.write number)).getD []
  size message := ((part.get message).map (scalar.size number)).getD 0
  merge _ payload message := (scalar.read payload).map fun value => part.set (some value) message

/-- The bytes of a field that carries a message. -/
def writeMessage (number : Nat) (codec : Codec S) (inner : S) : Bytes :=
  writeBytesField number (codec.size inner) (codec.write inner)

/-- The size of a field that carries a message. -/
def messageSize (number : Nat) (codec : Codec S) (inner : S) : Nat :=
  bytesFieldSize number (codec.size inner)

/-- A message inside a message, sent whenever it is set; occurrences are merged. -/
def message (number : Nat) (codec : Codec S) (part : Part M (Option S)) : FieldCodec M where
  number := number
  write outer := ((part.get outer).map (writeMessage number codec)).getD []
  size outer := ((part.get outer).map (messageSize number codec)).getD 0
  merge depth payload outer :=
    match payload with
    | .bytes content => do
      -- A message that occurs again goes on from what its first occurrence has set.
      let inner ← codec.mergeBytes (depth - 1) ((part.get outer).getD codec.blank) content
      some (part.set (some inner) outer)
    | _ => none

/-- A list of messages inside a message; occurrences are appended. -/
def repeated (number : Nat) (codec : Codec S) (part : Part M (List S)) : FieldCodec M where
  number := number
  write outer := (part.get outer).flatMap (writeMessage number codec)
  size outer := (part.get outer).foldr (fun inner size => messageSize number codec inner + size) 0
  merge depth payload outer :=
    match payload with
    | .bytes content => do
      let inner ← codec.mergeBytes (depth - 1) codec.blank content
      some (part.set (part.get outer ++ [inner]) outer)
    | _ => none

end FieldCodec

end InsightRelay.Wire
