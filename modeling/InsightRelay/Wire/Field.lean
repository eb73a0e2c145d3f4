import InsightRelay.Wire.Varint

/-! Fields on the wire: a number, a kind and a payload, one after the other. -/

namespace InsightRelay.Wire

/-- What a field carries. -/
inductive Payload
  | varint (value : Nat)
  | fixed64 (bytes : Bytes)
  | bytes (bytes : Bytes)
  /-- A group of fields, whose content is not kept. -/
  | group
  | fixed32 (bytes : Bytes)
deriving DecidableEq, Repr

/-- One field as it occurs on the wire. -/
structure Field where
  number : Nat
  payload : Payload
deriving DecidableEq, Repr

/-- The key of a field: its number and the code of its kind of payload. -/
structure Key where
  number : Nat
  kind : Nat
deriving DecidableEq, Repr

/-- The kind of a number of variable length. -/
def varintKind : Nat := 0

/-- The kind of bytes behind their length. -/
def bytesKind : Nat := 2

/-- The key at the head of some bytes, which fits thirty-two bits and has a positive number. -/
def readKey (bytes : Bytes) : Option (Key × Bytes) := do
  let (value, rest) ← readVarint bytes
  -- The number is what stands above the three bits of the kind, and zero is no number.
  if 1 <<< 32 ≤ value ∨ value / 8 = 0 then none else some (⟨value / 8, value % 8⟩, rest)

/-- A given count of bytes, all of which have to be there. -/
def takeBytes (count : Nat) (bytes : Bytes) : Option (Bytes × Bytes) :=
  if count ≤ bytes.length then some (bytes.take count, bytes.drop count) else none

/-- The payload of a kind that is not made of fields. -/
def readPlain (kind : Nat) (bytes : Bytes) : Option (Payload × Bytes) :=
  match kind with
  | 0 => (readVarint bytes).map fun (value, rest) => (.varint value, rest)
  | 1 => (takeBytes 8 bytes).map fun (content, rest) => (.fixed64 content, rest)
  | 2 => do
    let (length, rest) ← readVarint bytes
    (takeBytes length rest).map fun (content, rest) => (.bytes content, rest)
  | 5 => (takeBytes 4 bytes).map fun (content, rest) => (.fixed32 content, rest)
  | _ => none

/-- The bytes after the end of a group with a given number, inside which groups may be nested to a
depth.

The walk ends because every field takes at least one byte. -/
def skipGroup (number : Nat) (depth : Nat) (bytes : Bytes) : Option Bytes :=
  match readKey bytes with
  | none => none
  | some (key, rest) =>
    -- Only the end of the same group ends it.
    if key.kind = 4 then if key.number = number then some rest else none
    else match depth with
      | 0 => none
      | depth + 1 => do
        let after ← if key.kind = 3 then skipGroup key.number depth rest
          else (readPlain key.kind rest).map Prod.snd
        if _shorter : after.length < bytes.length then skipGroup number (depth + 1) after else none
termination_by (depth, bytes.length)

/-- The field at the head of some bytes, with groups nested to a depth. -/
def readField (depth : Nat) (bytes : Bytes) : Option (Field × Bytes) := do
  let (key, rest) ← readKey bytes
  if key.kind = 3 then
    -- No message here knows a field that is a group, so what it holds is passed over.
    let rest ← skipGroup key.number (depth - 1) rest
    some (⟨key.number, .group⟩, rest)
  else
    let (payload, rest) ← readPlain key.kind rest
    some (⟨key.number, payload⟩, rest)

/-- All fields of some bytes. -/
def readFields (depth : Nat) (bytes : Bytes) : Option (List Field) :=
  if bytes.isEmpty then some [] else do
  let (field, rest) ← readField depth bytes
  if _shorter : rest.length < bytes.length then
    let fields ← readFields depth rest
    some (field :: fields)
  else none
termination_by bytes.length

/-- The bytes of a key. -/
def writeKey (number kind : Nat) : Bytes :=
  writeVarint (number * 8 + kind)

/-- The number of bytes of a key. -/
def keySize (number kind : Nat) : Nat :=
  varintSize (number * 8 + kind)

/-- A field that carries a number. -/
def writeVarintField (number value : Nat) : Bytes :=
  writeKey number varintKind ++ writeVarint value

/-- The size of a field that carries a number. -/
def varintFieldSize (number value : Nat) : Nat :=
  keySize number varintKind + varintSize value

/-- A field that carries bytes, whose length is given. -/
def writeBytesField (number length : Nat) (content : Bytes) : Bytes :=
  writeKey number bytesKind ++ writeVarint length ++ content

/-- The size of a field that carries bytes of a length. -/
def bytesFieldSize (number length : Nat) : Nat :=
  keySize number bytesKind + varintSize length + length

end InsightRelay.Wire
