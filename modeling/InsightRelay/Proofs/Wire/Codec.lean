import InsightRelay.Proofs.Wire.Field
import InsightRelay.Wire.Codec

/-! Messages are read back as they were written.

Each field of a message carries what it holds from one message to another, and the fields of a message
type rebuild a message one after the other. -/

namespace InsightRelay.Wire

/-- A number that fields can have. -/
def IsFieldNumber (number : Nat) : Prop :=
  0 < number ∧ number < 2 ^ 29

instance (number : Nat) : Decidable (IsFieldNumber number) :=
  inferInstanceAs (Decidable (_ ∧ _))

/-- Numbers that fields can have, each of them only once. -/
def IsNumbering (numbers : List Nat) : Prop :=
  (∀ number ∈ numbers, IsFieldNumber number) ∧ numbers.Nodup

instance (numbers : List Nat) : Decidable (IsNumbering numbers) :=
  inferInstanceAs (Decidable (_ ∧ _))

/-- Values of a scalar type are read back as they were written, and their sizes are known. -/
structure Scalar.Faithful {A : Type} (scalar : Scalar A) : Prop where
  length_write : ∀ number value, (scalar.write number value).length = scalar.size number value
  read_write : ∀ {number value}, IsFieldNumber number → scalar.size number value < 2 ^ 64 →
    ∃ payload, scalar.read payload = some value ∧
      ∀ depth, readFields depth (scalar.write number value) = some [⟨number, payload⟩]

/-- A field of a message takes the place of what it finds in a message that is being built. -/
structure FieldCodec.Carries {M : Type} (field : FieldCodec M) (message built next : M) : Prop where
  length_write : (field.write message).length = field.size message
  merge_write : IsFieldNumber field.number → field.size message < 2 ^ 64 → ∀ depth,
    ∃ payloads : List Payload,
      readFields depth (field.write message) = some (payloads.map (⟨field.number, ·⟩)) ∧
        payloads.foldlM (fun built payload => field.merge depth payload built) built = some next

/-- The fields of a message turn a message that is being built into another one. -/
inductive Builds {M : Type} (message : M) : List (FieldCodec M) → M → M → Prop
  | done {built : M} : Builds message [] built built
  | next {field : FieldCodec M} {fields : List (FieldCodec M)} {built next result : M}
    (carries : field.Carries message built next) (later : Builds message fields next result) :
    Builds message (field :: fields) built result

/-- Messages of a type are read back as they were written, and their sizes are known. -/
structure Codec.Faithful {M : Type} (codec : Codec M) : Prop where
  length_write : ∀ message, (codec.write message).length = codec.size message
  merge_write : ∀ {message}, codec.size message < 2 ^ 64 → ∀ depth,
    codec.mergeBytes depth codec.blank (codec.write message) = some message

section Scalars

/-- A field that carries a number has the size that is foreseen for it. -/
theorem length_writeVarintField (number value : Nat) :
    (writeVarintField number value).length = varintFieldSize number value := by
  simp [writeVarintField, varintFieldSize, writeKey, keySize, length_writeVarint]

/-- A field that carries bytes has the size that is foreseen for it. -/
theorem length_writeBytesField (number : Nat) (content : Bytes) :
    (writeBytesField number content.length content).length =
      bytesFieldSize number content.length := by
  simp [writeBytesField, bytesFieldSize, writeKey, keySize, length_writeVarint, Nat.add_assoc]

/-- Bytes are fewer than their field takes. -/
theorem le_bytesFieldSize (number length : Nat) : length ≤ bytesFieldSize number length := by
  unfold bytesFieldSize
  omega

/-- One of several things takes no more than all of them together. -/
theorem size_le_foldr {α : Type} (size : α → Nat) {things : List α} {thing : α}
    (member : thing ∈ things) :
    size thing ≤ things.foldr (fun thing total => size thing + total) 0 := by
  -- The thing is either the first summand or one of the sum behind it.
  induction things with
  | nil => simp at member
  | cons first things ih =>
    rw [List.foldr_cons]
    rcases List.mem_cons.1 member with rfl | inside
    · exact Nat.le_add_right _ _
    · exact Nat.le_trans (ih inside) (Nat.le_add_left _ _)

/-- A text is found again in its bytes. -/
theorem fromUTF8?_toUTF8 (value : String) : String.fromUTF8? value.toUTF8 = some value :=
  dif_pos value.isValidUTF8

/-- Texts are read back as they were written. -/
theorem text_faithful : text.Faithful where
  length_write number value := length_writeBytesField number value.toUTF8.data.toList
  read_write {number value} valid small := by
    refine ⟨.bytes value.toUTF8.data.toList, fromUTF8?_toUTF8 value, fun depth => ?_⟩
    -- The bytes of the text are as many as its length says, and they are read back as that text.
    refine readFields_writeBytesField depth valid.1 valid.2 ?_
    exact Nat.lt_of_le_of_lt (le_bytesFieldSize number _) small

/-- An integer of sixty-four bits is found again in its two's complement. -/
theorem ofNat_toUInt64 (value : Int64) : Int64.ofNat value.toUInt64.toNat = value := by
  apply Int64.toBitVec_inj.1
  rw [Int64.toBitVec_ofNat']
  exact (BitVec.ofNat_toNat ..).trans (BitVec.setWidth_eq _)

/-- An integer of thirty-two bits is found again in the low half of its two's complement. -/
theorem ofNat_toInt64 (value : Int32) : Int32.ofNat value.toInt64.toUInt64.toNat = value := by
  -- The sign fills the high half, which is cut off again.
  have low : BitVec.setWidth 32 (BitVec.signExtend 64 value.toBitVec) = value.toBitVec := by
    apply BitVec.eq_of_getLsbD_eq
    intro position below
    have inside : position < 64 := by omega
    simp only [BitVec.getLsbD_setWidth, BitVec.getLsbD_signExtend, below, inside, decide_true,
      Bool.true_and, if_true]
  apply Int32.toBitVec_inj.1
  rw [Int32.toBitVec_ofNat', ← low, ← Int32.toBitVec_toInt64]
  rfl

/-- Integers of sixty-four bits are read back as they were written. -/
theorem integer64_faithful : integer64.Faithful where
  length_write _ _ := length_writeVarintField ..
  read_write {_ value} valid _ :=
    ⟨.varint value.toUInt64.toNat, congrArg some (ofNat_toUInt64 value), fun depth =>
      readFields_writeVarintField depth valid.1 valid.2 value.toUInt64.toNat_lt⟩

/-- Integers of thirty-two bits are read back as they were written. -/
theorem integer32_faithful : integer32.Faithful where
  length_write _ _ := length_writeVarintField ..
  read_write {_ value} valid _ :=
    ⟨.varint value.toInt64.toUInt64.toNat, congrArg some (ofNat_toInt64 value), fun depth =>
      readFields_writeVarintField depth valid.1 valid.2 value.toInt64.toUInt64.toNat_lt⟩

end Scalars

section Messages

variable {M : Type} {codec : Codec M}

/-- Bytes that are put together are merged one after the other. -/
theorem Codec.mergeBytes_append {depth : Nat} {fields : List Field} {message : M} {bytes : Bytes}
    (more : Bytes) (read : readFields depth bytes = some fields) :
    codec.mergeBytes depth message (bytes ++ more) =
      (codec.mergeBytes depth message bytes).bind fun next => codec.mergeBytes depth next more := by
  -- Fields are read alike before other bytes, and a fold over them can stop in between.
  simp only [Codec.mergeBytes, readFields_append more read, read, Option.bind_eq_bind,
    Option.bind_some]
  cases readFields depth more with
  | none => simp
  | some others => simp [List.foldlM_append]

/-- Occurrences of one field are merged by that field. -/
theorem Codec.foldlM_step {field : FieldCodec M} (known : codec.field? field.number = some field)
    (depth : Nat) (built : M) (payloads : List Payload) :
    (payloads.map (⟨field.number, ·⟩)).foldlM (codec.step depth) built =
      payloads.foldlM (fun built payload => field.merge depth payload built) built := by
  -- Each step looks the field up by its number, and finds it.
  rw [List.foldlM_map]
  congr 1
  funext built payload
  simp [Codec.step, known]

/-- What the fields of a message write turns a message into the one that they build. -/
theorem Builds.merge_write {message built result : M} {fields : List (FieldCodec M)}
    (builds : Builds message fields built result)
    (known : ∀ field ∈ fields, codec.field? field.number = some field)
    (valid : ∀ field ∈ fields, IsFieldNumber field.number)
    (small : ∀ field ∈ fields, field.size message < 2 ^ 64) (depth : Nat) :
    codec.mergeBytes depth built (fields.flatMap fun field => field.write message) =
      some result := by
  -- The first field turns the message that is built into the one that the others find.
  induction builds with
  | done => simp [Codec.mergeBytes, readFields]
  | @next field fields built next result carries later ih =>
    obtain ⟨payloads, read, merged⟩ := carries.merge_write (valid field List.mem_cons_self)
      (small field List.mem_cons_self) depth
    have first : codec.mergeBytes depth built (field.write message) = some next := by
      rw [Codec.mergeBytes, read, Option.bind_eq_bind, Option.bind_some,
        Codec.foldlM_step (known field List.mem_cons_self), merged]
    -- The fields behind the first one find it merged already.
    rw [List.flatMap_cons, Codec.mergeBytes_append _ read, first, Option.bind_some]
    exact ih (fun other member => known other (List.mem_cons_of_mem _ member))
      (fun other member => valid other (List.mem_cons_of_mem _ member))
      fun other member => small other (List.mem_cons_of_mem _ member)

/-- The fields of a message have the sizes that are foreseen for them. -/
theorem Builds.length_write {message built result : M} {fields : List (FieldCodec M)}
    (builds : Builds message fields built result) :
    (fields.flatMap fun field => field.write message).length =
      fields.foldr (fun field size => field.size message + size) 0 := by
  induction builds with
  | done => rfl
  | next carries later ih =>
    rw [List.flatMap_cons, List.length_append, carries.length_write, ih, List.foldr_cons]

/-- A field is found by its number if no other field has the same one. -/
theorem find?_number {fields : List (FieldCodec M)} (once : (fields.map (·.number)).Nodup)
    {field : FieldCodec M} (member : field ∈ fields) :
    fields.find? (fun other => other.number == field.number) = some field := by
  -- Fields in front of it have other numbers, so the search goes past them.
  induction fields with
  | nil => simp at member
  | cons first fields ih =>
    rw [List.map_cons, List.nodup_cons] at once
    rcases List.mem_cons.1 member with rfl | inside
    · simp
    · have differ : first.number ≠ field.number := fun same =>
        once.1 (same ▸ List.mem_map_of_mem inside)
      rw [List.find?_cons_of_neg (by simpa using differ)]
      exact ih once.2 inside

/-- Where fields have numbers of their own, a message that is written makes of another one what its fields
build. -/
theorem Codec.merge_write_of_builds (numbers : IsNumbering (codec.fields.map (·.number)))
    {message built result : M} (builds : Builds message codec.fields built result)
    (small : codec.size message < 2 ^ 64) (depth : Nat) :
    codec.mergeBytes depth built (codec.write message) = some result :=
  builds.merge_write (fun _ member => find?_number numbers.2 member)
    (fun _ member => numbers.1 _ (List.mem_map_of_mem member))
    (fun _ member => Nat.lt_of_le_of_lt (size_le_foldr (·.size message) member) small) depth

/-- A message type whose fields have numbers of their own and rebuild every message is faithful. -/
theorem Codec.Faithful.of_rebuilds (numbers : IsNumbering (codec.fields.map (·.number)))
    (rebuilds : ∀ message, Builds message codec.fields codec.blank message) : codec.Faithful where
  length_write message := (rebuilds message).length_write
  merge_write {message} small depth :=
    Codec.merge_write_of_builds numbers (rebuilds message) small depth

end Messages

namespace FieldCodec

variable {M A S : Type} {message built : M} {number : Nat}

/-- A scalar that is sent unless it is blank takes the place of what is there unless it is blank. -/
theorem carries_plain_onto [DecidableEq A] {scalar : Scalar A} {part : Part M A} {next : M}
    (faithful : scalar.Faithful) (blank : part.get message = scalar.blank → built = next)
    (given : part.get message ≠ scalar.blank → part.set (part.get message) built = next) :
    (plain number scalar part).Carries message built next where
  length_write := by
    simp only [plain]
    -- A blank scalar is not written at all, so there is nothing to count and nothing to merge.
    split
    · rfl
    · exact faithful.length_write number _
  merge_write valid small depth := by
    simp only [plain] at small ⊢
    split
    · next empty => exact ⟨[], by simp [readFields], by simp [blank empty]⟩
    · next differ =>
      rw [if_neg differ] at small
      -- Otherwise there is one field, and its payload is the one that the scalar reads back.
      obtain ⟨payload, read, written⟩ := faithful.read_write valid small
      exact ⟨[payload], written depth, by simp [read, given differ]⟩

/-- A scalar that is sent unless it is blank is carried over. -/
theorem carries_plain [DecidableEq A] {scalar : Scalar A} {part : Part M A}
    (faithful : scalar.Faithful) (unset : part.set scalar.blank built = built) :
    (plain number scalar part).Carries message built (part.set (part.get message) built) :=
  -- Where nothing is sent, what is being built is blank too.
  carries_plain_onto faithful (fun blank => by rw [blank, unset]) fun _ => rfl

/-- A scalar that is sent whenever it is set takes the place of what is there when it is set. -/
theorem carries_optional_onto {scalar : Scalar A} {part : Part M (Option A)} {next : M}
    (faithful : scalar.Faithful) (absent : part.get message = none → built = next)
    (given : ∀ value, part.get message = some value → part.set (some value) built = next) :
    (optional number scalar part).Carries message built next where
  length_write := by
    -- Unlike a plain scalar, one that is set is written even if it is blank.
    cases held : part.get message with
    | none => simp [optional, held]
    | some value => simp [optional, held, faithful.length_write]
  merge_write valid small depth := by
    cases held : part.get message with
    -- A scalar that is not set writes no field, and what is there stays.
    | none => exact ⟨[], by simp [optional, held, readFields], by simp [absent held]⟩
    | some value =>
      simp only [optional, held, Option.map_some, Option.getD_some] at small ⊢
      obtain ⟨payload, read, written⟩ := faithful.read_write valid small
      exact ⟨[payload], written depth, by simp [read, given value held]⟩

/-- A scalar that is sent whenever it is set is carried over. -/
theorem carries_optional {scalar : Scalar A} {part : Part M (Option A)}
    (faithful : scalar.Faithful) (unset : part.set none built = built) :
    (optional number scalar part).Carries message built (part.set (part.get message) built) :=
  carries_optional_onto faithful (fun absent => by rw [absent, unset]) fun value held => by rw [held]

section Inner

variable {codec : Codec S} (faithful : codec.Faithful)
include faithful

/-- A message inside a message stands behind the number of its bytes. -/
theorem writeMessage_eq (inner : S) :
    writeMessage number codec inner =
      writeBytesField number (codec.write inner).length (codec.write inner) := by
  rw [writeMessage, faithful.length_write]

/-- A message inside a message has the size that is foreseen for it. -/
theorem length_writeMessage (inner : S) :
    (writeMessage number codec inner).length = messageSize number codec inner := by
  rw [writeMessage_eq faithful, length_writeBytesField, messageSize, faithful.length_write]

/-- A message inside a message is read as one field. -/
theorem readFields_writeMessage (valid : IsFieldNumber number) {inner : S}
    (small : messageSize number codec inner < 2 ^ 64) (depth : Nat) :
    readFields depth (writeMessage number codec inner) =
      some [⟨number, .bytes (codec.write inner)⟩] := by
  -- The bytes of the message inside are counted, and their count is written in front of them.
  rw [writeMessage_eq faithful]
  refine readFields_writeBytesField depth valid.1 valid.2 ?_
  rw [faithful.length_write]
  exact Nat.lt_of_le_of_lt (le_bytesFieldSize number _) small

omit faithful in
/-- A message takes fewer bytes than the field that carries it. -/
theorem small_of_messageSize {inner : S} (small : messageSize number codec inner < 2 ^ 64) :
    codec.size inner < 2 ^ 64 :=
  Nat.lt_of_le_of_lt (le_bytesFieldSize number _) small

/-- A message inside a message is merged into the one that is there. -/
theorem carries_message_onto {part : Part M (Option S)} {next : M} {result : S → S}
    (merged : ∀ {inner}, codec.size inner < 2 ^ 64 → ∀ depth, codec.mergeBytes depth
      ((part.get built).getD codec.blank) (codec.write inner) = some (result inner))
    (absent : part.get message = none → built = next)
    (given : ∀ inner, part.get message = some inner → part.set (some (result inner)) built = next) :
    (FieldCodec.message number codec part).Carries message built next where
  length_write := by
    cases held : part.get message with
    | none => simp [FieldCodec.message, held]
    | some inner => simp [FieldCodec.message, held, length_writeMessage faithful]
  merge_write valid small depth := by
    cases held : part.get message with
    | none =>
      -- A message that is not set writes nothing at all.
      exact ⟨[], by simp [FieldCodec.message, held, readFields], by simp [absent held]⟩
    | some inner =>
      simp only [FieldCodec.message, held, Option.map_some, Option.getD_some] at small ⊢
      -- There is one field, and its bytes are the written message inside.
      refine ⟨[.bytes (codec.write inner)],
        readFields_writeMessage faithful valid small depth, ?_⟩
      simp [merged (small_of_messageSize small), given inner held]

/-- A message inside a message is carried over. -/
theorem carries_message {part : Part M (Option S)} (absent : part.get built = none)
    (unset : part.set none built = built) :
    (FieldCodec.message number codec part).Carries message built
      (part.set (part.get message) built) :=
  carries_message_onto faithful
    (fun small depth => by rw [absent]; exact faithful.merge_write small depth)
    (fun none_ => by rw [none_, unset]) fun inner held => by rw [held]

/-- Messages that occur one after the other are appended to those that are there. -/
private theorem foldlM_repeated {part : Part M (List S)}
    (get_set : ∀ value, part.get (part.set value built) = value)
    (set_set : ∀ later value, part.set later (part.set value built) = part.set later built)
    (number depth : Nat) (inners before : List S)
    (small : ∀ inner ∈ inners, messageSize number codec inner < 2 ^ 64) :
    (inners.map fun inner => Payload.bytes (codec.write inner)).foldlM
      (fun built payload => (repeated number codec part).merge depth payload built)
      (part.set before built) = some (part.set (before ++ inners) built) := by
  -- The messages merged so far stand in front of the list, and the next one is put behind them.
  induction inners generalizing before with
  | nil => simp
  | cons inner inners ih =>
    have first := faithful.merge_write
      (small_of_messageSize (small inner List.mem_cons_self)) (depth - 1)
    have later := ih (before ++ [inner]) fun other member => small other (.tail _ member)
    rw [List.append_assoc, List.singleton_append] at later
    rw [List.map_cons, List.foldlM_cons, ← later]
    simp [repeated, first, get_set, set_set]

/-- A list of messages inside a message is appended to the one that is there. -/
theorem carries_repeated_onto {part : Part M (List S)}
    (same : part.set (part.get built) built = built)
    (get_set : ∀ value, part.get (part.set value built) = value)
    (set_set : ∀ later value, part.set later (part.set value built) = part.set later built) :
    (repeated number codec part).Carries message built
      (part.set (part.get built ++ part.get message) built) where
  length_write := by
    simp only [repeated]
    induction part.get message with
    | nil => rfl
    -- The lengths of the messages add up.
    | cons inner inners ih => simp [ih, length_writeMessage faithful]
  merge_write valid small depth := by
    -- Each message is a field of its own, and they are appended in the order in which they are read.
    have each : ∀ inner ∈ part.get message, messageSize number codec inner < 2 ^ 64 :=
      fun inner member => Nat.lt_of_le_of_lt (size_le_foldr (messageSize number codec) member) small
    refine ⟨(part.get message).map fun inner => .bytes (codec.write inner), ?_, ?_⟩
    · simp only [repeated] at valid ⊢
      generalize part.get message = inners at each
      induction inners with
      | nil => simp [readFields]
      | cons inner inners ih =>
        have first := readFields_writeMessage faithful valid (each inner List.mem_cons_self) depth
        rw [List.flatMap_cons, readFields_append _ first,
          ih fun other member => each other (.tail _ member)]
        rfl
    · have merged := foldlM_repeated faithful get_set set_set number depth (part.get message)
        (part.get built) each
      rwa [same] at merged

/-- A list of messages inside a message is carried over. -/
theorem carries_repeated {part : Part M (List S)} (unset : part.set [] built = built)
    (get_set : ∀ value, part.get (part.set value built) = value)
    (set_set : ∀ later value, part.set later (part.set value built) = part.set later built) :
    (repeated number codec part).Carries message built (part.set (part.get message) built) := by
  -- Nothing is there yet, so what is appended to it is the whole list.
  have empty : part.get built = [] := by
    rw [← unset, get_set]
  have carries : (repeated number codec part).Carries message built _ :=
    carries_repeated_onto faithful (by rw [empty, unset]) get_set set_set
  rwa [empty, List.nil_append] at carries

end Inner

end FieldCodec

end InsightRelay.Wire
