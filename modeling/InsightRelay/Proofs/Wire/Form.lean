import InsightRelay.Wire.Field
import Mathlib.Algebra.Group.Nat.Defs

/-! The grammar of fields: which bytes are a field, told apart from how they are read, and that reading
takes exactly such bytes. -/

namespace InsightRelay.Wire

/-- A number stands in bytes: seven bits a byte from the low end, all bytes but the last marked.

High bytes without bits are allowed, so a number stands in many forms. -/
inductive VarintForm : Nat → Bytes → Prop
  | last {byte : UInt8} (unmarked : byte.toNat < 128) : VarintForm byte.toNat [byte]
  | more {byte : UInt8} {high : Nat} {rest : Bytes} (marked : 128 ≤ byte.toNat)
    (later : VarintForm high rest) : VarintForm (byte.toNat - 128 + 128 * high) (byte :: rest)

/-- A number of sixty-four bits stands in no more than ten bytes. -/
structure NumberForm (value : Nat) (bytes : Bytes) : Prop where
  form : VarintForm value bytes
  short : bytes.length ≤ 10
  fits : value < 2 ^ 64

/-- A key stands in bytes as a number of thirty-two bits, whose low bits are its kind. -/
structure KeyForm (key : Key) (bytes : Bytes) : Prop where
  number : NumberForm (key.number * 8 + key.kind) bytes
  kind : key.kind < 8
  positive : 0 < key.number
  fits : key.number < 2 ^ 29

/-- A payload of a kind stands in bytes and is not made of fields. -/
inductive PlainForm : Nat → Payload → Bytes → Prop
  | varint {value : Nat} {bytes : Bytes} (number : NumberForm value bytes) :
    PlainForm 0 (.varint value) bytes
  | fixed64 {bytes : Bytes} (count : bytes.length = 8) : PlainForm 1 (.fixed64 bytes) bytes
  | bytes {head content : Bytes} (length : NumberForm content.length head) :
    PlainForm 2 (.bytes content) (head ++ content)
  | fixed32 {bytes : Bytes} (count : bytes.length = 4) : PlainForm 5 (.fixed32 bytes) bytes

/-- The inside of a group with a number stands in bytes, up to and with the key that ends it; groups in
it are nested to a depth. -/
inductive GroupForm : Nat → Nat → Bytes → Prop
  | done {number : Nat} {head : Bytes} (key : KeyForm ⟨number, 4⟩ head) : GroupForm number 0 head
  | plain {number nested kind other : Nat} {payload : Payload} {head content rest : Bytes}
    (key : KeyForm ⟨other, kind⟩ head) (inside : PlainForm kind payload content)
    (later : GroupForm number nested rest) :
    GroupForm number (max 1 nested) (head ++ (content ++ rest))
  | group {number nested other inner : Nat} {head content rest : Bytes}
    (key : KeyForm ⟨other, 3⟩ head) (inside : GroupForm other inner content)
    (later : GroupForm number nested rest) :
    GroupForm number (max (inner + 1) nested) (head ++ (content ++ rest))

/-- A field stands in bytes; groups in it are nested to a depth. -/
inductive FieldForm : Field → Nat → Bytes → Prop
  | plain {number kind : Nat} {payload : Payload} {head content : Bytes}
    (key : KeyForm ⟨number, kind⟩ head) (inside : PlainForm kind payload content) :
    FieldForm ⟨number, payload⟩ 0 (head ++ content)
  | group {number nested : Nat} {head content : Bytes} (key : KeyForm ⟨number, 3⟩ head)
    (inside : GroupForm number nested content) :
    FieldForm ⟨number, .group⟩ nested (head ++ content)

/-- Fields stand in bytes one after the other; groups in them are nested to a depth. -/
inductive FieldsForm : List Field → Nat → Bytes → Prop
  | done : FieldsForm [] 0 []
  | next {field : Field} {fields : List Field} {first others : Nat} {bytes rest : Bytes}
    (form : FieldForm field first bytes) (later : FieldsForm fields others rest) :
    FieldsForm (field :: fields) (max first others) (bytes ++ rest)

section Numbers

variable {value count : Nat} {bytes rest : Bytes}

/-- A number takes at least one byte. -/
theorem VarintForm.length_pos (form : VarintForm value bytes) : 0 < bytes.length := by
  cases form <;> simp

/-- A number that is short enough is read from its form, whatever follows it. -/
theorem VarintForm.read (form : VarintForm value bytes) (short : bytes.length ≤ count + 1)
    (fits : value < 2 ^ (7 * count + 1)) (more : Bytes) :
    readVarintWithin (count + 1) (bytes ++ more) = some (value, more) := by
  -- Each byte leaves one less for the others and seven bits less for what they hold.
  induction form generalizing count with
  | @last byte unmarked =>
    have whole : ¬(count = 0 ∧ 2 ≤ byte.toNat) := by
      rintro ⟨rfl, large⟩
      simp at fits
      omega
    rw [List.singleton_append, readVarintWithin, if_pos unmarked, if_neg whole]
  | @more byte high rest marked later ih =>
    cases count with
    | zero =>
      -- A marked byte has one behind it, for which there is no room.
      have positive := later.length_pos
      simp only [List.length_cons] at short
      omega
    | succ count =>
      have power : 2 ^ (7 * (count + 1) + 1) = 128 * 2 ^ (7 * count + 1) := by
        rw [show 7 * (count + 1) + 1 = 7 + (7 * count + 1) by omega, Nat.pow_add]
      rw [List.cons_append, readVarintWithin, if_neg (by omega), ih (by simpa using short) (by omega)]
      rfl

/-- What is read as a number is the form of one, and it is short enough. -/
theorem varintForm_of_read (read : readVarintWithin (count + 1) bytes = some (value, rest)) :
    ∃ form, bytes = form ++ rest ∧ VarintForm value form ∧ form.length ≤ count + 1 ∧
      value < 2 ^ (7 * count + 1) := by
  -- The last byte holds less than seven bits only where no other byte could follow.
  induction count generalizing bytes value with
  | zero =>
    cases bytes with
    | nil => simp [readVarintWithin] at read
    | cons byte bytes =>
      simp only [readVarintWithin, true_and, Option.bind_eq_bind, Option.bind_none] at read
      split at read
      · next unmarked =>
        split at read
        · simp at read
        · next small =>
          cases read
          exact ⟨[byte], rfl, .last unmarked, by simp, by omega⟩
      · simp at read
  | succ count ih =>
    cases bytes with
    | nil => simp [readVarintWithin] at read
    | cons byte bytes =>
      have power : 2 ^ (7 * (count + 1) + 1) = 128 * 2 ^ (7 * count + 1) := by
        rw [show 7 * (count + 1) + 1 = 7 + (7 * count + 1) by omega, Nat.pow_add]
      have positive : 0 < 2 ^ (7 * count + 1) := Nat.two_pow_pos _
      have bounded := byte.toNat_lt
      rw [readVarintWithin] at read
      split at read
      · next unmarked =>
        simp only [Nat.add_eq_zero_iff, Nat.one_ne_zero, and_false, false_and, if_false] at read
        cases read
        exact ⟨[byte], rfl, .last unmarked, by simp, by omega⟩
      · next marked =>
        obtain ⟨⟨high, left⟩, found, same⟩ := Option.bind_eq_some_iff.1 read
        cases same
        -- The bound of the others grows by the seven bits of the first byte.
        obtain ⟨form, rfl, later, short, fits⟩ := ih found
        refine ⟨byte :: form, rfl, .more (by omega) later, by simpa using short, ?_⟩
        omega

/-- A number of sixty-four bits is read from its form, whatever follows it. -/
theorem NumberForm.read (form : NumberForm value bytes) (more : Bytes) :
    readVarint (bytes ++ more) = some (value, more) :=
  form.form.read form.short form.fits more

/-- What is read as a number of sixty-four bits is the form of one. -/
theorem numberForm_of_read (read : readVarint bytes = some (value, rest)) :
    ∃ form, bytes = form ++ rest ∧ NumberForm value form := by
  obtain ⟨form, same, varint, short, fits⟩ := varintForm_of_read read
  exact ⟨form, same, varint, short, fits⟩

end Numbers

section Fields

variable {bytes rest : Bytes}

/-- A key is read from its form, whatever follows it. -/
theorem KeyForm.read {key : Key} (form : KeyForm key bytes) (more : Bytes) :
    readKey (bytes ++ more) = some (key, more) := by
  -- The form says which number was written; the rest is to take its two parts out again.
  obtain ⟨number, kind⟩ := key
  obtain ⟨value, isKind, positive, fits⟩ := form
  simp only at isKind positive fits value
  have number_eq : (number * 8 + kind) / 8 = number := by omega
  have kind_eq : (number * 8 + kind) % 8 = kind := by omega
  have valid : ¬(1 <<< 32 ≤ number * 8 + kind ∨ number = 0) := by
    rw [Nat.shiftLeft_eq]
    omega
  rw [readKey, value.read more]
  simp only [Option.bind_eq_bind, Option.bind_some, number_eq, kind_eq]
  -- A key of the right form is small enough and has a number.
  rw [if_neg valid]

/-- What is read as a key is the form of one. -/
theorem keyForm_of_read {key : Key} (read : readKey bytes = some (key, rest)) :
    ∃ form, bytes = form ++ rest ∧ KeyForm key form := by
  -- A key passes its check only if it is small and its number is not zero.
  obtain ⟨⟨value, left⟩, found, checked⟩ := Option.bind_eq_some_iff.1 read
  simp only at checked
  split at checked
  · simp at checked
  · next valid =>
    cases checked
    obtain ⟨form, rfl, number⟩ := numberForm_of_read found
    rw [Nat.shiftLeft_eq] at valid
    refine ⟨form, rfl, ?_, Nat.mod_lt _ (by omega), ?_, ?_⟩
    · -- The two parts make up the number that was read.
      rwa [Nat.div_add_mod']
    · simp only
      omega
    · simp only
      omega

/-- A key with a small number stands in one byte. -/
theorem KeyForm.single {key : Key} {byte : UInt8} (same : byte.toNat = key.number * 8 + key.kind)
    (unmarked : byte.toNat < 128) (kind : key.kind < 8) (positive : 0 < key.number) :
    KeyForm key [byte] := by
  have number : NumberForm byte.toNat [byte] := ⟨.last unmarked, by simp, by omega⟩
  exact ⟨same ▸ number, kind, positive, by omega⟩

/-- A key takes at least one byte. -/
theorem KeyForm.length_pos {key : Key} (form : KeyForm key bytes) : 0 < bytes.length :=
  form.number.form.length_pos

/-- A payload that is not made of fields is read from its form, whatever follows it. -/
theorem PlainForm.read {kind : Nat} {payload : Payload} (form : PlainForm kind payload bytes)
    (more : Bytes) : readPlain kind (bytes ++ more) = some (payload, more) := by
  -- The numbers in a form are read exactly, and counted bytes are as many as they are to be.
  cases form with
  | varint number => simp [readPlain, number.read]
  | fixed64 count => simp [readPlain, takeBytes, ← count]
  | bytes length => simp [readPlain, length.read, takeBytes]
  | fixed32 count => simp [readPlain, takeBytes, ← count]

/-- Counted bytes that are taken are as many as they were to be. -/
private theorem eq_append_of_takeBytes {count : Nat} {content : Bytes}
    (taken : takeBytes count bytes = some (content, rest)) :
    bytes = content ++ rest ∧ content.length = count := by
  -- Both parts come from one list that is long enough to be cut there.
  unfold takeBytes at taken
  split at taken
  · next enough =>
    cases taken
    exact ⟨(List.take_append_drop count bytes).symm, List.length_take_of_le enough⟩
  · simp at taken

/-- What is read as a payload that is not made of fields is the form of one. -/
theorem plainForm_of_read {kind : Nat} {payload : Payload}
    (read : readPlain kind bytes = some (payload, rest)) :
    ∃ form, bytes = form ++ rest ∧ PlainForm kind payload form := by
  -- One case for each kind of payload, and a last one for the kinds that are none.
  unfold readPlain at read
  split at read
  · obtain ⟨⟨value, left⟩, found, same⟩ := Option.map_eq_some_iff.1 read
    cases same
    obtain ⟨form, rfl, number⟩ := numberForm_of_read found
    exact ⟨form, rfl, .varint number⟩
  · obtain ⟨⟨content, left⟩, found, same⟩ := Option.map_eq_some_iff.1 read
    cases same
    obtain ⟨rfl, count⟩ := eq_append_of_takeBytes found
    exact ⟨content, rfl, .fixed64 count⟩
  · obtain ⟨⟨length, left⟩, counted, taken⟩ := Option.bind_eq_some_iff.1 read
    obtain ⟨⟨content, last⟩, found, same⟩ := Option.map_eq_some_iff.1 taken
    cases same
    -- The length comes first, and as many bytes stand behind it.
    obtain ⟨head, rfl, number⟩ := numberForm_of_read counted
    obtain ⟨rfl, rfl⟩ := eq_append_of_takeBytes found
    exact ⟨head ++ content, by simp, .bytes number⟩
  · obtain ⟨⟨content, left⟩, found, same⟩ := Option.map_eq_some_iff.1 read
    cases same
    obtain ⟨rfl, count⟩ := eq_append_of_takeBytes found
    exact ⟨content, rfl, .fixed32 count⟩
  · simp at read

/-- No field ends a group or stands at the head of one. -/
theorem PlainForm.kind_ne {kind : Nat} {payload : Payload} (form : PlainForm kind payload bytes) :
    kind ≠ 3 ∧ kind ≠ 4 := by
  cases form <;> decide

/-- Inside a group one field is passed over, and the walk goes on behind it. -/
theorem skipGroup_inside {number depth : Nat} {key : Key} {bytes left : Bytes}
    (found : readKey bytes = some (key, left)) (open_ : key.kind ≠ 4) :
    skipGroup number (depth + 1) bytes =
      (if key.kind = 3 then skipGroup key.number depth left
        else (readPlain key.kind left).map Prod.snd).bind fun after =>
          if after.length < bytes.length then skipGroup number (depth + 1) after else none := by
  -- The first two rounds of the definition, with the key known and the group not yet closed.
  rw [skipGroup]
  simp only [found, if_neg open_]
  split <;> simp

/-- A group is passed over exactly to its end, unless groups in it are nested too deeply. -/
theorem GroupForm.skip {number nested : Nat} (form : GroupForm number nested bytes) (depth : Nat)
    (more : Bytes) : skipGroup number depth (bytes ++ more) =
      if nested ≤ depth then some more else none := by
  -- The walk takes one field after the other, and for a group in the group it goes one level down.
  induction form generalizing depth more with
  | done key => simp [skipGroup, key.read]
  -- With no depth left only the closing key is read, so a group that holds anything needs some.
  | @plain number nested kind other payload head content rest key inside later ih =>
    have found := key.read (content ++ (rest ++ more))
    have positive := key.length_pos
    rw [List.append_assoc, List.append_assoc]
    cases depth with
    | zero =>
      rw [if_neg (by omega), skipGroup, found]
      simp [inside.kind_ne.2]
    | succ depth =>
      rw [skipGroup_inside found inside.kind_ne.2, if_neg inside.kind_ne.1, inside.read,
        Option.map_some, Option.bind_some, if_pos (by simp; omega), ih]
      have deep : nested ≤ depth + 1 ↔ max 1 nested ≤ depth + 1 := by omega
      simp only [deep]
  -- The group inside is passed over one level down, and then the rest of this one.
  | @group number nested other inner head content rest key inside later ih_inside ih_later =>
    have found := key.read (content ++ (rest ++ more))
    have positive := key.length_pos
    rw [List.append_assoc, List.append_assoc]
    cases depth with
    | zero =>
      rw [if_neg (by omega), skipGroup, found]
      simp
    | succ depth =>
      rw [skipGroup_inside found (by simp), if_pos rfl, ih_inside]
      by_cases fits : inner ≤ depth
      · have deep : nested ≤ depth + 1 ↔ max (inner + 1) nested ≤ depth + 1 := by omega
        rw [if_pos fits, Option.bind_some, if_pos (by simp; omega), ih_later]
        simp only [deep]
      · rw [if_neg fits, Option.bind_none, if_neg (by omega)]

/-- What is passed over as a group is the form of one, and groups in it are not nested too deeply. -/
theorem groupForm_of_skip {number depth : Nat} (skipped : skipGroup number depth bytes = some rest) :
    ∃ form nested, bytes = form ++ rest ∧ GroupForm number nested form ∧ nested ≤ depth := by
  -- The walk is followed round by round: it ends at the closing key, passes over a group inside, or
  -- passes over a payload; in the other rounds it fails.
  induction number, depth, bytes using skipGroup.induct generalizing rest with
  | case1 number depth bytes unread =>
    rw [skipGroup, unread] at skipped
    simp at skipped
  | case2 depth bytes key left found ends =>
    rw [skipGroup, found] at skipped
    simp only [ends, if_true] at skipped
    cases skipped
    obtain ⟨head, rfl, form⟩ := keyForm_of_read found
    obtain ⟨number, kind⟩ := key
    -- The group ends with a key of its own number.
    cases ends
    exact ⟨head, 0, rfl, .done form, Nat.zero_le _⟩
  | case3 number depth bytes key left found ends differ =>
    rw [skipGroup, found] at skipped
    simp [ends, differ] at skipped
  | case4 number bytes key left found open_ =>
    rw [skipGroup, found] at skipped
    simp [open_] at skipped
  -- Another group inside is passed over one level down, and the walk goes on behind it.
  | case5 number bytes key left found open_ depth isGroup ih_after ih_inner =>
    rw [skipGroup_inside found open_, if_pos isGroup] at skipped
    obtain ⟨after, inner, onward⟩ := Option.bind_eq_some_iff.1 skipped
    split at onward
    · next shorter =>
      obtain ⟨head, rfl, form⟩ := keyForm_of_read found
      obtain ⟨content, deep, rfl, inside, fits⟩ := ih_inner inner
      obtain ⟨others, nested, rfl, later, bounded⟩ := ih_after after shorter onward
      obtain ⟨other, kind⟩ := key
      cases isGroup
      exact ⟨_, _, by simp only [List.append_assoc], .group form inside later, by omega⟩
    · simp at onward
  -- A payload is no deeper than the group that it is in.
  | case6 number bytes key left found open_ depth isPlain ih_after =>
    rw [skipGroup_inside found open_, if_neg isPlain] at skipped
    obtain ⟨after, inner, onward⟩ := Option.bind_eq_some_iff.1 skipped
    obtain ⟨⟨payload, _⟩, read, rfl⟩ := Option.map_eq_some_iff.1 inner
    split at onward
    · next shorter =>
      obtain ⟨head, rfl, form⟩ := keyForm_of_read found
      obtain ⟨content, rfl, inside⟩ := plainForm_of_read read
      obtain ⟨others, nested, rfl, later, bounded⟩ := ih_after _ shorter onward
      exact ⟨_, _, by simp only [List.append_assoc], .plain form inside later, by omega⟩
    · simp at onward

/-- A field that is no group has the payload behind its key. -/
theorem readField_plain {depth : Nat} {key : Key} {payload : Payload} {bytes left rest : Bytes}
    (found : readKey bytes = some (key, left)) (isPlain : key.kind ≠ 3)
    (read : readPlain key.kind left = some (payload, rest)) :
    readField depth bytes = some (⟨key.number, payload⟩, rest) := by
  simp [readField, found, isPlain, read]

/-- A field is read from its form whatever follows it, unless groups in it are nested too deeply. -/
theorem FieldForm.read {field : Field} {nested : Nat} (form : FieldForm field nested bytes)
    (depth : Nat) (more : Bytes) : readField depth (bytes ++ more) =
      if nested ≤ depth - 1 then some (field, more) else none := by
  -- Only a group can be nested too deeply, so a payload is always read.
  cases form with
  | plain key inside =>
    rw [List.append_assoc, if_pos (Nat.zero_le _)]
    exact readField_plain (key.read _) inside.kind_ne.1 (inside.read more)
  | group key inside =>
    rw [List.append_assoc, readField, key.read]
    simp only [Option.bind_eq_bind, Option.bind_some, if_true, inside.skip]
    split <;> simp

/-- What is read as a field is the form of one, and groups in it are not nested too deeply. -/
theorem fieldForm_of_read {field : Field} {depth : Nat}
    (read : readField depth bytes = some (field, rest)) :
    ∃ form nested, bytes = form ++ rest ∧ FieldForm field nested form ∧ nested ≤ depth - 1 := by
  -- The kind of the key says whether a group or a payload stands behind it.
  obtain ⟨⟨key, left⟩, found, inside⟩ := Option.bind_eq_some_iff.1 read
  obtain ⟨head, rfl, form⟩ := keyForm_of_read found
  obtain ⟨number, kind⟩ := key
  simp only at inside
  split at inside
  · next isGroup =>
    obtain ⟨after, skipped, same⟩ := Option.bind_eq_some_iff.1 inside
    cases same
    cases isGroup
    obtain ⟨content, nested, rfl, group, fits⟩ := groupForm_of_skip skipped
    exact ⟨_, nested, (List.append_assoc ..).symm, .group form group, fits⟩
  · obtain ⟨⟨payload, after⟩, plain, same⟩ := Option.bind_eq_some_iff.1 inside
    cases same
    obtain ⟨content, rfl, payload⟩ := plainForm_of_read plain
    exact ⟨_, 0, (List.append_assoc ..).symm, .plain form payload, Nat.zero_le _⟩

/-- A field takes at least one byte. -/
theorem FieldForm.length_pos {field : Field} {nested : Nat} (form : FieldForm field nested bytes) :
    0 < bytes.length := by
  -- Whatever the field is, its key comes first.
  cases form with
  | plain key | group key =>
    have positive := key.length_pos
    rw [List.length_append]
    omega

/-- The fields of bytes are the first field and those of the bytes behind it. -/
theorem readFields_cons {depth : Nat} {field : Field} {bytes rest : Bytes}
    (read : readField depth bytes = some (field, rest)) (shorter : rest.length < bytes.length) :
    readFields depth bytes = (readFields depth rest).map (field :: ·) := by
  -- Bytes that become shorter are not empty, so the reader does not stop in front of the field.
  have some_ : bytes.isEmpty = false := by
    cases bytes with
    | nil => simp at shorter
    | cons => rfl
  rw [readFields]
  cases later : readFields depth rest <;> simp [some_, read, shorter, later]

/-- Fields are read from their forms whatever follows them, unless groups in them are nested too
deeply. -/
theorem FieldsForm.read {fields : List Field} {nested : Nat} (form : FieldsForm fields nested bytes)
    (depth : Nat) (more : Bytes) : readFields depth (bytes ++ more) =
      if nested ≤ depth - 1 then (readFields depth more).map (fields ++ ·) else none := by
  -- The first field that is nested too deeply stops the reader, whatever stands behind it.
  induction form with
  | done =>
    cases found : readFields depth more <;> simp [found]
  | @next field fields first others bytes rest form later ih =>
    have positive := form.length_pos
    rw [List.append_assoc]
    by_cases fits : first ≤ depth - 1
    · have read := form.read depth (rest ++ more)
      rw [if_pos fits] at read
      rw [readFields_cons read (by simp; omega), ih]
      by_cases others_fit : others ≤ depth - 1
      · rw [if_pos others_fit, if_pos (by omega), Option.map_map]
        rfl
      · rw [if_neg others_fit, if_neg (by omega), Option.map_none]
    · -- The field itself is one that the reader fails on.
      have unread := form.read depth (rest ++ more)
      rw [if_neg fits] at unread
      have some_ : (bytes ++ (rest ++ more)).isEmpty = false := by
        cases bytes <;> simp at positive ⊢
      rw [if_neg (by omega), readFields]
      simp [some_, unread]

/-- What is read as fields is the form of them, and groups in it are not nested too deeply. -/
theorem fieldsForm_of_read {depth : Nat} {fields : List Field}
    (read : readFields depth bytes = some fields) :
    ∃ nested, FieldsForm fields nested bytes ∧ nested ≤ depth - 1 := by
  -- Every round of the reader takes one field off and leaves less than there was.
  fun_induction readFields depth bytes generalizing fields with
  | case1 bytes none_ =>
    cases read
    exact ⟨0, List.isEmpty_iff.1 none_ ▸ .done, Nat.zero_le _⟩
  | case2 bytes some_ ih =>
    obtain ⟨⟨field, rest⟩, first, onward⟩ := Option.bind_eq_some_iff.1 read
    simp only at onward
    split at onward
    · next shorter =>
      obtain ⟨others, found, same⟩ := Option.bind_eq_some_iff.1 onward
      cases same
      obtain ⟨form, nested, rfl, isField, fits⟩ := fieldForm_of_read first
      -- The others are no deeper than they may be, and neither is the first.
      obtain ⟨deepest, later, bounded⟩ := ih _ shorter found
      exact ⟨_, .next isField later, by omega⟩
    · simp at onward

end Fields

end InsightRelay.Wire
