import InsightRelay.Proofs.Wire.Form

/-! Fields as they are written: each is a form of what it carries, so it is read back, and bytes that are
put together are read one after the other. -/

namespace InsightRelay.Wire

/-- The fields of bytes that are put together are the fields of the ones and then of the others. -/
theorem readFields_append {depth : Nat} {fields : List Field} {bytes : Bytes} (more : Bytes)
    (read : readFields depth bytes = some fields) :
    readFields depth (bytes ++ more) = (readFields depth more).map (fields ++ ·) := by
  obtain ⟨nested, form, fits⟩ := fieldsForm_of_read read
  rw [form.read depth more, if_pos fits]

section Written

variable {number : Nat}

/-- A number is written in a form of it. -/
theorem varintForm_writeVarint (value : Nat) : VarintForm value (writeVarint value) := by
  fun_induction writeVarint value with
  | case1 value small =>
    have kept : (UInt8.ofNat value).toNat = value := by
      rw [UInt8.toNat_ofNat']
      omega
    have form := VarintForm.last (kept.symm ▸ small : (UInt8.ofNat value).toNat < 128)
    rwa [kept] at form
  | case2 value large ih =>
    -- The low seven bits come first and are marked, and the others are a smaller number.
    have kept : (UInt8.ofNat (value % 128 + 128)).toNat = value % 128 + 128 := by
      rw [UInt8.toNat_ofNat']
      omega
    have form := VarintForm.more (by omega : 128 ≤ (UInt8.ofNat (value % 128 + 128)).toNat) ih
    -- Both parts together are the number again.
    have whole : value % 128 + 128 - 128 + 128 * (value / 128) = value := by omega
    rwa [kept, whole] at form

/-- A number takes one byte for every seven bits. -/
theorem length_writeVarint_le {value count : Nat} (fits : value < 2 ^ (7 * (count + 1))) :
    (writeVarint value).length ≤ count + 1 := by
  -- Every byte written takes seven bits off the number, so the bound loses one factor of 128.
  induction count generalizing value with
  | zero =>
    rw [writeVarint, if_pos (by simpa using fits)]
    exact Nat.le_refl 1
  | succ count ih =>
    rw [writeVarint]
    split
    · simp
    · have power : 2 ^ (7 * (count + 2)) = 2 ^ (7 * (count + 1)) * 128 := by
        rw [show 7 * (count + 2) = 7 * (count + 1) + 7 by omega, Nat.pow_add]
      have shrunk : value / 128 < 2 ^ (7 * (count + 1)) :=
        Nat.div_lt_of_lt_mul (by rw [Nat.mul_comm, ← power]; exact fits)
      exact Nat.succ_le_succ (ih shrunk)

/-- A number of sixty-four bits is written in a form of it. -/
theorem numberForm_writeVarint {value : Nat} (fits : value < 2 ^ 64) :
    NumberForm value (writeVarint value) :=
  ⟨varintForm_writeVarint value, @length_writeVarint_le value 9 (by omega), fits⟩

/-- A key is written in a form of it if its number is one that a field can have. -/
theorem keyForm_writeKey {kind : Nat} (positive : 0 < number) (fits : number < 2 ^ 29)
    (isKind : kind < 8) : KeyForm ⟨number, kind⟩ (writeKey number kind) := by
  have small : number * 8 + kind < 2 ^ 64 := by omega
  exact ⟨numberForm_writeVarint small, isKind, positive, fits⟩

/-- A field that is no group is read by itself from its form. -/
theorem readFields_plain {kind : Nat} {payload : Payload} {head content : Bytes}
    (key : KeyForm ⟨number, kind⟩ head) (inside : PlainForm kind payload content) (depth : Nat) :
    readFields depth (head ++ content) = some [⟨number, payload⟩] := by
  have read := (FieldsForm.next (.plain key inside) .done).read depth []
  have nothing : readFields depth [] = some [] := by rw [readFields, if_pos List.isEmpty_nil]
  rw [Nat.max_self, if_pos (Nat.zero_le _), nothing] at read
  rwa [List.append_nil, List.append_nil] at read

/-- A field that carries a number is read back. -/
theorem readFields_writeVarintField {value : Nat} (depth : Nat) (positive : 0 < number)
    (fits : number < 2 ^ 29) (small : value < 2 ^ 64) :
    readFields depth (writeVarintField number value) = some [⟨number, .varint value⟩] :=
  readFields_plain (keyForm_writeKey positive fits (by decide)) (.varint (numberForm_writeVarint small))
    depth

/-- A field that carries bytes is read back if their number fits sixty-four bits. -/
theorem readFields_writeBytesField {content : Bytes} (depth : Nat) (positive : 0 < number)
    (fits : number < 2 ^ 29) (small : content.length < 2 ^ 64) :
    readFields depth (writeBytesField number content.length content) =
      some [⟨number, .bytes content⟩] := by
  rw [writeBytesField, List.append_assoc]
  exact readFields_plain (keyForm_writeKey positive fits (by decide))
    (.bytes (numberForm_writeVarint small)) depth

end Written

end InsightRelay.Wire
