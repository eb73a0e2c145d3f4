import InsightRelay.Client.Envelope

/-! Headers: which texts they carry, judged byte by byte, and what it takes that none of them stands in for
another. -/

namespace InsightRelay

namespace Header

/-- Whether no byte of a text is a control character of ASCII, tabs apart. -/
def IsClean (text : String) : Prop :=
  ∀ byte ∈ text.toUTF8.data.toList, byte = 0x09 ∨ 0x20 ≤ byte ∧ byte ≠ 0x7f

instance (text : String) : Decidable (IsClean text) :=
  inferInstanceAs (Decidable (∀ byte ∈ text.toUTF8.data.toList, _))

/-- The bytes of a character beyond ASCII are beyond ASCII too. -/
private theorem le_of_mem_utf8EncodeChar {char : Char} (beyond : 0x7f < char.val.toNat)
    {byte : UInt8} (member : byte ∈ String.utf8EncodeChar char) : 0x80 ≤ byte.toNat := by
  have wide : ¬ char.val.toNat ≤ 0x7f := Nat.not_le.2 beyond
  unfold String.utf8EncodeChar at member
  simp only [wide, if_false] at member
  -- However many bytes there are, each of them is a few bits with a mark above them.
  split at member
  · simp only [List.mem_cons, List.not_mem_nil, or_false] at member
    rcases member with rfl | rfl <;> rw [UInt8.toNat_ofNat'] <;> omega
  split at member <;> simp only [List.mem_cons, List.not_mem_nil, or_false] at member
  · rcases member with rfl | rfl | rfl <;> rw [UInt8.toNat_ofNat'] <;> omega
  · rcases member with rfl | rfl | rfl | rfl <;> rw [UInt8.toNat_ofNat'] <;> omega

/-- A character may stand in a header if and only if each of its bytes may. -/
private theorem isValueChar_iff (char : Char) : isValueChar char = true ↔
    ∀ byte ∈ String.utf8EncodeChar char, byte = 0x09 ∨ 0x20 ≤ byte ∧ byte ≠ 0x7f := by
  -- As the code unit is a number, the rule is one about numbers.
  have number : isValueChar char = true ↔
      char.val.toNat = 9 ∨ 32 ≤ char.val.toNat ∧ char.val.toNat ≠ 127 := by
    simp [isValueChar, ← Char.val_inj, ← UInt32.toNat_inj, Char.le_def, UInt32.le_iff_toNat_le]
  rw [number]
  simp only [ne_eq, ← UInt8.toNat_inj, UInt8.le_iff_toNat_le, UInt8.reduceToNat]
  -- A character of ASCII is one byte, and every other one has bytes beyond ASCII only.
  by_cases ascii : char.val.toNat ≤ 0x7f
  · have alone : String.utf8EncodeChar char = [UInt8.ofNat char.val.toNat] := if_pos ascii
    simp only [alone, List.mem_singleton, forall_eq, UInt8.toNat_ofNat']
    omega
  · have beyond := Nat.not_le.1 ascii
    refine ⟨fun _ byte member => ?_, fun _ => by omega⟩
    have := le_of_mem_utf8EncodeChar beyond member
    omega

/-- The bytes of a text are those of its characters. -/
private theorem toList_data_toUTF8 (text : String) :
    text.toUTF8.data.toList = text.toList.flatMap String.utf8EncodeChar := by
  conv => lhs; rw [← String.ofList_toList (s := text)]
  rw [String.toUTF8_eq_toByteArray, String.toByteArray_ofList, List.utf8Encode,
    List.toList_data_toByteArray]

/-- A text is clean if and only if all its characters may stand in a header. -/
theorem all_isValueChar_iff (text : String) :
    text.toList.all isValueChar = true ↔ IsClean text := by
  simp only [IsClean, toList_data_toUTF8, List.all_eq_true, List.mem_flatMap, isValueChar_iff]
  constructor
  · rintro each byte ⟨char, inside, member⟩
    exact each char inside byte member
  · exact fun each char inside byte member => each byte ⟨char, inside, member⟩

/-- A header is made of every clean text, and of no other. -/
theorem make_eq (key value : String) :
    make key value = if IsClean value then .ok ⟨key, value⟩ else .error (.invalidHeader key) := by
  simp only [make, all_isValueChar_iff]

/-- A header with a key of its own goes behind all others. -/
theorem place_of_absent {header : Header} {headers : List Header}
    (absent : header.key ∉ headers.map (·.key)) : header.place headers = headers ++ [header] := by
  induction headers with
  | nil => rfl
  | cons other rest ih =>
    simp only [List.map_cons, List.mem_cons, not_or] at absent
    rw [place, if_neg (Ne.symm absent.1), ih absent.2, List.cons_append]

/-- Headers with keys of their own are put one behind the other. -/
theorem foldl_place {before headers : List Header}
    (distinct : ((before ++ headers).map (·.key)).Nodup) :
    headers.foldl (fun placed header => header.place placed) before = before ++ headers := by
  -- Each header is new to those that are in place already.
  induction headers generalizing before with
  | nil => simp
  | cons header rest ih =>
    have shape : before ++ header :: rest = before ++ [header] ++ rest := by simp
    rw [shape] at distinct ⊢
    have absent : header.key ∉ before.map (·.key) := by
      simp only [List.map_append, List.nodup_append] at distinct
      exact fun member => distinct.1.2.2 _ member _ (by simp) rfl
    rw [List.foldl_cons, place_of_absent absent, ih distinct]

end Header

namespace RequestId

/-- The header that carries the number of a request. -/
def header (id : RequestId) : Header := ⟨"x-request-id", id.text⟩

/-- Every hexadecimal digit may stand in a header. -/
private theorem isValueChar_digitChar : ∀ digit < 16, Header.isValueChar (Nat.digitChar digit) := by
  decide

/-- Hexadecimal digits may stand in a header, whatever the value and however many there are. -/
private theorem isValueChar_hexDigits (value count : Nat) :
    ∀ char ∈ hexDigits value count, Header.isValueChar char := by
  -- The last digit is one of sixteen, and the others are the digits of the rest.
  induction count generalizing value with
  | zero => simp [hexDigits]
  | succ count ih =>
    intro char member
    rcases List.mem_append.1 member with higher | lowest
    · exact ih _ _ higher
    · obtain rfl := List.mem_singleton.1 lowest
      exact isValueChar_digitChar _ (Nat.mod_lt _ (by decide))

/-- A header can carry the number of every request. -/
theorem isClean_text (id : RequestId) : Header.IsClean id.text := by
  rw [← Header.all_isValueChar_iff, text, String.toList_ofList, List.all_eq_true]
  -- There are hexadecimal digits of either half, and dashes.
  have high := isValueChar_hexDigits id.high.toNat 16
  have low := isValueChar_hexDigits id.low.toNat 16
  have dash : Header.isValueChar '-' := by decide
  intro char member
  simp only [List.mem_append, List.mem_cons] at member
  grind [List.mem_of_mem_take, List.mem_of_mem_drop]

/-- A request has all its credentials as headers and its number besides, unless two of them share a key. -/
theorem headers_eq {credentials : List Header}
    {id : RequestId} (distinct : ((credentials ++ [id.header]).map (·.key)).Nodup) :
    id.headers credentials = credentials ++ [id.header] := by
  rw [List.map_append, List.nodup_append] at distinct
  obtain ⟨apart, -, unnumbered⟩ := distinct
  -- Nothing is replaced, neither among the credentials nor by the number.
  have placed : credentials.foldl (fun headers header => header.place headers) [] = credentials :=
    @Header.foldl_place [] credentials apart
  rw [headers, Header.make_eq, if_pos id.isClean_text, placed]
  exact Header.place_of_absent fun member => unnumbered _ member _ List.mem_cons_self rfl

end RequestId

end InsightRelay
