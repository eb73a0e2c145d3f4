import InsightRelay.Proofs.Wire.Codec
import InsightRelay.Proofs.Wire.Form

/-! Merging: what is written of two messages is read as their merge, and it does not matter in which
order fields of different numbers come or which unknown fields come between them.

A field looks at one part of a message only, so fields with parts of their own commute. -/

namespace InsightRelay.Wire

section Fields

variable {M : Type}

/-- Two parts of a message have nothing to do with each other. -/
def Part.Apart {A B : Type} (one : Part M A) (other : Part M B) : Prop :=
  (∀ value message, one.get (other.set value message) = one.get message) ∧
  (∀ value message, other.get (one.set value message) = other.get message) ∧
  ∀ value value' message,
    one.set value (other.set value' message) = other.set value' (one.set value message)

/-- A part of a message of whatever type. -/
structure Slot (M : Type) where
  {A : Type}
  part : Part M A

/-- A field looks at one part of a message only, and changes that part only. -/
def FieldCodec.ActsOn {A : Type} (field : FieldCodec M) (part : Part M A) : Prop :=
  ∃ change : Nat → Payload → A → Option A, ∀ depth payload message,
    field.merge depth payload message =
      (change depth payload (part.get message)).map fun value => part.set value message

/-- Fields act on parts of a message that have nothing to do with each other. -/
inductive Separate : List (FieldCodec M) → List (Slot M) → Prop
  | done : Separate [] []
  | next {A : Type} {field : FieldCodec M} {fields : List (FieldCodec M)} {part : Part M A}
    {slots : List (Slot M)} (acts : field.ActsOn part)
    (apart : ∀ other ∈ slots, part.Apart other.part) (later : Separate fields slots) :
    Separate (field :: fields) (⟨part⟩ :: slots)

/-- It does not matter in which order occurrences of two fields are merged. -/
def FieldCodec.Commutes (one other : FieldCodec M) : Prop :=
  ∀ depth payload payload' message,
    (one.merge depth payload message).bind (other.merge depth payload') =
      (other.merge depth payload' message).bind (one.merge depth payload)

/-- Fields that act on parts of their own commute. -/
theorem FieldCodec.ActsOn.commutes {A B : Type} {one other : FieldCodec M} {part : Part M A}
    {part' : Part M B} (acts : one.ActsOn part) (acts' : other.ActsOn part')
    (apart : part.Apart part') : one.Commutes other := by
  intro depth payload payload' message
  obtain ⟨change, merge⟩ := acts
  obtain ⟨change', merge'⟩ := acts'
  obtain ⟨kept, kept', swap⟩ := apart
  -- Either both changes can be made, in any order, or one of them fails wherever it stands.
  cases first : change depth payload (part.get message) <;>
    cases second : change' depth payload' (part'.get message) <;>
    simp [merge, merge', kept, kept', first, second, swap]

/-- A field of the list acts on one of the parts. -/
theorem Separate.exists_slot {fields : List (FieldCodec M)} {slots : List (Slot M)}
    (separate : Separate fields slots) {field : FieldCodec M} (member : field ∈ fields) :
    ∃ slot ∈ slots, field.ActsOn slot.part := by
  -- The slots stand in the order of the fields.
  induction separate with
  | done => simp at member
  | @next A first fields part slots acts _ _ ih =>
    rcases List.mem_cons.1 member with rfl | inside
    · exact ⟨⟨part⟩, List.mem_cons_self, acts⟩
    · obtain ⟨other, there, acts⟩ := ih inside
      exact ⟨other, List.mem_cons_of_mem _ there, acts⟩

/-- Separate fields commute when their numbers tell them apart. -/
theorem Separate.commutes {fields : List (FieldCodec M)} {slots : List (Slot M)}
    (separate : Separate fields slots) {one other : FieldCodec M} (first : one ∈ fields)
    (second : other ∈ fields) (differ : one.number ≠ other.number) : one.Commutes other := by
  induction separate with
  | done => simp at first
  | @next A field fields part slots acts apart later ih =>
    rcases List.mem_cons.1 first with rfl | inside
    · rcases List.mem_cons.1 second with rfl | inside'
      · exact absurd rfl differ
      · -- The first one acts on its own part, and the other one on a part apart from it.
        obtain ⟨slot', there, acts'⟩ := later.exists_slot inside'
        exact acts.commutes acts' (apart slot' there)
    · rcases List.mem_cons.1 second with rfl | inside'
      · -- Commuting has no direction.
        obtain ⟨slot', there, acts'⟩ := later.exists_slot inside
        exact fun depth payload payload' message =>
          (acts.commutes acts' (apart slot' there) depth payload' payload message).symm
      · exact ih inside inside'

variable {A S : Type} {number : Nat}

/-- A scalar that is sent unless it is blank acts on its part. -/
theorem FieldCodec.acts_plain [DecidableEq A] {scalar : Scalar A} {part : Part M A} :
    (plain number scalar part).ActsOn part :=
  ⟨fun _ payload _ => scalar.read payload, fun _ _ _ => rfl⟩

/-- A scalar that is sent whenever it is set acts on its part. -/
theorem FieldCodec.acts_optional {scalar : Scalar A} {part : Part M (Option A)} :
    (optional number scalar part).ActsOn part :=
  ⟨fun _ payload _ => (scalar.read payload).map some, fun _ _ _ => by
    simp [optional, Function.comp_def]⟩

/-- The bytes that a payload of a length holds. -/
def Payload.content? : Payload → Option Bytes
  | .bytes content => some content
  | _ => none

/-- A message inside a message acts on its part. -/
theorem FieldCodec.acts_message {codec : Codec S} {part : Part M (Option S)} :
    (FieldCodec.message number codec part).ActsOn part := by
  -- Bytes are merged into what the part holds, and what is no bytes is refused.
  refine ⟨fun depth payload held => payload.content?.bind fun content =>
    (codec.mergeBytes (depth - 1) (held.getD codec.blank) content).map some,
    fun depth payload outer => ?_⟩
  cases payload with
  | bytes content => simp [FieldCodec.message, Payload.content?, Option.map_eq_bind, Option.bind_assoc]
  | _ => rfl

/-- A list of messages inside a message acts on its part. -/
theorem FieldCodec.acts_repeated {codec : Codec S} {part : Part M (List S)} :
    (repeated number codec part).ActsOn part := by
  -- Bytes are read as one more message of the list, and what is no bytes is refused.
  refine ⟨fun depth payload held => payload.content?.bind fun content =>
    (codec.mergeBytes (depth - 1) codec.blank content).map fun inner => held ++ [inner],
    fun depth payload outer => ?_⟩
  cases payload with
  | bytes content => simp [repeated, Payload.content?, Option.map_eq_bind, Option.bind_assoc]
  | _ => rfl

end Fields

section Streams

variable {M : Type} {codec : Codec M} {slots : List (Slot M)}

/-- It does not matter in which order two fields of different numbers occur. -/
theorem Separate.step_step (separate : Separate codec.fields slots) {one other : Field}
    (differ : one.number ≠ other.number) (depth : Nat) (message : M) :
    (codec.step depth message one).bind (codec.step depth · other) =
      (codec.step depth message other).bind (codec.step depth · one) := by
  -- An unknown field changes nothing wherever it stands.
  cases first : codec.field? one.number with
  | none => simp [Codec.step, first]
  | some field =>
    cases second : codec.field? other.number with
    | none => simp [Codec.step, first, second]
    | some field' =>
      -- Both are known, so they are told apart as fields of the message are.
      have number : field.number = one.number := by simpa using List.find?_some first
      have number' : field'.number = other.number := by simpa using List.find?_some second
      simp only [Codec.step, first, second]
      exact separate.commutes (List.mem_of_find?_eq_some first) (List.mem_of_find?_eq_some second)
        (by rwa [number, number']) depth one.payload other.payload message

variable {before : List Field} {nested : Nat} {past : Bytes}

/-- Two fields of different numbers that stand side by side can be exchanged. -/
theorem Separate.exchange (separate : Separate codec.fields slots)
    (preceding : FieldsForm before nested past) {one other : Field} {inner inner' : Nat}
    {bytes bytes' : Bytes} (form : FieldForm one inner bytes)
    (form' : FieldForm other inner' bytes') (differ : one.number ≠ other.number) (depth : Nat)
    (message : M) (more : Bytes) :
    codec.mergeBytes depth message (past ++ (bytes ++ (bytes' ++ more))) =
      codec.mergeBytes depth message (past ++ (bytes' ++ (bytes ++ more))) := by
  -- Both fields are read or not whatever stands around them.
  have single {field : Field} {deep : Nat} {content : Bytes} (form : FieldForm field deep content)
      (rest : Bytes) : readFields depth (content ++ rest) =
        if deep ≤ depth - 1 then (readFields depth rest).map (field :: ·) else none := by
    have read := (FieldsForm.next form .done).read depth rest
    simpa using read
  simp only [Codec.mergeBytes, preceding.read, single form, single form']
  -- Where something is nested too deeply, neither order is read.
  by_cases deep : nested ≤ depth - 1 <;> by_cases first : inner ≤ depth - 1 <;>
    by_cases second : inner' ≤ depth - 1 <;> simp only [deep, first, second, if_true, if_false,
      Option.map_none, Option.bind_eq_bind, Option.bind_none]
  cases readFields depth more with
  | none => rfl
  | some after =>
    simp only [Option.map_some, Option.bind_some, List.foldlM_append, List.foldlM_cons]
    refine congrArg _ (funext fun next => ?_)
    -- Where all is read, the two steps are taken next to each other, and they commute.
    have swap := congrArg (fun found => found.bind fun last => after.foldlM (codec.step depth) last)
      (separate.step_step differ depth next)
    simpa [Option.bind_assoc] using swap

/-- An unknown field can be put between other fields. -/
theorem Codec.insert_unknown (preceding : FieldsForm before nested past) {unknown : Field}
    {inner : Nat} {bytes : Bytes} (form : FieldForm unknown inner bytes)
    (strange : codec.field? unknown.number = none) {depth : Nat} (fits : inner ≤ depth - 1)
    (message : M) (more : Bytes) :
    codec.mergeBytes depth message (past ++ (bytes ++ more)) =
      codec.mergeBytes depth message (past ++ more) := by
  -- The unknown field is read like any other, and then leaves the message as it is.
  have read := (FieldsForm.next form .done).read depth more
  simp only [List.append_nil, Nat.max_zero, fits, if_true, List.singleton_append] at read
  simp only [Codec.mergeBytes, preceding.read, read]
  split
  · cases readFields depth more with
    | none => rfl
    | some after =>
      simp only [Option.map_some, Option.bind_eq_bind, Option.bind_some, List.foldlM_append,
        List.foldlM_cons]
      -- The step of the unknown field is the only difference.
      refine congrArg _ (funext fun next => ?_)
      simp [Codec.step, strange]
  · rfl

end Streams

section Values

variable {M A S : Type} {codec : Codec S} {message built : M} {number : Nat}

/-- The later one of two values, unless it is blank. -/
def latest [DecidableEq A] (blank earlier later : A) : A :=
  if later = blank then earlier else later

/-- What is written of a later message turns an earlier one into the merge of both. -/
def Codec.Merges {M : Type} (codec : Codec M) (merge : M → M → M) : Prop :=
  ∀ earlier {later}, codec.size later < 2 ^ 64 → ∀ depth,
    codec.mergeBytes depth earlier (codec.write later) = some (merge earlier later)

/-- Messages are merged field by field, where fields have numbers of their own. -/
theorem Codec.Merges.of_builds {codec : Codec M} {merge : M → M → M}
    (numbers : IsNumbering (codec.fields.map (·.number)))
    (builds : ∀ earlier later, Builds later codec.fields earlier (merge earlier later)) :
    codec.Merges merge :=
  fun earlier later => Codec.merge_write_of_builds numbers (builds earlier later)

namespace FieldCodec

/-- Of scalars that are sent unless they are blank, the later one counts unless it is blank. -/
theorem merges_plain [DecidableEq A] {scalar : Scalar A} {part : Part M A}
    (faithful : scalar.Faithful) (same : part.set (part.get built) built = built) :
    (plain number scalar part).Carries message built
      (part.set (latest scalar.blank (part.get built) (part.get message)) built) :=
  carries_plain_onto faithful (fun blank => by rw [latest, if_pos blank, same]) fun given => by
    rw [latest, if_neg given]

/-- Of scalars that are sent whenever they are set, the later one counts if it is set. -/
theorem merges_optional {scalar : Scalar A} {part : Part M (Option A)} (faithful : scalar.Faithful)
    (same : part.set (part.get built) built = built) :
    (optional number scalar part).Carries message built
      (part.set ((part.get message).or (part.get built)) built) :=
  carries_optional_onto faithful (fun absent => by rw [absent, Option.none_or, same])
    fun value given => by rw [given, Option.some_or]

/-- Messages inside messages are merged if both of them are set. -/
theorem merges_message {merge : S → S → S} {part : Part M (Option S)} (faithful : codec.Faithful)
    (merges : codec.Merges merge) (same : part.set (part.get built) built = built) :
    (FieldCodec.message number codec part).Carries message built
      (part.set (Option.merge merge (part.get built) (part.get message)) built) := by
  -- There may be no earlier message to merge with.
  cases held : part.get built with
  | none =>
    -- The later message is all there is.
    rw [held] at same
    refine carries_message_onto faithful
      (fun small depth => by rw [held]; exact faithful.merge_write small depth)
      (fun absent => by rw [absent, Option.merge_none_left, same]) fun inner given => ?_
    rw [given, Option.merge_none_left]
  | some earlier =>
    rw [held] at same
    refine carries_message_onto faithful
      (fun small depth => by rw [held]; exact merges earlier small depth)
      (fun absent => by rw [absent, Option.merge_none_right, same]) fun inner given => ?_
    rw [given, Option.merge_some_some]

end FieldCodec

end Values

end InsightRelay.Wire
