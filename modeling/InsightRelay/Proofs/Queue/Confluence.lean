import InsightRelay.Proofs.Queue.Settle
import InsightRelay.Proofs.Queue.Trace
import Mathlib.Data.List.Nodup

/-! Letting everything go on that can comes to an end, and to the same end whoever is looked at
first. -/

namespace InsightRelay.Queue

variable {α : Type} {queue after left right : Queue α} {ticket other : Ticket} {record : α}
variable {outcome ending : Outcome α} {looks : List Ticket}

/-- Nobody brings two records, and nobody waits for two things. -/
structure Apart (queue : Queue α) : Prop where
  once : (queue.submitters.map Prod.fst).Nodup
  turns : queue.takers.Nodup
  takers : ∀ ticket ∈ queue.takers, ticket ∉ queue.submitters.map Prod.fst
  barriers : ∀ ticket ∈ queue.barriers,
    ticket ∉ queue.submitters.map Prod.fst ∧ ticket ∉ queue.takers

/-- In every run of a queue, those that wait are apart. -/
theorem apart_of_run {capacity : Nat} {happenings : List (Happening α)} {usage : Usage α}
    (ran : (Usage.fresh (.empty capacity)).run happenings = some usage) : usage.queue.Apart := by
  have ticketed := Usage.ticketed_of_run ran
  -- Each ticket tells what was asked under it, so it stands in one line only.
  refine ⟨(Usage.held_of_run ran).once ticketed, (Usage.held_of_run ran).turns ticketed,
    fun ticket takes brings => ?_, fun ticket waits => ⟨fun brings => ?_, fun takes => ?_⟩⟩
  · obtain ⟨entry, member, rfl⟩ := List.mem_map.1 brings
    cases (ticketed.submitters entry member).unique (ticketed.takers _ takes)
  · obtain ⟨entry, member, rfl⟩ := List.mem_map.1 brings
    cases (ticketed.submitters entry member).unique (ticketed.barriers _ waits)
  · cases (ticketed.takers ticket takes).unique (ticketed.barriers ticket waits)

/-- Those that wait stay apart while they are looked at. -/
theorem Apart.poll (apart : queue.Apart) (polled : queue.poll ticket = some (outcome, after)) :
    after.Apart := by
  -- No look brings anything into a line, so whatever stood in one line only still does.
  cases turn_of_poll polled with
  | place owned =>
    have fewer := (List.filter_sublist (l := queue.submitters)
      (p := fun entry => entry.1 != ticket)).map Prod.fst
    exact ⟨apart.once.sublist fewer, apart.turns,
      fun _ takes brings => apart.takers _ takes (fewer.subset brings),
      fun _ waits => ⟨fun brings => (apart.barriers _ waits).1 (fewer.subset brings),
        (apart.barriers _ waits).2⟩⟩
  | take unplaced inLine stored =>
    -- The one that takes is first in line, so the others are the rest of the line.
    have fewer : ∀ taker ∈ _, taker ∈ queue.takers :=
      fun taker takes => inLine ▸ List.mem_cons_of_mem _ takes
    exact ⟨apart.once, (List.nodup_cons.1 (inLine ▸ apart.turns)).2,
      fun taker takes => apart.takers taker (fewer taker takes),
      fun _ waits => ⟨(apart.barriers _ waits).1,
        fun takes => (apart.barriers _ waits).2 (fewer _ takes)⟩⟩
  | pass unplaced idle waits =>
    exact ⟨apart.once, apart.turns, apart.takers,
      fun _ waits => apart.barriers _ (List.mem_of_mem_filter waits)⟩

/-- Whoever brings nothing owns no place. -/
theorem owned?_eq_none (absent : ticket ∉ queue.submitters.map Prod.fst) :
    queue.owned? ticket = none :=
  Option.eq_none_iff_forall_ne_some.2 fun _ owned =>
    absent (List.mem_map_of_mem (f := Prod.fst) (List.mem_of_mem_take (mem_of_owned? owned)))

/-- Where nobody brings two records, those that own places are the first in line. -/
theorem Apart.owned?_eq_some_iff (apart : queue.Apart) :
    queue.owned? ticket = some record ↔ (ticket, record) ∈ queue.submitters.take queue.room := by
  refine ⟨mem_of_owned?, fun member => ?_⟩
  cases owned : queue.owned? ticket with
  | none =>
    simp only [owned?, Option.map_eq_none_iff, List.find?_eq_none, beq_iff_eq] at owned
    exact absurd rfl (owned _ member)
  | some found =>
    -- Two entries of one ticket are the same entry.
    have same := List.inj_on_of_nodup_map apart.once (List.mem_of_mem_take member)
      (List.mem_of_mem_take (mem_of_owned? owned)) rfl
    exact congrArg some (Prod.mk.inj same).2.symm

/-- Whoever owns a place ends with it. -/
theorem poll_of_owned (owned : queue.owned? ticket = some record) :
    queue.poll ticket = some (.placed, { queue with
      buffer := queue.buffer ++ [record]
      submitters := queue.submitters.filter fun entry => entry.1 != ticket }) := by
  simp [poll, place?_eq, owned]

/-- The first taker ends with the first record. -/
theorem poll_of_front {takers : List Ticket} {buffer : List α}
    (absent : ticket ∉ queue.submitters.map Prod.fst) (inLine : queue.takers = ticket :: takers)
    (stored : queue.buffer = record :: buffer) :
    queue.poll ticket = some (.taken record, { queue with takers := takers, buffer := buffer }) := by
  simp [poll, place?_eq, owned?_eq_none absent, take?, inLine, stored]

/-- Whoever waits for the last record ends when there is none. -/
theorem poll_of_idle (apart : queue.Apart) (waits : ticket ∈ queue.barriers)
    (idle : queue.pending = 0) :
    queue.poll ticket = some (.drained, { queue with
      barriers := queue.barriers.filter (· != ticket) }) := by
  -- The first two things that a look tries fail, as the ticket stands in neither of the other lines.
  have untaken : queue.take? ticket = none := by
    refine Option.eq_none_iff_forall_ne_some.2 fun _ taken => ?_
    obtain ⟨takers, -, inLine, -⟩ := eq_of_take? taken
    exact (apart.barriers ticket waits).2 (inLine ▸ List.mem_cons_self)
  simp [poll, place?_eq, owned?_eq_none (apart.barriers ticket waits).1, untaken, pass?, idle, waits]

/-- When another submitter leaves the front part of a line, those behind it come nearer. -/
theorem mem_take_filter {line : List (Ticket × α)} {room : Nat} {entry gone : Ticket × α}
    (once : (line.map Prod.fst).Nodup) (member : entry ∈ line.take room)
    (leaves : gone ∈ line.take room) (differ : entry.1 ≠ gone.1) :
    entry ∈ (line.filter fun entry => entry.1 != gone.1).take (room - 1) := by
  -- The line is walked along until the one that leaves, and behind it everybody moves up.
  induction line generalizing room with
  | nil => simp at member
  | cons first rest ih =>
    obtain ⟨room, rfl⟩ : ∃ fewer, room = fewer + 1 :=
      Nat.exists_eq_add_one.2 (Nat.pos_of_ne_zero fun none => by simp [none] at member)
    rw [List.take_succ_cons, List.mem_cons] at member leaves
    -- Where the first one leaves, the entry is behind it and nobody else is left out.
    by_cases front : first.1 = gone.1
    · rw [List.filter_cons_of_neg (by simpa using front), Nat.add_sub_cancel]
      have behind := member.resolve_left fun same => differ (same ▸ front)
      obtain ⟨name, brought⟩ := first
      obtain rfl : name = gone.1 := front
      rwa [filter_ticket_of_once once]
    · -- Otherwise the first one stays, and the one that leaves is among those behind it.
      have within := leaves.resolve_left fun same => front (same ▸ rfl)
      obtain ⟨fewer, rfl⟩ : ∃ fewer, room = fewer + 1 :=
        Nat.exists_eq_add_one.2 (Nat.pos_of_ne_zero fun none => by simp [none] at within)
      rw [List.filter_cons_of_pos (by simpa using front), Nat.add_sub_cancel, List.take_succ_cons,
        List.mem_cons]
      rw [List.map_cons, List.nodup_cons] at once
      exact member.imp_right fun behind => by simpa using ih once.2 behind within

/-- It cannot matter who is placed first: submitters own places one by one, or records are all
alike. -/
structure Steady (queue : Queue α) : Prop extends queue.Apart where
  even : queue.Narrow ∨ Subsingleton α

/-- A queue stays steady while it is looked at. -/
theorem Steady.poll (steady : queue.Steady) (polled : queue.poll ticket = some (outcome, after)) :
    after.Steady :=
  ⟨steady.toApart.poll polled, steady.even.imp_left (turn_of_poll polled).narrow⟩

/-- When two operations end in either order, the queue is the same at last. -/
def Meet (left right : Queue α) (ticket other : Ticket) (outcome ending : Outcome α) : Prop :=
  ∃ last, left.poll other = some (ending, last) ∧ right.poll ticket = some (outcome, last)

/-- It is the same to let two operations end in one order and in the other one. -/
theorem Meet.symm (meet : Meet left right ticket other outcome ending) :
    Meet right left other ticket ending outcome :=
  meet.imp fun _ => And.symm

/-- Two submitters that own places get them in either order. -/
private theorem Steady.place_place (steady : queue.Steady) (differ : ticket ≠ other)
    (first : queue.poll ticket = some (.placed, left))
    (second : queue.poll other = some (.placed, right)) :
    Meet left right ticket other .placed .placed := by
  have near := steady.toApart.poll first
  have far := steady.toApart.poll second
  cases turn_of_poll first with
  | @place _ record owned =>
  cases turn_of_poll second with
  | @place _ brought also =>
  have earlier := mem_of_owned? owned
  have later := mem_of_owned? also
  rcases steady.even with narrow | alike
  · -- Submitters own places one by one, so that there are no two of them.
    obtain ⟨entry, line⟩ : ∃ entry, queue.submitters.take queue.room = [entry] :=
      List.length_eq_one_iff.1 (le_antisymm narrow.single (List.length_pos_of_mem earlier))
    rw [line, List.mem_singleton] at earlier later
    exact absurd (congrArg Prod.fst (earlier.trans later.symm)) differ
  · -- Both stand nearer to the front when the other one has left, and records are all alike.
    obtain rfl : record = brought := Subsingleton.elim ..
    have still := near.owned?_eq_some_iff.2 <| by
      simpa [room, Nat.sub_sub] using mem_take_filter steady.once later earlier differ.symm
    have too := far.owned?_eq_some_iff.2 <| by
      simpa [room, Nat.sub_sub] using mem_take_filter steady.once earlier later differ
    refine ⟨_, poll_of_owned still, (poll_of_owned too).trans ?_⟩
    simp only [List.filter_filter, Bool.and_comm]

/-- A submitter gets its place and a taker its record in either order. -/
private theorem Apart.place_take (apart : queue.Apart)
    (first : queue.poll ticket = some (.placed, left))
    (second : queue.poll other = some (.taken record, right)) :
    Meet left right ticket other .placed (.taken record) := by
  have near := apart.poll first
  have far := apart.poll second
  cases turn_of_poll first with
  | @place _ brought owned =>
  cases turn_of_poll second with
  | @take _ _ takers buffer unplaced inLine stored =>
  -- The taker takes from the front of the buffer and makes room, so the place stays owned.
  have full : queue.buffer = record :: buffer := stored
  have takes : other ∈ queue.takers := inLine ▸ List.mem_cons_self
  have roomy : queue.room ≤ queue.capacity - buffer.length := by
    rw [room, full, List.length_cons]
    omega
  have still := far.owned?_eq_some_iff.2 <|
    (List.take_sublist_take_left roomy).subset (mem_of_owned? owned)
  -- In the other order, the record that is placed goes behind the one that is taken.
  refine ⟨_, poll_of_front (near.takers other takes) inLine ?_, poll_of_owned still⟩
  simp [full]

/-- A submitter gets its place before or after another operation sees that nothing is pending. -/
private theorem Apart.place_pass (apart : queue.Apart)
    (first : queue.poll ticket = some (.placed, left))
    (second : queue.poll other = some (.drained, right)) :
    Meet left right ticket other .placed .drained := by
  -- To place a record changes neither what is pending nor who waits for nothing to be.
  have near := apart.poll first
  cases turn_of_poll first with
  | place owned =>
  cases turn_of_poll second with
  | pass unplaced idle waits =>
  exact ⟨_, poll_of_idle near waits idle, poll_of_owned owned⟩

/-- A taker gets its record before or after another operation sees that nothing is pending. -/
private theorem Apart.take_pass (apart : queue.Apart)
    (first : queue.poll ticket = some (.taken record, left))
    (second : queue.poll other = some (.drained, right)) :
    Meet left right ticket other (.taken record) .drained := by
  -- To take a record resolves nothing, so it changes neither what is pending nor who waits for it.
  have near := apart.poll first
  cases turn_of_poll first with
  | take unplaced inLine stored =>
  cases turn_of_poll second with
  | pass also idle waits =>
  have takes : ticket ∈ queue.takers := inLine ▸ List.mem_cons_self
  exact ⟨_, poll_of_idle near waits idle, poll_of_front (apart.takers ticket takes) inLine stored⟩

/-- Two operations see in either order that nothing is pending. -/
private theorem Apart.pass_pass (apart : queue.Apart) (differ : ticket ≠ other)
    (first : queue.poll ticket = some (.drained, left))
    (second : queue.poll other = some (.drained, right)) :
    Meet left right ticket other .drained .drained := by
  -- Each of them leaves the line alone, so the other one still stands in it.
  have near := apart.poll first
  have far := apart.poll second
  cases turn_of_poll first with
  | pass unplaced idle waits =>
  cases turn_of_poll second with
  | pass also _ awaits =>
  have still : other ∈ queue.barriers.filter (· != ticket) :=
    List.mem_filter.2 ⟨awaits, bne_iff_ne.2 differ.symm⟩
  have too : ticket ∈ queue.barriers.filter (· != other) :=
    List.mem_filter.2 ⟨waits, bne_iff_ne.2 differ⟩
  refine ⟨_, poll_of_idle near still idle, (poll_of_idle far too idle).trans ?_⟩
  -- Both have left the line in the end, whoever went first.
  simp only [List.filter_filter, Bool.and_comm]

/-- Two operations that can go on can do so in either order. -/
theorem Steady.meet (steady : queue.Steady) (differ : ticket ≠ other)
    (first : queue.poll ticket = some (outcome, left))
    (second : queue.poll other = some (ending, right)) :
    Meet left right ticket other outcome ending := by
  -- The pairs that differ in kind come twice, once in either order.
  cases turn_of_poll first with
  | place owned =>
    cases turn_of_poll second with
    | place also => exact steady.place_place differ first second
    | take unplaced inLine stored => exact steady.place_take first second
    | pass unplaced idle waits => exact steady.place_pass first second
  | take unplaced inLine stored =>
    cases turn_of_poll second with
    | place also => exact (steady.place_take second first).symm
    | take also front full =>
      -- Only the first in line can take a record.
      exact absurd (List.cons.inj (inLine.symm.trans front)).1 differ
    | pass also idle waits => exact steady.take_pass first second
  | pass unplaced idle waits =>
    cases turn_of_poll second with
    | place also => exact (steady.place_pass second first).symm
    | take also inLine stored => exact (steady.take_pass second first).symm
    | pass also _ awaits => exact steady.pass_pass differ first second

/-- Whatever can end waits. -/
theorem mem_waiting_of_poll (polled : queue.poll ticket = some (outcome, after)) :
    ticket ∈ queue.waiting := by
  -- What a look ends depends on the line that the ticket stands in.
  simp only [waiting, List.mem_mergeSort, List.mem_append]
  cases turn_of_poll polled with
  | place owned =>
    have brings := List.mem_of_mem_take (mem_of_owned? owned)
    exact .inl (.inl (List.mem_map_of_mem (f := Prod.fst) brings))
  | take unplaced inLine stored => exact .inl (.inr (inLine ▸ List.mem_cons_self))
  | pass unplaced idle waits => exact .inr waits

/-- In a quiet queue nothing can end. -/
theorem Quiet.poll (quiet : queue.Quiet) (ticket : Ticket) : queue.poll ticket = none :=
  Option.eq_none_iff_forall_ne_some.2 fun _ polled =>
    by simpa [polled] using quiet ticket (mem_waiting_of_poll polled)

/-- Looking on after an operation has ended. -/
theorem pollAll_cons (polled : queue.poll ticket = some (outcome, after)) (looks : List Ticket) :
    queue.pollAll (ticket :: looks) =
      ((ticket, outcome) :: (after.pollAll looks).1, (after.pollAll looks).2) := by
  simp [pollAll, polled]

/-- Looking on after a look that ended nothing. -/
theorem pollAll_cons_of_none (stuck : queue.poll ticket = none) (looks : List Ticket) :
    queue.pollAll (ticket :: looks) = queue.pollAll looks := by
  simp [pollAll, stuck]

/-- Looking at a quiet queue changes nothing. -/
theorem Quiet.pollAll (quiet : queue.Quiet) (looks : List Ticket) :
    queue.pollAll looks = ([], queue) := by
  induction looks with
  | nil => rfl
  | cons ticket looks ih => rw [pollAll_cons_of_none (quiet.poll ticket), ih]

/-- An operation that can go on does so in every row of looks that ends quietly, and it can as well
be let go on before all others. -/
theorem Steady.exists_looks (steady : queue.Steady)
    (polled : queue.poll ticket = some (outcome, after)) (quiet : (queue.pollAll looks).2.Quiet) :
    ∃ others, (queue.pollAll looks).1.Perm ((ticket, outcome) :: (after.pollAll others).1) ∧
      (queue.pollAll looks).2 = (after.pollAll others).2 := by
  -- Each operation that ends before it lets it go on, and can as well end behind it.
  induction looks generalizing queue after with
  | nil => exact absurd (quiet.poll ticket) (by simp [pollAll, polled])
  | cons other looks ih =>
    cases looked : queue.poll other with
    | none =>
      rw [pollAll_cons_of_none looked] at quiet ⊢
      exact ih steady polled quiet
    | some ended =>
      obtain ⟨ending, right⟩ := ended
      rw [pollAll_cons looked] at quiet ⊢
      -- The operation may be the one looked at, and then it has come to the front already.
      by_cases same : ticket = other
      · obtain rfl := same
        obtain ⟨rfl, rfl⟩ := Prod.mk.inj (Option.some.inj (polled.symm.trans looked))
        exact ⟨looks, .refl _, rfl⟩
      · -- Otherwise both can end here in either order, and the rest of the looks follows.
        obtain ⟨last, behind, before⟩ := steady.meet same polled looked
        obtain ⟨others, told, left⟩ := ih (steady.poll looked) before quiet
        refine ⟨other :: others, ?_, ?_⟩
        · rw [pollAll_cons behind]
          exact (told.cons _).trans (.swap ..)
        · rw [pollAll_cons behind, left]

/-- Two rows of looks that end quietly let the same operations end in the same ways, and lead to the
same queue. -/
theorem Steady.confluent {first second : List Ticket} (steady : queue.Steady)
    (quiet : (queue.pollAll first).2.Quiet) (also : (queue.pollAll second).2.Quiet) :
    (queue.pollAll first).1.Perm (queue.pollAll second).1 ∧
      (queue.pollAll first).2 = (queue.pollAll second).2 := by
  -- Whatever ends first in one row is let go on first in the other row too.
  induction first generalizing queue second with
  | nil =>
    rw [Queue.pollAll] at quiet ⊢
    simp [quiet.pollAll second]
  | cons ticket first ih =>
    cases polled : queue.poll ticket with
    | none =>
      rw [pollAll_cons_of_none polled] at quiet ⊢
      exact ih steady quiet also
    | some ended =>
      obtain ⟨outcome, after⟩ := ended
      -- Without the one that was let go on, the other row is still a row of looks that ends quietly.
      obtain ⟨others, told, left⟩ := steady.exists_looks polled also
      rw [pollAll_cons polled] at quiet ⊢
      obtain ⟨ends, last⟩ := ih (steady.poll polled) quiet (left ▸ also)
      exact ⟨(ends.cons _).trans told.symm, last.trans left.symm⟩

end InsightRelay.Queue
