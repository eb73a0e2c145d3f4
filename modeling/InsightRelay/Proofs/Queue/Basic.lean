import InsightRelay.Queue.Basic

/-! What the waiting operations of a queue ask for, and what they leave behind when they end. -/

namespace InsightRelay.Queue

variable {α : Type} {queue after : Queue α} {ticket : Ticket} {record : α}

/-- Queues of positive capacities that are not too great are created empty, and no others are. -/
theorem create?_eq_some_iff {capacity : Nat} : Queue.create? capacity = some queue ↔
    (0 < capacity ∧ capacity ≤ greatestCapacity) ∧ Queue.empty capacity = queue := by
  unfold Queue.create?
  split
  · next unfit => simp; omega
  · next fits => simp; omega

/-- A taker takes the front record of the buffer, and it was the first in its line. -/
theorem eq_of_take? (taken : queue.take? ticket = some (record, after)) :
    ∃ takers buffer, queue.takers = ticket :: takers ∧ queue.buffer = record :: buffer ∧
      after = { queue with takers := takers, buffer := buffer } := by
  -- Only the first in line may take, and it takes the first record.
  unfold take? at taken
  split at taken
  · next first takers front buffer inLine rest =>
    simp only [Option.ite_none_right_eq_some, Option.some.injEq, Prod.mk.injEq] at taken
    obtain ⟨rfl, rfl, rfl⟩ := taken
    exact ⟨takers, buffer, inLine, rest, rfl⟩
  · simp at taken

/-- The record of a submitter that owns a free place. -/
def owned? (queue : Queue α) (ticket : Ticket) : Option α :=
  ((queue.submitters.take queue.room).find? fun entry => entry.1 == ticket).map Prod.snd

/-- A submitter is placed with the record for which it owns a place. -/
theorem place?_eq (queue : Queue α) (ticket : Ticket) :
    queue.place? ticket = (queue.owned? ticket).map fun record => { queue with
      buffer := queue.buffer ++ [record]
      submitters := queue.submitters.filter fun entry => entry.1 != ticket } := by
  unfold place? owned?
  cases (queue.submitters.take queue.room).find? fun entry => entry.1 == ticket with
  | none => rfl
  | some entry => rfl

/-- Whoever owns a place stands as near to the front of its line as places are free. -/
theorem mem_of_owned? (owned : queue.owned? ticket = some record) :
    (ticket, record) ∈ queue.submitters.take queue.room := by
  obtain ⟨⟨owner, brought⟩, found, rfl⟩ := Option.map_eq_some_iff.1 owned
  obtain rfl : owner = ticket := by simpa using List.find?_some found
  exact List.mem_of_find?_eq_some found

/-- A submitter that gets its place brings the record that it stood in line with. -/
theorem eq_of_place? (placed : queue.place? ticket = some after) :
    ∃ record, (ticket, record) ∈ queue.submitters ∧
      after = { queue with
        buffer := queue.buffer ++ [record]
        submitters := queue.submitters.filter fun entry => entry.1 != ticket } := by
  -- Whoever owns a place stands in the front part of the line.
  rw [place?_eq] at placed
  obtain ⟨record, owned, rfl⟩ := Option.map_eq_some_iff.1 placed
  exact ⟨record, List.mem_of_mem_take (mem_of_owned? owned), rfl⟩

/-- One that waits for the last record changes nothing but the line it leaves. -/
theorem eq_of_pass? (passed : queue.pass? ticket = some after) :
    queue.pending = 0 ∧
      after = { queue with barriers := queue.barriers.filter (· != ticket) } := by
  unfold pass? at passed
  split at passed
  · next ready => exact ⟨ready.1, (Option.some.inj passed).symm⟩
  · simp at passed

/-- One that goes on when no record is pending has waited for that. -/
theorem mem_of_pass? (passed : queue.pass? ticket = some after) : ticket ∈ queue.barriers := by
  unfold pass? at passed
  split at passed
  · next ready => exact ready.2
  · simp at passed

/-- Giving up what one does not wait for leaves the line of submitters as it is. -/
theorem submitters_leave (absent : ∀ entry ∈ queue.submitters, entry.1 ≠ ticket) :
    (queue.leave ticket).submitters = queue.submitters := by
  refine List.filter_eq_self.2 fun entry member => ?_
  simpa using absent entry member

/-- In a line where nobody stands twice, nobody behind the first has its ticket. -/
theorem filter_ticket_of_once {line : List (Ticket × α)}
    (once : (((ticket, record) :: line).map Prod.fst).Nodup) :
    line.filter (fun entry => entry.1 != ticket) = line := by
  -- An entry behind the first under its ticket would stand there twice.
  rw [List.map_cons, List.nodup_cons] at once
  refine List.filter_eq_self.2 fun entry later => ?_
  have differs : entry.1 ≠ ticket := fun same => once.1 (List.mem_map.2 ⟨entry, later, same⟩)
  simpa using differs

/-- In a line where nobody stands twice, one that leaves takes its own entry only. -/
theorem perm_filter_ticket {line : List (Ticket × α)} (once : (line.map Prod.fst).Nodup)
    (member : (ticket, record) ∈ line) :
    line.Perm ((ticket, record) :: line.filter fun entry => entry.1 != ticket) := by
  -- The entry is found by walking along the line, and behind it nobody has the same ticket.
  induction line with
  | nil => simp at member
  | cons first rest ih =>
    rcases List.mem_cons.1 member with rfl | inside
    · simp [filter_ticket_of_once once]
    · rw [List.map_cons, List.nodup_cons] at once
      have differs : first.1 ≠ ticket := fun equal =>
        once.1 (equal ▸ List.mem_map_of_mem (f := Prod.fst) inside)
      rw [List.filter_cons_of_pos (by simpa using differs)]
      exact ((ih once.2 inside).cons first).trans (.swap ..)

end InsightRelay.Queue
