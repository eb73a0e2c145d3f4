import InsightRelay.Proofs.Queue.History

/-! Where the records and the takers of a queue are at every moment of a run. -/

namespace InsightRelay.Queue.Usage

variable {α : Type} {start usage next : Usage α} {past : List (Happening α)}
variable {happening : Happening α} {told : List (Ticket × Outcome α)}

section Snoc

variable (ran : start.run past = some usage) (stepped : usage.step happening = some (told, next))
include ran stepped

/-- One more happening may accept a record. -/
theorem accepted_snoc : start.accepted (past ++ [happening]) =
    start.accepted past ++ seeAccepted usage happening told :=
  watch_snoc ran stepped

/-- One more happening may place a record. -/
theorem placed_snoc : start.placed (past ++ [happening]) =
    start.placed past ++ seePlaced usage happening told :=
  watch_snoc ran stepped

/-- One more happening may bring a taker. -/
theorem sought_snoc : start.sought (past ++ [happening]) =
    start.sought past ++ seeSought usage happening told :=
  watch_snoc ran stepped

/-- One more happening may give an operation up. -/
theorem abandoned_snoc : start.abandoned (past ++ [happening]) =
    start.abandoned past ++ seeAbandoned usage happening told :=
  watch_snoc ran stepped

/-- One more happening ends the operations that it tells. -/
theorem ended_snoc : start.ended (past ++ [happening]) = start.ended past ++ told :=
  watch_snoc ran stepped

/-- One more happening delivers the records that it tells. -/
theorem delivered_snoc : start.delivered (past ++ [happening]) = start.delivered past ++
    told.filterMap fun (ticket, outcome) => outcome.record?.map fun record => (ticket, record) := by
  simp only [delivered, ended_snoc ran stepped, List.filterMap_append]

end Snoc

/-- A queue of which nothing has been asked. -/
def fresh (queue : Queue α) : Usage α := ⟨queue, 0⟩

/-- A request was made under a ticket. -/
def Made (past : List (Happening α)) (ticket : Ticket) (request : Request α) : Prop :=
  (requests past)[ticket]? = some request

/-- A request that was made stays made. -/
theorem Made.later {ticket : Ticket} {request : Request α} (made : Made past ticket request)
    (happening : Happening α) : Made (past ++ [happening]) ticket request := by
  unfold Made requests at *
  rw [List.filterMap_append, List.getElem?_append_left (List.getElem?_eq_some_iff.1 made).1, made]

/-- Two requests under one ticket are the same. -/
theorem Made.unique {ticket : Ticket} {first second : Request α} (made : Made past ticket first)
    (again : Made past ticket second) : first = second :=
  Option.some.inj (made.symm.trans again)

/-- Only what is asked for is counted. -/
theorem Turn.asked (turn : Turn usage happening told next)
    (counted : usage.asked = (requests past).length) :
    next.asked = (requests (past ++ [happening])).length := by
  cases turn <;> simp [requests, Happening.request?] at counted ⊢ <;> exact counted

/-- Tickets are not taken back. -/
theorem Turn.asked_le (turn : Turn usage happening told next) : usage.asked ≤ next.asked := by
  cases turn <;> simp

/-- Whoever is in the line of submitters was there before or has just come. -/
theorem Turn.submitters (turn : Turn usage happening told next) {entry : Ticket × α}
    (member : entry ∈ next.queue.submitters) : entry ∈ usage.queue.submitters ∨
      entry.1 = usage.asked ∧ happening = .ask (.submit entry.2) := by
  cases turn <;> grind [leave]

/-- Whoever is in the line of takers was there before or has just come. -/
theorem Turn.takers (turn : Turn usage happening told next) {ticket : Ticket}
    (member : ticket ∈ next.queue.takers) : ticket ∈ usage.queue.takers ∨
      ticket = usage.asked ∧ happening = .ask .next := by
  cases turn <;> grind [leave]

/-- Whoever waits for the last record did so before or has just come. -/
theorem Turn.barriers (turn : Turn usage happening told next) {ticket : Ticket}
    (member : ticket ∈ next.queue.barriers) : ticket ∈ usage.queue.barriers ∨
      ticket = usage.asked ∧ happening = .ask .waitDrained := by
  cases turn <;> grind [leave]

/-- A record is accepted under the ticket of the request that submits it. -/
theorem mem_seeAccepted {entry : Ticket × α} (member : entry ∈ seeAccepted usage happening told) :
    entry.1 = usage.asked ∧ happening = .ask (.submit entry.2) := by
  unfold seeAccepted at member
  split at member <;> grind

/-- A taker comes under the ticket of its request. -/
theorem mem_seeSought {ticket : Ticket} (member : ticket ∈ seeSought usage happening told) :
    ticket = usage.asked ∧ happening = .ask .next := by
  unfold seeSought at member
  split at member <;> grind

/-- Whoever gives up has waited. -/
theorem mem_seeAbandoned {ticket : Ticket} (member : ticket ∈ seeAbandoned usage happening told) :
    usage.queue.Waits ticket := by
  unfold seeAbandoned at member
  split at member <;> grind

/-- The tickets of a run: each tells its request, and later requests have greater ones. -/
structure Ticketed (start : Usage α) (past : List (Happening α)) (usage : Usage α) : Prop where
  asked : usage.asked = (requests past).length
  submitters : ∀ entry ∈ usage.queue.submitters, Made past entry.1 (.submit entry.2)
  takers : ∀ ticket ∈ usage.queue.takers, Made past ticket .next
  barriers : ∀ ticket ∈ usage.queue.barriers, Made past ticket .waitDrained
  accepted : ∀ entry ∈ start.accepted past, Made past entry.1 (.submit entry.2)
  sought : ∀ ticket ∈ start.sought past, Made past ticket .next
  abandoned : ∀ ticket ∈ start.abandoned past, ticket < usage.asked
  submitting : ((start.accepted past).map Prod.fst).Pairwise (· < ·)
  seeking : (start.sought past).Pairwise (· < ·)

/-- Requests were made under the tickets that have been given out. -/
theorem Ticketed.lt (ticketed : Ticketed start past usage) {ticket : Ticket} {request : Request α}
    (made : Made past ticket request) : ticket < usage.asked :=
  ticketed.asked ▸ (List.getElem?_eq_some_iff.1 made).1

/-- Whoever waits has been given its ticket. -/
theorem Ticketed.lt_of_waits (ticketed : Ticketed start past usage) {ticket : Ticket}
    (waits : usage.queue.Waits ticket) : ticket < usage.asked := by
  -- Whoever waits stands in one of the three lines, and there under a ticket that was given out.
  rcases waits with submits | takes | drains
  · obtain ⟨entry, member, rfl⟩ := List.mem_map.1 submits
    exact ticketed.lt (ticketed.submitters entry member)
  · exact ticketed.lt (ticketed.takers ticket takes)
  · exact ticketed.lt (ticketed.barriers ticket drains)

/-- The next request gets the next ticket. -/
theorem Ticketed.made (ticketed : Ticketed start past usage) {ticket : Ticket}
    {request : Request α} (now : ticket = usage.asked ∧ happening = .ask request) :
    Made (past ++ [happening]) ticket request := by
  simp [Made, requests, Happening.request?, now, ticketed.asked]

/-- Whatever happens, tickets are given out in order. -/
theorem Ticketed.turn (ticketed : Ticketed start past usage) (ran : start.run past = some usage)
    (stepped : usage.step happening = some (told, next)) (turn : Turn usage happening told next) :
    Ticketed start (past ++ [happening]) next := by
  -- Each ticket is an old one or the one that has just been given out.
  refine ⟨turn.asked ticketed.asked, fun entry member => ?submitters, fun ticket member => ?takers,
    fun ticket member => ?barriers, fun entry member => ?accepted, fun ticket member => ?sought,
    fun ticket member => ?abandoned, ?submitting, ?seeking⟩
  case submitters =>
    exact (turn.submitters member).elim (fun old => (ticketed.submitters entry old).later _)
      ticketed.made
  case takers =>
    exact (turn.takers member).elim (fun old => (ticketed.takers ticket old).later _) ticketed.made
  case barriers =>
    exact (turn.barriers member).elim (fun old => (ticketed.barriers ticket old).later _)
      ticketed.made
  case accepted =>
    rw [accepted_snoc ran stepped, List.mem_append] at member
    exact member.elim (fun old => (ticketed.accepted entry old).later _)
      fun new => ticketed.made (mem_seeAccepted new)
  case sought =>
    rw [sought_snoc ran stepped, List.mem_append] at member
    exact member.elim (fun old => (ticketed.sought ticket old).later _)
      fun new => ticketed.made (mem_seeSought new)
  case abandoned =>
    -- Whoever gives up was waiting, and whoever waits has a ticket.
    rw [abandoned_snoc ran stepped, List.mem_append] at member
    have known : ticket < usage.asked := member.elim (ticketed.abandoned ticket)
      fun new => ticketed.lt_of_waits (mem_seeAbandoned new)
    exact known.trans_le turn.asked_le
  case submitting =>
    -- The newest ticket is greater than all that were given out before it.
    rw [accepted_snoc ran stepped, List.map_append, List.pairwise_append]
    refine ⟨ticketed.submitting, ?_, ?_⟩
    · unfold seeAccepted
      split <;> simp
    · simp only [List.mem_map]
      rintro _ ⟨old, member, rfl⟩ _ ⟨new, seen, rfl⟩
      exact (mem_seeAccepted seen).1 ▸ ticketed.lt (ticketed.accepted old member)
  case seeking =>
    rw [sought_snoc ran stepped, List.pairwise_append]
    refine ⟨ticketed.seeking, ?_, fun old member new seen => ?_⟩
    · unfold seeSought
      split <;> simp
    · exact (mem_seeSought seen).1 ▸ ticketed.lt (ticketed.sought old member)

/-- Every run gives out its tickets in order. -/
theorem ticketed_of_run {capacity : Nat} (ran : (fresh (.empty capacity)).run past = some usage) :
    Ticketed (fresh (.empty capacity)) past usage := by
  refine run_induction (Ticketed (fresh (.empty capacity))) ?initial ?turn ran
  case initial =>
    constructor <;> simp [fresh, Queue.empty, requests, Usage.accepted, Usage.sought,
      Usage.abandoned, watch]
  case turn =>
    exact fun past usage happening told next began ih stepped turn => ih.turn began stepped turn

/-- Selecting by a longer list of exceptions selects twice, and spares what is new. -/
private theorem filter_snoc {β : Type} (key : β → Ticket) {old new : List β}
    {gone going : List Ticket} (spared : ∀ entry ∈ new, key entry ∉ gone ++ going) :
    (old ++ new).filter (fun entry => key entry ∉ gone ++ going) =
      ((old.filter fun entry => key entry ∉ gone).filter fun entry => key entry ∉ going) ++
        new := by
  -- The old entries are selected twice, and the new ones are no exceptions of either kind.
  rw [List.filter_append, List.filter_filter]
  congr 1
  · exact List.filter_congr fun entry _ => by simp [Bool.and_comm]
  · exact List.filter_eq_self.2 fun entry member => by simpa using spared entry member

section Kept

variable (ticketed : Ticketed start past usage)
include ticketed

/-- The next ticket has not been given up, and is not given up now. -/
theorem Ticketed.spared :
    usage.asked ∉ start.abandoned past ++ seeAbandoned usage happening told := by
  rw [List.mem_append, not_or]
  exact ⟨fun gone => (ticketed.abandoned _ gone).ne rfl,
    fun going => (ticketed.lt_of_waits (mem_seeAbandoned going)).ne rfl⟩

variable (ran : start.run past = some usage) (stepped : usage.step happening = some (told, next))
include ran stepped

/-- One more happening takes away the record of one that gives up, or adds one. -/
theorem kept_snoc : start.kept (past ++ [happening]) =
    (start.kept past).filter (fun entry => entry.1 ∉ seeAbandoned usage happening told) ++
      seeAccepted usage happening told := by
  unfold kept
  rw [accepted_snoc ran stepped, abandoned_snoc ran stepped]
  refine filter_snoc Prod.fst fun entry member => ?_
  rw [(mem_seeAccepted member).1]
  exact ticketed.spared

/-- One more happening takes away a taker that gives up, or adds one. -/
theorem served_snoc : start.served (past ++ [happening]) =
    (start.served past).filter (· ∉ seeAbandoned usage happening told) ++
      seeSought usage happening told := by
  unfold served
  rw [sought_snoc ran stepped, abandoned_snoc ran stepped]
  refine filter_snoc id fun ticket member => ?_
  rw [id, (mem_seeSought member).1]
  exact ticketed.spared

end Kept

/-- Where the records and the takers are that nobody gave up. -/
structure Held (start : Usage α) (past : List (Happening α)) (usage : Usage α) : Prop where
  /-- Each record that was kept has had its place or is still brought by its submitter. -/
  records : (start.kept past).Perm (start.placed past ++ usage.queue.submitters)
  /-- Places are taken away from the front. -/
  places : (start.placed past).map Prod.snd =
    (start.delivered past).map Prod.snd ++ usage.queue.buffer
  /-- Takers are served from the front of their line. -/
  takers : start.served past = (start.delivered past).map Prod.fst ++ usage.queue.takers

/-- No ticket has been given to two records. -/
theorem Held.nodup (held : Held start past usage) (ticketed : Ticketed start past usage) :
    ((start.placed past ++ usage.queue.submitters).map Prod.fst).Nodup := by
  -- These are the records that were kept, and each was accepted under a ticket of its own.
  refine (held.records.map Prod.fst).nodup_iff.1 ?_
  exact (List.filter_sublist.map Prod.fst).nodup (ticketed.submitting.imp fun less => less.ne)

/-- Nobody stands twice in the line of takers, nor comes back to it. -/
theorem Held.nodup_takers (held : Held start past usage) (ticketed : Ticketed start past usage) :
    ((start.delivered past).map Prod.fst ++ usage.queue.takers).Nodup := by
  rw [← held.takers]
  exact List.filter_sublist.nodup (ticketed.seeking.imp fun less => less.ne)

/-- Nobody stands twice in the line of takers. -/
theorem Held.turns (held : Held start past usage) (ticketed : Ticketed start past usage) :
    usage.queue.takers.Nodup :=
  (List.nodup_append.1 (held.nodup_takers ticketed)).2.1

/-- Whoever waits has had no place. -/
theorem Held.fst_ne_of_placed (held : Held start past usage) (ticketed : Ticketed start past usage)
    {ticket : Ticket} (waits : usage.queue.Waits ticket) {entry : Ticket × α}
    (member : entry ∈ start.placed past) : entry.1 ≠ ticket := by
  rintro rfl
  -- The ticket tells that it was a submitter, so it can wait in no other line.
  have made : Made past entry.1 (.submit entry.2) := ticketed.accepted entry <|
    (List.mem_filter.1 (held.records.mem_iff.2 (List.mem_append_left _ member))).1
  rcases waits with submits | takes | drains
  · -- A submitter that is still in line would have its ticket twice.
    have nodup := held.nodup ticketed
    rw [List.map_append, List.nodup_append] at nodup
    exact nodup.2.2 _ (List.mem_map_of_mem member) _ submits rfl
  · cases made.unique (ticketed.takers _ takes)
  · cases made.unique (ticketed.barriers _ drains)

/-- Whoever waits has taken no record. -/
theorem Held.fst_ne_of_delivered (held : Held start past usage)
    (ticketed : Ticketed start past usage) {ticket : Ticket} (waits : usage.queue.Waits ticket)
    {served : Ticket} (member : served ∈ (start.delivered past).map Prod.fst) :
    served ≠ ticket := by
  rintro rfl
  -- The ticket tells that it was a taker, so it can wait in no other line.
  have sought : served ∈ start.served past := held.takers ▸ List.mem_append_left _ member
  have made : Made past served .next := ticketed.sought served (List.mem_filter.1 sought).1
  rcases waits with submits | takes | drains
  · obtain ⟨entry, inLine, rfl⟩ := List.mem_map.1 submits
    cases made.unique (ticketed.submitters entry inLine)
  · -- A taker that is still in line would have its ticket twice.
    have nodup := List.nodup_append.1 (held.nodup_takers ticketed)
    exact nodup.2.2 _ member _ takes rfl
  · cases made.unique (ticketed.barriers _ drains)

/-- Those that had their places do not give up any more. -/
theorem Held.placed_spared (held : Held start past usage) (ticketed : Ticketed start past usage) :
    (start.placed past).filter (fun entry => entry.1 ∉ seeAbandoned usage happening told) =
      start.placed past := by
  refine List.filter_eq_self.2 fun entry member => decide_eq_true fun gone => ?_
  exact held.fst_ne_of_placed ticketed (mem_seeAbandoned gone) member rfl

/-- Those that took their records do not give up any more. -/
theorem Held.delivered_spared (held : Held start past usage)
    (ticketed : Ticketed start past usage) :
    ((start.delivered past).map Prod.fst).filter (· ∉ seeAbandoned usage happening told) =
      (start.delivered past).map Prod.fst := by
  -- Nobody that gives up has taken its record.
  refine List.filter_eq_self.2 fun served member => decide_eq_true fun gone => ?_
  exact held.fst_ne_of_delivered ticketed (mem_seeAbandoned gone) member rfl

/-- Giving up takes from the line of submitters whoever gives up while waiting. -/
theorem submitters_cancel (told : List (Ticket × Outcome α)) (ticket : Ticket) :
    (usage.queue.leave ticket).submitters = usage.queue.submitters.filter fun entry =>
      entry.1 ∉ seeAbandoned usage (.ask (.cancel ticket)) told := by
  refine List.filter_congr fun entry member => ?_
  -- Giving up is seen of those only that wait, and whoever is in line does.
  have waits : entry.1 = ticket → usage.queue.Waits ticket :=
    fun same => .inl (same ▸ List.mem_map_of_mem member)
  grind [seeAbandoned]

/-- Giving up takes from the line of takers whoever gives up while waiting. -/
theorem takers_cancel (told : List (Ticket × Outcome α)) (ticket : Ticket) :
    (usage.queue.leave ticket).takers =
      usage.queue.takers.filter (· ∉ seeAbandoned usage (.ask (.cancel ticket)) told) := by
  -- Giving up tells of nobody but those that wait, as the taker does.
  refine List.filter_congr fun taker member => ?_
  have waits : taker = ticket → usage.queue.Waits ticket := fun same => .inr (.inl (same ▸ member))
  grind [seeAbandoned]

/-- A submitter comes in at the back of its line and leaves it when it gives up, unless it leaves
the line because it owns a place. -/
theorem Turn.records_or_owned (turn : Turn usage happening told next) :
    seePlaced usage happening told = [] ∧
      (usage.queue.submitters.filter fun entry => entry.1 ∉ seeAbandoned usage happening told) ++
        seeAccepted usage happening told = next.queue.submitters ∨
    ∃ ticket record, happening = .poll ticket ∧ usage.queue.owned? ticket = some record ∧
      seeAbandoned usage happening told = [] ∧ seeAccepted usage happening told = [] ∧
      seePlaced usage happening told = [(ticket, record)] ∧
      next.queue.submitters = usage.queue.submitters.filter fun entry => entry.1 != ticket := by
  -- Only where a submitter places its record can somebody leave the line from the middle.
  cases turn with
  | place owned => exact .inr ⟨_, _, rfl, owned, rfl, rfl, by simp [seePlaced, owned], rfl⟩
  | cancel ticket => exact .inl (by simp [seeAccepted, seePlaced, submitters_cancel []])
  | take unplaced inLine stored =>
    exact .inl (by simp [seeAbandoned, seeAccepted, seePlaced, unplaced])
  | pass unplaced idle waits =>
    exact .inl (by simp [seeAbandoned, seeAccepted, seePlaced, unplaced])
  | _ => exact .inl (by simp [seeAbandoned, seeAccepted, seePlaced])

/-- A submitter comes into its line with an accepted record, and leaves it when the record is placed
or when it gives up. -/
theorem Turn.records (turn : Turn usage happening told next)
    (once : (usage.queue.submitters.map Prod.fst).Nodup) :
    ((usage.queue.submitters.filter fun entry => entry.1 ∉ seeAbandoned usage happening told) ++
      seeAccepted usage happening told).Perm
        (seePlaced usage happening told ++ next.queue.submitters) := by
  rcases turn.records_or_owned with
    ⟨nobody, same⟩ | ⟨ticket, record, -, owned, gone, new, placed, left⟩
  · rw [nobody, same, List.nil_append]
  · -- Whoever owns a place may stand behind others that own one too.
    simpa [gone, new, placed, left] using
      perm_filter_ticket once (List.mem_of_mem_take (mem_of_owned? owned))

/-- Places are given at the back of the buffer and taken away from its front. -/
theorem Turn.places (turn : Turn usage happening told next) :
    usage.queue.buffer ++ (seePlaced usage happening told).map Prod.snd =
      (told.filterMap fun (ticket, outcome) =>
        outcome.record?.map fun record => (ticket, record)).map Prod.snd ++ next.queue.buffer := by
  -- Only the two looks that place a record and that take one touch the buffer.
  cases turn with
  | place owned => simp [seePlaced, owned, Outcome.record?]
  | take unplaced inLine stored => simp [seePlaced, unplaced, stored, Outcome.record?]
  | pass unplaced idle waits => simp [seePlaced, unplaced, Outcome.record?]
  | _ => simp [seePlaced, leave, Outcome.record?]

/-- A taker comes in at the back of its line, and leaves it at the front or when it gives up. -/
theorem Turn.line (turn : Turn usage happening told next) :
    usage.queue.takers.filter (· ∉ seeAbandoned usage happening told) ++
        seeSought usage happening told =
      (told.filterMap fun (ticket, outcome) =>
        outcome.record?.map fun record => (ticket, record)).map Prod.fst ++ next.queue.takers := by
  -- Besides a taker that comes in, only giving up and taking touch the line.
  cases turn with
  | cancel ticket => simp [seeSought, takers_cancel []]
  | take unplaced inLine stored => simp [seeAbandoned, seeSought, inLine, Outcome.record?]
  | _ => simp [seeAbandoned, seeSought, Outcome.record?]

/-- Nobody stands twice in the line of submitters. -/
theorem Held.once (held : Held start past usage) (ticketed : Ticketed start past usage) :
    (usage.queue.submitters.map Prod.fst).Nodup := by
  have nodup := held.nodup ticketed
  rw [List.map_append, List.nodup_append] at nodup
  exact nodup.2.1

/-- Whatever happens, records and takers that nobody gives up are held. -/
theorem Held.turn (held : Held start past usage) (ticketed : Ticketed start past usage)
    (ran : start.run past = some usage) (stepped : usage.step happening = some (told, next))
    (turn : Turn usage happening told next) : Held start (past ++ [happening]) next := by
  -- What is old is selected by who gives up now, which concerns nobody who has had its place or its
  -- record; what is new is told by the turn.
  constructor
  case records =>
    rw [kept_snoc ticketed ran stepped, placed_snoc ran stepped]
    refine ((held.records.filter _).append_right _).trans ?_
    rw [List.filter_append, held.placed_spared ticketed, List.append_assoc, List.append_assoc]
    exact (turn.records (held.once ticketed)).append_left _
  case places =>
    rw [placed_snoc ran stepped, delivered_snoc ran stepped, List.map_append, List.map_append,
      held.places, List.append_assoc, List.append_assoc, turn.places]
  case takers =>
    rw [served_snoc ticketed ran stepped, delivered_snoc ran stepped, held.takers,
      List.filter_append, held.delivered_spared ticketed, List.map_append, List.append_assoc,
      List.append_assoc, turn.line]

/-- Every run holds the records and the takers that nobody gave up. -/
theorem held_of_run {capacity : Nat} (ran : (fresh (.empty capacity)).run past = some usage) :
    Held (fresh (.empty capacity)) past usage := by
  refine run_induction (Held (fresh (.empty capacity))) ?initial ?turn ran
  case initial => exact ⟨.refl _, rfl, rfl⟩
  case turn =>
    exact fun past usage happening told next began ih stepped turn =>
      ih.turn (ticketed_of_run began) began stepped turn

end InsightRelay.Queue.Usage
