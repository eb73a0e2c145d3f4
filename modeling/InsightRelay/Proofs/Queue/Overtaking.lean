import InsightRelay.Proofs.Queue.Confluence
import Mathlib.Data.List.Count

/-! Which records of a queue overtake others on the way to their places.

Submitters stand in line in the order in which their records were accepted, but those that own
places at the same time may take them in any order. Nothing else changes the order of records. -/

namespace InsightRelay.Queue.Usage

variable {α : Type} {start usage next : Usage α} {past : List (Happening α)}
variable {happening : Happening α} {told : List (Ticket × Outcome α)} {capacity : Nat}

/-- At some moment of a run two submitters own places, and the first of the two named here takes
its own. -/
def Overtakes (start : Usage α) (happenings : List (Happening α)) (late early : Ticket × α) :
    Prop :=
  ∃ before usage, before ++ [.poll late.1] <+: happenings ∧ start.run before = some usage ∧
    usage.queue.owned? late.1 = some late.2 ∧ usage.queue.owned? early.1 = some early.2

/-- What overtook another one has done so for good. -/
theorem Overtakes.longer {late early : Ticket × α} (overtakes : start.Overtakes past late early)
    (happening : Happening α) : start.Overtakes (past ++ [happening]) late early := by
  obtain ⟨before, usage, early, rest⟩ := overtakes
  exact ⟨before, usage, early.trans (List.prefix_append ..), rest⟩

/-- The order in which records get and await their places. -/
structure Lined (start : Usage α) (past : List (Happening α)) (usage : Usage α) : Prop where
  /-- Submitters stand in line in the order in which their records were accepted. -/
  line : usage.queue.submitters.Sublist (start.kept past)
  /-- Of two records the one that was accepted first comes first, unless the other overtook it. -/
  order : (start.placed past ++ usage.queue.submitters).Pairwise fun first second =>
    first.1 < second.1 ∨ start.Overtakes past first second
  /-- Fewer records than there are places are overtaken by any single one. -/
  few : ∀ before entry after, start.placed past = before ++ entry :: after →
    (after ++ usage.queue.submitters).countP (·.1 < entry.1) < usage.queue.capacity

/-- The tickets of the records that were kept ascend. -/
theorem Ticketed.ascending (ticketed : Ticketed start past usage) :
    (start.kept past).Pairwise fun first second => first.1 < second.1 :=
  (List.pairwise_map.1 ticketed.submitting).sublist List.filter_sublist

/-- The tickets of the submitters in line ascend. -/
theorem Lined.ascending (lined : Lined start past usage) (ticketed : Ticketed start past usage) :
    usage.queue.submitters.Pairwise fun first second => first.1 < second.1 :=
  ticketed.ascending.sublist lined.line

/-- Whoever stands in line with a smaller ticket than one that owns a place owns one, too. -/
theorem mem_take_of_lt {line : List (Ticket × α)} {room : Nat} {entry other : Ticket × α}
    (ascending : line.Pairwise fun first second => first.1 < second.1)
    (owns : entry ∈ line.take room) (inLine : other ∈ line) (less : other.1 < entry.1) :
    other ∈ line.take room := by
  -- Behind the places the tickets are greater than all tickets that own one.
  rw [← List.take_append_drop room line, List.pairwise_append] at ascending
  rw [← List.take_append_drop room line, List.mem_append] at inLine
  exact inLine.resolve_right fun behind => less.not_gt (ascending.2.2 _ owns _ behind)

/-- Fewer submitters than places are free stand in line before one that owns a place. -/
theorem countP_lt_of_mem_take {line : List (Ticket × α)} {room : Nat} {entry : Ticket × α}
    (ascending : line.Pairwise fun first second => first.1 < second.1)
    (owns : entry ∈ line.take room) : line.countP (·.1 < entry.1) < room := by
  -- Those before it own places themselves, and so does it.
  have behind : (line.drop room).countP (·.1 < entry.1) = 0 := by
    rw [← List.take_append_drop room line, List.pairwise_append] at ascending
    refine List.countP_eq_zero.2 fun other member => ?_
    simpa using (ascending.2.2 _ owns _ member).le
  have within : (line.take room).countP (·.1 < entry.1) < (line.take room).length :=
    List.countP_lt_length_iff.2 ⟨entry, owns, by simp⟩
  rw [← List.take_append_drop room line, List.countP_append, behind, Nat.add_zero]
  exact within.trans_le (List.length_take_le ..)

/-- Whoever is in line with a smaller ticket than one that takes its place owns a place as well. -/
theorem Lined.overtakes (lined : Lined start past usage) (ticketed : Ticketed start past usage)
    (apart : usage.queue.Apart) (ran : start.run past = some usage) (entry : Ticket × α)
    {other : Ticket × α} (owned : usage.queue.owned? entry.1 = some entry.2)
    (inLine : other ∈ usage.queue.submitters) (less : other.1 < entry.1) :
    start.Overtakes (past ++ [.poll entry.1]) entry other := by
  have owns := mem_take_of_lt (lined.ascending ticketed) (mem_of_owned? owned) inLine less
  exact ⟨past, usage, List.prefix_rfl, ran, owned, apart.owned?_eq_some_iff.2 owns⟩

/-- A submitter that comes gets the greatest ticket, so it comes in behind all others. -/
theorem lt_of_mem_seeAccepted (ticketed : Ticketed start past usage) (held : Held start past usage)
    {entry other : Ticket × α} (new : entry ∈ seeAccepted usage happening told)
    (member : other ∈ start.placed past ++ usage.queue.submitters) : other.1 < entry.1 := by
  have accepted := List.mem_of_mem_filter (held.records.mem_iff.2 member)
  exact (mem_seeAccepted new).1 ▸ ticketed.lt (ticketed.accepted other accepted)

section Turn

variable (lined : Lined start past usage) (ticketed : Ticketed start past usage)
variable (held : Held start past usage) (apart : usage.queue.Apart)
variable (ran : start.run past = some usage) (stepped : usage.step happening = some (told, next))
variable (turn : Turn usage happening told next)
include lined ticketed ran stepped turn

/-- Whatever happens, submitters stand in line in the order in which they came. -/
theorem Lined.line_turn : next.queue.submitters.Sublist (start.kept (past ++ [happening])) := by
  rw [kept_snoc ticketed ran stepped]
  rcases turn.records_or_owned with
    ⟨-, same⟩ | ⟨ticket, record, -, owned, gone, new, placed, left⟩
  · -- The line is what is left of the old one, with the submitter that has come.
    exact same ▸ (lined.line.filter _).append_right _
  · -- Nobody comes while somebody leaves for its place.
    simpa [gone, new, left] using List.filter_sublist.trans lined.line

include held apart

/-- Whatever happens, only those that own places at the same time get out of order. -/
theorem Lined.order_turn :
    (start.placed (past ++ [happening]) ++ next.queue.submitters).Pairwise fun first second =>
      first.1 < second.1 ∨ start.Overtakes (past ++ [happening]) first second := by
  have before := lined.order.imp fun {first second} =>
    Or.imp_right fun overtakes => overtakes.longer happening
  rw [placed_snoc ran stepped, List.append_assoc]
  rcases turn.records_or_owned with
    ⟨nobody, same⟩ | ⟨ticket, record, rfl, owned, gone, new, placed, left⟩
  · rw [nobody, ← same, List.nil_append, ← List.append_assoc]
    -- Those that are left stay in order, and whoever comes has the greatest ticket.
    have fewer := (List.Sublist.refl (start.placed past)).append
      (List.filter_sublist (l := usage.queue.submitters)
        (p := fun entry => entry.1 ∉ seeAbandoned usage happening told))
    refine List.pairwise_append.2 ⟨before.sublist fewer, ?_, fun other member entry new => ?_⟩
    · unfold seeAccepted
      split <;> simp
    · exact .inl (lt_of_mem_seeAccepted ticketed held new (fewer.subset member))
  · rw [placed, left]
    have fewer := List.filter_sublist (l := usage.queue.submitters)
      (p := fun entry => entry.1 != ticket)
    obtain ⟨earlier, inLine, across⟩ := List.pairwise_append.1 before
    have owns := List.mem_of_mem_take (mem_of_owned? owned)
    -- Whoever is left in line came later than the one that takes its place, or is overtaken by it.
    have passes : ∀ other ∈ usage.queue.submitters.filter fun entry => entry.1 != ticket,
        ticket < other.1 ∨ start.Overtakes (past ++ [.poll ticket]) (ticket, record) other := by
      intro other member
      have differs : other.1 ≠ ticket := by simpa using (List.mem_filter.1 member).2
      exact differs.lt_or_gt.symm.imp_right fun less =>
        lined.overtakes ticketed apart ran (ticket, record) owned (fewer.subset member) less
    refine List.pairwise_append.2
      ⟨earlier, List.pairwise_cons.2 ⟨passes, inLine.sublist fewer⟩, fun first member => ?_⟩
    exact List.forall_mem_cons.2
      ⟨across first member _ owns, fun other inside => across first member _ (fewer.subset inside)⟩

/-- Whatever happens, no record overtakes as many as there are places. -/
theorem Lined.few_turn (before : List (Ticket × α)) (entry : Ticket × α) (after : List (Ticket × α))
    (split : start.placed (past ++ [happening]) = before ++ entry :: after) :
    (after ++ next.queue.submitters).countP (·.1 < entry.1) < next.queue.capacity := by
  rw [placed_snoc ran stepped] at split
  rw [turn.capacity]
  rcases turn.records_or_owned with
    ⟨nobody, same⟩ | ⟨ticket, record, rfl, owned, gone, new, placed, left⟩
  · -- Some may leave the line, and whoever comes is not overtaken by one that has its place.
    rw [nobody, List.append_nil] at split
    have late : (seeAccepted usage happening told).countP (·.1 < entry.1) = 0 := by
      refine List.countP_eq_zero.2 fun other new => ?_
      have member : entry ∈ start.placed past ++ usage.queue.submitters := by simp [split]
      simpa using (lt_of_mem_seeAccepted ticketed held new member).le
    refine lt_of_le_of_lt ?_ (lined.few before entry after split)
    rw [← same, ← List.append_assoc, List.countP_append, late, Nat.add_zero]
    exact ((List.Sublist.refl after).append List.filter_sublist).countP_le
  · rw [placed] at split
    have owns := mem_of_owned? owned
    rcases List.eq_nil_or_concat' after with rfl | ⟨between, last, rfl⟩
    · -- The record that is placed now overtakes only some of those that own places, too.
      obtain ⟨-, same⟩ := List.append_inj' split rfl
      obtain rfl := List.singleton_inj.1 same
      rw [List.nil_append, left]
      calc (usage.queue.submitters.filter fun entry => entry.1 != ticket).countP (·.1 < ticket)
        _ ≤ usage.queue.submitters.countP (·.1 < ticket) := List.filter_sublist.countP_le
        _ < usage.queue.room := countP_lt_of_mem_take (lined.ascending ticketed) owns
        _ ≤ usage.queue.capacity := Nat.sub_le ..
    · -- Whatever had its place before overtakes this record in line and behind its place alike.
      obtain ⟨earlier, same⟩ :=
        List.append_inj' (split.trans (List.append_assoc before (entry :: between) [last]).symm) rfl
      obtain rfl := List.singleton_inj.1 same
      have moved := perm_filter_ticket apart.once (List.mem_of_mem_take owns)
      rw [left, List.append_assoc, List.singleton_append, ← (moved.append_left between).countP_eq]
      exact lined.few before entry between earlier

end Turn

/-- In every run records get and await their places in this order. -/
theorem lined_of_run (ran : (fresh (.empty capacity)).run past = some usage) :
    Lined (fresh (.empty capacity)) past usage := by
  refine run_induction (Lined (fresh (.empty capacity))) ?initial ?turn ran
  case initial => exact ⟨.slnil, .nil, by simp [placed, watch]⟩
  case turn =>
    intro past usage happening told next began lined stepped turn
    have ticketed := ticketed_of_run began
    have held := held_of_run began
    have apart := apart_of_run began
    exact ⟨lined.line_turn ticketed began stepped turn,
      lined.order_turn ticketed held apart began stepped turn,
      lined.few_turn ticketed held apart began stepped turn⟩

/-- No record comes before as many that were accepted earlier as there are places. -/
theorem Lined.countP_lt (lined : Lined start past usage) (ticketed : Ticketed start past usage)
    (positive : 0 < usage.queue.capacity) {before after : List (Ticket × α)} {entry : Ticket × α}
    (split : start.placed past ++ usage.queue.submitters = before ++ entry :: after) :
    after.countP (·.1 < entry.1) < usage.queue.capacity := by
  -- In line nobody stands before one that came earlier.
  have none (ahead : List (Ticket × α)) (inLine : usage.queue.submitters = ahead ++ entry :: after) :
      after.countP (·.1 < entry.1) < usage.queue.capacity := by
    have ascending := lined.ascending ticketed
    rw [inLine, List.pairwise_append, List.pairwise_cons] at ascending
    have later : after.countP (·.1 < entry.1) = 0 :=
      List.countP_eq_zero.2 fun other member => by simpa using (ascending.2.1.1 other member).le
    exact later ▸ positive
  rcases List.append_eq_append_iff.1 split with ⟨ahead, -, inLine⟩ | ⟨behind, placed, rest⟩
  · exact none ahead inLine
  · cases behind with
    | nil => exact none [] rest.symm
    | cons first between =>
      obtain ⟨rfl, rfl⟩ := List.cons.inj rest
      exact lined.few before entry between placed

/-- Where one submitter at most owns a place, whoever owns one is that submitter. -/
theorem eq_of_owned? {queue : Queue α} {entry other : Ticket × α}
    (single : (queue.submitters.take queue.room).length ≤ 1)
    (owned : queue.owned? entry.1 = some entry.2) (also : queue.owned? other.1 = some other.2) :
    entry = other := by
  have near := mem_of_owned? owned
  have far := mem_of_owned? also
  -- Both stand among those that own places, and there is one at most.
  obtain ⟨one, line⟩ : ∃ one, queue.submitters.take queue.room = [one] :=
    List.length_eq_one_iff.1 (le_antisymm single (List.length_pos_of_mem near))
  rw [line, List.mem_singleton] at near far
  exact near.trans far.symm

/-- Where submitters own places one by one, records get their places in the order in which they
were accepted. -/
theorem kept_eq (single : (fresh (.empty capacity)).OneByOne past)
    (ran : (fresh (.empty capacity)).run past = some usage) :
    (fresh (.empty capacity)).kept past =
      (fresh (.empty capacity)).placed past ++ usage.queue.submitters := by
  have ticketed := ticketed_of_run ran
  have held := held_of_run ran
  -- Nobody overtakes another one, and two lists of the same records that ascend are the same.
  have distinct := (List.pairwise_map.1 (held.nodup ticketed))
  have ascending := ((lined_of_run ran).order.and distinct).imp fun {first second} between =>
    between.1.resolve_right fun ⟨before, moment, happened, began, owned, also⟩ =>
      have alone := single before
        ((List.mem_inits ..).2 ((List.prefix_append ..).trans happened)) moment began
      between.2 (congrArg Prod.fst (eq_of_owned? alone owned also))
  exact held.records.eq_of_pairwise (fun _ _ _ _ less more => absurd more less.asymm)
    ticketed.ascending ascending

/-- With room for one record at most, submitters own places one by one. -/
theorem oneByOne_of_le_one (narrow : capacity ≤ 1) : (fresh (.empty capacity)).OneByOne past := by
  intro before member usage (ran : _ = _)
  have kept : usage.queue.capacity = capacity := capacity_of_run ran
  rw [List.length_take, room, kept]
  omega

end InsightRelay.Queue.Usage
