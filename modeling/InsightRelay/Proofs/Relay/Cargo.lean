import InsightRelay.Proofs.Queue.Basic
import InsightRelay.Proofs.Relay.Role

/-! Cargo: the records that tasks carry between the moment they are counted and the moment they are
resolved, and the few moves that hand them on. -/

namespace InsightRelay

/-- What a task has of the records that are accepted and not resolved. -/
inductive Cargo
  | nothing
  /-- A record that is counted and not yet in line for a place. -/
  | counted (record : PackageRecord)
  /-- A record that is kept in the line of submitters. -/
  | queued
  /-- A record that was taken and not yet looked at. -/
  | fetched (record : PackageRecord)
  /-- A record that is being published. -/
  | sent (record : PackageRecord) (request : Message.PublishPackageInsightRequest)
  /-- A record whose worker broke down. -/
  | stranded (record : PackageRecord)
deriving DecidableEq

/-- What a task at a stage has of the records that are accepted and not resolved. -/
def Stage.cargo : Stage → Cargo
  | counted record _ => .counted record
  | placing _ => .queued
  | dispatching record => .fetched record
  | publishing record request => .sent record request
  | lost record => .stranded record
  | _ => .nothing

/-- The record that a task itself has. -/
def Cargo.record? : Cargo → Option PackageRecord
  | counted record => some record
  | fetched record => some record
  | sent record _ => some record
  | stranded record => some record
  | nothing => none
  | queued => none

/-- The record that a worker has. -/
def Cargo.held? : Cargo → Option PackageRecord
  | counted _ => none
  | cargo => cargo.record?

/-- The request that a worker waits for. -/
def Cargo.request? : Cargo → Option Message.PublishPackageInsightRequest
  | sent _ request => some request
  | _ => none

/-- How many records a caller with an errand has been told of as accepted. -/
def Errand.credit : Errand → Nat
  | single => 0
  | batch records => records.accepted

/-- How many records an ending tells of as accepted. -/
def Ending.credit : Ending → Nat
  | accepted => 1
  | queued count => count
  | _ => 0

/-- How many records of a caller at a stage have been accepted. -/
def Stage.credit : Stage → Nat
  | offering _ errand => errand.credit
  | counted _ errand => errand.credit + 1
  | placing errand => errand.credit + 1
  | queueing batch => batch.accepted
  | ended ending => ending.credit
  | _ => 0

/-- The request that an exchange published, with the worker that sent it. -/
def Exchange.publication? (exchange : Exchange) :
    Option (TaskId × Message.PublishPackageInsightRequest) :=
  match exchange.task, exchange.call with
  | some task, .publish request => some (task, request)
  | _, _ => none

/-- Whether an exchange is a publication that was granted. -/
def Exchange.isPublished (exchange : Exchange) : Bool :=
  match exchange.call, exchange.reply with
  | .publish _, .granted _ => true
  | _, _ => false

/-- Whether an exchange is a publication that was refused. -/
def Exchange.isRejected (exchange : Exchange) : Bool :=
  match exchange.call, exchange.reply with
  | .publish _, .refused _ => true
  | _, _ => false

namespace Relay

/-- All that a relay keeps of records outside its tasks. -/
structure Books where
  pending : Nat
  submitted : Nat
  published : Nat
  failed : Nat
  buffer : List PackageRecord
  submitters : List (Ticket × PackageRecord)
  /-- The publications that have been replied to, with the workers that sent them. -/
  publications : List (TaskId × Message.PublishPackageInsightRequest)
  granted : Nat
  refused : Nat

/-- What a relay keeps of records outside its tasks. -/
def books (relay : Relay) : Books where
  pending := relay.queue.pending
  submitted := relay.queue.submitted
  published := relay.queue.published
  failed := relay.queue.failed
  buffer := relay.queue.buffer
  submitters := relay.queue.submitters
  publications := relay.journal.filterMap Exchange.publication?
  granted := relay.journal.countP Exchange.isPublished
  refused := relay.journal.countP Exchange.isRejected

/-- What a move does to the records that are accepted and not resolved. -/
inductive Flow (relay shared : Relay) (task : TaskId) : Stage → Stage → Prop
  /-- The move hands no record on. -/
  | still {before after : Stage} (cargo : after.cargo = before.cargo)
      (credit : after.credit = before.credit) (books : shared.books = relay.books)
      (unaccepted : relay.seeAccepted task before after = [])
      (undispatched : relay.seeDispatched task before after = [])
      (unrouted : relay.seeRouted task before after = [])
      (unresolved : relay.seeResolved task before after = []) :
      Flow relay shared task before after
  | accept {record : PackageRecord} {errand : Errand}
      (books : shared.books = { relay.books with
        pending := relay.books.pending + 1, submitted := relay.books.submitted + 1 }) :
      Flow relay shared task (.offering record errand) (.counted record errand)
  | line {record : PackageRecord} {errand : Errand}
      (books : shared.books = { relay.books with
        submitters := relay.books.submitters ++ [(task, record)] }) :
      Flow relay shared task (.counted record errand) (.placing errand)
  | place {record : PackageRecord} {errand : Errand}
      (member : (task, record) ∈ relay.books.submitters)
      (books : shared.books = { relay.books with
        buffer := relay.books.buffer ++ [record]
        submitters := relay.books.submitters.filter fun entry => entry.1 != task }) :
      Flow relay shared task (.placing errand) errand.placed
  | take {looked : Bool} {record : PackageRecord} {buffer : List PackageRecord}
      (front : relay.books.buffer = record :: buffer)
      (books : shared.books = { relay.books with buffer := buffer }) :
      Flow relay shared task (.inLine looked) (.dispatching record)
  | drop {record : PackageRecord}
      (homeless : relay.registry.session? record.origin.path = none)
      (books : shared.books = { relay.books with
        pending := relay.books.pending - 1, failed := relay.books.failed + 1 }) :
      Flow relay shared task (.dispatching record) .seeking
  | publish {record : PackageRecord} {session : String}
      (found : relay.registry.session? record.origin.path = some ⟨session, ()⟩)
      (books : shared.books = relay.books) :
      Flow relay shared task (.dispatching record) (.publishing record (record.request session))
  | published {record : PackageRecord} {request : Message.PublishPackageInsightRequest}
      (books : shared.books = { relay.books with
        pending := relay.books.pending - 1
        published := relay.books.published + 1
        publications := relay.books.publications ++ [(task, request)]
        granted := relay.books.granted + 1 }) :
      Flow relay shared task (.publishing record request) .seeking
  | rejected {record : PackageRecord} {request : Message.PublishPackageInsightRequest}
      (books : shared.books = { relay.books with
        pending := relay.books.pending - 1
        failed := relay.books.failed + 1
        publications := relay.books.publications ++ [(task, request)]
        refused := relay.books.refused + 1 }) :
      Flow relay shared task (.publishing record request) .seeking
  | crash {record : PackageRecord} {request : Message.PublishPackageInsightRequest}
      (books : shared.books = { relay.books with
        publications := relay.books.publications ++ [(task, request)] }) :
      Flow relay shared task (.publishing record request) (.lost record)

/-- Every move hands records on in one of these ways. -/
theorem Move.flow {relay shared : Relay} {task : TaskId} {before after : Stage}
    (move : Move relay task before after shared)
    (absent : ∀ looked, before = .inLine looked → ∀ entry ∈ relay.queue.submitters, entry.1 ≠ task) :
    Flow relay shared task before after := by
  -- Nearly all moves hand nothing on, and the others are told apart by their stages.
  cases move with
  | accept => exact .accept rfl
  | line => exact .line rfl
  | place placed =>
    -- The queue keeps the record while its caller waits, and gives it back to nobody.
    obtain ⟨record, member, rfl⟩ := Queue.eq_of_place? placed
    exact .place member rfl
  | take taken =>
    obtain ⟨takers, buffer, -, front, rfl⟩ := Queue.eq_of_take? taken
    exact .take front rfl
  | drop homeless => exact .drop homeless rfl
  | publish found => exact .publish found rfl
  | published text =>
    exact .published (by simp [books, Queue.resolve, Exchange.publication?, Exchange.isPublished,
      Exchange.isRejected])
  | rejected problem =>
    exact .rejected (by simp [books, Queue.resolve, Exchange.publication?, Exchange.isPublished,
      Exchange.isRejected])
  | crash =>
    exact .crash (by simp [books, Exchange.publication?, Exchange.isPublished,
      Exchange.isRejected])
  | rest =>
    -- A worker in the line of takers is in no other line.
    exact .still rfl rfl (by
      simp only [books, Queue.submitters_leave (absent _ rfl)]
      rfl) rfl rfl rfl rfl
  | @refuse record errand => cases errand <;> exact .still rfl rfl rfl rfl rfl rfl rfl
  | @pass finishing queue passed =>
    obtain ⟨-, rfl⟩ := Queue.eq_of_pass? passed
    cases finishing <;> exact .still rfl rfl rfl rfl rfl rfl rfl
  | @joined finishing => cases finishing <;> exact .still rfl rfl rfl rfl rfl rfl rfl
  | @finish failure => cases failure <;> exact .still rfl rfl rfl rfl rfl rfl rfl
  | opened | unopened | completed | incomplete =>
    -- These write into the journal, but nothing that concerns a record.
    exact .still rfl rfl (by
      simp [books, Exchange.publication?, Exchange.isPublished, Exchange.isRejected])
      rfl rfl rfl rfl
  | _ => exact .still rfl rfl rfl rfl rfl rfl rfl

end Relay

end InsightRelay
