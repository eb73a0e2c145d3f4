import InsightRelay.Relay.Start

/-! Deliveries: manifests are brought to a relay one after the other, and then it finishes. -/

namespace InsightRelay

/-- How many records were accepted, when that is the answer. -/
def Ending.count? : Ending → Option Nat
  | queued count => some count
  | _ => none

/-- What came of a delivery. -/
structure Delivery (σ : Type) where
  workshop : Workshop σ
  /-- How many records of each manifest were accepted. -/
  accepted : List Nat
  /-- How the relay finished, or nothing if it waits for ever. -/
  ending : Option Ending

namespace Workshop

variable {σ : Type}

/-- A caller arrives and waits for the answer. -/
def await (workshop : Workshop σ) (demand : Demand) : Workshop σ × Option Ending :=
  let (workshop, task) := workshop.arrive demand
  (workshop, workshop.relay.ending? task)

/-- Manifests are brought one after the other, each when the one before it has its answer, and the
accepted records of each are counted. -/
def bring (workshop : Workshop σ) : (manifests : List Manifest) → Workshop σ × List Nat
  | [] => (workshop, [])
  | manifest :: manifests =>
    let (workshop, ending) := workshop.await (.addManifest manifest)
    match ending.bind Ending.count? with
    -- Where an answer never comes, nothing more is brought.
    | none => (workshop, [])
    | some count =>
      let (workshop, accepted) := workshop.bring manifests
      (workshop, count :: accepted)

/-- Manifests are brought one after the other, and then the relay finishes. -/
def deliver (workshop : Workshop σ) (manifests : List Manifest) : Delivery σ :=
  let (workshop, accepted) := workshop.bring manifests
  if accepted.length < manifests.length then ⟨workshop, accepted, none⟩
  else
    let (workshop, ending) := workshop.await .finish
    ⟨workshop, accepted, ending⟩

end Workshop

end InsightRelay
