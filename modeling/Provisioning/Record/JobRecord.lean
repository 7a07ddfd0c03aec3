import Provisioning.Record.Timestamp

/-!
The record behind a token.  It starts out running and ends completed or failed; a token that
nobody was given has a failed record of its own.
-/
namespace Provisioning

structure JobToken where
  text : String
  deriving DecidableEq, Repr

def JobToken.toJson (t : JobToken) : Json := .text t.text

def JobToken.decode : Wire.Decoder JobToken := fun v => JobToken.mk <$> Wire.text v

inductive JobStatus where
  | running
  | completed
  | failed
  deriving DecidableEq, Repr

namespace JobStatus

/-- No record leaves such a state. -/
def isTerminal : JobStatus → Bool
  | running => false
  | completed | failed => true

def name : JobStatus → String
  | running => "RUNNING"
  | completed => "COMPLETED"
  | failed => "FAILED"

def toJson (s : JobStatus) : Json := .text s.name

def decode : Wire.Decoder JobStatus :=
  Wire.oneOf [("RUNNING", running), ("COMPLETED", completed), ("FAILED", failed)]

end JobStatus

inductive InfoKind where
  | text
  | link
  deriving DecidableEq, Repr

namespace InfoKind

def name : InfoKind → String
  | text => "string"
  | link => "link"

def decode : Wire.Decoder InfoKind := Wire.oneOf [("string", text), ("link", link)]

end InfoKind

structure InfoEntry where
  kind : InfoKind
  label : String
  value : String
  href : Option String
  deriving DecidableEq, Repr

def unlessNone (key : String) (f : α → Json) : Option α → Json.Members
  | none => []
  | some a => [(key, f a)]

namespace InfoEntry

def ofText (label value : String) : InfoEntry := ⟨.text, label, value, none⟩

def ofLink (label value href : String) : InfoEntry := ⟨.link, label, value, some href⟩

def toJson (e : InfoEntry) : Json :=
  .object (unlessNone "href" .text e.href ++
    [("label", .text e.label), ("type", .text e.kind.name), ("value", .text e.value)])

open Wire Fields in
def decode : Decoder InfoEntry :=
  record "InfoEntry" <|
    InfoEntry.mk <$> required "type" InfoKind.decode
      <*> required "label" text
      <*> required "value" text
      <*> nullable "href" text

end InfoEntry

abbrev JobInfo := List (String × InfoEntry)

def JobInfo.toJson (i : JobInfo) : Json := .object (i.map fun (k, e) => (k, e.toJson))

def JobInfo.decode : Wire.Decoder JobInfo := Wire.mapOf InfoEntry.decode

structure JobRecord where
  token : JobToken
  status : JobStatus
  message : String
  info : Option JobInfo
  updates : Option Json
  submittedAt : Timestamp
  completedAt : Option Timestamp
  deriving Repr

namespace JobRecord

def running (token : JobToken) (now : Timestamp) : JobRecord :=
  ⟨token, .running, "", none, none, now, none⟩

def notFound (token : JobToken) (now : Timestamp) : JobRecord :=
  ⟨token, .failed, "No provisioning job found for token '" ++ token.text ++ "'", none, none, now, some now⟩

def complete (r : JobRecord) (message : String) (info : Option JobInfo) (now : Timestamp) : JobRecord :=
  { r with status := .completed, message, info, completedAt := some now }

def fail (r : JobRecord) (message : String) (now : Timestamp) : JobRecord :=
  { r with status := .failed, message, completedAt := some now }

def withUpdates (r : JobRecord) (updates : Json) : JobRecord := { r with updates := some updates }

def toJson (r : JobRecord) : Json :=
  .object (unlessNone "completedAt" Timestamp.toJson r.completedAt ++
    unlessNone "info" JobInfo.toJson r.info ++
    [("resultMessage", .text r.message), ("status", r.status.toJson),
     ("submittedAt", r.submittedAt.toJson), ("token", r.token.toJson)] ++
    unlessNone "updates" id r.updates)

open Wire Fields in
def decode : Decoder JobRecord :=
  record "ProvisioningJob" <|
    JobRecord.mk <$> required "token" JobToken.decode
      <*> required "status" JobStatus.decode
      <*> required "resultMessage" text
      <*> nullable "info" JobInfo.decode
      <*> nullable "updates" any
      <*> required "submittedAt" Timestamp.decode
      <*> nullable "completedAt" Timestamp.decode

end JobRecord
end Provisioning
