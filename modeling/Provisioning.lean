import Provisioning.Engine
import Provisioning.Json.Reader
import Provisioning.Log.Session
import Provisioning.Main
import Provisioning.Platform.Disturbed
import Provisioning.Platform.Seeding
import Provisioning.Pool
import Provisioning.Proofs.Chain.Reconciliation
import Provisioning.Proofs.Chain.Rejection
import Provisioning.Proofs.Classification
import Provisioning.Proofs.Definition.Drift
import Provisioning.Proofs.Engine.Admission
import Provisioning.Proofs.Engine.Independence
import Provisioning.Proofs.Engine.Isolation
import Provisioning.Proofs.Engine.ReadBack
import Provisioning.Proofs.Engine.Verdict
import Provisioning.Proofs.Engine.Views
import Provisioning.Proofs.Pool
import Provisioning.Proofs.Principal
import Provisioning.Proofs.Record.Accesses
import Provisioning.Proofs.Removal
import Provisioning.Proofs.Upsert
import Provisioning.Proofs.Validation.Judgement
import Provisioning.Proofs.Wire.RoundTrip
import Provisioning.Remote.Scripted
import Provisioning.Proofs.Chain.Sending
import Provisioning.Proofs.Decimal.Value
import Provisioning.Proofs.Definition.Job
import Provisioning.Proofs.Definition.Pipeline
import Provisioning.Proofs.Json.Difference
import Provisioning.Proofs.Console.Comparison
import Provisioning.Proofs.Platform.Deeds
import Provisioning.Proofs.Platform.Issue
import Provisioning.Proofs.Platform.Books
import Provisioning.Proofs.Failure.Algebra
