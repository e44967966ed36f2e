import RegistryTokens.Engine.Connection
import RegistryTokens.Log.Template
import RegistryTokens.Refusal.Statement
import RegistryTokens.Time.Seconds
import RegistryTokens.Job.Batch
import RegistryTokens.Job.Creation
import RegistryTokens.Job.Session
import RegistryTokens.Proofs.Rules
import RegistryTokens.Proofs.Promotion
import RegistryTokens.Proofs.History
import RegistryTokens.Proofs.Batch.Breakdown
import RegistryTokens.Proofs.Batch.DryRun
import RegistryTokens.Proofs.Update.Composition
import RegistryTokens.Proofs.Batch.Rerun
import RegistryTokens.Proofs.Batch.Beginning
import RegistryTokens.Proofs.Batch.Splitting
import RegistryTokens.Proofs.Batch.Trail
import RegistryTokens.Proofs.Job.Admission
import RegistryTokens.Proofs.Status
import RegistryTokens.Proofs.Store.Cell
import RegistryTokens.Proofs.Job.Resolution
import RegistryTokens.Proofs.Judgement
import RegistryTokens.Proofs.Field.Transitions
import RegistryTokens.Proofs.Job.LiveDomains
import RegistryTokens.Proofs.Job.Attempts
import RegistryTokens.Proofs.Log.Context
import RegistryTokens.Proofs.Log.Record
import RegistryTokens.Proofs.Log.Logbook
import RegistryTokens.Proofs.Engine
import RegistryTokens.Proofs.Config.Memory
import RegistryTokens.Proofs.Config.Override
import RegistryTokens.Proofs.Config.Reading
import RegistryTokens.Proofs.Update.Options
import RegistryTokens.Proofs.Job.Forms
