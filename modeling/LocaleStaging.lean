import LocaleStaging.Main
import LocaleStaging.Proofs.Agent.LiveWins
import LocaleStaging.Proofs.Agent.Migration
import LocaleStaging.Proofs.Agent.Restart
import LocaleStaging.Settings.Writer
import LocaleStaging.Worker
import LocaleStaging.Proofs.Staging.NameOrder
import LocaleStaging.Proofs.Staging.Durability
import LocaleStaging.Proofs.Agent.RestoreOrder
import LocaleStaging.Proofs.Markup.Content
import LocaleStaging.Proofs.Document.Meaning
import LocaleStaging.Proofs.Agent.Recorder
import LocaleStaging.Proofs.Agent.Provenance
import LocaleStaging.Proofs.Agent.Chronicle
import LocaleStaging.Proofs.Agent.Panic
import LocaleStaging.Proofs.Agent.Lag
import LocaleStaging.Proofs.Agent.Isolation
import LocaleStaging.Proofs.Command.Listing
import LocaleStaging.Proofs.Document.Truncation
import LocaleStaging.Proofs.Staging.Filter
import LocaleStaging.Proofs.Storage.UserMap
import LocaleStaging.Proofs.Staging.Sweep
import LocaleStaging.Proofs.Agent.Ingestion
import LocaleStaging.Proofs.Agent.Reconciliation
import LocaleStaging.Proofs.Agent.Overrides
import LocaleStaging.Proofs.Toml.Text
import LocaleStaging.Proofs.Toml.Statement
import LocaleStaging.Proofs.Settings.RoundTrip
import LocaleStaging.Proofs.Settings.Expansion
import LocaleStaging.Proofs.Settings.Reload
import LocaleStaging.Proofs.Agent.Hollow
