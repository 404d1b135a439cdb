import SeedVault.Account.Json
import SeedVault.Machine
import SeedVault.Main
import SeedVault.Proofs.Account
import SeedVault.Proofs.Challenge.Answers
import SeedVault.Proofs.Command.Effect
import SeedVault.Proofs.Command.Forget
import SeedVault.Proofs.Command.Import
import SeedVault.Proofs.Command.NewPassword
import SeedVault.Proofs.Command.RightPassword
import SeedVault.Proofs.Command.Verification
import SeedVault.Proofs.CommandLine.Options
import SeedVault.Proofs.Comparison
import SeedVault.Proofs.Config.Count
import SeedVault.Proofs.Config.Effective
import SeedVault.Proofs.Password.Sequences
import SeedVault.Proofs.Phrase.Codec
import SeedVault.Proofs.Seed
import SeedVault.Proofs.Startup
import SeedVault.Proofs.Store.Atomicity
import SeedVault.Proofs.Store.Privacy
import SeedVault.Proofs.Store.Refinement
import SeedVault.Proofs.Terminal.Dialogue
import SeedVault.Proofs.Text.Lines
import SeedVault.Proofs.Vault.Canonical
import SeedVault.Proofs.Vault.Fields
import SeedVault.Proofs.Vault.Passwords
import SeedVault.Proofs.Vault.Readers
import SeedVault.Proofs.Vault.Sealing
import SeedVault.Proofs.Vault.Tampering
import SeedVault.Proofs.Vault.Truncation
import SeedVault.Proofs.Wallet.Ledger
