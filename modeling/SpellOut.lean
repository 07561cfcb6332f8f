import SpellOut.Attempt
import SpellOut.Host.Fault
import SpellOut.Proofs.Attempt.Events
import SpellOut.Proofs.Attempt.Once
import SpellOut.Proofs.Attempt.Protocol
import SpellOut.Proofs.Attempt.Reread
import SpellOut.Proofs.Attempt.Torn
import SpellOut.Proofs.Capped
import SpellOut.Proofs.FirstFlaw
import SpellOut.Proofs.Json
import SpellOut.Proofs.Legible
import SpellOut.Proofs.Raised
import SpellOut.Proofs.RawType.Lossless
import SpellOut.Proofs.RawType.Progress
import SpellOut.Proofs.RawType.Respelled
import SpellOut.Proofs.Scope.Capture
import SpellOut.Proofs.Scope.Choice
import SpellOut.Proofs.Scope.Lookup
import SpellOut.Proofs.Scope.Missing
import SpellOut.Proofs.Scope.Relevant
import SpellOut.Proofs.Scope.Selection
import SpellOut.Proofs.Scope.Settled
import SpellOut.Proofs.Scope.Usage
import SpellOut.Proofs.Settings
import SpellOut.Rule
import SpellOut.Toon.Codec
import SpellOut.Workspace
