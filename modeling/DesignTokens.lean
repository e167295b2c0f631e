import DesignTokens.CommandLine.Rehearsal
import DesignTokens.Main
import DesignTokens.Settings.Show
import DesignTokens.Graph.Builder
import DesignTokens.Proofs.Graph.Resolution
import DesignTokens.Proofs.Graph.Turns
import DesignTokens.Proofs.Theme.Pointers
import DesignTokens.Proofs.Generate.Handover
import DesignTokens.Proofs.Generate.Stylesheet
import DesignTokens.Proofs.Generate.Variables
import DesignTokens.Proofs.Graph.Exchange
import DesignTokens.Proofs.Sheet.Agreement
import DesignTokens.Proofs.Theme.Edit
import DesignTokens.Proofs.Generate.Quoting
import DesignTokens.Proofs.Theme.Order
import DesignTokens.Proofs.Theme.Merging
import DesignTokens.Proofs.Theme.Contained
import DesignTokens.Proofs.Theme.Readback
import DesignTokens.Proofs.Graph.Pruning
import DesignTokens.Proofs.Generate.Counting
import DesignTokens.Proofs.Generate.Together
import DesignTokens.Proofs.Graph.Reencoding
import DesignTokens.Proofs.Store.Isolation
import DesignTokens.Proofs.CommandLine.Flags
import DesignTokens.Proofs.CommandLine.Tailwind
import DesignTokens.Proofs.Sheet.Tidied
import DesignTokens.Proofs.Sheet.Verdict
import DesignTokens.Proofs.Sheet.Respacing
import DesignTokens.Proofs.Theme.PassedOver
import DesignTokens.Proofs.Theme.Uniform
import DesignTokens.Proofs.Theme.Copying
import DesignTokens.Proofs.Theme.Routing
import DesignTokens.Proofs.Generate.VariableName
import DesignTokens.Proofs.Settings.Secrecy
import DesignTokens.Proofs.Theme.Scaling
import DesignTokens.Proofs.Theme.Words
import DesignTokens.Proofs.Theme.Stripping
