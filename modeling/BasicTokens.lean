import BasicTokens.Proofs.Agreement
import BasicTokens.Proofs.Lines
import BasicTokens.Proofs.LongestMatch
import BasicTokens.Proofs.Tiling
import BasicTokens.Recorder.Session
import BasicTokens.Settings.File
import BasicTokens.Proofs.Reports
import BasicTokens.Proofs.Layout
import BasicTokens.Proofs.Reprint
import BasicTokens.Proofs.LineScan
import BasicTokens.Proofs.Policy
import BasicTokens.Proofs.Remarks
import BasicTokens.Proofs.Recasing
import BasicTokens.Proofs.Pulling
import BasicTokens.Proofs.Sinks
import BasicTokens.Proofs.Movement
import BasicTokens.Proofs.LineNumbers
import BasicTokens.Proofs.Parity
import BasicTokens.Proofs.Delivery
import BasicTokens.Proofs.Boundaries
import BasicTokens.Proofs.Marks
import BasicTokens.Proofs.NormalForm
import BasicTokens.Proofs.Rules
import BasicTokens.Proofs.Quoting
import BasicTokens.Proofs.Rendering
import BasicTokens.Proofs.Messages
import BasicTokens.Proofs.NumberLanguage
import BasicTokens.Proofs.Details
import BasicTokens.Proofs.Merging
import BasicTokens.Proofs.Choices
import BasicTokens.Proofs.Listing
import BasicTokens.Proofs.Readings
import BasicTokens.Proofs.Progress
