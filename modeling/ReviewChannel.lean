import ReviewChannel.FileTree.Ordinary
import ReviewChannel.Main
import ReviewChannel.Program
import ReviewChannel.Proofs.Kept
import ReviewChannel.Proofs.Line
import ReviewChannel.Proofs.WireLanguage
import ReviewChannel.Proofs.Decoding
import ReviewChannel.Proofs.Endings
import ReviewChannel.Proofs.Conversation
import ReviewChannel.Proofs.StopDelivery
import ReviewChannel.Proofs.Forgery
import ReviewChannel.Proofs.Accounting
import ReviewChannel.Proofs.Inbound
import ReviewChannel.Proofs.Spelling
import ReviewChannel.Proofs.Notices
import ReviewChannel.Proofs.Pacing
import ReviewChannel.Proofs.Causality
import ReviewChannel.Proofs.InStep
import ReviewChannel.Proofs.Lockstep
import ReviewChannel.Proofs.Outbound
import ReviewChannel.Proofs.Logging
import ReviewChannel.Json.Reader
import ReviewChannel.Proofs.LogLines
import ReviewChannel.Proofs.Endpoints
import ReviewChannel.Proofs.Classification
import ReviewChannel.Proofs.Noninterference
import ReviewChannel.Proofs.ReviewOutcome
import ReviewChannel.Proofs.Telling
import ReviewChannel.Proofs.Refusal
import ReviewChannel.Proofs.Ownership
import ReviewChannel.Proofs.NearestFile
import ReviewChannel.Proofs.Agreement
import ReviewChannel.Proofs.Fields
import ReviewChannel.Proofs.Pumping
import ReviewChannel.Proofs.ListenWords
import ReviewChannel.Proofs.Cuts
import ReviewChannel.Config.Reader
import ReviewChannel.Proofs.Rendering
import ReviewChannel.Proofs.Faults
