import LogCourier.Main
import LogCourier.Program.Run
import LogCourier.Watch.Error
import LogCourier.Proofs.Agent.Conservation
import LogCourier.Proofs.Agent.Forwarding
import LogCourier.Proofs.Agent.Refused
import LogCourier.Proofs.Agent.Statistics
import LogCourier.Proofs.Agent.Stopping
import LogCourier.Proofs.Delivery.Datagrams
import LogCourier.Proofs.Delivery.Retries
import LogCourier.Proofs.Json.Records
import LogCourier.Proofs.Pipeline.Accounts
import LogCourier.Proofs.Pipeline.Bucket
import LogCourier.Proofs.Pipeline.Lossless
import LogCourier.Proofs.Pipeline.Notices
import LogCourier.Proofs.Pipeline.Window
import LogCourier.Proofs.Settings.Layering
import LogCourier.Proofs.Settings.Sources
import LogCourier.Proofs.Tailer.Account
import LogCourier.Proofs.Tailer.Idle
import LogCourier.Proofs.Tailer.Openings
import LogCourier.Proofs.Tailer.Overlong
import LogCourier.Proofs.Tailer.Pacing
import LogCourier.Proofs.Tailer.Quiescence
import LogCourier.Proofs.Tailer.Status
import LogCourier.Proofs.Wire.Decoding
