import ClaimCheck.Main
import ClaimCheck.Proofs.Channel.Bounded
import ClaimCheck.Proofs.Channel.FailedSends
import ClaimCheck.Proofs.Channel.Publishing
import ClaimCheck.Proofs.Channel.SideBySide
import ClaimCheck.Proofs.Cli.Pipe
import ClaimCheck.Proofs.Codec.Classification
import ClaimCheck.Proofs.Codec.Decoding
import ClaimCheck.Proofs.Config.Reloaded
import ClaimCheck.Proofs.Deletion.Alone
import ClaimCheck.Proofs.Deletion.Enveloped
import ClaimCheck.Proofs.Deletion.Race
import ClaimCheck.Proofs.Deletion.Redelivery
import ClaimCheck.Proofs.Deletion.SideBySide
import ClaimCheck.Proofs.Disk.Confined
import ClaimCheck.Proofs.Disk.Leftover
import ClaimCheck.Proofs.Json.ReadBack
import ClaimCheck.Proofs.Json.WireForms
import ClaimCheck.Proofs.Relay.Balance
import ClaimCheck.Proofs.Tokens.Unobservable
import ClaimCheck.Proofs.Web.Percent
import ClaimCheck.Proofs.Web.Segments
import ClaimCheck.Proofs.Web.Authority
import ClaimCheck.Proofs.Web.Host
import ClaimCheck.Proofs.Web.Address
import ClaimCheck.Proofs.Deletion.Addressed
import ClaimCheck.Proofs.Deletion.Widened
import ClaimCheck.Proofs.Codec.Paths
import ClaimCheck.Proofs.Deletion.Query
import ClaimCheck.Proofs.Codec.Wrapping
import ClaimCheck.Proofs.Config.Overlay
import ClaimCheck.Proofs.World.WriteOnce
import ClaimCheck.Proofs.Disk.Complete
import ClaimCheck.Proofs.Disk.Pruning
