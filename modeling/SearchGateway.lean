import SearchGateway.Proofs.Filter.Addresses
import SearchGateway.Proofs.Filter.Forwarding
import SearchGateway.Proofs.Search.Blame
import SearchGateway.Proofs.Search.Failures
import SearchGateway.Proofs.Search.RowOrder
import SearchGateway.Proofs.Search.Strictness
import SearchGateway.Proofs.Search.Summary
import SearchGateway.Proofs.Search.Ties
import SearchGateway.Proofs.Server.Credentials
import SearchGateway.Proofs.Server.Origins
import SearchGateway.Proofs.Server.Redaction
import SearchGateway.Proofs.Server.Spellings
import SearchGateway.Proofs.Server.Verdicts
import SearchGateway.Settings.Load
import SearchGateway.Proofs.Ranking.Dominance
import SearchGateway.Proofs.Rpc.Endpoint
import SearchGateway.Proofs.Document.Timestamp
import SearchGateway.Proofs.Document.RoundTrip
import SearchGateway.Proofs.Text.LowerCase
import SearchGateway.Proofs.Settings.Layers
import SearchGateway.Proofs.Settings.Decoding
import SearchGateway.Proofs.Settings.Overriding
import SearchGateway.Proofs.Settings.Precedence
