import PriceOracle.Chain.Ledger
import PriceOracle.Command.Rehearsed
import PriceOracle.Main
import PriceOracle.Proofs.Amount
import PriceOracle.Proofs.Dispute.Granularity
import PriceOracle.Proofs.Dispute.Listing
import PriceOracle.Proofs.Dispute.Opening
import PriceOracle.Proofs.Dispute.Submissions
import PriceOracle.Proofs.Feed.Fetch
import PriceOracle.Proofs.Feed.Price
import PriceOracle.Proofs.Feed.Record
import PriceOracle.Proofs.Feed.Reload
import PriceOracle.Proofs.Feed.Retention
import PriceOracle.Proofs.Feed.Tally
import PriceOracle.Proofs.Lifecycle
import PriceOracle.Proofs.Mining.Admission
import PriceOracle.Proofs.Mining.Claim
import PriceOracle.Proofs.Mining.Reading
import PriceOracle.Proofs.Mining.Restart
import PriceOracle.Proofs.Mining.Search
import PriceOracle.Proofs.Mining.Starts
import PriceOracle.Proofs.Operations
import PriceOracle.Proofs.Proxy.Connection
import PriceOracle.Proofs.Proxy.Net
import PriceOracle.Proofs.Proxy.Server
import PriceOracle.Proofs.Proxy.Spelling
import PriceOracle.Proofs.Service.Account
import PriceOracle.Proofs.Service.Cycle
import PriceOracle.Proofs.Stake
import PriceOracle.Proofs.Store.Canonical
import PriceOracle.Proofs.Store.Isolation
import PriceOracle.Proofs.Store.Session
import PriceOracle.Proxy.Pool
