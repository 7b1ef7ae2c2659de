import ArchiveAccounts.Cli.Directory
import ArchiveAccounts.Main
import ArchiveAccounts.ObjectStorage
import ArchiveAccounts.Proofs.Service.Accounted
import ArchiveAccounts.Proofs.Service.Corrected
import ArchiveAccounts.Proofs.Service.Forbidden
import ArchiveAccounts.Proofs.Service.GivenUp
import ArchiveAccounts.Proofs.Service.Isolation
import ArchiveAccounts.Proofs.Service.Waterfall
import ArchiveAccounts.Proofs.Signing.Link
import ArchiveAccounts.Proofs.Storage.KeySpace
import ArchiveAccounts.Proofs.Store.Agreement
import ArchiveAccounts.Proofs.Store.Readable
import ArchiveAccounts.Proofs.Store.Spending
import ArchiveAccounts.Proofs.Service.PoolsGranted
import ArchiveAccounts.Proofs.Service.Splitting
import ArchiveAccounts.Proofs.Url.Hosts
import ArchiveAccounts.Proofs.Signing.Headers
import ArchiveAccounts.Proofs.Service.LinksInTime
import ArchiveAccounts.Proofs.Service.Admission
import ArchiveAccounts.Proofs.Service.LinksReused
import ArchiveAccounts.Proofs.Service.OwnersOnly
import ArchiveAccounts.Proofs.Service.CarriedOut
import ArchiveAccounts.Proofs.Service.Listing
import ArchiveAccounts.Proofs.Org.Bytes
import ArchiveAccounts.Proofs.Service.QuotaHistory
import ArchiveAccounts.Proofs.Document.Survival
import ArchiveAccounts.Proofs.Service.InOrder
import ArchiveAccounts.Proofs.Storage.PublicLinks
import ArchiveAccounts.Proofs.Service.LinksRefreshed
import ArchiveAccounts.Proofs.Service.LinksResolved
import ArchiveAccounts.Proofs.Service.Membership
import ArchiveAccounts.Proofs.Store.Atomicity
import ArchiveAccounts.Proofs.Org.QuotaPatches
import ArchiveAccounts.Proofs.Service.CrawlUpdates
import ArchiveAccounts.Proofs.Service.CollectionAdds
import ArchiveAccounts.Proofs.Store.Replacement
import ArchiveAccounts.Proofs.Signing.Parameters
import ArchiveAccounts.Proofs.Signing.CanonicalHeaders
import ArchiveAccounts.Proofs.Config.WrittenFiles
import ArchiveAccounts.Proofs.Calendar.Periods
import ArchiveAccounts.Proofs.Signing.Paths
