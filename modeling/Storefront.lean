import Storefront.Main
import Storefront.Proofs.Clients
import Storefront.Proofs.Columns
import Storefront.Proofs.Handles
import Storefront.Proofs.Http.Acceptance
import Storefront.Proofs.Http.AuditTrail
import Storefront.Proofs.Http.Exposure
import Storefront.Proofs.Http.Failing
import Storefront.Proofs.Http.Seeded
import Storefront.Proofs.Http.Unnamed
import Storefront.Proofs.Record.Building
import Storefront.Proofs.Record.Integer
import Storefront.Proofs.Record.Nested
import Storefront.Proofs.Record.Paths
import Storefront.Proofs.Resubmission
import Storefront.Proofs.Row.Access
import Storefront.Proofs.Row.Reader
import Storefront.Proofs.Sql.Decoding
import Storefront.Proofs.Sql.Statement
import Storefront.Proofs.Startup
import Storefront.Proofs.Store.Agreement
