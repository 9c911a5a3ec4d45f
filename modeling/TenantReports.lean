import TenantReports.Text.Lines
import TenantReports.Text.Quoted
import TenantReports.Text.Utf8
import TenantReports.Text.Fold
import TenantReports.Text.Search
import TenantReports.Number.Shortest
import TenantReports.Number.Decimal
import TenantReports.Json.Value
import TenantReports.Wire.Dialect
import TenantReports.Wire.Catalog
import TenantReports.Wire.Request
import TenantReports.Database.Effect
import TenantReports.Catalog
import TenantReports.Postgres.Interval
import TenantReports.Postgres.Pool
import TenantReports.Net.Url
import TenantReports.Pattern.Parser
import TenantReports.Session.Registry
import TenantReports.Gateway.Serve
import TenantReports.Main
import TenantReports.Proofs.Session.Sharing
import TenantReports.Proofs.Session.Isolation
import TenantReports.Proofs.Query.Binding
import TenantReports.Proofs.Report.Governance
import TenantReports.Proofs.Query.Values
import TenantReports.Proofs.Gateway.Separation
import TenantReports.Proofs.Gateway.Pipeline
import TenantReports.Proofs.Session.Precedence
import TenantReports.Proofs.Gateway.Leftovers
import TenantReports.Proofs.Session.Memory
import TenantReports.Proofs.Columns.Memory
import TenantReports.Proofs.Gateway.Querying
import TenantReports.Proofs.Postgres.Casting
import TenantReports.Proofs.Postgres.Agreement
import TenantReports.Proofs.Gateway.Accounting
import TenantReports.Proofs.Gateway.Identity
import TenantReports.Proofs.Postgres.Octets
import TenantReports.Proofs.Wire.RoundTrip
import TenantReports.Proofs.Query.Acceptance
import TenantReports.Proofs.Query.Unambiguous
import TenantReports.Proofs.Report.Confinement
import TenantReports.Proofs.Report.Marking
import TenantReports.Proofs.Report.Arguments
import TenantReports.Proofs.Database.Projection
import TenantReports.Proofs.Number.Padded
import TenantReports.Proofs.Postgres.Interval.Parts
import TenantReports.Proofs.Postgres.Interval.Reading
import TenantReports.Proofs.Query.Identifiers
import TenantReports.Proofs.Config.File
import TenantReports.Proofs.Session.Stored
import TenantReports.Proofs.Postgres.Numeric
import TenantReports.Proofs.Postgres.Ending
import TenantReports.Proofs.Gateway.Deadline
import TenantReports.Proofs.Postgres.TypeNames
