import JobSearch.CommandLine.Answer
import JobSearch.Dataset.Image
import JobSearch.Dataset.Storage
import JobSearch.Json.Printer
import JobSearch.Json.Reader
import JobSearch.Main
import JobSearch.Proofs.Browse.Agreement
import JobSearch.Proofs.Browse.AtOnce
import JobSearch.Proofs.Browse.Currency
import JobSearch.Proofs.Browse.MissingTables
import JobSearch.Proofs.Browse.OwnLabel
import JobSearch.Proofs.Browse.Single
import JobSearch.Proofs.Facets.Freshness
import JobSearch.Proofs.Loading.Abort
import JobSearch.Proofs.Loading.SingleFlight
import JobSearch.Proofs.Statement.Grouped
import JobSearch.Proofs.Statement.Scoped
import JobSearch.Proofs.Statement.Shape
import JobSearch.Proofs.Text.Like
import JobSearch.Report.File
import JobSearch.Service
import JobSearch.Proofs.Filter.Laws
import JobSearch.Proofs.Filter.Mapping
import JobSearch.Proofs.Filter.Updates
import JobSearch.Proofs.Matching.Monotone
import JobSearch.Proofs.Report.Averages
import JobSearch.Proofs.Report.Buckets
import JobSearch.Proofs.Report.Gaps
import JobSearch.Proofs.Report.Rows
import JobSearch.Proofs.Report.Tally
import JobSearch.Proofs.Report.Totals
import JobSearch.Proofs.Text.Case
import JobSearch.Proofs.Browse.Suggestions
import JobSearch.Proofs.Text.Searched
import JobSearch.Proofs.Filter.Arguments
import JobSearch.Proofs.Report.Names
import JobSearch.Proofs.Number.Amount
import JobSearch.Proofs.Statistics.Percentiles
