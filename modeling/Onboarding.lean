import Onboarding.Text.Blank
import Onboarding.Text.Numeral
import Onboarding.Secret
import Onboarding.Environment
import Onboarding.Csv.Written
import Onboarding.Csv.Plain
import Onboarding.Roster
import Onboarding.Text.Quoted
import Onboarding.Text.Form
import Onboarding.Repository
import Onboarding.Credentials
import Onboarding.Json.Writer
import Onboarding.Json.Reader
import Onboarding.Text.Composition
import Onboarding.Url.DomainTable
import Onboarding.Url.Below
import Onboarding.Http.Script
import Onboarding.Identity.Memory
import Onboarding.Identity.Keycloak
import Onboarding.Chat.Memory
import Onboarding.Chat.Synapse
import Onboarding.Chat.Script
import Onboarding.Log
import Onboarding.Sandbox.Files
import Onboarding.Shell.Reader
import Onboarding.Shell.Pattern
import Onboarding.Shell.Format
import Onboarding.Shell.Fields
import Onboarding.Shell.Condition
import Onboarding.Shell.Eval
import Onboarding.Sandbox.Launcher
import Onboarding.Settings.File
import Onboarding.SummaryFormat
import Onboarding.CommandLine.Options
import Onboarding.Run
import Onboarding.Sandbox.Server
import Onboarding.Main
import Onboarding.Proofs.Batch.Counts
import Onboarding.Proofs.Batch.Calls
import Onboarding.Proofs.Run.Order
import Onboarding.Proofs.Sandbox.Launcher
import Onboarding.Proofs.Batch.OverHttp
import Onboarding.Proofs.Batch.UsersCreated
import Onboarding.Proofs.Batch.InMemory
import Onboarding.Proofs.Text.Utf8
import Onboarding.Proofs.Text.Trim
import Onboarding.Proofs.Csv.Quoted
import Onboarding.Proofs.Roster.Quoted
import Onboarding.Proofs.Batch.Secrecy
import Onboarding.Proofs.Run.Defaults
import Onboarding.Proofs.Text.Percent
import Onboarding.Proofs.Url.Path
import Onboarding.Proofs.Url.Reading
import Onboarding.Proofs.Url.Below
import Onboarding.Proofs.Url.Segments
import Onboarding.Proofs.Batch.Addresses
import Onboarding.Proofs.Batch.Parts
import Onboarding.Proofs.Batch.Journal
import Onboarding.Proofs.Batch.Beside
import Onboarding.Proofs.Chat.Accounts
import Onboarding.Proofs.Json.Members
import Onboarding.Proofs.Identity.Grant
import Onboarding.Proofs.Batch.FirstListed
import Onboarding.Proofs.Identity.LastSegment
import Onboarding.Proofs.Identity.Location
import Onboarding.Proofs.Csv.Written
import Onboarding.Proofs.Csv.Padded
import Onboarding.Proofs.Roster.Padded
import Onboarding.Proofs.Text.Valid
import Onboarding.Proofs.Text.Split
import Onboarding.Proofs.Csv.Plain
import Onboarding.Proofs.Roster.Plain
import Onboarding.Proofs.Csv.Layout
import Onboarding.Proofs.Roster.Faults
import Onboarding.Proofs.Roster.LastLine
import Onboarding.Proofs.Json.Written
import Onboarding.Proofs.Batch.Bodies
import Onboarding.Proofs.Text.Form
import Onboarding.Proofs.Identity.TokenForm
import Onboarding.Proofs.Url.Open
import Onboarding.Proofs.Url.Marks
import Onboarding.Proofs.Identity.Search
import Onboarding.Proofs.Text.Cut
import Onboarding.Proofs.Http.Preview
import Onboarding.Proofs.Path
import Onboarding.Proofs.Repository
