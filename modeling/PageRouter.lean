import PageRouter.Json.Read
import PageRouter.Json.Record
import PageRouter.Json.Value
import PageRouter.Location
import PageRouter.Proofs.Json.Grammar
import PageRouter.Proofs.Json.Reading
import PageRouter.Proofs.Json.Records
import PageRouter.Proofs.Json.Rendering
import PageRouter.Proofs.Json.Stored
import PageRouter.Proofs.Route.Address
import PageRouter.Proofs.Route.Branches
import PageRouter.Proofs.Route.Carried
import PageRouter.Proofs.Route.Compiled
import PageRouter.Proofs.Route.Drafts
import PageRouter.Proofs.Route.Filled
import PageRouter.Proofs.Route.Grammar
import PageRouter.Proofs.Route.Inserted
import PageRouter.Proofs.Route.Mapping
import PageRouter.Proofs.Route.Matcher
import PageRouter.Proofs.Route.Naming
import PageRouter.Proofs.Route.Ordered
import PageRouter.Proofs.Route.Parts
import PageRouter.Proofs.Route.Permuted
import PageRouter.Proofs.Route.Query
import PageRouter.Proofs.Route.Rearranged
import PageRouter.Proofs.Route.Rebuild
import PageRouter.Proofs.Route.Recapture
import PageRouter.Proofs.Route.Refusal
import PageRouter.Proofs.Route.Replay
import PageRouter.Proofs.Route.Requirements
import PageRouter.Proofs.Route.Resolution
import PageRouter.Proofs.Route.Reversal
import PageRouter.Proofs.Route.Sameness
import PageRouter.Proofs.Session.Along
import PageRouter.Proofs.Session.Ambiguity
import PageRouter.Proofs.Session.Asking
import PageRouter.Proofs.Session.Attach
import PageRouter.Proofs.Session.Attain
import PageRouter.Proofs.Session.Counts
import PageRouter.Proofs.Session.Course
import PageRouter.Proofs.Session.Detached
import PageRouter.Proofs.Session.Dropped
import PageRouter.Proofs.Session.Errors
import PageRouter.Proofs.Session.Follow
import PageRouter.Proofs.Session.Gains
import PageRouter.Proofs.Session.Holding
import PageRouter.Proofs.Session.Journal
import PageRouter.Proofs.Session.Leaving
import PageRouter.Proofs.Session.Ledger
import PageRouter.Proofs.Session.Minor
import PageRouter.Proofs.Session.Mirror
import PageRouter.Proofs.Session.Navigate
import PageRouter.Proofs.Session.Notified
import PageRouter.Proofs.Session.Operations
import PageRouter.Proofs.Session.Passes
import PageRouter.Proofs.Session.Reached
import PageRouter.Proofs.Session.Registered
import PageRouter.Proofs.Session.Registry
import PageRouter.Proofs.Session.Requests
import PageRouter.Proofs.Session.Sightings
import PageRouter.Proofs.Session.Sound
import PageRouter.Proofs.Session.Stalled
import PageRouter.Proofs.Session.Standing
import PageRouter.Proofs.Session.Steady
import PageRouter.Proofs.Session.Throughout
import PageRouter.Proofs.Session.Travel
import PageRouter.Proofs.Session.Turns
import PageRouter.Proofs.Session.Unload
import PageRouter.Proofs.Session.Within
import PageRouter.Proofs.Session.Zipper
import PageRouter.Proofs.Text.CodeSet
import PageRouter.Proofs.Text.Lists
import PageRouter.Proofs.Text.Numerals
import PageRouter.Proofs.Text.Utf8
import PageRouter.Proofs.Url.Authority
import PageRouter.Proofs.Url.CharacterParts
import PageRouter.Proofs.Url.Composed
import PageRouter.Proofs.Url.Domains
import PageRouter.Proofs.Url.Encoded
import PageRouter.Proofs.Url.ImageTables
import PageRouter.Proofs.Url.Images
import PageRouter.Proofs.Url.Numbers
import PageRouter.Proofs.Url.OwnPath
import PageRouter.Proofs.Url.Punycode
import PageRouter.Proofs.Url.Relative
import PageRouter.Proofs.Url.Reread
import PageRouter.Proofs.Url.Segments
import PageRouter.Proofs.Url.Spelled
import PageRouter.Proofs.Url.Tail
import PageRouter.Proofs.Url.WellFormed
import PageRouter.Route.Choice
import PageRouter.Route.Error
import PageRouter.Route.Matcher
import PageRouter.Route.MatcherSize
import PageRouter.Route.Params
import PageRouter.Route.Pattern
import PageRouter.Route.Query
import PageRouter.Route.Resolve
import PageRouter.Route.Reverse
import PageRouter.Route.Settings
import PageRouter.Route.Source
import PageRouter.Route.Template
import PageRouter.Route.Tree
import PageRouter.Route.Typed
import PageRouter.Session.Actor
import PageRouter.Session.History
import PageRouter.Session.Program
import PageRouter.Session.Registry
import PageRouter.Session.Report
import PageRouter.Session.Run
import PageRouter.Session.Scenario
import PageRouter.Session.Script
import PageRouter.Session.Stored
import PageRouter.Session.World
import PageRouter.Text.Binary64
import PageRouter.Text.CaseFold
import PageRouter.Text.FoldRuns
import PageRouter.Text.Integer
import PageRouter.Text.Invisible
import PageRouter.Text.Marks
import PageRouter.Text.Percent
import PageRouter.Text.Quoted
import PageRouter.Text.Ranges
import PageRouter.Text.Split
import PageRouter.Text.Utf8
import PageRouter.Toml.Draft
import PageRouter.Toml.Moment
import PageRouter.Toml.Number
import PageRouter.Toml.Quoted
import PageRouter.Toml.Read
import PageRouter.Toml.Value
import PageRouter.Url.Basic
import PageRouter.Url.Domain
import PageRouter.Url.Domain.CombiningClass
import PageRouter.Url.Domain.Composites
import PageRouter.Url.Domain.Composition
import PageRouter.Url.Domain.Direction
import PageRouter.Url.Domain.Excluded
import PageRouter.Url.Domain.Image
import PageRouter.Url.Domain.ImageRow
import PageRouter.Url.Domain.Images.Arabic
import PageRouter.Url.Domain.Images.Forms
import PageRouter.Url.Domain.Images.Ideographs
import PageRouter.Url.Domain.Images.Letters
import PageRouter.Url.Domain.Images.Mathematics
import PageRouter.Url.Domain.Images.Symbols
import PageRouter.Url.Domain.Joining
import PageRouter.Url.Encode
import PageRouter.Url.Error
import PageRouter.Url.Host
import PageRouter.Url.Ipv4
import PageRouter.Url.Ipv6
import PageRouter.Url.Parse
import PageRouter.Url.Path
import PageRouter.Url.Punycode
