import Feedcast.Lib.Codes
import Feedcast.Lib.Pattern
import Feedcast.Lib.Table
import Feedcast.Lib.Recency
import Feedcast.Lib.Runs
import Feedcast.Lib.Custody
import Feedcast.Lib.Replace
import Feedcast.Lib.Insertion
import Feedcast.Lib.Traverse
import Feedcast.Lib.Except
import Feedcast.Lib.Utf16
import Feedcast.Lib.Words
import Feedcast.Lib.LineBreak
import Feedcast.Lib.StableSort
import Feedcast.Lib.Grammar
import Feedcast.Lib.Session
import Feedcast.Lib.Paging
import Feedcast.Lib.Dict
import Feedcast.Lib.Coroutine
import Feedcast.Lib.SingleFlight
import Feedcast.Lib.Semaphore
import Feedcast.Lib.Backoff
import Feedcast.Lib.Backlog
import Feedcast.Lib.Binary64
import Feedcast.Core.Platform
import Feedcast.Core.Url
import Feedcast.Core.Percent
import Feedcast.Core.Text
import Feedcast.Core.Config
import Feedcast.Core.Hashing
import Feedcast.Core.Words
import Feedcast.Core.Sanitize
import Feedcast.Core.Address
import Feedcast.Core.Net
import Feedcast.Core.Sensitivity
import Feedcast.Core.Security
import Feedcast.Db.Models
import Feedcast.Schemas.City
import Feedcast.Schemas.Carousel
import Feedcast.Services.Ingest
import Feedcast.Services.Cities
import Feedcast.Services.Sources
import Feedcast.Services.Scheduler
import Feedcast.Services.Rank
import Feedcast.Services.Stories
import Feedcast.Services.Llm
import Feedcast.Services.Classify
import Feedcast.Services.Carousel
import Feedcast.Api.Carousels
import Feedcast.Services.Gallery
import Feedcast.Api.Stories
import Feedcast.Api.Auth
import Feedcast.Static.Slides
import Feedcast.Static.SlideCanvas
import Feedcast.Static.Studio
import Feedcast.Static.Feed
import Feedcast.Static.Selection
import Feedcast.Static.Sources
import Feedcast.Static.Gallery
import Feedcast.Static.City
import Feedcast.Static.Api
import Feedcast.Static.Main
import Feedcast.Fetch.Hops
import Feedcast.Fetch.Policy
import Feedcast.Fetch.Failures
import Feedcast.Ingest.Identity
import Feedcast.Ingest.Transaction
import Feedcast.Ingest.TickDedupe
import Feedcast.Ingest.BadEntry
import Feedcast.Polling.World
import Feedcast.Polling.FetchPhase
import Feedcast.Polling.Alone
import Feedcast.Polling.Ledger
import Feedcast.Polling.Validators
import Feedcast.Polling.Bookkeeping
import Feedcast.Polling.Archived
import Feedcast.Polling.RefreshGuard
import Feedcast.Polling.Backoff
import Feedcast.Polling.MaxAge
import Feedcast.Ingest.ManualCheck
import Feedcast.Cities.Onboarding
import Feedcast.Cities.Freshness
import Feedcast.Cities.Segment
import Feedcast.Polling.Health
import Feedcast.Cities.Patch
import Feedcast.Auth.Lifetimes
import Feedcast.Session.Refresh
import Feedcast.Session.Gate
import Feedcast.Session.Survival
import Feedcast.Carousels.OneCity
import Feedcast.Carousels.Resolution
import Feedcast.Carousels.Capacity
import Feedcast.Carousels.Evidence
import Feedcast.Carousels.Sessions
import Feedcast.Carousels.LastWrite
import Feedcast.Carousels.Insertion
import Feedcast.Carousels.Autosave
import Feedcast.Carousels.Studio
import Feedcast.Carousels.SlideOrder
import Feedcast.Carousels.SlideText
import Feedcast.Carousels.Headline
import Feedcast.Carousels.Wrapping
import Feedcast.Carousels.CanvasView
import Feedcast.Carousels.Picker
import Feedcast.Carousels.Downloads
import Feedcast.Carousels.Gallery
import Feedcast.Carousels.Refusals
import Feedcast.Carousels.Zip
import Feedcast.Discover.Paging
import Feedcast.Classifier.Labels
import Feedcast.Classifier.Passes
import Feedcast.Classifier.Backlog
import Feedcast.Classifier.Usage
import Feedcast.Classifier.Retries
import Feedcast.Classifier.Prompt
import Feedcast.Discover.Overlap
import Feedcast.Discover.Listeners
import Feedcast.Discover.Window
import Feedcast.Discover.History
import Feedcast.Discover.Rating
import Feedcast.Discover.ClockZone
