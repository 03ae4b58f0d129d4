import CloudApi.Api.Error
import CloudApi.Client.Basic
import CloudApi.Client.Config
import CloudApi.Client.Error
import CloudApi.Client.Events
import CloudApi.Client.Execute
import CloudApi.Client.Hook
import CloudApi.Client.Network
import CloudApi.Client.Request
import CloudApi.Client.Resources
import CloudApi.Client.Waiting
import CloudApi.Config.Profile
import CloudApi.Decimal.Binary
import CloudApi.Decimal.Shortest
import CloudApi.Decode.Problem
import CloudApi.Decode.Source
import CloudApi.Http.Cache
import CloudApi.Http.Header
import CloudApi.Http.Response
import CloudApi.Http.Status
import CloudApi.Json.Chars
import CloudApi.Json.Cursor
import CloudApi.Json.Error
import CloudApi.Json.Number
import CloudApi.Json.Parse
import CloudApi.Json.Print
import CloudApi.Json.TextSource
import CloudApi.Json.Value
import CloudApi.Json.ValueSource
import CloudApi.Log.Config
import CloudApi.Log.Metrics
import CloudApi.Proofs.BackoffGrowth
import CloudApi.Proofs.CacheHistory
import CloudApi.Proofs.CacheKey
import CloudApi.Proofs.CacheLookup
import CloudApi.Proofs.CheckCount
import CloudApi.Proofs.Calls
import CloudApi.Proofs.ErrorClassify
import CloudApi.Proofs.EventFeed
import CloudApi.Proofs.EventVerdict
import CloudApi.Proofs.EventWatermark
import CloudApi.Proofs.FilterHeader
import CloudApi.Proofs.HeaderRedaction
import CloudApi.Proofs.HookPasses
import CloudApi.Proofs.JsonLiterals
import CloudApi.Proofs.JsonRoundTrip
import CloudApi.Proofs.PageWalk
import CloudApi.Proofs.PathSegment
import CloudApi.Proofs.PercentRoundTrip
import CloudApi.Proofs.ProfileResolve
import CloudApi.Proofs.RequestAddress
import CloudApi.Proofs.RequestCounters
import CloudApi.Proofs.ResourceFree
import CloudApi.Proofs.RetryChain
import CloudApi.Proofs.RetrySchedule
import CloudApi.Proofs.TextCut
import CloudApi.Proofs.Utf8RoundTrip
import CloudApi.Proofs.WaitEnds
import CloudApi.Proofs.WaitRace
import CloudApi.Proofs.WaitTiming
import CloudApi.Proofs.WholeDouble
import CloudApi.Query.Filter
import CloudApi.Query.Page
import CloudApi.Resource.Cluster
import CloudApi.Resource.Database
import CloudApi.Resource.Event
import CloudApi.Resource.Instance
import CloudApi.Resource.Region
import CloudApi.Resource.Volume
import CloudApi.Resource.Wire
import CloudApi.Retry.Backoff
import CloudApi.Retry.Policy
import CloudApi.Testkit.Fixtures
import CloudApi.Text.Base64
import CloudApi.Text.Blank
import CloudApi.Text.Case
import CloudApi.Text.Quoted
import CloudApi.Text.Utf8
import CloudApi.Time.Span
import CloudApi.Time.Stamp
import CloudApi.Trust.Certificate
import CloudApi.Trust.Pem
import CloudApi.Unicode.Bidi
import CloudApi.Unicode.BidiData
import CloudApi.Unicode.CaseData
import CloudApi.Unicode.Category
import CloudApi.Unicode.CategoryData
import CloudApi.Unicode.JoiningData
import CloudApi.Unicode.Normalization
import CloudApi.Unicode.NormalizationData
import CloudApi.Unicode.Runs
import CloudApi.Wait.Poll
import CloudApi.Web.Host
import CloudApi.Web.Idna
import CloudApi.Web.IdnaData
import CloudApi.Web.Percent
import CloudApi.Web.Punycode
import CloudApi.Web.Url
import CloudApi.Yaml.Decode
import CloudApi.Yaml.Document
import CloudApi.Yaml.Parser
import CloudApi.Yaml.Scalar
import CloudApi.Yaml.Scanner
import CloudApi.Yaml.Token
import CloudApi.Proofs.WaitSimulation
import CloudApi.Proofs.HelperWaits
