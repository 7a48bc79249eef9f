import IpCountryApi.Library.Coroutine
import IpCountryApi.Library.Interleaving
import IpCountryApi.Library.SequentialRuns
import IpCountryApi.Library.Numerals
import IpCountryApi.Domain.AddressText
import IpCountryApi.Library.JoinedText
import IpCountryApi.Domain.AddressRoundTrip
import IpCountryApi.Domain.Strings
import IpCountryApi.Domain.Models
import IpCountryApi.Domain.IpValidation
import IpCountryApi.Domain.RoutableAddresses
import IpCountryApi.Library.LabelledFamily
import IpCountryApi.Library.PromQL
import IpCountryApi.Observability.Metrics
import IpCountryApi.Observability.RecordingRules
import IpCountryApi.Domain.Json
import IpCountryApi.Http.Responses
import IpCountryApi.Execution.Effects
import IpCountryApi.Observability.Logging
import IpCountryApi.Providers.IPinfo
import IpCountryApi.Providers.PayloadGrammar
import IpCountryApi.Library.UriComponents
import IpCountryApi.Providers.BaseUrl
import IpCountryApi.Library.Environments
import IpCountryApi.Providers.RetryLoop
import IpCountryApi.Providers.ProviderOutcomes
import IpCountryApi.Services.IpLookup
import IpCountryApi.Execution.Deployment
import IpCountryApi.Execution.MetricTotals
import IpCountryApi.Library.Playback
import IpCountryApi.Services.LookupRuns
import IpCountryApi.Services.SharedCache
import IpCountryApi.Services.FailureAtomicity
import IpCountryApi.Services.CacheFreshness
import IpCountryApi.Services.MemoTable
import IpCountryApi.Repositories.CanonicalKeys
import IpCountryApi.Services.StorableAnswers
import IpCountryApi.Services.MetricRuns
import IpCountryApi.Services.MetricConservation
import IpCountryApi.Http.Requests
import IpCountryApi.Http.Routes
import IpCountryApi.Http.Errors
import IpCountryApi.Services.Lifespan
import IpCountryApi.Services.FailureClasses
import IpCountryApi.Http.Application
import IpCountryApi.Library.Transcripts
import IpCountryApi.Http.Faults
import IpCountryApi.Http.ServiceRuns
import IpCountryApi.Http.RouterRuns
import IpCountryApi.Http.RequestRuns
import IpCountryApi.Http.Serving
import IpCountryApi.Http.ServeRuns
import IpCountryApi.Http.HttpAccounting
import IpCountryApi.Http.MetricVocabulary
import IpCountryApi.Http.RequestCorrelation
import IpCountryApi.Http.ErrorEnvelopes
import IpCountryApi.Http.ExceptionLeak
import IpCountryApi.Http.ErrorCounting
import IpCountryApi.Http.RatioRules
import IpCountryApi.Static.App
import IpCountryApi.Static.PageScripts
import IpCountryApi.Static.PageRuns
import IpCountryApi.Static.PageTimeouts
import IpCountryApi.Library.Replacement
import IpCountryApi.Library.Dict
import IpCountryApi.Library.ConfigParser
import IpCountryApi.Database.Urls
import IpCountryApi.Domain.AddressLengths
import IpCountryApi.Library.ShelfPacking
import IpCountryApi.Dashboards.Layout
import IpCountryApi.Dashboards.PackedRows
import IpCountryApi.Library.MarkedPieces
import IpCountryApi.Dashboards.Expressions
import IpCountryApi.Dashboards.Matchers
import IpCountryApi.Dashboards.RenderedMatchers
import IpCountryApi.Dashboards.RenderedExpressions
import IpCountryApi.Domain.FloatText
import IpCountryApi.Library.Overwrites
import IpCountryApi.Dashboards.Validation
import IpCountryApi.Dashboards.ValidationRuns
import IpCountryApi.Dashboards.ValidationReports
import IpCountryApi.Library.NearestRank
import IpCountryApi.Library.WorkerPool
import IpCountryApi.Library.Counters
import IpCountryApi.Operations.TrafficGenerator
import IpCountryApi.Operations.TrafficMix
import IpCountryApi.Operations.TrafficRuns
import IpCountryApi.Operations.PodRecovery
import IpCountryApi.Operations.PodRecoveryRuns
import IpCountryApi.Library.Within
import IpCountryApi.Library.Parallel
import IpCountryApi.Services.LookupScope
import IpCountryApi.Http.OuterLayers
import IpCountryApi.Http.Confinement
import IpCountryApi.Http.TokenSecrecy
import IpCountryApi.Http.HealthProbes
import IpCountryApi.Static.PageAnswers
import IpCountryApi.Static.PageService
import IpCountryApi.Library.Alerting
import IpCountryApi.Observability.ErrorBudget
import IpCountryApi.Http.BurnAlerts
import IpCountryApi.Library.Validated
import IpCountryApi.Configuration.Settings
import IpCountryApi.Http.Startup
