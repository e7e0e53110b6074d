import Jellyrin.Defs.Api.ClientIds
import Jellyrin.Defs.Api.RemoteImageClients
import Jellyrin.Defs.Auth.Authorization
import Jellyrin.Defs.Auth.LoginLaws
import Jellyrin.Defs.Catalog.CatalogueRuns
import Jellyrin.Defs.Catalog.LocalScanRuns
import Jellyrin.Defs.Catalog.VirtualFolders
import Jellyrin.Defs.CatalogCache.FacetKey
import Jellyrin.Defs.CatalogCache.ListingKey
import Jellyrin.Defs.CatalogCache.SingleFlightLaws
import Jellyrin.Defs.Data.MarkedValues
import Jellyrin.Defs.Dlna.EventingLaws
import Jellyrin.Defs.Items.CatalogQueryLaws
import Jellyrin.Defs.Items.LatestItems
import Jellyrin.Defs.Items.MixedSearch
import Jellyrin.Defs.Items.ParentBrowse
import Jellyrin.Defs.Items.PluginVisibility
import Jellyrin.Defs.Items.SeriesGroupsLaws
import Jellyrin.Defs.Items.SeriesListing
import Jellyrin.Defs.Items.StoredImages
import Jellyrin.Defs.Items.SxeNumbers
import Jellyrin.Defs.Lists.MediaListLaws
import Jellyrin.Defs.LiveTv.ChannelVisibility
import Jellyrin.Defs.LiveTv.ConfigurationLaws
import Jellyrin.Defs.LiveTv.GuideEntries
import Jellyrin.Defs.LiveTv.HlsEviction
import Jellyrin.Defs.LiveTv.HlsSessionLaws
import Jellyrin.Defs.LiveTv.M3u
import Jellyrin.Defs.LiveTv.RecordingStart
import Jellyrin.Defs.LiveTv.RecordingWindow
import Jellyrin.Defs.LiveTv.SeriesTimers
import Jellyrin.Defs.LiveTv.SharedStreamLaws
import Jellyrin.Defs.LiveTv.XmltvIds
import Jellyrin.Defs.Lock.WeakKeyedLaws
import Jellyrin.Defs.Lyrics.Lrc
import Jellyrin.Defs.Metadata.FacetOrder
import Jellyrin.Defs.Metadata.Facets
import Jellyrin.Defs.Metadata.KeyPriority
import Jellyrin.Defs.Metadata.PositionOrder
import Jellyrin.Defs.Metadata.Selectors
import Jellyrin.Defs.Migrate.CanonicalJsonLaws
import Jellyrin.Defs.Playback.DedupeKey
import Jellyrin.Defs.Playback.DeliveryLaws
import Jellyrin.Defs.Playback.FrameRateLaws
import Jellyrin.Defs.Playback.HlsTimeline
import Jellyrin.Defs.Playback.MasterPlaylistLaws
import Jellyrin.Defs.Playback.OnDemandHlsLaws
import Jellyrin.Defs.Playback.OutputLaws
import Jellyrin.Defs.Playback.VttSegments
import Jellyrin.Defs.PluginRpc.JsonLine
import Jellyrin.Defs.PluginRpc.StdioClientLaws
import Jellyrin.Defs.PluginVod.ArtworkPrefetch
import Jellyrin.Defs.PluginVod.ImageBytes
import Jellyrin.Defs.PluginVod.ImageDimensions
import Jellyrin.Defs.PluginVod.ManifestProbe
import Jellyrin.Defs.Plugins.BackupRuns
import Jellyrin.Defs.Plugins.CapabilityResponse
import Jellyrin.Defs.Secrets.Keyring
import Jellyrin.Defs.Secrets.LogRedaction
import Jellyrin.Defs.Secrets.Namespace
import Jellyrin.Defs.Secrets.PlaintextSecrets
import Jellyrin.Defs.Secrets.Redaction
import Jellyrin.Defs.Secrets.ReferencesLaws
import Jellyrin.Defs.Secrets.Vault
import Jellyrin.Defs.SyncPlay.GroupState
import Jellyrin.Defs.SyncPlay.Isolation
import Jellyrin.Defs.Transcode.CommandConsistency
import Jellyrin.Defs.Transcode.CommandLane
import Jellyrin.Defs.Transcode.DiskQuotaPublication
import Jellyrin.Defs.Transcode.StderrProgress
import Jellyrin.Defs.TvProjection.NextUpLaws
import Jellyrin.Defs.Xtream.CatalogIds
import Jellyrin.Defs.Xtream.Duration
import Jellyrin.Defs.Xtream.EpgLaws
import Jellyrin.Defs.Xtream.LiveImportLaws
import Jellyrin.Defs.Xtream.ProviderAddress
import Jellyrin.Defs.Xtream.SeriesStageLaws
