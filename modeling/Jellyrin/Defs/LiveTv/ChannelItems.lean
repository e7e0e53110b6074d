import Jellyrin.Defs.Items.ItemsQuery
import Jellyrin.Defs.LiveTv.GuideQuery

/-! The channels of Live TV, as its views and the Channels API list them. -/

namespace Jellyrin.LiveTv.Guide

open Ascii Text

structure ChannelsQuery where
  startIndex : Option Nat
  limit : Option Nat
  searchTerm : Option String

structure PluginChannelProviderSnapshot where
  id : String
  included : Bool
  items : List Json

/-- Where the rows of the Channels API come from besides Live TV: the configuration under
`channels` and the plugins, with the rendering of their items. -/
structure ChannelSources where
  channelsConfiguration : Option Json
  pluginChannelProviderSnapshots : List PluginChannelProviderSnapshot
  channelContentItemJson : Json → String → Nat → Json
  /-- `lower(name) LIKE lower('%term%')` of the database, for a name and a term. -/
  nameMatches : String → String → Bool

/-! The tuners of a user. -/

structure TunerAccess where
  tunerIds : List String
  trimmed : ∀ id ∈ tunerIds, Json.trim id = id ∧ id ≠ ""

def authorizedLiveTvTunerIds (config : Json) (declaresAuthorization mayAccess : Json → Bool) :
    Option TunerAccess :=
  let tuners := ((config.get "TunerHosts").bind Json.asArray).getD []
  let guarded := tuners.any fun tuner =>
    (tuner.stringField "Id").isSome && declaresAuthorization tuner
  let allowed := tuners.filter fun tuner => !declaresAuthorization tuner || mayAccess tuner
  if guarded then
    some ⟨allowed.filterMap (·.stringField "Id"), fun id hid => by
      obtain ⟨tuner, -, htuner⟩ := List.mem_filterMap.mp hid
      exact Json.trim_stringField htuner⟩
  else none

/-! Pages of channels. -/

def trimmedSearchTerm (searchTerm : Option String) : Option String :=
  (searchTerm.map Json.trim).filter (· ≠ "")

def ChannelSources.liveTvChannelPage (sources : ChannelSources) (db : Database)
    (query : LiveTvChannelQuery) (searchTerm : Option String) : List LiveTvChannelRecord × Nat :=
  let rows := (db.channels.filter query.selects).filter fun record =>
    (trimmedSearchTerm searchTerm).all (sources.nameMatches record.name)
  let page :=
    match query.limit with
    | some limit => (rows.drop query.startIndex).take limit
    | none => rows
  (page, rows.length)

def itemMatchesSearch (searchTerm : String) (item : Json) : Bool :=
  (item.stringFields ["Name", "SortName", "Id", "Number", "ChannelNumber"]).any fun value =>
    contains (toAsciiLowercase value) (toAsciiLowercase searchTerm)

def filterChannelItemsBySearch (items : List Json) (searchTerm : Option String) : List Json :=
  match trimmedSearchTerm searchTerm with
  | none => items
  | some searchTerm => items.filter (itemMatchesSearch searchTerm)

def queryResultFrom (items : List Json) (startIndex : Nat) (limit : Option Nat) : QueryResult :=
  let page :=
    match limit with
    | some limit => (items.drop startIndex).take limit
    | none => items.drop startIndex
  ⟨items.length, startIndex, page⟩

/-! Channels of other providers. -/

def channelProviderIsHealthy (provider : Json) : Bool :=
  (provider.get "Enabled").bind Json.asBool ≠ some false &&
    (provider.stringField "FailureMode").isNone &&
    !(provider.stringField "Status").any fun status =>
      ["failed", "malfunctioned", "timeout"].any (eqIgnoreAsciiCase status)

def providerId (provider : Json) : Option String :=
  (provider.stringField "Id").or (provider.stringField "Name")

namespace ChannelSources

variable (sources : ChannelSources)

def configuredChannelProviderDescriptors : List Json :=
  ((sources.channelsConfiguration.bind (·.get "Providers")).bind Json.asArray).getD []

def configuredChannelContentItems (provider : Json) (providerId : String) : List Json :=
  (Surroundings.elements provider "Items").map fun (item, index) =>
    sources.channelContentItemJson item providerId index

def providerContentItems (channelId : Option String) : List Json :=
  let configured := (sources.configuredChannelProviderDescriptors.filter
    channelProviderIsHealthy).flatMap fun provider =>
      match providerId provider with
      | some providerId =>
        if channelId.all (eqIgnoreAsciiCase · providerId) then
          sources.configuredChannelContentItems provider providerId
        else []
      | none => []
  let plugins := (sources.pluginChannelProviderSnapshots.filter (·.included)).flatMap
    fun snapshot => if channelId.all (eqIgnoreAsciiCase · snapshot.id) then snapshot.items else []
  configured ++ plugins

end ChannelSources

inductive ChannelProviderAvailability where
  | available
  | knownUnavailable
  | unknown
  deriving DecidableEq

def availableIf (usable : Bool) : ChannelProviderAvailability :=
  if usable then .available else .knownUnavailable

/-! The endpoints. -/

def isLiveTv (channelId : String) : Bool := eqIgnoreAsciiCase channelId "livetv"

def setLiveTvChannelId (item : Json) : Json := item.set "ChannelId" (.string "livetv")

def requestedTunerIds (allowed : Option (List String)) (tunerId : Option String) :
    Option (List String) :=
  match allowed, tunerId with
  | some allowed, some requested => (allowed.find? (eqIgnoreAsciiCase · requested)).map ([·])
  | some allowed, none => if allowed.isEmpty then none else some allowed
  | none, some requested => some [requested]
  | none, none => some []

namespace Surroundings

variable (env : Surroundings) (sources : ChannelSources)

def channelProviderAvailability (db : Database) (channelId : String) :
    ChannelProviderAvailability :=
  if isLiveTv channelId then
    if db.liveTvChannelCount .all = 0 ∧ (env.liveTvChannelItems db.config).isEmpty then .unknown
    else .available
  else
    match sources.configuredChannelProviderDescriptors.find? fun provider =>
      (providerId provider).any (eqIgnoreAsciiCase · channelId) with
    | some provider => availableIf (channelProviderIsHealthy provider)
    | none =>
      match sources.pluginChannelProviderSnapshots.find? fun snapshot =>
        eqIgnoreAsciiCase snapshot.id channelId with
      | some snapshot => availableIf snapshot.included
      | none => .unknown

def liveTvContentItems (db : Database) : List Json :=
  let (records, total) :=
    sources.liveTvChannelPage db { LiveTvChannelQuery.all with limit := some 100 } none
  if 0 < total then records.map fun record => setLiveTvChannelId (env.liveTvChannelRecordToJson record)
  else (env.liveTvChannelItems db.config).map setLiveTvChannelId

def channelContentItems (db : Database) (channelId : Option String) : List Json :=
  (if channelId.all isLiveTv then env.liveTvContentItems sources db else []) ++
    sources.providerContentItems channelId

def channelLatestItems (db : Database) (query : ChannelsQuery) : QueryResult :=
  let items := filterChannelItemsBySearch (env.channelContentItems sources db none)
    query.searchTerm
  let items := items.insertionSort fun left right => channelSortName left ≤ channelSortName right
  queryResultFrom items (query.startIndex.getD 0) (some (min (query.limit.getD 20) 100))

def channelItems (db : Database) (query : ChannelsQuery) (channelId : String) :
    Except Api.ApiError QueryResult :=
  let (records, total) := sources.liveTvChannelPage db
    { LiveTvChannelQuery.all with
      startIndex := query.startIndex.getD 0
      limit := some (min (query.limit.getD 100) 500) } query.searchTerm
  if isLiveTv channelId && 0 < total then
    .ok ⟨total, query.startIndex.getD 0,
      records.map fun record => setLiveTvChannelId (env.liveTvChannelRecordToJson record)⟩
  else if env.channelProviderAvailability sources db channelId = .knownUnavailable then
    .error (.notFound "Channel not found")
  else
    .ok (queryResultFrom
      (filterChannelItemsBySearch (env.channelContentItems sources db (some channelId))
        query.searchTerm)
      (query.startIndex.getD 0) query.limit)

def liveTvChannelItemsResult (db : Database) (query : Items.ItemsQuery) (tunerId : Option String) :
    QueryResult :=
  match requestedTunerIds query.allowedPluginTunerIds tunerId with
  | none => ⟨0, 0, []⟩
  | some tunerIds =>
    let limit := min (query.limit.getD 25) 500
    let (records, total) := sources.liveTvChannelPage db
      { LiveTvChannelQuery.all with
        startIndex := query.startIndex.getD 0
        limit := some limit
        tunerIds } query.searchTerm
    if 0 < total then
      ⟨total, query.startIndex.getD 0, records.map env.liveTvChannelRecordToJson⟩
    else
      let items := (env.liveTvChannelItems db.config).filter fun item =>
        liveTvItemIsVisibleToTuners item query.allowedPluginTunerIds
      let items := items.filter fun item => tunerId.all fun tunerId =>
        (item.stringField "TunerHostId").any (eqIgnoreAsciiCase · tunerId)
      let items := filterChannelItemsBySearch items query.searchTerm
      queryResultFrom items (min (query.startIndex.getD 0) items.length) (some limit)

end Surroundings

end Jellyrin.LiveTv.Guide
