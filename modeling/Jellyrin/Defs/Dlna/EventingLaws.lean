import Jellyrin.Defs.Dlna.Eventing

namespace Jellyrin.Dlna

open PluginVod Transition

variable {parseUrl : String → Option Url} {peerIp : IpAddr} {s t : EventState} {sid : String}
  {subscriptions : Subscriptions} {request : EventRequest} {answer : Answer}
  {service : DlnaEventService} {now : Nat} {action : EventAction}

/-! Callback URLs. -/

/-- The text of a URL of the peer: plain HTTP to its address, and nothing but an address. -/
def IsAt (parseUrl : String → Option Url) (peerIp : IpAddr) (callbackUrl : String) : Prop :=
  ∃ candidate url host callbackIp, parseUrl candidate = some url ∧ url.text = callbackUrl ∧
    candidate.utf8ByteSize ≤ upnpEventMaxCallbackUrlBytes ∧ url.scheme = "http" ∧
    url.username = "" ∧ url.password = none ∧ url.fragment = none ∧ url.hostStr = some host ∧
    IpAddr.parse host = some callbackIp ∧ normalizeEventPeerIp callbackIp = peerIp

theorem isAt_of_eventCallbackUrl {candidate callbackUrl : String}
    (h : eventCallbackUrl parseUrl peerIp candidate = some callbackUrl) :
    IsAt parseUrl peerIp callbackUrl := by
  simp only [eventCallbackUrl] at h
  split at h
  · cases h
  · rename_i hcandidate
    obtain ⟨url, hurl, h⟩ := Option.bind_eq_some_iff.mp h
    split at h
    · cases h
    · rename_i hparts
      obtain ⟨callbackIp, hip, h⟩ := Option.bind_eq_some_iff.mp h
      obtain ⟨host, hhost, hip⟩ := Option.bind_eq_some_iff.mp hip
      split at h
      · cases h
      · rename_i hpeer
        simp only [Bool.or_eq_true, decide_eq_true_eq, not_or, not_lt] at hcandidate
        simp only [Bool.or_eq_true, not_or, bne_iff_ne, ne_eq, not_not, Bool.not_eq_true',
          Option.isSome_iff_ne_none, Bool.not_eq_false, String.isEmpty_iff] at hparts
        obtain ⟨⟨⟨⟨⟨hscheme, husername⟩, hpassword⟩, hfragment⟩, -⟩, -⟩ := hparts
        exact ⟨candidate, url, host, callbackIp, hurl, Option.some.inj h, hcandidate.2, hscheme,
          husername, hpassword, hfragment, hhost, hip, not_not.mp hpeer⟩

theorem eventCallbackUrlsFrom_valid (fuel : Nat) (cs : List Char) {urls : List String}
    (hat : ∀ url ∈ urls, IsAt parseUrl peerIp url)
    (hfew : urls.length ≤ upnpEventMaxCallbackUrls) :
    (∀ url ∈ eventCallbackUrlsFrom parseUrl peerIp fuel cs urls, IsAt parseUrl peerIp url) ∧
      (eventCallbackUrlsFrom parseUrl peerIp fuel cs urls).length ≤
        upnpEventMaxCallbackUrls := by
  fun_induction eventCallbackUrlsFrom parseUrl peerIp fuel cs urls with
  | case1 => exact ⟨hat, hfew⟩
  | case5 fuel afterOpen urls candidate remaining _ url hurl hlength ih =>
    refine ih (fun other hother => ?_) (not_lt.mp hlength)
    obtain hother | hother := List.mem_append.mp hother
    · exact hat other hother
    · rw [List.mem_singleton.mp hother]
      exact isAt_of_eventCallbackUrl hurl
  | _ => simp

/-! Requests. -/

def EventRequest.names (request : EventRequest) (sid : String) : Bool :=
  (eventHeader request.headers "sid").any fun text => (normalizeEventSid text).toOption == some sid

def EventRequest.cancels (request : EventRequest) (sid : String) (service : DlnaEventService)
    (peerIp : IpAddr) : Bool :=
  request.method == "UNSUBSCRIBE" && request.names sid && request.service = service &&
    normalizeEventPeerIp request.peerIp = peerIp

structure Grant where
  service : DlnaEventService
  peerIp : IpAddr
  callbackUrls : List String

structure Grant.Valid (parseUrl : String → Option Url) (grant : Grant) : Prop where
  nonempty : grant.callbackUrls ≠ []
  few : grant.callbackUrls.length ≤ upnpEventMaxCallbackUrls
  isAt : ∀ url ∈ grant.callbackUrls, IsAt parseUrl grant.peerIp url

def Grant.subscription (grant : Grant) (changes expiresAt : Nat) : DlnaEventSubscription :=
  ⟨grant.service, grant.peerIp, expiresAt, grant.callbackUrls, UInt32.ofNat (changes + 1)⟩

inductive Answers (parseUrl : String → Option Url) (subscriptions : Subscriptions)
    (request : EventRequest) : Answer → Prop where
  | kept (response : EventResponse) : Answers parseUrl subscriptions request
      { response, subscriptions }
  | renewed {response : EventResponse} {sid : String} {subscription : DlnaEventSubscription}
      {expiresAt : Nat} (hlookup : subscriptions.lookup sid = some subscription)
      (hlease : expiresAt ≤ eventExpiresAt request.now upnpEventMaxTimeoutSeconds) :
      Answers parseUrl subscriptions request {
        response, subscriptions := subscriptions.insert sid { subscription with expiresAt } }
  | granted {response : EventResponse} {callback nt : String} {expiresAt : Nat}
      (hmethod : request.method = "SUBSCRIBE") (hsid : eventHeader request.headers "sid" = none)
      (hcallback : eventHeader request.headers "callback" = some callback)
      (hnt : eventHeader request.headers "nt" = some nt)
      (hevent : Ascii.eqIgnoreAsciiCase nt "upnp:event" = true)
      (hurls : eventCallbackUrls parseUrl (normalizeEventPeerIp request.peerIp) callback ≠ [])
      (hroom : subscriptions.size < upnpEventMaxSubscriptions)
      (hlease : expiresAt ≤ eventExpiresAt request.now upnpEventMaxTimeoutSeconds) :
      Answers parseUrl subscriptions request {
        response
        subscriptions := subscriptions.insert (eventSid request.newId) ⟨request.service,
          normalizeEventPeerIp request.peerIp, expiresAt,
          eventCallbackUrls parseUrl (normalizeEventPeerIp request.peerIp) callback, 1⟩
        initial := some ⟨eventSid request.newId,
          eventCallbackUrls parseUrl (normalizeEventPeerIp request.peerIp) callback, 0⟩ }
  | cancelled {response : EventResponse} {sid : String} {subscription : DlnaEventSubscription}
      (hlookup : subscriptions.lookup sid = some subscription)
      (hcancels : request.cancels sid subscription.service subscription.peerIp = true) :
      Answers parseUrl subscriptions request
        { response, subscriptions := subscriptions.erase sid }

theorem normalizeEventPeerIp_idem (peerIp : IpAddr) :
    normalizeEventPeerIp (normalizeEventPeerIp peerIp) = normalizeEventPeerIp peerIp := by
  cases peerIp with
  | v4 => rfl
  | v6 address => cases hmapped : address.toIpv4Mapped <;> simp [normalizeEventPeerIp, hmapped]

theorem eventCallbackUrls_valid (service : DlnaEventService) {callback : String}
    (h : eventCallbackUrls parseUrl (normalizeEventPeerIp peerIp) callback ≠ []) :
    Grant.Valid parseUrl ⟨service, normalizeEventPeerIp peerIp,
      eventCallbackUrls parseUrl (normalizeEventPeerIp peerIp) callback⟩ := by
  have hloop : eventCallbackUrls parseUrl (normalizeEventPeerIp peerIp) callback =
      eventCallbackUrlsFrom parseUrl (normalizeEventPeerIp peerIp) (Json.trim callback).toList.length
        (Json.trim callback).toList [] := by
    rw [eventCallbackUrls, normalizeEventPeerIp_idem]
  rw [hloop] at h ⊢
  have hnone : ∀ url ∈ ([] : List String), IsAt parseUrl (normalizeEventPeerIp peerIp) url := by simp
  have hvalid := eventCallbackUrlsFrom_valid (Json.trim callback).toList.length
    (Json.trim callback).toList hnone (Nat.zero_le _)
  generalize eventCallbackUrlsFrom _ _ _ _ _ = callbackUrls at h hvalid ⊢
  exact ⟨h, hvalid.2, hvalid.1⟩

theorem eventExpiresAt_le (headers : HeaderMap) (now : Nat) :
    eventExpiresAt now (requestedEventTimeout headers) ≤
      eventExpiresAt now upnpEventMaxTimeoutSeconds := by
  have htimeout : requestedEventTimeout headers ≤ upnpEventMaxTimeoutSeconds := by
    rw [requestedEventTimeout]
    split
    · exact max_le (by decide) (min_le_right _ _)
    · decide
  exact Nat.add_le_add_left (Nat.mul_le_mul_right _ htimeout) now

theorem subscribe_answers (hmethod : request.method = "SUBSCRIBE")
    (h : subscribeEventResponse parseUrl subscriptions request = .ok answer) :
    Answers parseUrl subscriptions request answer := by
  simp only [subscribeEventResponse] at h
  split at h
  · split at h
    · cases h
    · cases hsid : normalizeEventSid ‹_› with
      | error => simp [hsid, Except.map] at h
      | ok sid =>
        simp only [hsid, Except.map, Except.ok.injEq] at h
        split at h
        · exact h ▸ .kept _
        · rename_i subscription hlookup
          split at h
          · exact h ▸ .kept _
          · split at h
            · exact h ▸ .kept _
            · exact h ▸ .renewed hlookup (eventExpiresAt_le _ _)
  · rename_i hsid
    split at h
    · exact Except.ok.inj h ▸ .kept _
    · rename_i hheaders
      split at h
      · exact Except.ok.inj h ▸ .kept _
      · rename_i hurls
        split at h
        · exact Except.ok.inj h ▸ .kept _
        · rename_i hroom
          cases hcallback : eventHeader request.headers "callback" with
          | none => simp [hcallback] at hheaders
          | some callback =>
            cases hnt : eventHeader request.headers "nt" with
            | none => simp [hnt] at hheaders
            | some nt =>
              simp only [hcallback, Option.getD_some] at hurls h
              have hevent : Ascii.eqIgnoreAsciiCase nt "upnp:event" = true := by
                simp only [hnt, Option.all_some, Bool.or_eq_true, not_or, Bool.not_eq_true',
                  Bool.not_eq_false] at hheaders
                exact hheaders.2
              exact Except.ok.inj h ▸ .granted hmethod hsid hcallback hnt hevent
                (mt List.isEmpty_iff.mpr hurls) (not_le.mp hroom) (eventExpiresAt_le _ _)

theorem unsubscribe_answers (hmethod : request.method = "UNSUBSCRIBE")
    (h : unsubscribeEventResponse subscriptions request = .ok answer) :
    Answers parseUrl subscriptions request answer := by
  simp only [unsubscribeEventResponse] at h
  split at h
  · exact Except.ok.inj h ▸ .kept _
  · rename_i text htext
    cases hsid : normalizeEventSid text with
    | error => simp [hsid, Except.map] at h
    | ok sid =>
      simp only [hsid, Except.map, Except.ok.injEq] at h
      split at h
      · exact h ▸ .kept _
      · rename_i subscription hlookup
        split at h
        · exact h ▸ .kept _
        · rename_i hservice
          split at h
          · exact h ▸ .kept _
          · rename_i hpeer
            have hnames : request.names sid = true := by
              simp [EventRequest.names, htext, hsid, Except.toOption]
            exact h ▸ .cancelled hlookup (by
              simp [EventRequest.cancels, hmethod, hnames, not_not.mp hservice, not_not.mp hpeer])

theorem answers_of_response
    (h : eventSubscriptionResponse parseUrl subscriptions request = .ok answer) :
    Answers parseUrl subscriptions request answer := by
  simp only [eventSubscriptionResponse] at h
  split at h
  · exact subscribe_answers ‹_› h
  · exact unsubscribe_answers ‹_› h
  · exact Except.ok.inj h ▸ .kept _

theorem size_answers (h : Answers parseUrl subscriptions request answer)
    (hsize : subscriptions.size ≤ upnpEventMaxSubscriptions) :
    answer.subscriptions.size ≤ upnpEventMaxSubscriptions := by
  cases h with
  | kept => exact hsize
  | renewed hlookup =>
    exact (HashMap.size_insert_of_mem _ (HashMap.mem_of_lookup hlookup)).trans_le hsize
  | granted _ _ _ _ _ _ hroom => exact (HashMap.size_insert_le _ _ _).trans hroom
  | cancelled => exact (HashMap.size_erase_le _ _).trans hsize

theorem size_le_of_reachable (h : (eventMachine parseUrl).Reachable s) :
    s.subscriptions.size ≤ upnpEventMaxSubscriptions := by
  refine Machine.Reachable.invariant (I := fun s => s.subscriptions.size ≤ _) (Nat.zero_le _)
    (fun s action t hsize hstep => ?_) h
  have hclean (now : Nat) : HashMap.size (cleanupExpiredEventSubscriptions now s.subscriptions) ≤
      upnpEventMaxSubscriptions := (HashMap.size_retain_le _ _).trans hsize
  cases action with
  | cleanup now => exact Option.some.inj hstep ▸ hclean now
  | request request =>
    simp only [eventMachine, eventStep] at hstep
    split at hstep
    · cases hstep
    · split at hstep
      · exact Option.some.inj hstep ▸ hsize
      · exact Option.some.inj hstep ▸ size_answers (answers_of_response ‹_›) hsize
  | notify service now =>
    have hsame : t.subscriptions.keys = (cleanupExpiredEventSubscriptions now s.subscriptions).keys := by
      simp [← Option.some.inj hstep, HashMap.mapValues, AList.keys, List.keys]
    rw [HashMap.size, hsame]
    exact hclean now

/-! The grammar of the header with the callbacks. -/

structure CallbackEntry where
  candidate : List Char
  gap : List Char
  url : String

def CallbackEntry.text (entry : CallbackEntry) : List Char :=
  '<' :: (entry.candidate ++ '>' :: entry.gap)

structure CallbackEntry.Accepted (parseUrl : String → Option Url) (peerIp : IpAddr)
    (entry : CallbackEntry) : Prop where
  closed : '>' ∉ entry.candidate
  blank : ∀ c ∈ entry.gap, Json.isWhitespace c = true
  read : eventCallbackUrl parseUrl peerIp (Json.trim (String.ofList entry.candidate)) =
    some entry.url

theorem eventCallbackUrlsFrom_text {entries : List CallbackEntry} {urls : List String} {fuel : Nat}
    (haccepted : ∀ entry ∈ entries, entry.Accepted parseUrl peerIp)
    (hfew : urls.length + entries.length ≤ upnpEventMaxCallbackUrls)
    (hfuel : (entries.flatMap CallbackEntry.text).length ≤ fuel) :
    eventCallbackUrlsFrom parseUrl peerIp fuel (entries.flatMap CallbackEntry.text) urls =
      urls ++ entries.map CallbackEntry.url := by
  induction entries generalizing urls fuel with
  | nil => simp [eventCallbackUrlsFrom]
  | cons entry entries ih =>
    obtain ⟨hentry, hentries⟩ := List.forall_mem_cons.mp haccepted
    have hsplit : splitOnce (· == '>')
        (entry.candidate ++ '>' :: (entry.gap ++ entries.flatMap CallbackEntry.text)) =
        some (entry.candidate, entry.gap ++ entries.flatMap CallbackEntry.text) :=
      splitOnce_append (fun c hc => by simpa using fun heq : c = '>' => hentry.closed (heq ▸ hc)) rfl
    have hrest : (entry.gap ++ entries.flatMap CallbackEntry.text).dropWhile Json.isWhitespace =
        entries.flatMap CallbackEntry.text := by
      rw [List.dropWhile_append_of_pos hentry.blank]
      cases entries with
      | nil => rfl
      | cons next entries => rfl
    simp only [List.flatMap_cons, CallbackEntry.text, List.cons_append, List.append_assoc,
      List.length_cons, List.length_append] at hfuel hfew ⊢
    obtain ⟨fuel, rfl⟩ := Nat.exists_eq_add_one.mpr (Nat.lt_of_lt_of_le (Nat.succ_pos _) hfuel)
    have hroom : ¬upnpEventMaxCallbackUrls < (urls ++ [entry.url]).length := by
      rw [List.length_append, List.length_singleton]
      omega
    simp only [eventCallbackUrlsFrom, hsplit, hentry.read, if_neg hroom, hrest]
    rw [ih hentries (by rw [List.length_append, List.length_singleton]; omega) (by omega)]
    simp

theorem exists_entries_of_eventCallbackUrlsFrom {fuel : Nat} {cs : List Char} {urls : List String}
    (hne : eventCallbackUrlsFrom parseUrl peerIp fuel cs urls ≠ []) :
    ∃ entries : List CallbackEntry, (∀ entry ∈ entries, entry.Accepted parseUrl peerIp) ∧
      cs = entries.flatMap CallbackEntry.text ∧
      eventCallbackUrlsFrom parseUrl peerIp fuel cs urls =
        urls ++ entries.map CallbackEntry.url := by
  fun_induction eventCallbackUrlsFrom parseUrl peerIp fuel cs urls with
  | case1 => exact ⟨[], by simp, rfl, by simp⟩
  | case5 fuel afterOpen urls candidate remaining hsplit url hurl _ ih =>
    obtain ⟨entries, haccepted, hrest, hresult⟩ := ih hne
    obtain ⟨close, hclose, rfl, hcandidate⟩ := splitOnce_eq_some hsplit
    obtain rfl : close = '>' := by simpa using hclose
    refine ⟨⟨candidate, remaining.takeWhile Json.isWhitespace, url⟩ :: entries, ?_, ?_, ?_⟩
    · refine List.forall_mem_cons.mpr ⟨⟨fun hmem => ?_, fun c hc => ?_, hurl⟩, haccepted⟩
      · simpa using hcandidate '>' hmem
      · exact List.mem_takeWhile_imp hc
    · rw [List.flatMap_cons, ← hrest]
      simp [CallbackEntry.text]
    · rw [hresult]
      simp
  | _ => exact absurd rfl hne

theorem eventCallbackUrls_eq_iff {callback : String} {urls : List String} :
    eventCallbackUrls parseUrl (normalizeEventPeerIp peerIp) callback = urls ∧ urls ≠ [] ↔
      ∃ entries : List CallbackEntry, entries ≠ [] ∧
        entries.length ≤ upnpEventMaxCallbackUrls ∧
        (∀ entry ∈ entries, entry.Accepted parseUrl (normalizeEventPeerIp peerIp)) ∧
        (Json.trim callback).toList = entries.flatMap CallbackEntry.text ∧
        entries.map CallbackEntry.url = urls := by
  constructor
  · rintro ⟨rfl, hne⟩
    have hfew := (eventCallbackUrls_valid .contentDirectory hne).few
    simp only [eventCallbackUrls, normalizeEventPeerIp_idem] at hne hfew ⊢
    obtain ⟨entries, haccepted, htext, hurls⟩ := exists_entries_of_eventCallbackUrlsFrom hne
    rw [hurls, List.nil_append] at hne hfew ⊢
    exact ⟨entries, fun hnil => hne (by rw [hnil]; rfl), by rwa [List.length_map] at hfew, haccepted,
      htext, rfl⟩
  · rintro ⟨entries, hne, hfew, haccepted, htext, rfl⟩
    refine ⟨?_, by simpa using hne⟩
    simp only [eventCallbackUrls, normalizeEventPeerIp_idem, htext]
    exact eventCallbackUrlsFrom_text haccepted (by simpa using hfew) le_rfl

/-! The life of a subscription. -/

def Grant.notification (grant : Grant) (sid : String) (seq : Nat) : Numbered :=
  ⟨grant.service, grant.peerIp, sid, grant.callbackUrls, UInt32.ofNat seq⟩

def Grant.stream (grant : Grant) (sid : String) (count : Nat) : List Numbered :=
  (List.range count).map (grant.notification sid)

inductive Lifecycle where
  | unused
  | active (grant : Grant) (changes expiresAt : Nat)
  | ended (grant : Grant) (changes : Nat)

namespace Lifecycle

def numbered (sid : String) : Lifecycle → List Numbered
  | .unused => []
  | .active grant changes _ | .ended grant changes => grant.stream sid (changes + 1)

def subscription : Lifecycle → Option DlnaEventSubscription
  | .active grant changes expiresAt => some (grant.subscription changes expiresAt)
  | _ => none

def Valid (parseUrl : String → Option Url) : Lifecycle → Prop
  | .unused => True
  | .active grant _ _ | .ended grant _ => grant.Valid parseUrl

def cleaned (now : Nat) : Lifecycle → Lifecycle
  | .active grant changes expiresAt =>
    if now < expiresAt then .active grant changes expiresAt else .ended grant changes
  | life => life

def notified (service : DlnaEventService) : Lifecycle → Lifecycle
  | .active grant changes expiresAt =>
    if grant.service = service then .active grant (changes + 1) expiresAt
    else .active grant changes expiresAt
  | life => life

inductive Moves (parseUrl : String → Option Url) (sid : String) :
    EventAction → Lifecycle → Lifecycle → Prop where
  | cleanup (now : Nat) (life : Lifecycle) :
      Moves parseUrl sid (.cleanup now) life (life.cleaned now)
  | notify (service : DlnaEventService) (now : Nat) (life : Lifecycle) :
      Moves parseUrl sid (.notify service now) life ((life.cleaned now).notified service)
  | keep (request : EventRequest) (life : Lifecycle) :
      Moves parseUrl sid (.request request) life life
  | grant {request : EventRequest} {grant : Grant} {expiresAt : Nat}
      (hvalid : grant.Valid parseUrl) :
      Moves parseUrl sid (.request request) .unused (.active grant 0 expiresAt)
  | renew {request : EventRequest} {grant : Grant} {changes expiresAt later : Nat} :
      Moves parseUrl sid (.request request) (.active grant changes expiresAt)
        (.active grant changes later)
  | cancel {request : EventRequest} {grant : Grant} {changes expiresAt : Nat}
      (h : request.cancels sid grant.service grant.peerIp = true) :
      Moves parseUrl sid (.request request) (.active grant changes expiresAt)
        (.ended grant changes)

end Lifecycle

structure Represents (s : EventState) (sid : String) (life : Lifecycle) : Prop where
  numbered : s.numberedFor sid = life.numbered sid
  subscription : s.subscriptions.lookup sid = life.subscription

variable {life : Lifecycle}

theorem Represents.cleaned (h : Represents s sid life) (now : Nat) :
    Represents { s with subscriptions := cleanupExpiredEventSubscriptions now s.subscriptions } sid
      (life.cleaned now) := by
  have hlookup : (cleanupExpiredEventSubscriptions now s.subscriptions).lookup sid =
      (s.subscriptions.lookup sid).filter fun subscription => now < subscription.expiresAt := by
    apply Option.ext
    intro subscription
    rw [cleanupExpiredEventSubscriptions, HashMap.lookup_retain, Option.filter_eq_some_iff]
  cases life with
  | unused => exact ⟨h.numbered, by rw [hlookup, h.subscription]; rfl⟩
  | ended => exact ⟨h.numbered, by rw [hlookup, h.subscription]; rfl⟩
  | active grant changes expiresAt =>
    rw [h.subscription] at hlookup
    by_cases hlive : now < expiresAt
    · simp only [Lifecycle.cleaned, hlive, if_true]
      exact ⟨h.numbered, by simp [hlookup, Lifecycle.subscription, Grant.subscription, hlive]⟩
    · simp only [Lifecycle.cleaned, hlive, if_false]
      exact ⟨h.numbered, by
        simpa [hlookup, Lifecycle.subscription, Grant.subscription] using not_lt.mp hlive⟩

theorem Grant.stream_succ (grant : Grant) (sid : String) (count : Nat) :
    grant.stream sid (count + 1) = grant.stream sid count ++ [grant.notification sid count] := by
  rw [stream, List.range_succ, List.map_append]
  rfl

theorem countNotification_subscription (grant : Grant) (changes expiresAt : Nat) :
    countNotification grant.service (grant.subscription changes expiresAt) =
      grant.subscription (changes + 1) expiresAt := by
  simp [countNotification, Grant.subscription, UInt32.ofNat_add]

theorem filter_notifications (service : DlnaEventService) (subscriptions : Subscriptions)
    (sid : String) :
    (((subscriptions.entries.filter fun entry => entry.2.service = service).map fun entry =>
      notificationOf entry.1 entry.2).filter fun numbered => numbered.notification.sid = sid) =
      ((subscriptions.lookup sid).filter fun subscription =>
        subscription.service = service).toList.map (notificationOf sid) := by
  have hsid : (fun entry : (_ : String) × DlnaEventSubscription =>
      decide ((notificationOf entry.1 entry.2).notification.sid = sid)) =
      fun entry => decide (entry.1 = sid) := rfl
  rw [List.filter_map, Function.comp_def, hsid, List.filter_filter]
  simp only [Bool.and_comm (decide (_ = sid))]
  rw [← List.filter_filter, HashMap.filter_entries]
  cases subscriptions.lookup sid with
  | none => rfl
  | some subscription =>
    by_cases hservice : subscription.service = service <;> simp [Option.filter, hservice]

theorem Represents.notified (h : Represents s sid life) (service : DlnaEventService) :
    Represents {
      subscriptions := HashMap.mapValues (countNotification service) s.subscriptions
      numbered := s.numbered ++ (s.subscriptions.entries.filter fun entry =>
        entry.2.service = service).map fun entry => notificationOf entry.1 entry.2 } sid
      (life.notified service) := by
  have hlookup := HashMap.lookup_mapValues (countNotification service) s.subscriptions sid
  have hround := filter_notifications service s.subscriptions sid
  rw [h.subscription] at hlookup hround
  have hnumbered := h.numbered
  simp only [EventState.numberedFor] at hnumbered
  cases life with
  | unused => exact ⟨by rw [EventState.numberedFor, List.filter_append, hround, hnumbered]; rfl, hlookup⟩
  | ended =>
    exact ⟨by
      rw [EventState.numberedFor, List.filter_append, hround, hnumbered]
      exact List.append_nil _, hlookup⟩
  | active grant changes expiresAt =>
    by_cases hservice : grant.service = service
    · subst hservice
      simp only [Lifecycle.notified, if_true]
      refine ⟨?_, ?_⟩
      · rw [EventState.numberedFor, List.filter_append, hround, hnumbered]
        simp only [Lifecycle.numbered, Grant.stream_succ _ _ (changes + 1)]
        simp [Lifecycle.subscription, Grant.subscription, notificationOf, Grant.notification]
      · rw [hlookup]
        exact congrArg some (countNotification_subscription grant changes expiresAt)
    · simp only [Lifecycle.notified, hservice, if_false]
      refine ⟨?_, ?_⟩
      · rw [EventState.numberedFor, List.filter_append, hround, hnumbered]
        simp [Lifecycle.subscription, Grant.subscription, hservice]
      · rw [hlookup]
        simp [Lifecycle.subscription, countNotification, Grant.subscription, hservice]

theorem Represents.exists_active {subscription : DlnaEventSubscription}
    (h : Represents s sid life) (hlookup : s.subscriptions.lookup sid = some subscription) :
    ∃ grant changes expiresAt, life = .active grant changes expiresAt ∧
      subscription = grant.subscription changes expiresAt := by
  rw [h.subscription] at hlookup
  cases life with
  | active grant changes expiresAt =>
    exact ⟨grant, changes, expiresAt, rfl, (Option.some.inj hlookup).symm⟩
  | _ => cases hlookup

theorem Represents.eq_unused (h : Represents s sid life) (hnumbered : s.numberedFor sid = []) :
    life = .unused := by
  rw [h.numbered] at hnumbered
  cases life with
  | unused => rfl
  | _ => simp [Lifecycle.numbered, Grant.stream] at hnumbered

theorem moves_of_answers (hanswer : Answers parseUrl s.subscriptions request answer)
    (hunused : s.numberedFor (eventSid request.newId) = []) (h : Represents s sid life) :
    ∃ next, Represents {
        subscriptions := answer.subscriptions
        numbered := s.numbered ++ answer.initial.toList.map fun initial =>
          ⟨request.service, normalizeEventPeerIp request.peerIp, initial⟩ } sid next ∧
      life.Moves parseUrl sid (.request request) next := by
  have hquiet : EventState.numberedFor ⟨answer.subscriptions, s.numbered ++ []⟩ sid =
      life.numbered sid := by
    rw [EventState.numberedFor, List.append_nil]
    exact h.numbered
  cases hanswer with
  | kept => exact ⟨life, ⟨hquiet, h.subscription⟩, .keep request life⟩
  | @renewed _ named subscription later hlookup =>
    by_cases hnamed : sid = named
    · subst hnamed
      obtain ⟨grant, changes, expiresAt, rfl, rfl⟩ := h.exists_active hlookup
      exact ⟨.active grant changes later, ⟨hquiet, AList.lookup_insert _⟩, .renew⟩
    · exact ⟨life, ⟨hquiet, (AList.lookup_insert_ne hnamed).trans h.subscription⟩, .keep request life⟩
  | @granted _ callback _ expiresAt _ _ _ _ _ hurls =>
    have hvalid := eventCallbackUrls_valid request.service hurls
    by_cases hnamed : sid = eventSid request.newId
    · subst hnamed
      obtain rfl := h.eq_unused hunused
      refine ⟨.active _ 0 expiresAt, ⟨?_, AList.lookup_insert _⟩, .grant hvalid⟩
      have hbefore := h.numbered
      simp only [EventState.numberedFor, Lifecycle.numbered] at hbefore
      simp only [EventState.numberedFor, List.filter_append, hbefore]
      simp [Lifecycle.numbered, Grant.stream, Grant.notification]
    · refine ⟨life, ⟨?_, (AList.lookup_insert_ne hnamed).trans h.subscription⟩, .keep request life⟩
      rw [← h.numbered]
      simp [EventState.numberedFor, Ne.symm hnamed]
  | @cancelled _ named subscription hlookup hcancels =>
    by_cases hnamed : sid = named
    · subst hnamed
      obtain ⟨grant, changes, expiresAt, rfl, rfl⟩ := h.exists_active hlookup
      exact ⟨.ended grant changes, ⟨hquiet, AList.lookup_erase _ _⟩, .cancel hcancels⟩
    · exact ⟨life, ⟨hquiet, (AList.lookup_erase_ne hnamed).trans h.subscription⟩, .keep request life⟩

theorem moves_of_step (hstep : (eventMachine parseUrl).step s action = some t)
    (h : Represents s sid life) :
    ∃ next, Represents t sid next ∧ life.Moves parseUrl sid action next := by
  cases action with
  | cleanup now =>
    obtain rfl := Option.some.inj hstep
    exact ⟨_, h.cleaned now, .cleanup now life⟩
  | notify service now =>
    obtain rfl := Option.some.inj hstep
    exact ⟨_, (h.cleaned now).notified service, .notify service now life⟩
  | request request =>
    simp only [eventMachine, eventStep] at hstep
    split at hstep
    · cases hstep
    · rename_i hunused
      split at hstep
      · obtain rfl := Option.some.inj hstep
        exact ⟨life, h, .keep request life⟩
      · obtain rfl := Option.some.inj hstep
        exact moves_of_answers (answers_of_response ‹_›) (not_not.mp hunused) h

theorem Lifecycle.Valid.cleaned (h : life.Valid parseUrl) (now : Nat) :
    (life.cleaned now).Valid parseUrl := by
  cases life with
  | active =>
    rw [Lifecycle.cleaned]
    split <;> exact h
  | _ => exact h

theorem Lifecycle.Valid.notified (h : life.Valid parseUrl) (service : DlnaEventService) :
    (life.notified service).Valid parseUrl := by
  cases life with
  | active =>
    rw [Lifecycle.notified]
    split <;> exact h
  | _ => exact h

theorem Lifecycle.Moves.valid {next : Lifecycle} (h : life.Moves parseUrl sid action next)
    (hvalid : life.Valid parseUrl) : next.Valid parseUrl := by
  cases h with
  | cleanup now => exact hvalid.cleaned now
  | notify service now => exact (hvalid.cleaned now).notified service
  | grant hgrant => exact hgrant
  | _ => exact hvalid

theorem represents_of_reachable (h : (eventMachine parseUrl).Reachable s) (sid : String) :
    ∃ life, Represents s sid life ∧ life.Valid parseUrl := by
  refine Machine.Reachable.invariant
    (I := fun s => ∃ life, Represents s sid life ∧ life.Valid parseUrl)
    ⟨.unused, ⟨rfl, rfl⟩, trivial⟩ (fun s action t hlife hstep => ?_) h
  obtain ⟨life, hrepresents, hvalid⟩ := hlife
  obtain ⟨next, hnext, hmoves⟩ := moves_of_step hstep hrepresents
  exact ⟨next, hnext, hmoves.valid hvalid⟩

def undisturbed (sid : String) (s : EventState) : EventAction → Bool
  | .cleanup now | .notify _ now =>
    (s.subscriptions.lookup sid).any fun subscription => now < subscription.expiresAt
  | .request request => (s.subscriptions.lookup sid).any fun subscription =>
    !request.cancels sid subscription.service subscription.peerIp

def EventAction.isBy (last : Nat) : EventAction → Bool
  | .request request => request.now ≤ last
  | _ => true

/-! A renderer that subscribes to the content directory. -/

def rendererUrl : String := "http://192.168.1.20:49152/events"

def parseRendererUrl (text : String) : Option Url :=
  if text = rendererUrl then
    some ⟨"http", "", none, some "192.168.1.20", some 49152, none, rendererUrl⟩
  else none

def subscribeRenderer : EventAction :=
  .request ⟨.contentDirectory, "SUBSCRIBE", [("callback", headerValue ("<" ++ rendererUrl ++ ">")),
    ("nt", headerValue "upnp:event")], .v4 ⟨192, 168, 1, 20⟩, 0, 1⟩

def strangerRequest : EventAction :=
  .request ⟨.contentDirectory, "UNSUBSCRIBE", [("sid", headerValue (eventSid 1))],
    .v4 ⟨192, 168, 1, 21⟩, 0, 2⟩

def notifyRenderer : EventAction := .notify .contentDirectory 1

abbrev rendererMachine : Machine EventState EventAction := eventMachine parseRendererUrl

def rendererGrant : Grant := ⟨.contentDirectory, .v4 ⟨192, 168, 1, 20⟩, [rendererUrl]⟩

theorem renderer_subscribes :
    ∃ s, rendererMachine.Reaches (fun _ action => action.isBy 0 = true) s ∧
    Represents s (eventSid 1) (.active rendererGrant 0 (1800 * 10 ^ 9)) ∧
    ∃ t, rendererMachine.runWhile (undisturbed (eventSid 1))
      [notifyRenderer, strangerRequest, notifyRenderer] s = some t := by
  obtain ⟨s, hs, hnumbered, hsubscription, hrun⟩ :=
    rendererMachine.exists_of_runWhile
      (fun (_ : EventState) (action : EventAction) (h : action.isBy 0 = true) => h)
      [subscribeRenderer]
      (P := fun s =>
        s.numberedFor (eventSid 1) = [rendererGrant.notification (eventSid 1) 0] ∧
        s.subscriptions.lookup (eventSid 1) = some (rendererGrant.subscription 0 (1800 * 10 ^ 9)) ∧
        (rendererMachine.runWhile (undisturbed (eventSid 1))
          [notifyRenderer, strangerRequest, notifyRenderer] s).isSome = true) (by decide +kernel)
  exact ⟨s, hs, ⟨hnumbered, hsubscription⟩, Option.isSome_iff_exists.mp hrun⟩

/-! Results. -/

/-- A SUBSCRIBE is granted exactly when its headers are those of a new subscription, its CALLBACK
is one to four candidates in angle brackets with nothing but white space between them, and there
is room. -/
theorem subscription_granted_iff (parseUrl : String → Option Url) (subscriptions : Subscriptions)
    (request : EventRequest) (urls : List String) :
    (∃ answer, eventSubscriptionResponse parseUrl subscriptions request = .ok answer ∧
      answer.initial = some ⟨eventSid request.newId, urls, 0⟩) ↔
    request.method = "SUBSCRIBE" ∧ eventHeader request.headers "sid" = none ∧
      (∃ nt, eventHeader request.headers "nt" = some nt ∧
        Ascii.eqIgnoreAsciiCase nt "upnp:event" = true) ∧
      subscriptions.size < upnpEventMaxSubscriptions ∧
      ∃ callback, eventHeader request.headers "callback" = some callback ∧
      ∃ entries : List CallbackEntry, entries ≠ [] ∧
        entries.length ≤ upnpEventMaxCallbackUrls ∧
        (∀ entry ∈ entries, entry.Accepted parseUrl (normalizeEventPeerIp request.peerIp)) ∧
        (Json.trim callback).toList = entries.flatMap CallbackEntry.text ∧
        entries.map CallbackEntry.url = urls := by
  constructor
  · rintro ⟨answer, hanswer, hinitial⟩
    cases answers_of_response hanswer with
    | @granted _ callback nt _ hmethod hsid hcallback hnt hevent hne hroom =>
      have hurls : eventCallbackUrls parseUrl (normalizeEventPeerIp request.peerIp) callback =
          urls := congrArg DlnaEventNotification.callbackUrls (Option.some.inj hinitial)
      exact ⟨hmethod, hsid, ⟨nt, hnt, hevent⟩, hroom, callback, hcallback,
        eventCallbackUrls_eq_iff.mp ⟨hurls, hurls ▸ hne⟩⟩
    | _ => cases hinitial
  · rintro ⟨hmethod, hsid, ⟨nt, hnt, hevent⟩, hroom, callback, hcallback, hentries⟩
    obtain ⟨hurls, hne⟩ := eventCallbackUrls_eq_iff.mpr hentries
    simp only [eventSubscriptionResponse, hmethod, subscribeEventResponse, hsid, hcallback, hnt,
      Option.all_some, Option.getD_some, hurls, hevent, List.isEmpty_eq_false_iff.mpr hne,
      Bool.not_true, Bool.or_self, Bool.false_eq_true, if_false, if_neg (not_le.mpr hroom)]
    exact ⟨_, rfl, rfl⟩

/-- There are at most 256 subscriptions, and each notification goes to one to four URLs at the
address of the peer that subscribed. -/
theorem notifications_go_to_subscribers (h : (eventMachine parseUrl).Reachable s) :
    s.subscriptions.size ≤ upnpEventMaxSubscriptions ∧
    ∀ numbered ∈ s.numbered, numbered.notification.callbackUrls ≠ [] ∧
      numbered.notification.callbackUrls.length ≤ upnpEventMaxCallbackUrls ∧
      ∀ url ∈ numbered.notification.callbackUrls, IsAt parseUrl numbered.peerIp url := by
  refine ⟨size_le_of_reachable h, fun numbered hnumbered => ?_⟩
  obtain ⟨life, hrepresents, hvalid⟩ := represents_of_reachable h numbered.notification.sid
  have hmem : numbered ∈ life.numbered numbered.notification.sid :=
    hrepresents.numbered ▸ List.mem_filter.mpr ⟨hnumbered, decide_eq_true rfl⟩
  have hgrant {grant : Grant} {count : Nat} (hgrant : grant.Valid parseUrl)
      (hstream : numbered ∈ grant.stream numbered.notification.sid count) :
      numbered.notification.callbackUrls ≠ [] ∧
      numbered.notification.callbackUrls.length ≤ upnpEventMaxCallbackUrls ∧
      ∀ url ∈ numbered.notification.callbackUrls, IsAt parseUrl numbered.peerIp url := by
    obtain ⟨seq, -, hseq⟩ := List.mem_map.mp hstream
    rw [← hseq]
    exact ⟨hgrant.nonempty, hgrant.few, hgrant.isAt⟩
  cases life with
  | unused => cases hmem
  | active => exact hgrant hvalid hmem
  | ended => exact hgrant hvalid hmem

theorem renderer_is_notified : ∃ s, rendererMachine.Reachable s ∧
    s.numberedFor (eventSid 1) = [rendererGrant.notification (eventSid 1) 0] ∧
    s.subscriptions.size ≤ upnpEventMaxSubscriptions ∧
    ∀ numbered ∈ s.numbered, numbered.notification.callbackUrls ≠ [] ∧
      numbered.notification.callbackUrls.length ≤ upnpEventMaxCallbackUrls ∧
      ∀ url ∈ numbered.notification.callbackUrls,
        IsAt parseRendererUrl numbered.peerIp url := by
  obtain ⟨s, hreaches, hrepresents, -⟩ := renderer_subscribes
  have hs := hreaches.reachable
  exact ⟨s, hs, hrepresents.numbered, notifications_go_to_subscribers hs⟩

/-- The notifications of a SID are numbered from zero on without a gap, always for one grant, and
its subscription knows the next number. -/
theorem numbers_are_consecutive (h : (eventMachine parseUrl).Reachable s) (sid : String) :
    s.numberedFor sid = [] ∧ s.subscriptions.lookup sid = none ∨
    ∃ grant changes, Grant.Valid parseUrl grant ∧
      s.numberedFor sid = grant.stream sid (changes + 1) ∧
      ∀ subscription, s.subscriptions.lookup sid = some subscription →
        subscription = grant.subscription changes subscription.expiresAt := by
  obtain ⟨life, hrepresents, hvalid⟩ := represents_of_reachable h sid
  cases life with
  | unused => exact .inl ⟨hrepresents.numbered, hrepresents.subscription⟩
  | active grant changes expiresAt =>
    refine .inr ⟨grant, changes, hvalid, hrepresents.numbered, fun subscription hlookup => ?_⟩
    rw [hrepresents.subscription] at hlookup
    obtain rfl := Option.some.inj hlookup
    rfl
  | ended grant changes =>
    refine .inr ⟨grant, changes, hvalid, hrepresents.numbered, fun subscription hlookup => ?_⟩
    rw [hrepresents.subscription] at hlookup
    cases hlookup

theorem renderer_numbers : ∃ s, rendererMachine.Reachable s ∧
    (s.subscriptions.lookup (eventSid 1)).isSome = true ∧
    ∃ grant changes, Grant.Valid parseRendererUrl grant ∧
      s.numberedFor (eventSid 1) = grant.stream (eventSid 1) (changes + 1) := by
  obtain ⟨s, hreaches, hrepresents, -⟩ := renderer_subscribes
  have hs := hreaches.reachable
  have hlive := hrepresents.subscription
  refine ⟨s, hs, by rw [hlive]; rfl, ?_⟩
  obtain ⟨-, hnone⟩ | ⟨grant, changes, hvalid, hstream, -⟩ := numbers_are_consecutive hs (eventSid 1)
  · rw [hlive] at hnone
    cases hnone
  · exact ⟨grant, changes, hvalid, hstream⟩

theorem Represents.of_steps_ended {grant : Grant} {changes : Nat}
    (h : Represents s sid (.ended grant changes))
    (hsteps : (eventMachine parseUrl).Steps Machine.Any s t) :
    Represents t sid (.ended grant changes) := by
  refine Machine.Steps.invariant (I := fun s => Represents s sid (.ended grant changes))
    (fun s action t hended _ hstep => ?_) hsteps h
  obtain ⟨next, hnext, hmoves⟩ := moves_of_step hstep hended
  cases hmoves <;> exact hnext

/-- A subscription that is over stays over: nothing that follows is sent for its SID. -/
theorem ended_subscription_is_silent (h : (eventMachine parseUrl).Reachable s)
    (hnumbered : s.numberedFor sid ≠ []) (hgone : s.subscriptions.lookup sid = none)
    (hsteps : (eventMachine parseUrl).Steps Machine.Any s t) :
    t.numberedFor sid = s.numberedFor sid ∧ t.subscriptions.lookup sid = none := by
  obtain ⟨life, hrepresents, -⟩ := represents_of_reachable h sid
  cases life with
  | unused => exact absurd hrepresents.numbered hnumbered
  | active =>
    rw [hrepresents.subscription] at hgone
    cases hgone
  | ended grant changes =>
    have hafter := hrepresents.of_steps_ended hsteps
    exact ⟨hafter.numbered.trans hrepresents.numbered.symm, hafter.subscription⟩

theorem renderer_is_silent : ∃ s t, rendererMachine.Reachable s ∧
    rendererMachine.step s notifyRenderer = some t ∧ s.numberedFor (eventSid 1) ≠ [] ∧
    t.numberedFor (eventSid 1) = s.numberedFor (eventSid 1) := by
  obtain ⟨s, hreaches, hrepresents, -⟩ := renderer_subscribes
  have hs := hreaches.reachable
  have hcleanup : rendererMachine.step s (.cleanup (1800 * 10 ^ 9)) = some _ := rfl
  have hended := hrepresents.cleaned (1800 * 10 ^ 9)
  have hnotify : rendererMachine.step
      ⟨cleanupExpiredEventSubscriptions (1800 * 10 ^ 9) s.subscriptions, s.numbered⟩
      notifyRenderer = some _ := rfl
  have hnumbered := hended.numbered.trans_ne (List.cons_ne_nil _ _)
  exact ⟨_, _, hs.tail hcleanup, hnotify, hnumbered, (ended_subscription_is_silent
    (hs.tail hcleanup) hnumbered hended.subscription
    ((Machine.Steps.refl _).tail trivial hnotify)).1⟩

def EventAction.notifies (service : DlnaEventService) : EventAction → Bool
  | .notify other _ => service = other
  | _ => false

theorem Represents.undisturbed {grant : Grant} {changes expiresAt : Nat}
    (h : Represents s sid (.active grant changes expiresAt)) (actions : List EventAction)
    (hrun : (eventMachine parseUrl).runWhile (undisturbed sid) actions s = some t) :
    ∃ later, Represents t sid
      (.active grant (changes + actions.countP (EventAction.notifies grant.service)) later) := by
  induction actions generalizing s changes expiresAt with
  | nil => exact ⟨expiresAt, Option.some.inj hrun ▸ h⟩
  | cons action actions ih =>
    simp only [Machine.runWhile] at hrun
    split at hrun
    · rename_i hcheck
      obtain ⟨u, hstep, hrest⟩ := Option.bind_eq_some_iff.mp hrun
      obtain ⟨next, hnext, hmoves⟩ := moves_of_step hstep h
      cases hmoves with
      | cleanup now =>
        have hlive : now < expiresAt := by
          simpa [Dlna.undisturbed, h.subscription, Lifecycle.subscription, Grant.subscription]
            using hcheck
        simp only [Lifecycle.cleaned, hlive, if_true] at hnext
        simpa [EventAction.notifies] using ih hnext hrest
      | notify service now =>
        have hlive : now < expiresAt := by
          simpa [Dlna.undisturbed, h.subscription, Lifecycle.subscription, Grant.subscription]
            using hcheck
        simp only [Lifecycle.cleaned, hlive, if_true, Lifecycle.notified] at hnext
        by_cases hservice : grant.service = service
        · rw [if_pos hservice] at hnext
          rw [List.countP_cons_of_pos (by simpa [EventAction.notifies] using hservice),
            Nat.add_comm _ 1, ← Nat.add_assoc]
          exact ih hnext hrest
        · rw [if_neg hservice] at hnext
          rw [List.countP_cons_of_neg (by simpa [EventAction.notifies] using hservice)]
          exact ih hnext hrest
      | keep => simpa [EventAction.notifies] using ih hnext hrest
      | renew => simpa [EventAction.notifies] using ih hnext hrest
      | cancel hcancels =>
        simp [Dlna.undisturbed, h.subscription, Lifecycle.subscription, Grant.subscription,
          hcancels] at hcheck
    · cases hrun

/-- Nobody but its holder disturbs a subscription: until it is cancelled or runs out, each change
of its service gives it one notification with the next number. -/
theorem undisturbed_subscription_is_notified {subscription : DlnaEventSubscription}
    (h : (eventMachine parseUrl).Reachable s)
    (hlookup : s.subscriptions.lookup sid = some subscription) {actions : List EventAction}
    (hrun : (eventMachine parseUrl).runWhile (undisturbed sid) actions s = some t) :
    ∃ changes expiresAt, changes = actions.countP (EventAction.notifies subscription.service) ∧
      t.subscriptions.lookup sid = some { subscription with
        expiresAt, nextSeq := subscription.nextSeq + UInt32.ofNat changes } ∧
      t.numberedFor sid = s.numberedFor sid ++ (List.range changes).map fun change =>
        notificationOf sid { subscription with
          nextSeq := subscription.nextSeq + UInt32.ofNat change } := by
  obtain ⟨life, hrepresents, -⟩ := represents_of_reachable h sid
  obtain ⟨grant, before, expiresAt, rfl, rfl⟩ := hrepresents.exists_active hlookup
  obtain ⟨later, hafter⟩ := hrepresents.undisturbed actions hrun
  refine ⟨_, later, rfl, hafter.subscription.trans ?_, ?_⟩
  · simp [Lifecycle.subscription, Grant.subscription, UInt32.ofNat_add, add_right_comm]
  · rw [hafter.numbered, hrepresents.numbered]
    simp only [Lifecycle.numbered, Grant.stream, Nat.add_right_comm, List.range_add,
      List.map_append, List.map_map]
    congr 1
    apply List.map_congr_left
    intro change _
    simp only [Function.comp_apply, Grant.notification, notificationOf, Grant.subscription,
      UInt32.ofNat_add]
    ac_rfl

theorem undisturbed_renderer_is_notified : ∃ s t, rendererMachine.Reachable s ∧
    rendererMachine.runWhile (undisturbed (eventSid 1))
      [notifyRenderer, strangerRequest, notifyRenderer] s = some t ∧
    (t.subscriptions.lookup (eventSid 1)).map (·.nextSeq) = some 3 := by
  obtain ⟨s, hreaches, hrepresents, t, ht⟩ := renderer_subscribes
  have hs := hreaches.reachable
  obtain ⟨changes, expiresAt, rfl, hafter, -⟩ :=
    undisturbed_subscription_is_notified hs hrepresents.subscription ht
  exact ⟨s, t, hs, ht, by rw [hafter]; rfl⟩

theorem expiresAt_countNotification (service : DlnaEventService)
    (subscription : DlnaEventSubscription) :
    (countNotification service subscription).expiresAt = subscription.expiresAt := by
  rw [countNotification]
  split <;> rfl

theorem expiresAt_le_of_reaches {last : Nat}
    (h : (eventMachine parseUrl).Reaches (fun _ action => action.isBy last = true) s) :
    ∀ sid subscription, s.subscriptions.lookup sid = some subscription →
      subscription.expiresAt ≤ eventExpiresAt last upnpEventMaxTimeoutSeconds := by
  refine Machine.Steps.invariant (I := fun s => ∀ sid subscription,
    s.subscriptions.lookup sid = some subscription → subscription.expiresAt ≤ _)
    (fun s action t hold hby hstep sid subscription hlookup => ?_) h (fun _ _ hnone => nomatch hnone)
  cases action with
  | cleanup now =>
    obtain rfl := Option.some.inj hstep
    exact hold sid subscription (HashMap.lookup_retain.mp hlookup).1
  | notify service now =>
    obtain rfl := Option.some.inj hstep
    obtain ⟨before, hbefore, rfl⟩ :=
      Option.map_eq_some_iff.mp ((HashMap.lookup_mapValues _ _ _).symm.trans hlookup)
    rw [expiresAt_countNotification]
    exact hold sid before (HashMap.lookup_retain.mp hbefore).1
  | request request =>
    have hlast {expiresAt : Nat}
        (h : expiresAt ≤ eventExpiresAt request.now upnpEventMaxTimeoutSeconds) :
        expiresAt ≤ eventExpiresAt last upnpEventMaxTimeoutSeconds :=
      h.trans (Nat.add_le_add_right (of_decide_eq_true hby) _)
    simp only [eventMachine, eventStep] at hstep
    split at hstep
    · cases hstep
    · split at hstep
      · exact hold sid subscription (Option.some.inj hstep ▸ hlookup)
      · obtain rfl := Option.some.inj hstep
        cases answers_of_response ‹_› with
        | kept => exact hold sid subscription hlookup
        | renewed _ hlease =>
          obtain ⟨-, rfl⟩ | ⟨-, hother⟩ := HashMap.lookup_insert_eq_some.mp hlookup
          · exact hlast hlease
          · exact hold sid subscription hother
        | granted _ _ _ _ _ _ _ hlease =>
          obtain ⟨-, rfl⟩ | ⟨-, hother⟩ := HashMap.lookup_insert_eq_some.mp hlookup
          · exact hlast hlease
          · exact hold sid subscription hother
        | cancelled =>
          exact hold sid subscription (HashMap.lookup_erase_eq_some.mp hlookup).2

/-- Two hours after the last request a cleanup leaves no subscription, whatever was asked for. -/
theorem subscriptions_run_out {last : Nat}
    (h : (eventMachine parseUrl).Reaches (fun _ action => action.isBy last = true) s)
    (hnow : eventExpiresAt last upnpEventMaxTimeoutSeconds ≤ now) :
    HashMap.size (cleanupExpiredEventSubscriptions now s.subscriptions) = 0 := by
  refine List.length_eq_zero_iff.mpr (List.eq_nil_iff_forall_not_mem.mpr fun sid hsid => ?_)
  obtain ⟨subscription, hlookup⟩ := HashMap.exists_lookup_of_mem hsid
  obtain ⟨hlookup, hlive⟩ := HashMap.lookup_retain.mp hlookup
  have hlease := expiresAt_le_of_reaches h sid subscription hlookup
  exact absurd (of_decide_eq_true hlive) (not_lt.mpr (hlease.trans hnow))

theorem renderer_runs_out :
    ∃ s, rendererMachine.Reaches (fun _ action => action.isBy 0 = true) s ∧
    (s.subscriptions.lookup (eventSid 1)).isSome = true ∧
    HashMap.size (cleanupExpiredEventSubscriptions (7200 * 10 ^ 9) s.subscriptions) = 0 := by
  obtain ⟨s, hs, hrepresents, -⟩ := renderer_subscribes
  exact ⟨s, hs, by rw [hrepresents.subscription]; rfl, subscriptions_run_out hs (by decide)⟩

end Jellyrin.Dlna
