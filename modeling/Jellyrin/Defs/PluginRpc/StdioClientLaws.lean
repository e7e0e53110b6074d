import Jellyrin.Defs.PluginRpc.StdioClient

/-! A client stays in step with its host if no exchange is given up between the request and the
end of its response, other than by the end of the process. -/

namespace Jellyrin.PluginRpc

open Transition

variable {Payload Result JsonError : Type}

/-! What a call owes to its caller. -/

namespace PluginHostStdioClient

variable (client : PluginHostStdioClient Payload Result JsonError)

/-- The host wrote the response of a call before its deadline, well formed and within the limit. -/
def IsAnswered (call : Call Payload Result JsonError) (own : Nat)
    (response : PluginRpcResponse Result) : Prop :=
  ∃ time payload, client.answers[own]? = some (time, payload) ∧ time < call.deadline ∧
    payload.length ≤ defaultPluginRpcMaxMessageBytes ∧
    call.request.responses.fromSlice payload = .ok response ∧
    response.correlationId = call.request.envelope.correlationId

def Answered (exchange : Exchange Payload Result JsonError) : Prop :=
  exchange.outcome ≠ .cancelled ∧
    ∃ own response, exchange.own = some own ∧ client.IsAnswered exchange.call own response

def ReturnsOwn (exchange : Exchange Payload Result JsonError) : Prop :=
  ∃ own time payload response, exchange.own = some own ∧
    client.answers[own]? = some (time, payload) ∧
    exchange.call.request.responses.fromSlice payload = .ok response ∧
    exchange.outcome = .result (.ok response)

/-- A call that waits and is answered ends with that response when it reads on, whatever the sizes
of its buffers. -/
def ReturnsWhenRead : Prop :=
  ∀ call own line response, client.phase = .reading call own line →
    client.IsAnswered call own response →
    ∀ sizes : List Nat, client.unread.length ≤ sizes.length →
      ∃ read next, read <+: sizes ∧
        (stdioMachine Payload Result JsonError).run (read.map .filled) client = some next ∧
        next.ended = client.ended ++ [⟨call, .result (.ok response), some own, client.child⟩]

/-- Whenever a call has ended without its own response, there is no child any more, or the next
call that is answered returns what it was answered.  Without a child, every call fails. -/
def NeverOutOfStep : Prop :=
  ∀ before exchange after, client.ended = before ++ exchange :: after →
    (exchange.hasChild = false → ∀ later ∈ after, later.outcome = .unavailable) ∧
    (¬client.ReturnsOwn exchange → exchange.hasChild = false ∨
      (∀ between next rest, after = between ++ next :: rest →
        (∀ other ∈ between, ¬client.Answered other) → client.Answered next →
          client.ReturnsOwn next) ∧
      ((∀ other ∈ after, ¬client.Answered other) → client.ReturnsWhenRead))

end PluginHostStdioClient

def completes (client : PluginHostStdioClient Payload Result JsonError) :
    Action Payload Result JsonError → Bool
  | .filled size =>
    match client.phase with
    | .reading _ _ line =>
      decide (line.length + (nextLine (client.unread.take (size + 1))).length ≤
        defaultPluginRpcMaxMessageBytes)
    | _ => true
  | .cancel =>
    match client.phase with
    | .reading _ _ _ | .terminating _ (some _) => false
    | _ => true
  | .terminated false =>
    match client.phase with
    | .terminating _ (some _) => false
    | _ => true
  | _ => true

abbrev Completes (client : PluginHostStdioClient Payload Result JsonError)
    (action : Action Payload Result JsonError) : Prop := completes client action = true

/-! One pass of the loop that reads a line. -/

theorem readChunk_eq_none_iff {maxBytes : Nat} {available line : List UInt8} :
    readChunk maxBytes available line = none ↔
      maxBytes < line.length + (nextLine available).length := by
  have hpayload : (available.findIdx? (· == newline)).getD available.length =
      (nextLine available).length := by
    obtain ⟨before, after, rfl, hbefore, hindex⟩ | ⟨hnone, hindex⟩ :=
      findIdx?_newline_cases available
    · simp [hindex, nextLine_append_newline hbefore]
    · have hall : nextLine (available ++ []) = available ++ nextLine [] := nextLine_append hnone
      rw [List.append_nil] at hall
      rw [hindex, hall]
      simp [nextLine]
  simp [readChunk, hpayload]

theorem readChunk_cases {maxBytes : Nat} {line rest : List UInt8} (size : Nat)
    (hrest : newline ∉ rest)
    (hle : line.length + (nextLine ((rest ++ [newline]).take (size + 1))).length ≤ maxBytes) :
    (∃ front back, rest = front ++ back ∧ front ≠ [] ∧
      readChunk maxBytes ((rest ++ [newline]).take (size + 1)) line = some (line ++ front, false) ∧
      (rest ++ [newline]).drop (consumedBytes ((rest ++ [newline]).take (size + 1))) =
        back ++ [newline]) ∨
    (line ++ rest).length ≤ maxBytes ∧
      readChunk maxBytes ((rest ++ [newline]).take (size + 1)) line =
        some (line ++ rest ++ [newline], true) ∧
      (rest ++ [newline]).drop (consumedBytes ((rest ++ [newline]).take (size + 1))) = [] := by
  have hfits := Nat.not_lt.mpr hle
  by_cases hsize : size + 1 ≤ rest.length
  · have hfront : newline ∉ rest.take (size + 1) := fun hmem => hrest (List.mem_of_mem_take hmem)
    have havailable : (rest ++ [newline]).take (size + 1) = rest.take (size + 1) :=
      List.take_append_of_le_length hsize
    have hindex : (rest.take (size + 1)).findIdx? (· == newline) = none := by
      obtain ⟨before, after, heq, -, -⟩ | ⟨-, hindex⟩ := findIdx?_newline_cases (rest.take (size + 1))
      · rw [heq] at hfront
        simp at hfront
      · exact hindex
    refine .inl ⟨rest.take (size + 1), rest.drop (size + 1), (List.take_append_drop ..).symm,
      ?_, ?_, ?_⟩
    · refine List.ne_nil_of_length_pos ?_
      rw [List.length_take_of_le hsize]
      exact Nat.succ_pos size
    · rw [← readChunk_eq_none_iff, havailable, readChunk, hindex] at hfits
      rw [havailable, readChunk, hindex]
      simpa [consumedBytes, hindex, -List.length_take] using hfits
    · rw [havailable, consumedBytes, hindex, Option.elim_none, List.length_take_of_le hsize,
        List.drop_append_of_le_length hsize]
  · have hshort : (rest ++ [newline]).length ≤ size + 1 := by
      rw [List.length_append, List.length_singleton]
      omega
    have havailable : (rest ++ [newline]).take (size + 1) = rest ++ [newline] :=
      List.take_of_length_le hshort
    have hnext : nextLine (rest ++ [newline]) = rest := nextLine_append_newline hrest
    have hindex : (rest ++ [newline]).findIdx? (· == newline) = some rest.length := by
      obtain ⟨before, after, heq, hbefore, hindex⟩ | ⟨hnone, -⟩ :=
        findIdx?_newline_cases (rest ++ [newline])
      · have hbeforeEq : before = rest := by
          rw [← hnext, heq, nextLine_append_newline hbefore]
        rw [hindex, hbeforeEq]
      · simp at hnone
    refine .inr ⟨?_, ?_, ?_⟩
    · rwa [havailable, hnext, ← List.length_append] at hle
    · have hall : (rest ++ [newline]).take (rest.length + 1) = rest ++ [newline] :=
        List.take_of_length_le (by simp)
      rw [← readChunk_eq_none_iff, havailable, readChunk, hindex] at hfits
      rw [havailable, readChunk, hindex]
      simpa [consumedBytes, hindex, hall] using hfits
    · simp [havailable, consumedBytes, hindex]

theorem length_nextLine_take_le {rest : List UInt8} (hrest : newline ∉ rest) (n : Nat) :
    (nextLine ((rest ++ [newline]).take n)).length ≤ rest.length := by
  by_cases hn : n ≤ rest.length
  · rw [List.take_append_of_le_length hn]
    exact Nat.le_trans (List.takeWhile_prefix _).length_le
      (Nat.le_trans (List.length_take_le _ _) hn)
  · have hall : (rest ++ [newline]).length ≤ n := by
      rw [List.length_append, List.length_singleton]
      omega
    rw [List.take_of_length_le hall]
    exact Nat.le_of_eq (congrArg List.length (nextLine_append_newline hrest))

/-! The invariant. -/

structure Quiet (client : PluginHostStdioClient Payload Result JsonError) : Prop where
  read : client.unread = []
  answers_le : client.answers.length ≤ client.sent
  answered : client.closed = false → client.answers.length = client.sent

inductive Awaits (client : PluginHostStdioClient Payload Result JsonError) (own : Nat) :
    List UInt8 → Prop
  | pending : client.unread = [] → client.answers.length ≤ own →
      (client.closed = false → client.answers.length = own) → Awaits client own []
  | arrived (time : Nat) (line rest : List UInt8) : newline ∉ rest →
      client.unread = rest ++ [newline] → client.answers.length = own + 1 →
      client.answers[own]? = some (time, line ++ rest) → Awaits client own line

def Streams (client : PluginHostStdioClient Payload Result JsonError) : Prop :=
  match client.phase with
  | .idle | .writing _ _ | .terminating _ none => Quiet client
  | .reading _ own line => own + 1 = client.sent ∧ Awaits client own line
  | .terminating call (some own) => call.deadline ≤ client.now ∧
    ∀ time payload, client.answers[own]? = some (time, payload) → call.deadline ≤ time

def Settled (client : PluginHostStdioClient Payload Result JsonError)
    (exchange : Exchange Payload Result JsonError) : Prop :=
  (client.Answered exchange → client.ReturnsOwn exchange) ∧
    ∀ own, exchange.own = some own → client.answers.length ≤ own →
      client.closed = true ∨ exchange.call.deadline ≤ client.now

structure InStep (client : PluginHostStdioClient Payload Result JsonError) : Prop where
  settled : ∀ exchange ∈ client.ended, Settled client exchange
  gone : client.ended.Pairwise fun exchange later =>
    exchange.hasChild = false → later.outcome = .unavailable
  child : client.child = true → ∀ exchange ∈ client.ended, exchange.hasChild = true
  idle : client.child = false → client.phase = .idle
  streams : client.child = true → Streams client

variable {client next : PluginHostStdioClient Payload Result JsonError}
  {request : Request Payload Result JsonError} {own : Option Nat}
  {outcome : Outcome Result JsonError}

theorem Quiet.frame (h : Quiet client) (hunread : next.unread = client.unread)
    (hsent : next.sent = client.sent) (hanswers : next.answers = client.answers)
    (hclosed : next.closed = false → client.closed = false) : Quiet next where
  read := hunread.trans h.read
  answers_le := by
    rw [hanswers, hsent]
    exact h.answers_le
  answered hopen := by
    rw [hanswers, hsent]
    exact h.answered (hclosed hopen)

theorem Settled.frame {exchange : Exchange Payload Result JsonError}
    (h : Settled client exchange) (hanswers : next.answers = client.answers)
    (hclosed : client.closed = true → next.closed = true) (hnow : client.now ≤ next.now) :
    Settled next exchange := by
  obtain ⟨hreturns, hlate⟩ := h
  rw [Settled, PluginHostStdioClient.Answered, PluginHostStdioClient.ReturnsOwn, hanswers]
  simp only [PluginHostStdioClient.IsAnswered, hanswers]
  refine ⟨hreturns, fun own hown hle => ?_⟩
  obtain hclosing | hdeadline := hlate own hown hle
  · exact .inl (hclosed hclosing)
  · exact .inr (Nat.le_trans hdeadline hnow)

theorem Settled.answer {exchange : Exchange Payload Result JsonError}
    (h : Settled client exchange) (hopen : client.closed = false) {payload : List UInt8}
    (hanswers : next.answers = client.answers ++ [(client.now, payload)])
    (hclosed : next.closed = client.closed) (hnow : next.now = client.now) :
    Settled next exchange := by
  obtain ⟨hreturns, hlate⟩ := h
  constructor
  · rintro ⟨hgoesOn, own, response, hown, time, text, hanswer, htime, hrest⟩
    rw [hanswers] at hanswer
    by_cases hlt : own < client.answers.length
    · rw [List.getElem?_append_left hlt] at hanswer
      obtain ⟨own', time', text', response', hown', hanswer', hslice, houtcome⟩ :=
        hreturns ⟨hgoesOn, own, response, hown, time, text, hanswer, htime, hrest⟩
      refine ⟨own', time', text', response', hown', ?_, hslice, houtcome⟩
      rw [hanswers]
      exact List.getElem?_append_left (List.getElem?_eq_some_iff.mp hanswer').1 ▸ hanswer'
    · obtain hclosing | hdeadline := hlate own hown (Nat.le_of_not_lt hlt)
      · rw [hopen] at hclosing
        cases hclosing
      · rw [List.getElem?_append_right (Nat.le_of_not_lt hlt)] at hanswer
        have hmem := List.mem_singleton.mp (List.mem_of_getElem? hanswer)
        cases hmem
        exact absurd htime (Nat.not_lt.mpr hdeadline)
  · intro own hown hle
    rw [hanswers, List.length_append] at hle
    obtain hclosing | hdeadline := hlate own hown (Nat.le_trans (Nat.le_add_right _ _) hle)
    · exact .inl (hclosed.trans hclosing)
    · exact .inr (hnow ▸ hdeadline)

theorem settled_of_none {call : Call Payload Result JsonError} {hasChild : Bool} :
    Settled client ⟨call, outcome, none, hasChild⟩ := by
  refine ⟨?_, fun own hown => by cases hown⟩
  rintro ⟨-, own, response, hown, -⟩
  cases hown

theorem InStep.finish (hi : InStep client) {call : Call Payload Result JsonError}
    (hchild : client.child = true) (hended : next.ended = client.ended)
    (hanswers : next.answers = client.answers) (hclosed : next.closed = client.closed)
    (hnow : next.now = client.now)
    (hsettled : Settled next ⟨call, outcome, own, next.child⟩)
    (hquiet : next.child = true → Quiet next) :
    InStep (next.finish call own outcome) where
  settled exchange hmem := by
    rw [PluginHostStdioClient.finish, hended] at hmem
    refine @Settled.frame _ _ _ next _ _ ?_ rfl id (Nat.le_refl _)
    cases List.mem_append.mp hmem with
    | inl hold =>
      exact (hi.settled exchange hold).frame hanswers (fun h => hclosed.trans h)
        (Nat.le_of_eq hnow.symm)
    | inr hnew =>
      cases List.mem_singleton.mp hnew
      exact hsettled
  gone := by
    rw [PluginHostStdioClient.finish, hended]
    refine List.pairwise_append.mpr ⟨hi.gone, List.pairwise_singleton _ _, ?_⟩
    intro other hother last hlast hgone
    rw [hi.child hchild other hother] at hgone
    cases hgone
  child hnext exchange hmem := by
    rw [PluginHostStdioClient.finish, hended] at hmem
    cases List.mem_append.mp hmem with
    | inl hold => exact hi.child hchild exchange hold
    | inr hnew =>
      cases List.mem_singleton.mp hnew
      exact hnext
  idle _ := rfl
  streams hnext := (hquiet hnext).frame rfl rfl rfl id

theorem received_of_slice {payload : List UInt8} {response : PluginRpcResponse Result}
    (hle : payload.length ≤ defaultPluginRpcMaxMessageBytes)
    (hslice : request.responses.fromSlice payload = .ok response)
    (hid : response.correlationId = request.envelope.correlationId) :
    received request (payload ++ [newline]) = .ok response := by
  rw [received, decodeJsonLine, stripNewline_append, if_neg (Nat.not_lt.mpr hle), hslice]
  simp [Except.mapError, ok_bind, hid]

theorem InStep.child_of_phase (hi : InStep client) (h : client.phase ≠ .idle) :
    client.child = true := by
  cases hchild : client.child with
  | true => rfl
  | false => exact absurd (hi.idle hchild) h

theorem InStep.writing (hi : InStep client) {call : Call Payload Result JsonError}
    {remaining : List UInt8} (hphase : client.phase = .writing call remaining) :
    client.child = true ∧ Quiet client := by
  have hchild := hi.child_of_phase (by simp [hphase])
  have hstreams := hi.streams hchild
  rw [Streams, hphase] at hstreams
  exact ⟨hchild, hstreams⟩

theorem InStep.reading (hi : InStep client) {call : Call Payload Result JsonError} {own : Nat}
    {line : List UInt8} (hphase : client.phase = .reading call own line) :
    client.child = true ∧ own + 1 = client.sent ∧ Awaits client own line := by
  have hchild := hi.child_of_phase (by simp [hphase])
  have hstreams := hi.streams hchild
  rw [Streams, hphase] at hstreams
  exact ⟨hchild, hstreams⟩

theorem InStep.goesOn (hi : InStep client) (hended : next.ended = client.ended)
    (hchild : next.child = client.child) (hanswers : next.answers = client.answers)
    (hclosed : client.closed = true → next.closed = true) (hnow : client.now ≤ next.now)
    (hidle : client.child = false → next.phase = .idle)
    (hstreams : Streams client → Streams next) : InStep next where
  settled exchange hmem :=
    (hi.settled exchange (hended ▸ hmem)).frame hanswers hclosed hnow
  gone := hended ▸ hi.gone
  child hnext := by
    rw [hended]
    exact hi.child (hchild ▸ hnext)
  idle hgone := hidle (hchild ▸ hgone)
  streams hnext := hstreams (hi.streams (hchild ▸ hnext))

theorem InStep.call (hi : InStep client) (h : client.step (.call request) = some next) :
    InStep next := by
  simp only [PluginHostStdioClient.step] at h
  split at h
  · rename_i hphase
    split at h
    · rename_i hchild
      have hquiet : Quiet client := by
        have hstreams := hi.streams hchild
        rwa [Streams, hphase] at hstreams
      split at h
      · cases h
        refine hi.goesOn rfl rfl rfl id (Nat.le_refl _) (fun hgone => ?_) fun _ =>
          hquiet.frame rfl rfl rfl id
        rw [hchild] at hgone
        cases hgone
      · cases h
        exact hi.finish hchild rfl rfl rfl rfl settled_of_none fun _ => hquiet
    · rename_i hgone
      cases h
      constructor
      · intro exchange hmem
        cases List.mem_append.mp hmem with
        | inl hold => exact (hi.settled exchange hold).frame rfl id (Nat.le_refl _)
        | inr hnew =>
          cases List.mem_singleton.mp hnew
          exact settled_of_none
      · refine List.pairwise_append.mpr ⟨hi.gone, List.pairwise_singleton _ _, ?_⟩
        intro other _ last hlast _
        cases List.mem_singleton.mp hlast
        rfl
      · exact fun hchild => absurd hchild hgone
      · exact fun _ => rfl
      · exact fun hchild => absurd hchild hgone
  · cases h

theorem InStep.filled (hi : InStep client) {size : Nat} (hc : Completes client (.filled size))
    (h : client.step (.filled size) = some next) : InStep next := by
  simp only [PluginHostStdioClient.step] at h
  split at h
  · rename_i call own line hphase
    obtain ⟨hchild, hown, hawaits⟩ := hi.reading hphase
    have hfits : line.length + (nextLine (client.unread.take (size + 1))).length ≤
        defaultPluginRpcMaxMessageBytes := by simpa [Completes, completes, hphase] using hc
    split at h
    · cases h
    · rename_i havailable
      cases hawaits with
      | pending hunread _ _ => simp [hunread] at havailable
      | arrived time line rest hrest hunread hlength hanswer =>
        rw [hunread] at h hfits
        obtain ⟨front, back, rfl, -, hchunk, hdrop⟩ | ⟨hle, hchunk, hdrop⟩ :=
          readChunk_cases size hrest hfits
        · rw [hchunk, hdrop] at h
          cases h
          refine hi.goesOn rfl rfl rfl id (Nat.le_refl _) (fun hgone => ?_) fun _ => ⟨hown, ?_⟩
          · rw [hchild] at hgone
            cases hgone
          · refine .arrived time (line ++ front) back (fun hmem => hrest (by simp [hmem])) rfl
              hlength ?_
            rw [List.append_assoc]
            exact hanswer
        · rw [hchunk, hdrop] at h
          cases h
          refine hi.finish hchild rfl rfl rfl rfl ⟨?_, ?_⟩ fun _ => ⟨rfl, ?_, fun _ => ?_⟩
          · rintro ⟨-, own', response, hsame, time', payload, hpayload, -, hle, hslice, hid⟩
            cases hsame
            cases hanswer.symm.trans hpayload
            exact ⟨own, time, line ++ rest, response, rfl, hanswer, hslice,
              congrArg Outcome.result (received_of_slice hle hslice hid)⟩
          · intro own' hsame hlate
            cases hsame
            rw [hlength] at hlate
            exact absurd hlate (Nat.not_succ_le_self _)
          · exact Nat.le_of_eq (hlength.trans hown)
          · exact hlength.trans hown
  · cases h

theorem InStep.answer (hi : InStep client) {payload : List UInt8}
    (h : client.step (.answer payload) = some next) : InStep next := by
  simp only [PluginHostStdioClient.step] at h
  split at h
  · rename_i hguard
    obtain ⟨hopen, hlt, hpayload⟩ := hguard
    cases h
    refine ⟨fun exchange hmem => (hi.settled exchange hmem).answer hopen rfl rfl rfl, hi.gone,
      hi.child, hi.idle, fun hchild => ?_⟩
    have hstreams := hi.streams hchild
    have hquiet : ¬Quiet client := fun hquiet => absurd (hquiet.answered hopen) (Nat.ne_of_lt hlt)
    rw [Streams] at hstreams ⊢
    cases hphase : client.phase with
    | idle => exact absurd (by simpa [hphase] using hstreams) hquiet
    | writing call remaining => exact absurd (by simpa [hphase] using hstreams) hquiet
    | reading call own line =>
      rw [hphase] at hstreams
      obtain ⟨hown, hawaits⟩ := hstreams
      refine ⟨hown, ?_⟩
      cases hawaits with
      | pending hunread _ hanswers =>
        have hlength := hanswers hopen
        refine .arrived client.now [] payload hpayload ?_ ?_ ?_
        · simp [hunread]
        · simp [hlength]
        · simp [← hlength]
      | arrived time line rest _ _ hlength _ =>
        rw [hlength, hown] at hlt
        exact absurd hlt (Nat.lt_irrefl _)
    | terminating call own =>
      cases own with
      | none => exact absurd (by simpa [hphase] using hstreams) hquiet
      | some own =>
        rw [hphase] at hstreams
        obtain ⟨hdeadline, hlate⟩ := hstreams
        refine ⟨hdeadline, fun time text hanswer => ?_⟩
        by_cases hold : own < client.answers.length
        · rw [List.getElem?_append_left hold] at hanswer
          exact hlate time text hanswer
        · rw [List.getElem?_append_right (Nat.le_of_not_lt hold)] at hanswer
          cases List.mem_singleton.mp (List.mem_of_getElem? hanswer)
          exact hdeadline
  · cases h

theorem InStep.written (hi : InStep client) {count : Nat}
    (h : client.step (.written count) = some next) : InStep next := by
  simp only [PluginHostStdioClient.step] at h
  split at h
  · rename_i call remaining hphase
    obtain ⟨hchild, hquiet⟩ := hi.writing hphase
    have hgone : client.child ≠ false := by simp [hchild]
    split at h
    · cases h
      exact hi.goesOn rfl rfl rfl id (Nat.le_refl _) (absurd · hgone) fun _ =>
        ⟨rfl, .pending hquiet.read hquiet.answers_le hquiet.answered⟩
    · cases h
      exact hi.goesOn rfl rfl rfl id (Nat.le_refl _) (absurd · hgone) fun _ =>
        hquiet.frame rfl rfl rfl id
  · cases h

theorem InStep.writeFails (hi : InStep client) {error : String}
    (h : client.step (.writeFails error) = some next) : InStep next := by
  simp only [PluginHostStdioClient.step] at h
  split at h
  · rename_i call remaining hphase
    obtain ⟨hchild, hquiet⟩ := hi.writing hphase
    cases h
    exact hi.finish hchild rfl rfl rfl rfl settled_of_none fun _ => hquiet
  · cases h

theorem InStep.streamEnds (hi : InStep client) {error : Option String}
    (h : client.step (.streamEnds error) = some next) : InStep next := by
  simp only [PluginHostStdioClient.step] at h
  split at h
  · rename_i call own line hphase
    obtain ⟨hchild, hown, hawaits⟩ := hi.reading hphase
    split at h
    · rename_i hend
      cases hawaits with
      | pending _ hle _ =>
        cases h
        refine hi.finish hchild rfl rfl rfl rfl ⟨?_, fun _ _ _ => .inl hend.1⟩ fun _ =>
          ⟨hend.2, Nat.le_of_succ_le ?_, ?_⟩
        · rintro ⟨-, own', response, hsame, time, payload, hpayload, -⟩
          cases hsame
          have hnone : client.answers[own]? = none := List.getElem?_eq_none hle
          exact absurd (hnone.symm.trans hpayload) (by simp)
        · rw [← hown]
          exact Nat.succ_le_succ hle
        · intro hopen
          exact absurd (hend.1.symm.trans hopen) (by decide)
      | arrived time line rest _ hunread _ _ =>
        rw [hend.2] at hunread
        simp at hunread
    · cases h
  · cases h

theorem InStep.timeout (hi : InStep client) (h : client.step .timeout = some next) :
    InStep next := by
  simp only [PluginHostStdioClient.step] at h
  split at h
  · rename_i call remaining hphase
    obtain ⟨hchild, hquiet⟩ := hi.writing hphase
    have hgone : client.child ≠ false := by simp [hchild]
    split at h
    · cases h
      exact hi.goesOn rfl rfl rfl id (Nat.le_refl _) (absurd · hgone) fun _ =>
        hquiet.frame rfl rfl rfl id
    · cases h
  · rename_i call own line hphase
    obtain ⟨hchild, -, hawaits⟩ := hi.reading hphase
    have hgone : client.child ≠ false := by simp [hchild]
    split at h
    · rename_i hdue
      cases h
      refine hi.goesOn rfl rfl rfl id (Nat.le_refl _) (absurd · hgone) fun _ =>
        ⟨hdue.1, fun time payload hanswer => ?_⟩
      -- Nothing is there to read, so that the response has not come.
      cases hawaits with
      | pending _ hle _ =>
        have hnone : client.answers[own]? = none := List.getElem?_eq_none hle
        exact absurd (hnone.symm.trans hanswer) (by simp)
      | arrived _ _ rest _ hunread _ _ =>
        rw [hdue.2] at hunread
        simp at hunread
    · cases h
  · cases h

theorem InStep.terminated (hi : InStep client) {succeeds : Bool}
    (hc : Completes client (.terminated succeeds))
    (h : client.step (.terminated succeeds) = some next) : InStep next := by
  simp only [PluginHostStdioClient.step] at h
  split at h
  · rename_i call own hphase
    have hchild : client.child = true := hi.child_of_phase (by simp [hphase])
    have hstreams := hi.streams hchild
    rw [Streams, hphase] at hstreams
    cases h
    cases own with
    | none =>
      exact hi.finish hchild rfl rfl rfl rfl settled_of_none fun _ =>
        hstreams.frame rfl rfl rfl id
    | some own =>
      refine hi.finish hchild rfl rfl rfl rfl ⟨?_, fun _ _ _ => .inr hstreams.1⟩
        fun hremains => ?_
      · rintro ⟨-, own', response, hsame, time, payload, hanswer, htime, -⟩
        cases hsame
        exact absurd htime (Nat.not_lt.mpr (hstreams.2 time payload hanswer))
      · cases succeeds with
        | true => cases hremains
        | false => simp [Completes, completes, hphase] at hc
  · cases h

theorem InStep.cancel (hi : InStep client) (hc : Completes client .cancel)
    (h : client.step .cancel = some next) : InStep next := by
  simp only [PluginHostStdioClient.step] at h
  split at h
  · cases h
  · rename_i call remaining hphase
    obtain ⟨hchild, hquiet⟩ := hi.writing hphase
    cases h
    exact hi.finish hchild rfl rfl rfl rfl settled_of_none fun _ => hquiet
  · rename_i call own line hphase
    simp [Completes, completes, hphase] at hc
  · rename_i call own hphase
    have hchild : client.child = true := hi.child_of_phase (by simp [hphase])
    cases own with
    | none =>
      have hstreams := hi.streams hchild
      rw [Streams, hphase] at hstreams
      cases h
      exact hi.finish hchild rfl rfl rfl rfl settled_of_none fun _ => hstreams
    | some own => simp [Completes, completes, hphase] at hc

theorem Streams.passes (hphase : next.phase = client.phase) (hunread : next.unread = client.unread)
    (hsent : next.sent = client.sent) (hanswers : next.answers = client.answers)
    (hclosed : next.closed = false → client.closed = false) (hnow : client.now ≤ next.now)
    (h : Streams client) : Streams next := by
  rw [Streams] at h ⊢
  rw [hphase]
  cases hcase : client.phase with
  | idle =>
    rw [hcase] at h
    exact h.frame hunread hsent hanswers hclosed
  | writing call remaining =>
    rw [hcase] at h
    exact h.frame hunread hsent hanswers hclosed
  | reading call own line =>
    rw [hcase] at h
    refine ⟨h.1.trans hsent.symm, ?_⟩
    cases h.2 with
    | pending hread hle hanswered =>
      refine .pending (hunread.trans hread) (by rwa [hanswers]) fun hopen => ?_
      rw [hanswers]
      exact hanswered (hclosed hopen)
    | arrived time line rest hrest hread hlength hanswer =>
      exact .arrived time line rest hrest (hunread.trans hread) (by rwa [hanswers])
        (by rwa [hanswers])
  | terminating call own =>
    rw [hcase] at h
    cases own with
    | none => exact h.frame hunread hsent hanswers hclosed
    | some own =>
      refine ⟨Nat.le_trans h.1 hnow, fun time payload hanswer => ?_⟩
      rw [hanswers] at hanswer
      exact h.2 time payload hanswer

theorem inStep_step {action : Action Payload Result JsonError} (hi : InStep client)
    (hc : Completes client action) (h : client.step action = some next) : InStep next := by
  cases action with
  | call request => exact hi.call h
  | written count => exact hi.written h
  | writeFails error => exact hi.writeFails h
  | filled size => exact hi.filled hc h
  | streamEnds error => exact hi.streamEnds h
  | timeout => exact hi.timeout h
  | terminated succeeds => exact hi.terminated hc h
  | cancel => exact hi.cancel hc h
  | answer payload => exact hi.answer h
  | close =>
    cases h
    exact hi.goesOn rfl rfl rfl (fun _ => rfl) (Nat.le_refl _) hi.idle
      (Streams.passes rfl rfl rfl rfl (fun hopen => by cases hopen) (Nat.le_refl _))
  | elapse nanoseconds =>
    cases h
    exact hi.goesOn rfl rfl rfl id (Nat.le_add_right _ _) hi.idle
      (Streams.passes rfl rfl rfl rfl id (Nat.le_add_right _ _))

theorem inStep_spawn : InStep (.spawn : PluginHostStdioClient Payload Result JsonError) where
  settled _ hmem := absurd hmem List.not_mem_nil
  gone := List.Pairwise.nil
  child _ _ hmem := absurd hmem List.not_mem_nil
  idle _ := rfl
  streams _ := ⟨rfl, Nat.le_refl 0, fun _ => rfl⟩

/-! A call that waits. -/

theorem exists_run_filled {call : Call Payload Result JsonError} {own : Nat}
    {line rest : List UInt8} {response : PluginRpcResponse Result} (hrest : newline ∉ rest)
    (hle : (line ++ rest).length ≤ defaultPluginRpcMaxMessageBytes)
    (hslice : call.request.responses.fromSlice (line ++ rest) = .ok response)
    (hid : response.correlationId = call.request.envelope.correlationId)
    (hphase : client.phase = .reading call own line) (hunread : client.unread = rest ++ [newline])
    (sizes : List Nat) (hsizes : client.unread.length ≤ sizes.length) :
    ∃ read next, read <+: sizes ∧
      (stdioMachine Payload Result JsonError).run (read.map .filled) client = some next ∧
      next.ended = client.ended ++ [⟨call, .result (.ok response), some own, client.child⟩] := by
  induction sizes generalizing client line rest with
  | nil =>
    rw [hunread, List.length_append] at hsizes
    exact absurd hsizes (Nat.not_succ_le_zero _)
  | cons size sizes ih =>
    have hfits : line.length + (nextLine ((rest ++ [newline]).take (size + 1))).length ≤
        defaultPluginRpcMaxMessageBytes := by
      rw [List.length_append] at hle
      exact Nat.le_trans (Nat.add_le_add_left (length_nextLine_take_le hrest _) _) hle
    have havailable : (rest ++ [newline]).take (size + 1) ≠ [] := by simp
    obtain ⟨front, back, rfl, hfront, hchunk, hdrop⟩ | ⟨-, hchunk, hdrop⟩ :=
      readChunk_cases size hrest hfits
    · have hstep : client.step (.filled size) = some { client with
          unread := back ++ [newline]
          phase := .reading call own (line ++ front) } := by
        simp only [PluginHostStdioClient.step, hphase, hunread, if_neg havailable, hchunk, hdrop]
        rfl
      rw [hunread] at hsizes
      have hshorter : (back ++ [newline]).length ≤ sizes.length := by
        have hpos := List.length_pos_of_ne_nil hfront
        simp only [List.length_append, List.length_cons] at hsizes ⊢
        omega
      rw [← List.append_assoc] at hle hslice
      obtain ⟨read, next, hread, hrun, hended⟩ := @ih
        { client with
          unread := back ++ [newline]
          phase := .reading call own (line ++ front) } _ _
        (fun hmem => hrest (List.mem_append_right _ hmem)) hle hslice rfl rfl hshorter
      refine ⟨size :: read, next, (List.prefix_cons_inj size).mpr hread, ?_, hended⟩
      rw [List.map_cons, Machine.run]
      exact (congrArg (Option.bind · _) hstep).trans hrun
    · have hstep : client.step (.filled size) =
          some ({ client with unread := [] }.finish call (some own) (.result (.ok response))) := by
        have hreceived := received_of_slice hle hslice hid
        simp only [PluginHostStdioClient.step, hphase, hunread, if_neg havailable, hchunk, hdrop,
          if_true, hreceived]
      exact ⟨[size], _, (List.prefix_cons_inj size).mpr List.nil_prefix,
        congrArg (Option.bind · _) hstep, rfl⟩

theorem InStep.returnsWhenRead (hi : InStep client) : client.ReturnsWhenRead := by
  intro call own line response hphase hanswered sizes hsizes
  obtain ⟨time, payload, hanswer, -, hle, hslice, hid⟩ := hanswered
  obtain ⟨-, -, hawaits⟩ := hi.reading hphase
  cases hawaits with
  | pending _ hlate _ =>
    have hnone : client.answers[own]? = none := List.getElem?_eq_none hlate
    exact absurd (hnone.symm.trans hanswer) (by simp)
  | arrived time' line rest hrest hunread _ hown =>
    cases hown.symm.trans hanswer
    exact exists_run_filled hrest hle hslice hid hphase hunread sizes hsizes

theorem never_out_of_step
    (h : (stdioMachine Payload Result JsonError).Reaches Completes client) :
    client.NeverOutOfStep := by
  have hi : InStep client := Machine.Steps.invariant (fun _ _ _ => inStep_step) h inStep_spawn
  intro before exchange after hended
  constructor
  · intro hgone later hlater
    have hpairs := hi.gone
    rw [hended] at hpairs
    exact (List.pairwise_cons.mp (List.pairwise_append.mp hpairs).2.1).1 later hlater hgone
  · refine fun _ => .inr ⟨fun between last rest hafter _ hanswered => ?_, fun _ =>
      hi.returnsWhenRead⟩
    exact (hi.settled last (by simp [hended, hafter])).1 hanswered

/-! Two calls, the first of which gets a response with a wrong identifier or is cancelled. -/

def plainRequest (id : String) : Request Unit Unit Unit where
  envelope := { protocolVersion := 1, correlationId := id, method := .health, payload := () }
  timeout := 5 * 10 ^ 9
  requests :=
    { toVec := fun envelope => .ok (envelope.correlationId.toList.flatMap String.utf8EncodeChar)
      fromSlice := fun _ => .error () }
  responses :=
    { toVec := fun _ => .error ()
      fromSlice := fun payload =>
        match payload with
        | [byte] =>
          .ok { protocolVersion := 1
                correlationId := String.ofList [Char.ofNat byte.toNat]
                ok := true
                result := some ()
                error := none }
        | _ => .error () }

theorem never_out_of_step_mismatch :
    ∃ client, (stdioMachine Unit Unit Unit).Reaches Completes client ∧
      client.ended.length = 2 ∧ client.NeverOutOfStep := by
  have hcheck : ∀ (client : PluginHostStdioClient Unit Unit Unit) (action : Action Unit Unit Unit),
      completes client action = true → Completes client action := fun _ _ h => h
  obtain ⟨client, hclient, hlength⟩ := Machine.exists_of_runWhile
    (M := stdioMachine Unit Unit Unit) (C := Completes) hcheck
    [.call (plainRequest "1"), .written 1, .elapse 7, .answer [0x33], .filled 7,
      .call (plainRequest "2"), .written 0, .written 0, .answer [0x32], .filled 0, .filled 0]
    (P := fun client => client.ended.length = 2) rfl
  exact ⟨client, hclient, hlength, never_out_of_step hclient⟩

def staleRun : List (Action Unit Unit Unit) :=
  [.call (plainRequest "1"), .written 1, .cancel, .call (plainRequest "2"), .written 1,
    .answer [0x31], .filled 7, .elapse (10 ^ 9), .answer [0x32]]

theorem cancelled_call_leaves_its_response :
    ∃ client, (stdioMachine Unit Unit Unit).Reachable client ∧
      (client.ended.map fun exchange =>
        exchange.call.request.envelope.correlationId).Nodup ∧ ¬client.NeverOutOfStep := by
  obtain ⟨client, hrun, hended, hanswers⟩ :
      ∃ client, (stdioMachine Unit Unit Unit).run staleRun .spawn = some client ∧
        client.ended =
          [⟨⟨plainRequest "1", 5 * 10 ^ 9⟩, .cancelled, some 0, true⟩,
            ⟨⟨plainRequest "2", 5 * 10 ^ 9⟩, .result (.error (.correlationMismatch "2" "1")),
              some 1, true⟩] ∧
        client.answers = [(0, [0x31]), (10 ^ 9, [0x32])] := ⟨_, rfl, rfl, rfl⟩
  refine ⟨client, Machine.reachable_of_run staleRun hrun, ?_, ?_⟩
  · rw [hended]
    decide
  · intro h
    have hnext := (h [] _ _ hended).2 fun ⟨_, _, _, _, _, _, _, houtcome⟩ => by cases houtcome
    obtain hgone | ⟨hreturns, -⟩ := hnext
    · cases hgone
    · have hanswered : client.Answered ⟨⟨plainRequest "2", 5 * 10 ^ 9⟩,
          .result (.error (.correlationMismatch "2" "1")), some 1, true⟩ := by
        refine ⟨by rintro ⟨⟩, 1, ⟨1, "2", true, some (), none⟩, rfl, ?_⟩
        rw [PluginHostStdioClient.IsAnswered, hanswers]
        exact ⟨10 ^ 9, [0x32], rfl, by decide, by decide, rfl, rfl⟩
      obtain ⟨_, _, _, _, _, _, _, houtcome⟩ :=
        hreturns [] _ [] rfl (fun _ hmem => by cases hmem) hanswered
      cases houtcome

end Jellyrin.PluginRpc
