import Jellyrin.Defs.Data.Fallible

/-! Messages of the plugin host, one JSON text a line. -/

namespace Jellyrin.PluginRpc

def newline : UInt8 := 0x0A

inductive PluginRpcCodecError (JsonError : Type) where
  | json (error : JsonError)
  | messageTooLarge (limit : Nat)
  | unexpectedEof
  deriving DecidableEq

/-- `serde_json::to_vec` and `serde_json::from_slice` for one type of messages. -/
structure MessageCodec (Message JsonError : Type) where
  toVec : Message → Except JsonError (List UInt8)
  fromSlice : List UInt8 → Except JsonError Message

section Codec

variable {Message JsonError : Type} (codec : MessageCodec Message JsonError)

def encodeJsonLine (message : Message) (maxBytes : Nat) :
    Except (PluginRpcCodecError JsonError) (List UInt8) := do
  let bytes ← (codec.toVec message).mapError .json
  if maxBytes < bytes.length then .error (.messageTooLarge maxBytes)
  else .ok (bytes ++ [newline])

def stripNewline (line : List UInt8) : List UInt8 :=
  if line.getLast? = some newline then line.dropLast else line

def decodeJsonLine (line : List UInt8) (maxBytes : Nat) :
    Except (PluginRpcCodecError JsonError) Message :=
  if maxBytes < (stripNewline line).length then .error (.messageTooLarge maxBytes)
  else (codec.fromSlice (stripNewline line)).mapError .json

end Codec

/-- The bytes that were not consumed, and how many of them the coming calls of `fill_buf` have
beyond the first one. -/
structure Reader where
  bytes : List UInt8
  sizes : Nat → Nat

namespace Reader

def fillBuf (reader : Reader) : List UInt8 := reader.bytes.take (reader.sizes 0 + 1)

def consume (reader : Reader) (count : Nat) : Reader where
  bytes := reader.bytes.drop count
  sizes call := reader.sizes (call + 1)

theorem length_consume_lt {reader : Reader} (h : reader.fillBuf ≠ []) {count : Nat}
    (hcount : 0 < count) : (reader.consume count).bytes.length < reader.bytes.length := by
  have hbytes : reader.bytes ≠ [] := by
    rintro hempty
    simp [fillBuf, hempty] at h
  have hpos := List.length_pos_of_ne_nil hbytes
  simp only [consume, List.length_drop]
  omega

end Reader

structure LineRead (JsonError : Type) where
  outcome : Except (PluginRpcCodecError JsonError) Unit
  line : List UInt8
  reader : Reader

def consumedBytes (available : List UInt8) : Nat :=
  (available.findIdx? (· == newline)).elim available.length (· + 1)

theorem consumedBytes_pos {available : List UInt8} (h : available ≠ []) :
    0 < consumedBytes available := by
  rw [consumedBytes]
  cases available.findIdx? (· == newline) with
  | none => exact List.length_pos_of_ne_nil h
  | some index => exact Nat.succ_pos index

/-- The lengths of two slices never overflow, so that the saturating addition is the addition. -/
def readBoundedLine (JsonError : Type) (maxBytes : Nat) (reader : Reader) (line : List UInt8) :
    LineRead JsonError :=
  let available := reader.fillBuf
  if _hempty : available = [] then ⟨.error .unexpectedEof, line, reader⟩
  else
    let payloadBytes := (available.findIdx? (· == newline)).getD available.length
    if maxBytes < line.length + payloadBytes then
      ⟨.error (.messageTooLarge maxBytes), line, reader⟩
    else
      let consumed := consumedBytes available
      if (available.findIdx? (· == newline)).isSome then
        ⟨.ok (), line ++ available.take consumed, reader.consume consumed⟩
      else
        readBoundedLine JsonError maxBytes (reader.consume consumed)
          (line ++ available.take consumed)
termination_by reader.bytes.length
decreasing_by exact Reader.length_consume_lt _hempty (consumedBytes_pos _hempty)

section Responses

variable {Message JsonError : Type} (codec : MessageCodec Message JsonError) (maxBytes : Nat)

def readResponse (reader : Reader) : Except (PluginRpcCodecError JsonError) Message × Reader :=
  let read := readBoundedLine JsonError maxBytes reader []
  (read.outcome.bind fun _ => decodeJsonLine codec read.line maxBytes, read.reader)

def readResponses : Nat → Reader →
    List (Except (PluginRpcCodecError JsonError) Message) × Reader
  | 0, reader => ([], reader)
  | count + 1, reader =>
    let (response, reader) := readResponse codec maxBytes reader
    let (responses, reader) := readResponses count reader
    (response :: responses, reader)

end Responses

end Jellyrin.PluginRpc

/-! What a reader returns does not depend on where its buffers end. -/

namespace Jellyrin.PluginRpc

variable {Message JsonError : Type} {codec : MessageCodec Message JsonError} {maxBytes : Nat}
  {reader : Reader} {line : List UInt8}

def nextLine (bytes : List UInt8) : List UInt8 := bytes.takeWhile (· != newline)

theorem nextLine_append_newline {before after : List UInt8} (h : newline ∉ before) :
    nextLine (before ++ newline :: after) = before := by
  have hbefore : ∀ b ∈ before, (b != newline) = true := by
    intro b hb
    simpa using fun heq : b = newline => h (heq ▸ hb)
  rw [nextLine, List.takeWhile_append_of_pos hbefore]
  simp

theorem nextLine_append {before after : List UInt8} (h : newline ∉ before) :
    nextLine (before ++ after) = before ++ nextLine after := by
  refine List.takeWhile_append_of_pos fun b hb => ?_
  simpa using fun heq : b = newline => h (heq ▸ hb)

theorem findIdx?_newline_cases (available : List UInt8) :
    (∃ before after, available = before ++ newline :: after ∧ newline ∉ before ∧
        available.findIdx? (· == newline) = some before.length) ∨
      (newline ∉ available ∧ available.findIdx? (· == newline) = none) := by
  induction available with
  | nil => simp
  | cons b available ih =>
    by_cases hb : b = newline
    · exact .inl ⟨[], available, by simp [hb], by simp, by simp [List.findIdx?_cons, hb]⟩
    · obtain ⟨before, after, rfl, hbefore, hindex⟩ | ⟨hnone, hindex⟩ := ih
      · refine .inl ⟨b :: before, after, rfl, ?_, ?_⟩
        · simpa using ⟨Ne.symm hb, hbefore⟩
        · simp [List.findIdx?_cons, hb, hindex]
      · refine .inr ⟨?_, ?_⟩
        · simpa using ⟨Ne.symm hb, hnone⟩
        · simp [List.findIdx?_cons, hb, hindex]

structure ReadsLine (maxBytes : Nat) (bytes line : List UInt8) (read : LineRead JsonError) :
    Prop where
  tooLarge : read.outcome = .error (.messageTooLarge maxBytes) ↔
    maxBytes < line.length + (nextLine bytes).length
  bounded : read.line.length ≤ maxBytes + 1
  whole : newline ∈ bytes → line.length + (nextLine bytes).length ≤ maxBytes →
    read.outcome = .ok () ∧ read.line = line ++ nextLine bytes ++ [newline] ∧
      read.reader.bytes = bytes.drop ((nextLine bytes).length + 1)
  ended : newline ∉ bytes → line.length + (nextLine bytes).length ≤ maxBytes →
    read.outcome = .error .unexpectedEof

theorem fillBuf_eq_nil_iff : reader.fillBuf = [] ↔ reader.bytes = [] := by
  simp [Reader.fillBuf]

theorem fillBuf_append_drop (reader : Reader) :
    reader.fillBuf ++ reader.bytes.drop reader.fillBuf.length = reader.bytes := by
  have hlength : reader.bytes.drop reader.fillBuf.length =
      reader.bytes.drop (reader.sizes 0 + 1) := by
    rw [Reader.fillBuf, List.length_take]
    obtain hle | hle := Nat.le_total (reader.sizes 0 + 1) reader.bytes.length
    · rw [Nat.min_eq_left hle]
    · rw [Nat.min_eq_right hle, List.drop_length, List.drop_eq_nil_of_le hle]
  rw [hlength, Reader.fillBuf, List.take_append_drop]

variable (JsonError) in
theorem readBoundedLine_spec (reader : Reader) (line : List UInt8) (h : line.length ≤ maxBytes) :
    ReadsLine maxBytes reader.bytes line (readBoundedLine JsonError maxBytes reader line) := by
  induction reader, line using readBoundedLine.induct maxBytes with
  | case1 reader line available hempty =>
    rw [readBoundedLine, dif_pos hempty]
    have hbytes : reader.bytes = [] := fillBuf_eq_nil_iff.mp hempty
    constructor
    · simpa [hbytes, nextLine] using h
    · simp only
      omega
    · simp [hbytes]
    · intro _ _
      rfl
  | case2 reader line available hempty payloadBytes hlarge =>
    rw [readBoundedLine, dif_neg hempty, if_pos hlarge]
    have hnext : payloadBytes ≤ (nextLine reader.bytes).length := by
      rw [← fillBuf_append_drop reader]
      obtain ⟨before, after, heq, hbefore, hindex⟩ | ⟨hnone, hindex⟩ :=
        findIdx?_newline_cases reader.fillBuf
      · have hpayload : payloadBytes = before.length := by simp [payloadBytes, available, hindex]
        simp [hpayload, heq, nextLine_append_newline hbefore]
      · simp [payloadBytes, available, hindex, nextLine_append hnone]
    constructor
    · simp only [true_iff]
      omega
    · simp only
      omega
    · intro _ hle
      omega
    · intro _ hle
      omega
  | case3 reader line available hempty payloadBytes hlarge hnewline =>
    rw [readBoundedLine, dif_neg hempty, if_neg hlarge, if_pos hnewline]
    obtain ⟨before, after, heq, hbefore, hindex⟩ | ⟨hnone, hindex⟩ :=
      findIdx?_newline_cases reader.fillBuf
    · obtain ⟨rest, hrest⟩ : ∃ rest, reader.bytes = reader.fillBuf ++ rest :=
        ⟨_, (fillBuf_append_drop reader).symm⟩
      have hbytes : reader.bytes = before ++ newline :: (after ++ rest) := by
        rw [hrest, heq, List.append_assoc, List.cons_append]
      have hnext : nextLine reader.bytes = before := by
        rw [hbytes, nextLine_append_newline hbefore]
      have hconsumed : consumedBytes available = before.length + 1 := by
        simp [consumedBytes, available, hindex]
      have hpayload : payloadBytes = before.length := by
        simp [payloadBytes, available, hindex]
      have htake : available.take (consumedBytes available) = before ++ [newline] := by
        have hbuffer : available = (before ++ [newline]) ++ after := by simp [available, heq]
        rw [hconsumed, hbuffer]
        exact List.take_left' (by simp)
      constructor
      · simp only [hnext, reduceCtorEq, false_iff]
        omega
      · simp only
        rw [htake, List.length_append, List.length_append, List.length_singleton]
        omega
      · intro _ _
        refine ⟨rfl, ?_, ?_⟩
        · rw [htake, hnext, List.append_assoc]
        · simp only [Reader.consume]
          rw [hconsumed, hnext]
      · intro hnone _
        simp [hbytes] at hnone
    · simp [available, hindex] at hnewline
  | case4 reader line available hempty payloadBytes hlarge consumed hnewline ih =>
    rw [readBoundedLine, dif_neg hempty, if_neg hlarge, if_neg hnewline]
    obtain ⟨before, after, heq, hbefore, hindex⟩ | ⟨hnone, hindex⟩ :=
      findIdx?_newline_cases reader.fillBuf
    · simp [available, hindex] at hnewline
    · have hconsumed : consumed = reader.fillBuf.length := by
        simp [consumed, consumedBytes, available, hindex]
      have hpayload : payloadBytes = reader.fillBuf.length := by
        simp [payloadBytes, available, hindex]
      have htake : available.take consumed = reader.fillBuf := by
        simp [available, hconsumed]
      have hrest : reader.bytes = reader.fillBuf ++ (reader.consume consumed).bytes := by
        rw [Reader.consume, hconsumed, fillBuf_append_drop]
      have hnext : nextLine reader.bytes =
          reader.fillBuf ++ nextLine (reader.consume consumed).bytes := by
        conv_lhs => rw [hrest, nextLine_append hnone]
      have hread := ih (by rw [htake, List.length_append]; omega)
      constructor
      · rw [hread.tooLarge, htake, hnext, List.length_append, List.length_append, Nat.add_assoc]
      · exact hread.bounded
      · intro hmem hle
        rw [hrest, List.mem_append] at hmem
        rw [hnext, List.length_append] at hle
        obtain ⟨houtcome, hline, hreader⟩ := hread.whole (hmem.resolve_left hnone)
          (by rw [htake, List.length_append]; omega)
        refine ⟨houtcome, ?_, ?_⟩
        · rw [hline, htake, hnext]
          simp
        · rw [hreader, hnext, List.length_append, Reader.consume, List.drop_drop, hconsumed,
            Nat.add_assoc]
      · intro hmem hle
        rw [hrest, List.mem_append, not_or] at hmem
        rw [hnext, List.length_append] at hle
        exact hread.ended hmem.2 (by rw [htake, List.length_append]; omega)

theorem stripNewline_append (payload : List UInt8) :
    stripNewline (payload ++ [newline]) = payload := by
  simp [stripNewline]

theorem readResponse_tooLarge_iff (reader : Reader) :
    (readResponse codec maxBytes reader).1 = .error (.messageTooLarge maxBytes) ↔
      maxBytes < (nextLine reader.bytes).length := by
  have hspec := readBoundedLine_spec JsonError reader [] (Nat.zero_le maxBytes)
  by_cases hlarge : maxBytes < (nextLine reader.bytes).length
  · have houtcome := hspec.tooLarge.mpr (by simpa using hlarge)
    simp [readResponse, houtcome, hlarge, Except.bind]
  · have hle : ([] : List UInt8).length + (nextLine reader.bytes).length ≤ maxBytes := by
      simpa using hlarge
    simp only [hlarge, iff_false]
    by_cases hmem : newline ∈ reader.bytes
    · obtain ⟨houtcome, hline, _⟩ := hspec.whole hmem hle
      rw [readResponse]
      simp only [houtcome, Except.bind]
      rw [hline, List.nil_append, decodeJsonLine, stripNewline_append, if_neg hlarge]
      cases codec.fromSlice (nextLine reader.bytes) <;> simp [Except.mapError]
    · have houtcome := hspec.ended hmem hle
      simp [readResponse, houtcome, Except.bind]

theorem encodeJsonLine_eq_ok {message : Message}
    (h : encodeJsonLine codec message maxBytes = .ok line) :
    ∃ payload, codec.toVec message = .ok payload ∧ payload.length ≤ maxBytes ∧
      line = payload ++ [newline] := by
  obtain ⟨payload, hpayload, hline⟩ := exists_of_bind_eq_ok h
  have hvec : codec.toVec message = .ok payload := by
    cases hcodec : codec.toVec message with
    | error e => simp [hcodec, Except.mapError] at hpayload
    | ok bytes => simpa [hcodec, Except.mapError] using hpayload
  by_cases hlarge : maxBytes < payload.length
  · simp [hlarge] at hline
  · exact ⟨payload, hvec, Nat.le_of_not_lt hlarge, by simpa [hlarge] using hline.symm⟩

theorem readResponse_append {message : Message}
    (hcodec : ∀ payload, codec.toVec message = .ok payload →
      newline ∉ payload ∧ codec.fromSlice payload = .ok message)
    (h : encodeJsonLine codec message maxBytes = .ok line) {rest : List UInt8}
    (hreader : reader.bytes = line ++ rest) :
    (readResponse codec maxBytes reader).1 = .ok message ∧
      (readResponse codec maxBytes reader).2.bytes = rest := by
  obtain ⟨payload, hvec, hle, rfl⟩ := encodeJsonLine_eq_ok h
  obtain ⟨hnone, hslice⟩ := hcodec payload hvec
  have hbytes : reader.bytes = payload ++ newline :: rest := by simp [hreader]
  have hnext : nextLine reader.bytes = payload := by
    rw [hbytes, nextLine_append_newline hnone]
  have hspec := readBoundedLine_spec JsonError reader [] (Nat.zero_le maxBytes)
  obtain ⟨houtcome, hline, hrest⟩ := hspec.whole (by simp [hbytes]) (by simpa [hnext] using hle)
  constructor
  · rw [readResponse]
    simp only [houtcome, Except.bind]
    rw [hline, hnext, List.nil_append, decodeJsonLine, stripNewline_append,
      if_neg (Nat.not_lt.mpr hle), hslice]
    rfl
  · rw [readResponse]
    simp only [hrest, hnext]
    rw [hbytes, ← List.drop_drop, List.drop_left]
    rfl

/-- Reading undoes writing, and only a line over the limit is refused as too large. -/
theorem json_lines_are_framed (codec : MessageCodec Message JsonError)
    (hcodec : ∀ message payload, codec.toVec message = .ok payload →
      newline ∉ payload ∧ codec.fromSlice payload = .ok message) (maxBytes : Nat) :
    (∀ messages lines, List.Forall₂
        (fun message line => encodeJsonLine codec message maxBytes = .ok line) messages lines →
      ∀ rest sizes,
        (readResponses codec maxBytes messages.length ⟨lines.flatten ++ rest, sizes⟩).1 =
            messages.map .ok ∧
          (readResponses codec maxBytes messages.length ⟨lines.flatten ++ rest, sizes⟩).2.bytes =
            rest) ∧
      ∀ reader : Reader,
        ((readBoundedLine JsonError maxBytes reader []).outcome =
            .error (.messageTooLarge maxBytes) ↔ maxBytes < (nextLine reader.bytes).length) ∧
        ((readResponse codec maxBytes reader).1 = .error (.messageTooLarge maxBytes) ↔
          maxBytes < (nextLine reader.bytes).length) ∧
        (readBoundedLine JsonError maxBytes reader []).line.length ≤ maxBytes + 1 := by
  constructor
  · intro messages lines h
    have hruns : ∀ rest (reader : Reader), reader.bytes = lines.flatten ++ rest →
        (readResponses codec maxBytes messages.length reader).1 = messages.map .ok ∧
          (readResponses codec maxBytes messages.length reader).2.bytes = rest := by
      induction h with
      | nil =>
        intro rest reader hreader
        exact ⟨rfl, by simpa [readResponses] using hreader⟩
      | @cons message line messages lines hline _ ih =>
        intro rest reader hreader
        have hfront : reader.bytes = line ++ (lines.flatten ++ rest) := by simpa using hreader
        obtain ⟨hmessage, hbytes⟩ := readResponse_append (hcodec message) hline hfront
        obtain ⟨hmessages, hrest⟩ := ih rest _ hbytes
        refine ⟨?_, ?_⟩
        · simp only [List.length_cons, readResponses, List.map_cons, hmessage, hmessages]
        · simp only [List.length_cons, readResponses, hrest]
    exact fun rest sizes => hruns rest ⟨lines.flatten ++ rest, sizes⟩ rfl
  · intro reader
    have hspec := readBoundedLine_spec JsonError reader [] (Nat.zero_le maxBytes)
    refine ⟨?_, readResponse_tooLarge_iff reader, hspec.bounded⟩
    simpa using hspec.tooLarge

def letterCodec : MessageCodec (Fin 26) Unit where
  toVec letter := .ok [0x22, UInt8.ofNat (0x61 + letter.val), 0x22]
  fromSlice
    | [0x22, byte, 0x22] =>
      if h : 0x61 ≤ byte.toNat ∧ byte.toNat < 0x61 + 26 then .ok ⟨byte.toNat - 0x61, by omega⟩
      else .error ()
    | _ => .error ()

theorem json_lines_are_framed_letters :
    (readResponses letterCodec 3 2
        ⟨[[0x22, 0x61, 0x22, 0x0A], [0x22, 0x7A, 0x22, 0x0A]].flatten ++ [0x22], (· % 2)⟩).1 =
      [.ok 0, .ok 25] := by
  refine ((json_lines_are_framed letterCodec ?_ 3).1 [0, 25] _ ?_ [0x22] (· % 2)).1
  · intro message payload h
    obtain rfl : [0x22, UInt8.ofNat (0x61 + message.val), 0x22] = payload := Except.ok.inj h
    revert message
    decide
  · exact .cons rfl (.cons rfl .nil)

end Jellyrin.PluginRpc
