import Mathlib.Data.List.Flatten
import PyAds.Base.LittleEndian
import PyAds.Base.Runs
import PyAds.Base.SlotSequence
import PyAds.Values

/-! The connection of the test server to one client. The bytes of a request are
what one receive returns: packets that arrive together are taken for one, and a
packet that arrives in parts for several. -/
namespace PyAds
open Runs SlotSequence

/-! ## Packets -/

structure AmsHeader where
  targetNetId : Bytes
  targetPort : Bytes
  sourceNetId : Bytes
  sourcePort : Bytes
  commandId : Bytes
  stateFlags : Bytes
  length : Bytes
  errorCode : Bytes
  invokeId : Bytes
  data : Bytes
  deriving DecidableEq

/-- `AmsPacket`, with the length that its `AmsTcpHeader` consists of. -/
structure AmsPacket where
  tcpHeader : Bytes
  amsHeader : AmsHeader
  deriving DecidableEq

structure AmsResponseData where
  stateFlags : Bytes
  errorCode : Bytes
  data : Bytes

/-- `data[start:stop]` -/
def bytesBetween (start stop : Nat) (data : Bytes) : Bytes := (data.take stop).drop start

/-- `construct_request` -/
def constructRequest (data : Bytes) : AmsPacket :=
  ⟨bytesBetween 2 6 data, ⟨bytesBetween 6 12 data, bytesBetween 12 14 data, bytesBetween 14 20 data, bytesBetween 20 22 data, bytesBetween 22 24 data,
    bytesBetween 24 26 data, bytesBetween 26 30 data, bytesBetween 30 34 data, bytesBetween 34 38 data, data.drop 38⟩⟩

/-- `construct_response`; the lengths are packed into four bytes. -/
def constructResponse (responseData : AmsResponseData) (request : AmsPacket) : Result Bytes :=
  if 2 ^ 32 ≤ responseData.data.length then .error .structError
  else
    let amsHeader := request.amsHeader.sourceNetId ++ request.amsHeader.sourcePort ++ request.amsHeader.targetNetId ++
      request.amsHeader.targetPort ++ request.amsHeader.commandId ++ responseData.stateFlags ++
      LittleEndian.ofNat 4 responseData.data.length ++ responseData.errorCode ++ request.amsHeader.invokeId ++
      responseData.data
    if 2 ^ 32 ≤ amsHeader.length then .error .structError
    else .ok ([0, 0] ++ LittleEndian.ofNat 4 amsHeader.length ++ amsHeader)

/-- A packet as a client sends it: two reserved bytes, the length of what
follows, and a header that tells the length of its data. -/
structure WellFormedPacket (packet : Bytes) : Prop where
  reserved : packet.take 2 = [0, 0]
  header : 38 ≤ packet.length
  tcpLength : LittleEndian.toNat (bytesBetween 2 6 packet) = packet.length - 6
  amsLength : LittleEndian.toNat (bytesBetween 26 30 packet) = packet.length - 38

/-! ## The loop -/

/-- What a handler returns: response data, something that is none, or nothing
because it raises. -/
inductive HandlerAnswer where
  | response (responseData : AmsResponseData)
  | invalid
  | raised

/-- A handler with its state. -/
structure RequestHandler (σ : Type) where
  handleRequest : σ → AmsPacket → HandlerAnswer × σ

namespace RequestHandler

/-- The loop of `run` over what is received: the requests that are passed to the
handler, each with the response that is sent. -/
def run (handler : RequestHandler σ) (state : σ) : List Bytes → List (AmsPacket × Option Bytes)
  | [] => []
  | data :: chunks =>
    if data = [] then []
    else if data.length < 38 then run handler state chunks
    else
      let request := constructRequest data
      match handler.handleRequest state request with
      | (.raised, _) => [(request, none)]
      | (.invalid, state) => (request, none) :: run handler state chunks
      | (.response responseData, state) =>
        match constructResponse responseData request with
        | .error _ => [(request, none)]
        | .ok responseBytes => (request, some responseBytes) :: run handler state chunks

def after (handler : RequestHandler σ) (state : σ) (request : AmsPacket) : σ := (handler.handleRequest state request).2

/-- The handler returns response data for the request, which can be packed. -/
def Responds (handler : RequestHandler σ) (state : σ) (request : AmsPacket) : Prop :=
  ∃ responseData responseBytes, (handler.handleRequest state request).1 = .response responseData ∧
    constructResponse responseData request = .ok responseBytes

variable {handler : RequestHandler σ} {state : σ}

theorem run_of_responds (received : 38 ≤ data.length) (responds : handler.Responds state (constructRequest data))
    (chunks : List Bytes) : ∃ responseBytes, handler.run state (data :: chunks) =
      (constructRequest data, some responseBytes) :: handler.run (handler.after state (constructRequest data)) chunks := by
  obtain ⟨responseData, responseBytes, answered, constructed⟩ := responds
  refine ⟨responseBytes, ?_⟩
  have some_ : data ≠ [] := by
    rintro rfl
    simp at received
  rw [run, if_neg some_, if_neg (by omega), after]
  cases handled : handler.handleRequest state (constructRequest data) with
  | mk answer later =>
    rw [handled] at answered
    cases answered
    simp [handled, constructed]

theorem run_of_not_responds (received : 38 ≤ data.length)
    (refuses : ¬ handler.Responds state (constructRequest data)) (chunks : List Bytes) :
    (constructRequest data, none) ∈ handler.run state (data :: chunks) := by
  have some_ : data ≠ [] := by
    rintro rfl
    simp at received
  rw [run, if_neg some_, if_neg (by omega)]
  cases handled : handler.handleRequest state (constructRequest data) with
  | mk answer later =>
    cases answer with
    | raised => simp [handled]
    | invalid => simp [handled]
    | response responseData =>
      cases constructed : constructResponse responseData (constructRequest data) with
      | error e => simp [handled, constructed]
      | ok responseBytes => exact absurd ⟨responseData, responseBytes, by rw [handled], constructed⟩ refuses

theorem run_short (nonempty : data ≠ []) (short : data.length < 38) (chunks : List Bytes) :
    handler.run state (data :: chunks) = handler.run state chunks := by
  rw [run, if_neg nonempty, if_pos short]

/-- All responses are sent exactly if the handler responds to all requests,
which are those of the chunks that are long enough. -/
theorem run_answered_iff {chunks : List Bytes} (nonempty : ∀ data ∈ chunks, data ≠ []) :
    (∀ passed ∈ handler.run state chunks, passed.2 ≠ none) ↔
      Along handler.after handler.Responds state ((chunks.filter (38 ≤ ·.length)).map constructRequest) := by
  induction chunks generalizing state with
  | nil => simp [run, Along]
  | cons data chunks ih =>
    have later : ∀ data ∈ chunks, data ≠ [] := fun data member => nonempty data (List.mem_cons_of_mem _ member)
    by_cases received : 38 ≤ data.length
    · rw [List.filter_cons_of_pos (by simpa using received), List.map_cons, Along]
      by_cases responds : handler.Responds state (constructRequest data)
      · obtain ⟨responseBytes, same⟩ := run_of_responds received responds chunks
        rw [same, List.forall_mem_cons, ih later]
        simp [responds]
      · refine iff_of_false ?_ (fun both => responds both.1)
        intro all
        exact all _ (run_of_not_responds received responds chunks) rfl
    · rw [run_short (nonempty data List.mem_cons_self) (by omega), ih later,
        List.filter_cons_of_neg (by simpa using received)]

/-- Where the handler responds, it is passed what has been received. -/
theorem run_passed {chunks : List Bytes} (nonempty : ∀ data ∈ chunks, data ≠ [])
    (responds : Along handler.after handler.Responds state ((chunks.filter (38 ≤ ·.length)).map constructRequest)) :
    (handler.run state chunks).map Prod.fst = (chunks.filter (38 ≤ ·.length)).map constructRequest := by
  induction chunks generalizing state with
  | nil => rfl
  | cons data chunks ih =>
    have later : ∀ data ∈ chunks, data ≠ [] := fun data member => nonempty data (List.mem_cons_of_mem _ member)
    by_cases received : 38 ≤ data.length
    · rw [List.filter_cons_of_pos (by simpa using received), List.map_cons] at responds ⊢
      obtain ⟨responseBytes, same⟩ := run_of_responds received responds.1 chunks
      rw [same, List.map_cons, ih later responds.2]
    · rw [List.filter_cons_of_neg (by simpa using received)] at responds ⊢
      rw [run_short (nonempty data List.mem_cons_self) (by omega), ih later responds]

end RequestHandler

/-! ## Chunks and packets -/

/-- A request tells the bytes of its packet, apart from the reserved ones. -/
theorem length_eq_of_constructRequest (same : constructRequest first = constructRequest second)
    (long : 38 ≤ first.length) (also : 38 ≤ second.length) : first.length = second.length := by
  have data := congrArg (·.amsHeader.data.length) same
  simp only [constructRequest, List.length_drop] at data
  omega

theorem lengths_eq_of_requests {chunks packets : List Bytes}
    (same : chunks.map constructRequest = packets.map constructRequest) (long : ∀ data ∈ chunks, 38 ≤ data.length)
    (also : ∀ packet ∈ packets, 38 ≤ packet.length) : chunks.map List.length = packets.map List.length := by
  induction chunks generalizing packets with
  | nil =>
    cases packets with
    | nil => rfl
    | cons packet packets => cases same
  | cons data chunks ih =>
    cases packets with
    | nil => cases same
    | cons packet packets =>
      rw [List.map_cons, List.map_cons, List.cons.injEq] at same
      rw [List.forall_mem_cons] at long also
      rw [List.map_cons, List.map_cons, length_eq_of_constructRequest same.1 long.1 also.1, ih same.2 long.2 also.2]

/-- Chunks without which the stream would have the same length are none. -/
theorem filter_eq_self_of_length {chunks : List Bytes} (nonempty : ∀ data ∈ chunks, data ≠ []) (p : Bytes → Bool)
    (length : (chunks.filter p).flatten.length = chunks.flatten.length) : chunks.filter p = chunks := by
  induction chunks with
  | nil => rfl
  | cons data chunks ih =>
    rw [List.forall_mem_cons] at nonempty
    have fewer : (chunks.filter p).flatten.length ≤ chunks.flatten.length :=
      (List.filter_sublist.flatten).length_le
    have some_ : 0 < data.length := List.length_pos_iff.mpr nonempty.1
    by_cases kept : p data
    · rw [List.filter_cons_of_pos kept] at length ⊢
      rw [List.flatten_cons, List.flatten_cons, List.length_append, List.length_append] at length
      rw [ih nonempty.2 (by omega)]
    · rw [List.filter_cons_of_neg kept, List.flatten_cons, List.length_append] at length
      omega

/-- Chunks of a stream from which the requests of its packets are built are the packets. -/
theorem chunks_eq_packets {chunks packets : List Bytes} (nonempty : ∀ data ∈ chunks, data ≠ [])
    (also : ∀ packet ∈ packets, 38 ≤ packet.length) (stream : chunks.flatten = packets.flatten)
    (same : (chunks.filter (38 ≤ ·.length)).map constructRequest = packets.map constructRequest) : chunks = packets := by
  have long : ∀ data ∈ chunks.filter (38 ≤ ·.length), 38 ≤ data.length := by simp
  have lengths := lengths_eq_of_requests same long also
  have all : chunks.filter (38 ≤ ·.length) = chunks := by
    apply filter_eq_self_of_length nonempty
    rw [stream, List.length_flatten, List.length_flatten, lengths]
  rw [all] at lengths
  exact List.eq_iff_flatten_eq.mpr ⟨stream, lengths⟩

/-- However a stream of packets is received, the handler is passed these packets
and each is answered exactly if every receive returns one packet and the
handler responds to all of them. -/
theorem requests_passed_iff (handler : RequestHandler σ) (state : σ) (packets chunks : List Bytes)
    (wellFormed : ∀ packet ∈ packets, WellFormedPacket packet) (received : ∀ data ∈ chunks, data ≠ [] ∧ data.length ≤ 4096)
    (stream : chunks.flatten = packets.flatten) :
    ((handler.run state chunks).map Prod.fst = packets.map constructRequest ∧
        ∀ passed ∈ handler.run state chunks, passed.2 ≠ none) ↔
      chunks = packets ∧ Along handler.after handler.Responds state (packets.map constructRequest) := by
  have nonempty : ∀ data ∈ chunks, data ≠ [] := fun data member => (received data member).1
  have header : ∀ packet ∈ packets, 38 ≤ packet.length := fun packet member => (wellFormed packet member).header
  rw [handler.run_answered_iff nonempty]
  constructor
  · rintro ⟨passed, responds⟩
    rw [handler.run_passed nonempty responds] at passed
    refine ⟨chunks_eq_packets nonempty header stream passed, ?_⟩
    rw [← passed]
    exact responds
  · rintro ⟨rfl, responds⟩
    have all : chunks.filter (38 ≤ ·.length) = chunks := List.filter_eq_self.mpr (by simpa using header)
    rw [← all] at responds
    refine ⟨?_, responds⟩
    rw [handler.run_passed nonempty responds, all]

/-- A request for the state of the device, with the first byte of its invoke id. -/
def stateRequest (invokeId : UInt8) : Bytes :=
  [0, 0, 32, 0, 0, 0, 5, 18, 27, 36, 1, 1, 83, 3, 5, 18, 27, 99, 1, 1, 48, 117, 4, 0, 4, 0, 0, 0, 0, 0,
   0, 0, 0, 0, invokeId, 0, 0, 0]

theorem stateRequest_wellFormed (invokeId : UInt8) : WellFormedPacket (stateRequest invokeId) := by
  refine ⟨rfl, ?_, ?_, ?_⟩
  · simp [stateRequest]
  · simp [stateRequest, bytesBetween, LittleEndian.toNat]
  · simp [stateRequest, bytesBetween, LittleEndian.toNat]

/-- A handler that reports a running device. -/
def runningHandler : RequestHandler Unit := ⟨fun _ _ => (.response ⟨[5, 0], [0, 0, 0, 0], [0, 0, 0, 0, 5, 0, 0, 0]⟩, ())⟩

theorem separate_receives_answered :
    (runningHandler.run () [stateRequest 1, stateRequest 2]).map Prod.fst =
        [stateRequest 1, stateRequest 2].map constructRequest ∧
      ∀ passed ∈ runningHandler.run () [stateRequest 1, stateRequest 2], passed.2 ≠ none := by
  refine (requests_passed_iff runningHandler () [stateRequest 1, stateRequest 2] [stateRequest 1, stateRequest 2]
    ?_ ?_ rfl).mpr ⟨rfl, ?_⟩
  · simp [stateRequest_wellFormed]
  · simp [stateRequest]
  · exact ⟨⟨_, _, rfl, rfl⟩, ⟨_, _, rfl, rfl⟩, trivial⟩

/-- Of two requests that arrive together the second one is lost. -/
theorem joined_requests_lost : ¬ ((runningHandler.run () [stateRequest 1 ++ stateRequest 2]).map Prod.fst =
        [stateRequest 1, stateRequest 2].map constructRequest ∧
      ∀ passed ∈ runningHandler.run () [stateRequest 1 ++ stateRequest 2], passed.2 ≠ none) := by
  rintro ⟨passed, _⟩
  have count : (1 : Nat) = 2 := congrArg List.length passed
  cases count


/-! ## Replies -/

namespace AmsHeader

/-- The fields have the widths at which a packet is cut. -/
structure Sized (header : AmsHeader) : Prop where
  targetNetId : header.targetNetId.length = 6
  targetPort : header.targetPort.length = 2
  sourceNetId : header.sourceNetId.length = 6
  sourcePort : header.sourcePort.length = 2
  commandId : header.commandId.length = 2
  stateFlags : header.stateFlags.length = 2
  length : header.length.length = 4
  errorCode : header.errorCode.length = 4
  invokeId : header.invokeId.length = 4

/-- The fields in the order in which they are sent. -/
def bytes (header : AmsHeader) : Bytes :=
  header.targetNetId ++ (header.targetPort ++ (header.sourceNetId ++ (header.sourcePort ++ (header.commandId ++
    (header.stateFlags ++ (header.length ++ (header.errorCode ++ (header.invokeId ++ header.data))))))))

/-- The header of the response to a request. -/
def reply (responseData : AmsResponseData) (request : AmsHeader) : AmsHeader where
  targetNetId := request.sourceNetId
  targetPort := request.sourcePort
  sourceNetId := request.targetNetId
  sourcePort := request.targetPort
  commandId := request.commandId
  stateFlags := responseData.stateFlags
  length := LittleEndian.ofNat 4 responseData.data.length
  errorCode := responseData.errorCode
  invokeId := request.invokeId
  data := responseData.data

theorem Sized.length_bytes {header : AmsHeader} (sized : header.Sized) :
    header.bytes.length = 32 + header.data.length := by
  simp only [bytes, List.length_append, sized.targetNetId, sized.targetPort, sized.sourceNetId, sized.sourcePort,
    sized.commandId, sized.stateFlags, sized.length, sized.errorCode, sized.invokeId]
  omega

theorem Sized.reply {request : AmsHeader} (sized : request.Sized) {responseData : AmsResponseData}
    (stateFlags : responseData.stateFlags.length = 2) (errorCode : responseData.errorCode.length = 4) :
    (request.reply responseData).Sized where
  targetNetId := sized.sourceNetId
  targetPort := sized.sourcePort
  sourceNetId := sized.targetNetId
  sourcePort := sized.targetPort
  commandId := sized.commandId
  stateFlags := stateFlags
  length := LittleEndian.length_ofNat ..
  errorCode := errorCode
  invokeId := sized.invokeId

end AmsHeader

theorem length_bytesBetween (start : Nat) (inside : stop ≤ data.length) :
    (bytesBetween start stop data).length = stop - start := by
  rw [bytesBetween, List.length_drop, List.length_take, Nat.min_eq_left inside]

theorem sized_constructRequest (long : 38 ≤ data.length) : (constructRequest data).amsHeader.Sized := by
  constructor <;> exact length_bytesBetween _ (by omega)

/-- The fields of a packet are cut where they were joined. -/
theorem constructRequest_bytes {header : AmsHeader} (sized : header.Sized) {reserved tcpHeader : Bytes}
    (two : reserved.length = 2) (four : tcpHeader.length = 4) :
    constructRequest (reserved ++ (tcpHeader ++ header.bytes)) = ⟨tcpHeader, header⟩ := by
  let pieces : List Bytes := [reserved, tcpHeader, header.targetNetId, header.targetPort, header.sourceNetId,
    header.sourcePort, header.commandId, header.stateFlags, header.length, header.errorCode, header.invokeId]
  have whole : reserved ++ (tcpHeader ++ header.bytes) = pieces.flatten ++ header.data := by
    simp [pieces, AmsHeader.bytes]
  have widths : pieces.map List.length = [2, 4, 6, 2, 6, 2, 2, 2, 4, 4, 4] := by
    simp [pieces, two, four, sized.targetNetId, sized.targetPort, sized.sourceNetId, sized.sourcePort,
      sized.commandId, sized.stateFlags, sized.length, sized.errorCode, sized.invokeId]
  have field (i : Nat) {piece : Bytes} (found : pieces[i]? = some piece) :
      bytesBetween ([2, 4, 6, 2, 6, 2, 2, 2, 4, 4, 4].take i).sum ([2, 4, 6, 2, 6, 2, 2, 2, 4, 4, 4].take (i + 1)).sum
        (pieces.flatten ++ header.data) = piece :=
    drop_take_flatten widths found header.data
  have rest : (pieces.flatten ++ header.data).drop 38 = header.data :=
    List.drop_left' (by rw [List.length_flatten, widths]; rfl)
  rw [whole, constructRequest]
  congr 1
  · exact field 1 rfl
  · congr 1
    · exact field 2 rfl
    · exact field 3 rfl
    · exact field 4 rfl
    · exact field 5 rfl
    · exact field 6 rfl
    · exact field 7 rfl
    · exact field 8 rfl
    · exact field 9 rfl
    · exact field 10 rfl

theorem constructResponse_eq_ok : constructResponse responseData request = .ok packet ↔
    responseData.data.length < 2 ^ 32 ∧ (request.amsHeader.reply responseData).bytes.length < 2 ^ 32 ∧
      packet = [0, 0] ++ (LittleEndian.ofNat 4 (request.amsHeader.reply responseData).bytes.length ++
        (request.amsHeader.reply responseData).bytes) := by
  have joined : (request.amsHeader.reply responseData).bytes = request.amsHeader.sourceNetId ++
      request.amsHeader.sourcePort ++ request.amsHeader.targetNetId ++ request.amsHeader.targetPort ++
      request.amsHeader.commandId ++ responseData.stateFlags ++ LittleEndian.ofNat 4 responseData.data.length ++
      responseData.errorCode ++ request.amsHeader.invokeId ++ responseData.data := by
    simp [AmsHeader.bytes, AmsHeader.reply]
  rw [constructResponse, ← joined]
  by_cases small : responseData.data.length < 2 ^ 32
  · by_cases fits : (request.amsHeader.reply responseData).bytes.length < 2 ^ 32
    · simp only [Nat.not_le.mpr small, Nat.not_le.mpr fits, ↓reduceIte, small, fits, true_and, Except.ok.injEq,
        List.append_assoc]
      exact eq_comm
    · rw [if_neg (Nat.not_le.mpr small), if_pos (Nat.le_of_not_lt fits)]
      exact iff_of_false (by rintro ⟨⟩) fun all => fits all.2.1
  · rw [if_pos (Nat.le_of_not_lt small)]
    exact iff_of_false (by rintro ⟨⟩) fun all => small all.1

/-- A packet replies to a request with the given response data. -/
structure AmsPacket.Replies (request : AmsPacket) (responseData : AmsResponseData) (packet : Bytes) : Prop where
  targetNetId : (constructRequest packet).amsHeader.targetNetId = request.amsHeader.sourceNetId
  targetPort : (constructRequest packet).amsHeader.targetPort = request.amsHeader.sourcePort
  sourceNetId : (constructRequest packet).amsHeader.sourceNetId = request.amsHeader.targetNetId
  sourcePort : (constructRequest packet).amsHeader.sourcePort = request.amsHeader.targetPort
  commandId : (constructRequest packet).amsHeader.commandId = request.amsHeader.commandId
  invokeId : (constructRequest packet).amsHeader.invokeId = request.amsHeader.invokeId
  stateFlags : (constructRequest packet).amsHeader.stateFlags = responseData.stateFlags
  errorCode : (constructRequest packet).amsHeader.errorCode = responseData.errorCode
  data : (constructRequest packet).amsHeader.data = responseData.data
  amsLength : LittleEndian.toNat (constructRequest packet).amsHeader.length = responseData.data.length
  tcpLength : LittleEndian.toNat (constructRequest packet).tcpHeader = packet.length - 6

/-- A response that fits a packet is parsed as it was made. -/
theorem replies_of_sized {request : AmsPacket} (sized : request.amsHeader.Sized) {responseData : AmsResponseData}
    (stateFlags : responseData.stateFlags.length = 2) (errorCode : responseData.errorCode.length = 4)
    (fits : 32 + responseData.data.length < 2 ^ 32) :
    ∃ packet, constructResponse responseData request = .ok packet ∧
      constructRequest packet = ⟨LittleEndian.ofNat 4 (packet.length - 6), request.amsHeader.reply responseData⟩ ∧
      request.Replies responseData packet := by
  have reply := sized.reply stateFlags errorCode
  have width : (request.amsHeader.reply responseData).bytes.length = 32 + responseData.data.length :=
    reply.length_bytes
  refine ⟨_, constructResponse_eq_ok.mpr ⟨by omega, by omega, rfl⟩, ?_⟩
  have parsed := constructRequest_bytes reply (show [(0 : UInt8), 0].length = 2 from rfl)
    (LittleEndian.length_ofNat 4 (request.amsHeader.reply responseData).bytes.length)
  have behind : ([0, 0] ++ (LittleEndian.ofNat 4 (request.amsHeader.reply responseData).bytes.length ++
      (request.amsHeader.reply responseData).bytes)).length - 6 = (request.amsHeader.reply responseData).bytes.length := by
    simp only [List.length_append, LittleEndian.length_ofNat, List.length_cons, List.length_nil]
    omega
  have value {n : Nat} (small : n < 2 ^ 32) : LittleEndian.toNat (LittleEndian.ofNat 4 n) = n :=
    LittleEndian.toNat_ofNat_of_lt (small.trans_eq (by norm_num))
  refine ⟨by rw [parsed, behind], ?_⟩
  constructor <;> rw [parsed]
  case amsLength => exact value (by omega)
  case tcpLength =>
    rw [behind]
    exact value (by omega)
  all_goals rfl

/-- The bytes of a response are parsed as the reply to the request, and a
response to this reply has the addresses of the request again. -/
theorem constructResponse_replies {request : Bytes} (received : 38 ≤ request.length) {responseData : AmsResponseData}
    (stateFlags : responseData.stateFlags.length = 2) (errorCode : responseData.errorCode.length = 4)
    (fits : 32 + responseData.data.length < 2 ^ 32) :
    ∃ packet, constructResponse responseData (constructRequest request) = .ok packet ∧
      (constructRequest request).Replies responseData packet ∧
      ∀ answerData : AmsResponseData, answerData.stateFlags.length = 2 → answerData.errorCode.length = 4 →
        32 + answerData.data.length < 2 ^ 32 →
        ∃ answer, constructResponse answerData (constructRequest packet) = .ok answer ∧
          (constructRequest answer).amsHeader.targetNetId = (constructRequest request).amsHeader.targetNetId ∧
          (constructRequest answer).amsHeader.targetPort = (constructRequest request).amsHeader.targetPort ∧
          (constructRequest answer).amsHeader.sourceNetId = (constructRequest request).amsHeader.sourceNetId ∧
          (constructRequest answer).amsHeader.sourcePort = (constructRequest request).amsHeader.sourcePort := by
  have sized := sized_constructRequest received
  obtain ⟨packet, made, parsed, replies⟩ := replies_of_sized sized stateFlags errorCode fits
  refine ⟨packet, made, replies, ?_⟩
  intro answerData flags code small
  have again : (constructRequest packet).amsHeader.Sized := by
    rw [parsed]
    exact sized.reply stateFlags errorCode
  obtain ⟨answer, answered, -, back⟩ := replies_of_sized again flags code small
  exact ⟨answer, answered, back.targetNetId.trans replies.sourceNetId, back.targetPort.trans replies.sourcePort,
    back.sourceNetId.trans replies.targetNetId, back.sourcePort.trans replies.targetPort⟩

/-- What the handler reports of a running device. -/
def runningData : AmsResponseData := ⟨[5, 0], [0, 0, 0, 0], [0, 0, 0, 0, 5, 0, 0, 0]⟩

theorem stateRequest_answered :
    ∃ packet, constructResponse runningData (constructRequest (stateRequest 1)) = .ok packet ∧
      (constructRequest (stateRequest 1)).Replies runningData packet ∧
      ∀ answerData : AmsResponseData, answerData.stateFlags.length = 2 → answerData.errorCode.length = 4 →
        32 + answerData.data.length < 2 ^ 32 →
        ∃ answer, constructResponse answerData (constructRequest packet) = .ok answer ∧
          (constructRequest answer).amsHeader.targetNetId = (constructRequest (stateRequest 1)).amsHeader.targetNetId ∧
          (constructRequest answer).amsHeader.targetPort = (constructRequest (stateRequest 1)).amsHeader.targetPort ∧
          (constructRequest answer).amsHeader.sourceNetId = (constructRequest (stateRequest 1)).amsHeader.sourceNetId ∧
          (constructRequest answer).amsHeader.sourcePort = (constructRequest (stateRequest 1)).amsHeader.sourcePort :=
  constructResponse_replies (by simp [stateRequest]) rfl rfl (by decide)

/-- Four gigabytes of data have no length in four bytes. -/
theorem oversized_data_unanswered : ¬ ∃ packet, constructResponse ⟨[5, 0], [0, 0, 0, 0], List.replicate (2 ^ 32) 0⟩
    (constructRequest (stateRequest 1)) = .ok packet := by
  rintro ⟨packet, made⟩
  have small := (constructResponse_eq_ok.mp made).1
  rw [List.length_replicate] at small
  exact absurd small (Nat.lt_irrefl _)

end PyAds
