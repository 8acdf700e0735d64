import Mathlib.Data.List.ReduceOption
import PyAds.Base.SequentialObject
import PyAds.Base.WriteLog
import PyAds.HandlerRequests
import PyAds.TestServerStream

/-! The advanced handler behind the connections of the test server. Each client
has a thread of its own, which ends with the first request that is not answered,
and all of them store their values in the same variables. -/
namespace PyAds
open SlotSequence SequentialObject WriteLog

def ADSCOMMAND_READDEVICEINFO : Nat := 0x01
def ADSCOMMAND_READ : Nat := 0x02
def ADSCOMMAND_WRITE : Nat := 0x03
def ADSCOMMAND_READSTATE : Nat := 0x04
def ADSCOMMAND_WRITECTRL : Nat := 0x05
def ADSCOMMAND_ADDDEVICENOTE : Nat := 0x06
def ADSCOMMAND_DELDEVICENOTE : Nat := 0x07
def ADSCOMMAND_DEVICENOTE : Nat := 0x08
def ADSCOMMAND_READWRITE : Nat := 0x09

def ADSSTATE_RUN : Nat := 5

/-! ## Requests -/

/-- `struct.unpack` of the number in a field, which has to be there. -/
def unpackAt (width offset : Nat) (data : Bytes) : Result Nat :=
  if offset + width ≤ data.length then .ok (fieldAt width offset data) else .error .structError

/-- A request, unpacked. The attributes of a notification are only logged. -/
inductive AdsRequest where
  | readDeviceInfo
  | read (indexGroup indexOffset : UInt32) (plcDatatype : Nat)
  | write (indexGroup indexOffset : UInt32) (value : Bytes)
  | readState
  | writeControl
  | addDevicenote (indexGroup indexOffset : UInt32)
  | deleteDevicenote (handle : UInt32)
  | devicenote
  | readWrite (indexGroup : UInt32) (indexOffset readLength : Nat) (writeData : Bytes)
  deriving DecidableEq

namespace AdsRequest

/-- The request that the function of a command unpacks from its data, if there
is such a function. -/
def unpack (commandId : Nat) (data : Bytes) : Result (Option AdsRequest) :=
  if commandId = ADSCOMMAND_READDEVICEINFO then .ok (some readDeviceInfo)
  else if commandId = ADSCOMMAND_READ then do
    let indexGroup ← unpackAt 4 0 data
    let indexOffset ← unpackAt 4 4 data
    let plcDatatype ← unpackAt 4 8 data
    return some (read (.ofNat indexGroup) (.ofNat indexOffset) plcDatatype)
  else if commandId = ADSCOMMAND_WRITE then do
    let indexGroup ← unpackAt 4 0 data
    let indexOffset ← unpackAt 4 4 data
    let plcDatatype ← unpackAt 4 8 data
    return some (write (.ofNat indexGroup) (.ofNat indexOffset) (bytesBetween 12 (12 + plcDatatype) data))
  else if commandId = ADSCOMMAND_READWRITE then do
    let indexGroup ← unpackAt 4 0 data
    let indexOffset ← unpackAt 4 4 data
    let readLength ← unpackAt 4 8 data
    let writeLength ← unpackAt 4 12 data
    return some (readWrite (.ofNat indexGroup) indexOffset readLength (bytesBetween 16 (16 + writeLength) data))
  else if commandId = ADSCOMMAND_READSTATE then .ok (some readState)
  else if commandId = ADSCOMMAND_WRITECTRL then .ok (some writeControl)
  else if commandId = ADSCOMMAND_ADDDEVICENOTE then do
    let indexGroup ← unpackAt 4 0 data
    let indexOffset ← unpackAt 4 4 data
    let _ ← unpackAt 16 8 data
    return some (addDevicenote (.ofNat indexGroup) (.ofNat indexOffset))
  else if commandId = ADSCOMMAND_DELDEVICENOTE then do
    let handle ← unpackAt 4 0 data
    return some (deleteDevicenote (.ofNat handle))
  else if commandId = ADSCOMMAND_DEVICENOTE then .ok (some devicenote)
  else .ok none

/-- Read data follow their length. -/
def withLength (readData : Bytes) : Result Bytes := do
  let length ← packNumbers [(4, readData.length)]
  return length ++ readData

theorem withLength_eq_ok {readData : Bytes} (small : readData.length < 2 ^ 32) :
    withLength readData = .ok (LittleEndian.ofNat 4 readData.length ++ readData) := by
  rw [withLength, packNumbers_single (small.trans_eq (by norm_num))]
  rfl

/-- The content of the response, by the function of the command. -/
def content (handler : AdvancedHandler) : AdsRequest → Result Bytes × AdvancedHandler
  | readDeviceInfo =>
    (.ok ([1, 2, 3, 0] ++ Text.Utf8.encode "TestServer\x00".toList), handler)
  | read indexGroup indexOffset plcDatatype =>
    (handler.handleRead indexGroup indexOffset plcDatatype >>= withLength, handler)
  | write indexGroup indexOffset value =>
    let (written, handler) := handler.handleWrite indexGroup indexOffset value
    (written.map fun _ => [], handler)
  | readState => (packNumbers [(2, ADSSTATE_RUN), (2, 0)], handler)
  | writeControl | devicenote => (.ok [], handler)
  | addDevicenote indexGroup indexOffset =>
    let (handle, handler) := handler.handleAddDevicenote indexGroup indexOffset
    (handle.map fun handle => LittleEndian.ofNat 4 handle.toNat, handler)
  | deleteDevicenote handle =>
    let (deleted, handler) := handler.handleDeleteDevicenote handle
    (deleted.map fun _ => [], handler)
  | readWrite indexGroup indexOffset readLength writeData =>
    let (readData, handler) := handler.handleReadWrite indexGroup indexOffset readLength writeData
    (readData >>= withLength, handler)

end AdsRequest

namespace AdvancedHandler

/-- The response to a request with its state flags. -/
def responseTo (request : AmsPacket) (errorCode data : Bytes) : AmsResponseData :=
  ⟨LittleEndian.ofNat 2 (LittleEndian.toNat request.amsHeader.stateFlags ||| 0x0001), errorCode, data⟩

/-- What a packet asks for. -/
def unpacked (request : AmsPacket) : Result (Option AdsRequest) :=
  AdsRequest.unpack (LittleEndian.toNat request.amsHeader.commandId) request.amsHeader.data

/-- `handle_request` -/
def handleRequest (handler : AdvancedHandler) (request : AmsPacket) : HandlerAnswer × AdvancedHandler :=
  match unpacked request with
  | .error _ => (.raised, handler)
  | .ok none => (.response (responseTo request [8, 0, 0, 0] []), handler)
  | .ok (some unpacked) =>
    match unpacked.content handler with
    | (.error _, handler) => (.raised, handler)
    | (.ok content, handler) =>
      (.response (responseTo request request.amsHeader.errorCode ([0, 0, 0, 0] ++ content)), handler)

/-- The handler in the loop of a connection. -/
def requestHandler : RequestHandler AdvancedHandler := ⟨handleRequest⟩

end AdvancedHandler

/-! ## Connections -/

/-- The threads of the connections that have ended, and what they share. -/
structure ServedClients (σ κ : Type) where
  shared : σ
  ended : κ → Bool

namespace RequestHandler
variable {σ κ : Type} [DecidableEq κ]

/-- One pass of the loop of `run`, in the thread of a client. -/
def receive (handler : RequestHandler σ) (server : ServedClients σ κ) (received : κ × Bytes) :
    Option Bytes × ServedClients σ κ :=
  let (client, data) := received
  if server.ended client then (none, server)
  else if data = [] then (none, { server with ended := Function.update server.ended client true })
  else if data.length < 38 then (none, server)
  else
    let request := constructRequest data
    match handler.handleRequest server.shared request with
    | (.raised, shared) => (none, ⟨shared, Function.update server.ended client true⟩)
    | (.invalid, shared) => (none, { server with shared := shared })
    | (.response responseData, shared) =>
      match constructResponse responseData request with
      | .error _ => (none, ⟨shared, Function.update server.ended client true⟩)
      | .ok responseBytes => (some responseBytes, { server with shared := shared })

/-- A thread that has not ended passes on what is long enough. -/
theorem receive_shared (handler : RequestHandler σ) (server : ServedClients σ κ) (client : κ) (data : Bytes) :
    (handler.receive server (client, data)).2.shared =
      if server.ended client ∨ data.length < 38 then server.shared
      else handler.after server.shared (constructRequest data) := by
  unfold receive after
  dsimp only
  by_cases ended : server.ended client = true
  · simp [ended]
  by_cases empty : data = []
  · simp [ended, empty]
  by_cases short : data.length < 38
  · simp [ended, empty, short]
  · simp only [ended, empty, short, ↓reduceIte]
    cases handler.handleRequest server.shared (constructRequest data) with
    | mk answer shared =>
      cases answer with
      | raised => rfl
      | invalid => rfl
      | response responseData =>
        dsimp only
        cases constructResponse responseData (constructRequest data) <;> rfl

theorem run_ended {handler : RequestHandler σ} {server : ServedClients σ κ} (ended : server.ended client = true)
    (chunks : List Bytes) : (SequentialObject.run handler.receive server (chunks.map (client, ·))).1.reduceOption = [] := by
  induction chunks with
  | nil => rfl
  | cons data chunks ih => simp [SequentialObject.run, receive, ended, List.reduceOption_cons_of_none, ih]

/-- The loop of a connection is made of these passes. -/
theorem run_receive (handler : RequestHandler σ) {server : ServedClients σ κ} (alive : server.ended client = false)
    (chunks : List Bytes) : (handler.run server.shared chunks).filterMap Prod.snd =
      (SequentialObject.run handler.receive server (chunks.map (client, ·))).1.reduceOption := by
  induction chunks generalizing server with
  | nil => rfl
  | cons data chunks ih =>
    rw [run, List.map_cons, SequentialObject.run]
    simp only [receive, alive, Bool.false_eq_true, ↓reduceIte]
    split
    · rw [List.reduceOption_cons_of_none, run_ended (by simp)]
      rfl
    · split
      · rw [List.reduceOption_cons_of_none, ih alive]
      · cases handled : handler.handleRequest server.shared (constructRequest data) with
        | mk answer shared =>
          cases answer with
          | raised => simp [List.reduceOption_cons_of_none, run_ended]
          | invalid => simpa [List.reduceOption_cons_of_none] using @ih { server with shared := shared } alive
          | response responseData =>
            cases constructed : constructResponse responseData (constructRequest data) with
            | error e => simp [constructed, List.reduceOption_cons_of_none, run_ended]
            | ok responseBytes =>
              simpa [constructed, List.reduceOption_cons_of_some] using
                @ih { server with shared := shared } alive

end RequestHandler

end PyAds
