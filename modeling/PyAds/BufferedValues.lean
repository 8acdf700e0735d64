import PyAds.Base.LoggedBuffer
import PyAds.Filetimes
import PyAds.StructureArrayWrites
import PyAds.SymbolNotifications

/-! The buffered value of a symbol. Reads and notifications assign it after the
transfer has succeeded, a write of a new value before the transfer begins. -/
namespace PyAds
open Runs Fallible LoggedBuffer

/-! ## The data of a write -/

deriving instance DecidableEq for StructureClass

/-- The value as a builtin one: the list that it is, or that its bytes count as. An
instance of a structure class is neither a list nor a number. -/
def SymbolValue.builtin : SymbolValue → PyVal
  | .plain (.value v) => v
  | .plain (.rows _ rows) => .list (rows.map .ofBytes)
  | .characters chars => .list (chars.map fun byte => .str [.scalar (Char.ofNat byte.toNat)])
  | .bytearray data => .ofBytes data
  | .structure_ .. => .none

/-- `c_type(value)`; every instance is true. -/
def CType.fromSymbolValue (ctype : CType) : SymbolValue → Result Bytes
  | .structure_ .. => if ctype = .bool then .ok [1] else .error .typeError
  | value => ctype.fromValue value.builtin

/-- The data that `adsSyncWriteReqEx` makes of any value. Rows are assigned as they
are to an array of such rows. -/
def requestDataOf (type : PlcDataType) (value : SymbolValue) : Result Bytes :=
  match type, value with
  | .ctypes (.simple ctype), value => ctype.fromSymbolValue value
  | .ctypes (.array element n), .plain (.rows rowType rows) =>
    if element = rowType ∧ element ≠ .char then
      if n < rows.length then .error .indexError
      else .ok (rows.flatten ++ List.replicate (n * element.sizeof - rows.flatten.length) 0)
    else requestData (some (.ctypes (.array element n))) value.builtin
  | type, value => requestData (some type) value.builtin

/-- The same for a structure class: an instance is sent, another value initialises
the first field. -/
def StructureClass.fromValue (class_ : StructureClass) (value : SymbolValue) : Result Bytes :=
  match value with
  | .structure_ other data => if other = class_ then .ok data else initialised
  | _ => initialised
where
  initialised : Result Bytes :=
    match class_.fields with
    | [] => .error .typeError
    | (_, offset, ctype) :: _ => do
      let field ← ctype.fromSymbolValue value
      return List.replicate offset 0 ++ field ++ List.replicate (class_.size - offset - field.length) 0

/-- What `write_structure_by_name` gets. Only a list is taken apart, and only a
dictionary is subscripted by a name. -/
def SymbolValue.dictionaries : SymbolValue → PyVal
  | .bytearray _ => .none
  | value => value.builtin

/-- A PLC that also answers writes by address. -/
structure SymbolWritePlc extends WritePlc where
  adsWriteAddress : UInt32 → UInt32 → Bytes → Result Unit

/-- The transfer of `AdsSymbol.write`, whose connection has been found open. -/
def AdsSymbol.transfer (symbol : AdsSymbol) (plc : SymbolWritePlc) (value : SymbolValue) : Result Unit :=
  match symbol.structure_ with
  | some structure_ =>
    (writeStructureByName true plc.toWritePlc symbol.name value.dictionaries structure_.structureDef
      structure_.arraySize (some structure_.structureSize) none).1
  | none => do
    let data ← match symbol.plcType with
      | some (.plc type) => requestDataOf type value
      | some (.structure_ class_) => class_.fromValue value
      | none => .error .typeError
    plc.adsWriteAddress symbol.indexGroup symbol.indexOffset data

/-! ## The calls -/

def SymbolValue.isNone : SymbolValue → Bool
  | .plain (.value .none) => true
  | _ => false

/-- `_check_for_open_connection` -/
def checkForOpenConnection (isOpen : Bool) : Result Unit :=
  if isOpen then .ok () else .error (.valueError "Cannot read or write data with missing or closed Connection")

namespace AdsSymbol
variable (symbol : AdsSymbol)

/-- `read`: the value that it returns, and the buffered one afterwards. -/
def readBuffered (isOpen : Bool) (plc : SymbolPlc) (buffered : SymbolValue) : Result SymbolValue × SymbolValue :=
  match checkForOpenConnection isOpen with
  | .error e => (.error e, buffered)
  | .ok _ => assignAfter (symbol.read plc) buffered

/-- `write`: the value that it has sent, and the buffered one afterwards. -/
def writeBuffered (isOpen : Bool) (plc : SymbolWritePlc) (newValue buffered : SymbolValue) :
    Result SymbolValue × SymbolValue :=
  match checkForOpenConnection isOpen with
  | .error e => (.error e, buffered)
  | .ok _ =>
    if newValue.isNone then ((symbol.transfer plc buffered).map fun _ => buffered, buffered)
    else assignBefore (symbol.transfer plc newValue) newValue

/-- The value of `parse_notification`, which converts the time stamp, too. -/
def parseSample (data : Bytes) (nTimeStamp : UInt64) : Result SymbolValue := do
  let value ← parseNotification data symbol.plcType
  let _timestamp ← filetimeToDt nTimeStamp.toNat
  return value

/-- `_value_callback`: the value that it is notified of, and the buffered one
afterwards. -/
def callbackBuffered (data : Bytes) (nTimeStamp : UInt64) (buffered : SymbolValue) :
    Result SymbolValue × SymbolValue :=
  assignAfter (symbol.parseSample data nTimeStamp) buffered

/-- With a time stamp that is a date, only the decoder decides. -/
theorem callbackBuffered_valueCallback {nTimeStamp : UInt64} (dated : filetimeToDt nTimeStamp.toNat = .ok timestamp)
    (data : Bytes) (buffered : SymbolValue) :
    (symbol.callbackBuffered data nTimeStamp buffered).2 = symbol.valueCallback buffered data := by
  unfold callbackBuffered parseSample valueCallback
  cases parseNotification data symbol.plcType with
  | error e => rfl
  | ok value =>
    simp only [bind, Except.bind, dated]
    rfl

end AdsSymbol

/-! ## Runs -/

/-- A call or a delivery, with the state of the connection and what the PLC
answers. Whether auto-update is on decides only whether notifications come. -/
inductive SymbolStep where
  | read (isOpen : Bool) (plc : SymbolPlc)
  | write (isOpen : Bool) (plc : SymbolWritePlc) (newValue : SymbolValue)
  | notification (data : Bytes) (nTimeStamp : UInt64)

namespace SymbolStep

/-- What a step transfers, and the buffered value afterwards. -/
def perform (symbol : AdsSymbol) (step : SymbolStep) (buffered : SymbolValue) : Result SymbolValue × SymbolValue :=
  match step with
  | .read isOpen plc => symbol.readBuffered isOpen plc buffered
  | .write isOpen plc newValue => symbol.writeBuffered isOpen plc newValue buffered
  | .notification data nTimeStamp => symbol.callbackBuffered data nTimeStamp buffered

/-- The buffered value and the transfers after a step. -/
def next (symbol : AdsSymbol) (s : Logged SymbolValue) (step : SymbolStep) : Logged SymbolValue :=
  s.record (step.perform symbol s.value)

/-- A step that raises leaves the buffered value. -/
def RaisingKeeps (symbol : AdsSymbol) (s : Logged SymbolValue) (step : SymbolStep) : Prop :=
  Keeps s.value (step.perform symbol s.value)

/-- A write on an open connection brings a value that is the buffered one, or whose
encoding and request succeed. -/
def Harmless (symbol : AdsSymbol) (s : Logged SymbolValue) : SymbolStep → Prop
  | .write true plc newValue =>
    newValue.isNone = false → newValue = s.value ∨ symbol.transfer plc newValue = .ok ()
  | _ => True

theorem keeps_resent (transfer : Result Unit) (buffered : SymbolValue) :
    Keeps buffered (transfer.map fun _ => buffered, buffered) :=
  fun _ _ => rfl

/-- What is transferred is what the buffer holds then. -/
theorem honest_perform (symbol : AdsSymbol) (step : SymbolStep) (buffered : SymbolValue) :
    Honest (step.perform symbol buffered) := by
  cases step with
  | read isOpen plc =>
    cases isOpen with
    | false => rintro value ⟨⟩
    | true => exact honest_assignAfter (symbol.read plc) buffered
  | write isOpen plc newValue =>
    cases isOpen with
    | false => rintro value ⟨⟩
    | true =>
      simp only [perform, AdsSymbol.writeBuffered, checkForOpenConnection, ↓reduceIte]
      split
      · exact honest_assignBefore (symbol.transfer plc buffered) buffered
      · exact honest_assignBefore (symbol.transfer plc newValue) newValue
  | notification data nTimeStamp => exact honest_assignAfter (symbol.parseSample data nTimeStamp) buffered

/-- A step that raises leaves the buffered value exactly if it is harmless. -/
theorem raisingKeeps_iff (symbol : AdsSymbol) (s : Logged SymbolValue) (step : SymbolStep) :
    RaisingKeeps symbol s step ↔ Harmless symbol s step := by
  cases step with
  | read isOpen plc =>
    refine iff_of_true ?_ trivial
    cases isOpen with
    | false => exact fun _ _ => rfl
    | true => exact keeps_assignAfter (symbol.read plc) s.value
  | write isOpen plc newValue =>
    cases isOpen with
    | false => exact iff_of_true (fun _ _ => rfl) trivial
    | true =>
      simp only [RaisingKeeps, Harmless, perform, AdsSymbol.writeBuffered, checkForOpenConnection, ↓reduceIte]
      cases newValue.isNone with
      | true => exact iff_of_true (keeps_resent _ _) (by rintro ⟨⟩)
      | false =>
        rw [if_neg Bool.false_ne_true, keeps_assignBefore_iff]
        exact ⟨fun one _ => one, fun all => all rfl⟩
  | notification data nTimeStamp =>
    exact iff_of_true (keeps_assignAfter (symbol.parseSample data nTimeStamp) s.value) trivial

end SymbolStep

/-- In a run of reads, writes and notifications, the buffered value is always the
one transferred last, and left by each step that raises, exactly if no write on
an open connection fails with a value other than the buffered one. -/
theorem bufferedValue_iff (symbol : AdsSymbol) (initial : SymbolValue) (steps : List SymbolStep) :
    (Throughout (SymbolStep.next symbol) (Logged.HoldsLast initial) (Logged.start initial) steps ∧
      Along (SymbolStep.next symbol) (SymbolStep.RaisingKeeps symbol) (Logged.start initial) steps) ↔
      Along (SymbolStep.next symbol) (SymbolStep.Harmless symbol) (Logged.start initial) steps := by
  have same : SymbolStep.RaisingKeeps symbol = SymbolStep.Harmless symbol := by
    funext s step
    exact propext (SymbolStep.raisingKeeps_iff symbol s step)
  have held := throughout_holdsLast_iff (SymbolStep.honest_perform symbol) initial steps
  rw [← same]
  constructor
  · exact And.right
  · intro keeps
    exact ⟨held.mpr keeps, keeps⟩

/-- An INT variable. -/
def counterSymbol : AdsSymbol := ⟨"MAIN.counter", 0x4020, 0, some (.plc (.ctypes (.simple .int16))), none⟩

/-- Its bytes can be read. -/
def counterPlc : SymbolPlc where
  adsGetSymbolInfo _ := .error (.adsError 1808)
  sumRead _ _ := .error (.adsError 1793)
  adsGetHandle _ := .error (.adsError 1808)
  adsSyncRead _ _ := .error (.adsError 1809)
  adsReleaseHandle _ := .error (.adsError 1809)
  adsReadAddress _ _ _ := .ok [5, 0]

/-- The PLC does not answer a write. -/
def silentPlc : SymbolWritePlc where
  adsGetHandle _ := .error (.adsError 1861)
  adsSyncWrite _ _ := .error (.adsError 1861)
  adsReleaseHandle _ := .error (.adsError 1861)
  adsWriteAddress _ _ _ := .error (.adsError 1861)

/-- After a read of 5, a write of 7 that times out leaves 7. -/
theorem bufferedValue_failed_write : ¬ Throughout (SymbolStep.next counterSymbol)
    (Logged.HoldsLast (.plain (.value .none))) (Logged.start (.plain (.value .none)))
    [.read true counterPlc, .write true silentPlc (.plain (.value (.int 7)))] := by
  intro held
  have last := held _ (foldl_mem_states ..)
  have different : (SymbolValue.plain (.value (.int 7))) = .plain (.value (.int 5)) := last
  cases different

end PyAds
