import PyAds.RoutePackets

/-! The three readers of a textual net id: the setter of `AmsAddr.netid`,
`_parse_ams_netid`, and the packing in `adsAddRouteToPLC`. All of them split at
the dots and call `int`; the first two store the numbers in `c_ubyte`, which
wraps, the third packs them, which raises. -/
namespace PyAds
open Fallible

/-! ## The readers -/

/-- The digits of a literal, leading zeros among them. -/
def digitCount (text : Text.Str) : Nat := (text.map asciiChar).countP Char.isDigit

/-- Whether the interpreter converts so many digits; zero stands for no limit. -/
def WithinDigits (maxStrDigits : Nat) (text : Text.Str) : Prop :=
  maxStrDigits = 0 ∨ digitCount text ≤ maxStrDigits

instance : Decidable (WithinDigits maxStrDigits text) := inferInstanceAs (Decidable (_ ∨ _))

/-- `int(text)` in an interpreter that limits the digits. -/
def intOfDigits (maxStrDigits : Nat) (text : Text.Str) : Result Int := do
  let number ← intOfText text
  if WithinDigits maxStrDigits text then return number
  else .error (.valueError "Exceeds the limit for integer string conversion")

/-- `value.split(".")` -/
def netidParts (netid : Text.Str) : List Text.Str := netid.splitOn (.scalar '.')

/-- `list(map(int, value.split(".")))` -/
def idNumbers (maxStrDigits : Nat) (netid : Text.Str) : Result (List Int) :=
  (netidParts netid).mapM (intOfDigits maxStrDigits)

/-- `c_ubyte(number)` -/
def ubyte (number : Int) : UInt8 := UInt8.ofNat (number % 256).toNat

/-- `(c_ubyte * 6)(*id_numbers)` -/
def ubyteArray (numbers : List Int) (six : numbers.length = 6) : NetId :=
  ⟨(numbers.map ubyte).toArray, by rw [List.size_toArray, List.length_map, six]⟩

/-- What is assigned to `AmsAddr.netid`. -/
inductive NetidValue where
  | struct (netId : NetId)
  | text (value : Text.Str)

/-- The setter of `AmsAddr.netid`, and the address afterwards. -/
def AmsAddr.setNetid (maxStrDigits : Nat) (amsAddr : AmsAddr) : NetidValue → Result Unit × AmsAddr
  | .struct netId => (.ok (), { amsAddr with netId })
  | .text value =>
    match idNumbers maxStrDigits value with
    | .error e => (.error e, amsAddr)
    | .ok numbers =>
      if six : numbers.length = 6 then (.ok (), { amsAddr with netId := ubyteArray numbers six })
      else (.error (.valueError "no valid netid"), amsAddr)

/-- The getter of `AmsAddr.netid`. -/
def AmsAddr.netid (amsAddr : AmsAddr) : Text.Str := Text.ofChars (dottedNetId amsAddr.netId).toList

/-- `_parse_ams_netid` -/
def parseAmsNetid (maxStrDigits : Nat) (amsNetid : Text.Str) : Result NetId :=
  match idNumbers maxStrDigits amsNetid with
  | .error (.valueError _) => .error (.valueError "no valid netid")
  | .error e => .error e
  | .ok numbers =>
    if six : numbers.length = 6 then .ok (ubyteArray numbers six) else .error (.valueError "no valid netid")

/-- `struct.pack(">6B", *map(int, netid.split(".")))` -/
def packNetid (maxStrDigits : Nat) (netid : Text.Str) : Result Bytes := do
  let numbers ← idNumbers maxStrDigits netid
  if numbers.length = 6 then
    let parts ← numbers.mapM fun number => structPack .B (.int number)
    return parts.flatten
  else .error .structError

/-! ## What a text says -/

/-- Six integers between dots, of any size. -/
def SixIntegers (netid : Text.Str) (numbers : List Int) : Prop :=
  (netidParts netid).mapM intOfText = .ok numbers ∧ numbers.length = 6

/-- All of them are the number of a byte. -/
def InByteRange (numbers : List Int) : Prop := ∀ number ∈ numbers, 0 ≤ number ∧ number ≤ 255

/-- The interpreter converts every part. -/
def PartsWithinDigits (maxStrDigits : Nat) (netid : Text.Str) : Prop :=
  ∀ part ∈ netidParts netid, WithinDigits maxStrDigits part

theorem SixIntegers.unique (one : SixIntegers netid numbers) (two : SixIntegers netid others) : numbers = others :=
  Except.ok.inj (one.1.symm.trans two.1)

/-- The numbers between dots, as the getter writes them. -/
def dottedNumbers (numbers : List Int) : Text.Str := Text.ofChars (".".intercalate (numbers.map toString)).toList

/-! ## What each reader accepts -/

theorem intOfDigits_eq_ok : intOfDigits maxStrDigits text = .ok number ↔
    WithinDigits maxStrDigits text ∧ intOfText text = .ok number := by
  unfold intOfDigits
  rw [bind_eq_ok]
  constructor
  · rintro ⟨value, read, rest⟩
    split at rest
    · rename_i within
      cases rest
      exact ⟨within, read⟩
    · cases rest
  · rintro ⟨within, read⟩
    exact ⟨number, read, if_pos within⟩

theorem idNumbers_eq_ok : idNumbers maxStrDigits netid = .ok numbers ↔
    PartsWithinDigits maxStrDigits netid ∧ (netidParts netid).mapM intOfText = .ok numbers := by
  unfold idNumbers PartsWithinDigits
  rw [mapM_eq_ok, mapM_eq_ok]
  simp only [intOfDigits_eq_ok]
  exact List.forall₂_and_left ..

theorem setNetid_of_six (six : SixIntegers netid numbers) (within : PartsWithinDigits maxStrDigits netid)
    (amsAddr : AmsAddr) : amsAddr.setNetid maxStrDigits (.text netid) =
      (.ok (), { amsAddr with netId := ubyteArray numbers six.2 }) := by
  have read := idNumbers_eq_ok.mpr ⟨within, six.1⟩
  simp only [AmsAddr.setNetid, read, six.2, ↓reduceDIte]

/-- The setter accepts six integers of any size, and changes nothing where it
raises. -/
theorem setNetid_ok_iff {amsAddr : AmsAddr} : (amsAddr.setNetid maxStrDigits (.text netid)).1 = .ok () ↔
    (∃ numbers, SixIntegers netid numbers) ∧ PartsWithinDigits maxStrDigits netid := by
  constructor
  · intro accepted
    simp only [AmsAddr.setNetid] at accepted
    split at accepted
    · cases accepted
    · rename_i numbers read
      obtain ⟨within, integers⟩ := idNumbers_eq_ok.mp read
      split at accepted
      · rename_i six
        exact ⟨⟨numbers, integers, six⟩, within⟩
      · cases accepted
  · rintro ⟨⟨numbers, six⟩, within⟩
    rw [setNetid_of_six six within]

theorem setNetid_unchanged (refused : (AmsAddr.setNetid maxStrDigits amsAddr value).1 ≠ .ok ()) :
    (amsAddr.setNetid maxStrDigits value).2 = amsAddr := by
  cases value with
  | struct netId => exact absurd rfl refused
  | text value =>
    unfold AmsAddr.setNetid at refused ⊢
    dsimp only at refused ⊢
    split
    · rfl
    · rename_i numbers read
      split
      · rename_i six
        simp [read, six] at refused
      · rfl

/-- The parser returns exactly what the setter stores. -/
theorem parseAmsNetid_eq_ok_iff (amsAddr : AmsAddr) : parseAmsNetid maxStrDigits netid = .ok netId ↔
    amsAddr.setNetid maxStrDigits (.text netid) = (.ok (), { amsAddr with netId }) := by
  unfold parseAmsNetid AmsAddr.setNetid
  dsimp only
  cases idNumbers maxStrDigits netid with
  | error e => cases e <;> simp
  | ok numbers =>
    by_cases six : numbers.length = 6
    · simp [six]
    · simp [six]

theorem parseAmsNetid_of_six (six : SixIntegers netid numbers) (within : PartsWithinDigits maxStrDigits netid) :
    parseAmsNetid maxStrDigits netid = .ok (ubyteArray numbers six.2) :=
  (parseAmsNetid_eq_ok_iff ⟨ubyteArray numbers six.2, 0⟩).mpr (setNetid_of_six six within _)

theorem parseAmsNetid_ok_iff : (∃ netId, parseAmsNetid maxStrDigits netid = .ok netId) ↔
    (∃ numbers, SixIntegers netid numbers) ∧ PartsWithinDigits maxStrDigits netid := by
  constructor
  · rintro ⟨netId, parsed⟩
    have stored := (parseAmsNetid_eq_ok_iff ⟨netId, 0⟩).mp parsed
    exact setNetid_ok_iff.mp (congrArg Prod.fst stored)
  · rintro ⟨⟨numbers, six⟩, within⟩
    exact ⟨_, parseAmsNetid_of_six six within⟩

theorem structPack_byte (number : Int) : structPack .B (.int number) =
    if 0 ≤ number ∧ number ≤ 255 then .ok [ubyte number] else .error .structError := by
  change packInt 1 false (.int number) = _
  have fits : IntFits 1 false number ↔ 0 ≤ number ∧ number ≤ 255 := by
    simp only [IntFits, Bool.false_eq_true, ↓reduceIte]
    omega
  simp only [packInt, PyVal.asInt?, fits]
  rfl

theorem packNetid_of_six (six : SixIntegers netid numbers) (within : PartsWithinDigits maxStrDigits netid)
    (range : InByteRange numbers) : packNetid maxStrDigits netid = .ok (ubyteArray numbers six.2).toList := by
  have read := idNumbers_eq_ok.mpr ⟨within, six.1⟩
  have each : numbers.mapM (fun number => structPack .B (.int number)) =
      .ok (numbers.map fun number => [ubyte number]) := by
    rw [mapM_eq_ok, List.forall₂_map_right_iff, List.forall₂_same]
    intro number member
    rw [structPack_byte, if_pos (range number member)]
  unfold packNetid
  rw [read]
  simp only [bind, Except.bind, six.2, ↓reduceIte, each]
  simp [ubyteArray, pure, Except.pure, ← List.flatMap_def, ← List.map_eq_flatMap]

/-- The packing accepts six numbers of bytes only. -/
theorem packNetid_ok_iff : (∃ bytes, packNetid maxStrDigits netid = .ok bytes) ↔
    (∃ numbers, SixIntegers netid numbers ∧ InByteRange numbers) ∧ PartsWithinDigits maxStrDigits netid := by
  constructor
  · rintro ⟨bytes, accepted⟩
    obtain ⟨numbers, read, packed⟩ := bind_eq_ok.mp accepted
    obtain ⟨within, integers⟩ := idNumbers_eq_ok.mp read
    split at packed
    · rename_i six
      obtain ⟨parts, each, -⟩ := bind_eq_ok.mp packed
      refine ⟨⟨numbers, ⟨integers, six⟩, ?_⟩, within⟩
      intro number member
      obtain ⟨part, one⟩ := exists_mapM_eq_ok.mp ⟨parts, each⟩ number member
      rw [structPack_byte] at one
      split at one
      · assumption
      · cases one
    · cases packed
  · rintro ⟨⟨numbers, six, range⟩, within⟩
    exact ⟨_, packNetid_of_six six within range⟩

/-! ## The stored numbers -/

theorem toNat_ubyte (range : 0 ≤ number ∧ number ≤ 255) :
    ((ubyte number).toNat : Int) = number := by
  rw [ubyte, UInt8.toNat_ofNat']
  omega

theorem ubyteArray_numbers {numbers : List Int} (six : numbers.length = 6) (range : InByteRange numbers) :
    (ubyteArray numbers six).toList.map (fun number => (number.toNat : Int)) = numbers := by
  change (numbers.map ubyte).map _ = _
  rw [List.map_map]
  conv => rhs; rw [← List.map_id numbers]
  apply List.map_congr_left
  intro number member
  exact toNat_ubyte (range number member)

theorem netid_ubyteArray {numbers : List Int} (six : numbers.length = 6) (range : InByteRange numbers) (port : UInt16) :
    (AmsAddr.mk (ubyteArray numbers six) port).netid = dottedNumbers numbers := by
  unfold AmsAddr.netid dottedNumbers dottedNetId
  have back := ubyteArray_numbers six range
  conv => rhs; rw [← back]
  rw [List.map_map]
  rfl

/-! ## Texts without lone surrogates -/

theorem splitOn_map [BEq α] [LawfulBEq α] [BEq β] [LawfulBEq β] {f : α → β} (injective : f.Injective)
    (separator : α) (values : List α) :
    (values.map f).splitOn (f separator) = (values.splitOn separator).map (List.map f) := by
  induction values with
  | nil => rfl
  | cons value values ih =>
    have same : (f value == f separator) = (value == separator) := by
      rw [Bool.eq_iff_iff, beq_iff_eq, beq_iff_eq]
      exact injective.eq_iff
    rw [List.map_cons, List.splitOn_cons_eq_if_modifyHead, List.splitOn_cons_eq_if_modifyHead, same, ih]
    cases value == separator with
    | true => rfl
    | false =>
      cases values.splitOn separator <;> rfl

theorem idNumbers_ofChars (chars : List Char) : idNumbers 0 (Text.ofChars chars) =
    (chars.splitOn '.').mapM fun part => intOfText (Text.ofChars part) := by
  have injective : Function.Injective Text.CodePoint.scalar := fun _ _ same => Text.CodePoint.scalar.inj same
  have unlimited : intOfDigits 0 = intOfText := by
    funext text
    have within : WithinDigits 0 text := .inl rfl
    simp only [intOfDigits, if_pos within]
    exact bind_pure _
  rw [idNumbers, netidParts, Text.ofChars, splitOn_map injective, unlimited, List.mapM_map]
  rfl

/-- Without a limit, the readers are those of the sessions and of the packets. -/
theorem setNetid_ofChars (amsAddr : AmsAddr) (value : String) :
    amsAddr.setNetid 0 (.text (Text.ofChars value.toList)) =
      match netIdOfText value with
      | .ok netId => (.ok (), { amsAddr with netId })
      | .error e => (.error e, amsAddr) := by
  unfold AmsAddr.setNetid netIdOfText
  dsimp only
  rw [idNumbers_ofChars]
  generalize (value.toList.splitOn '.').mapM (fun part => intOfText (Text.ofChars part)) = read
  cases read with
  | error e => rfl
  | ok numbers =>
    by_cases six : numbers.length = 6
    · simp [six, bind, Except.bind, pure, Except.pure, ubyteArray, ubyte]
    · simp [six, bind, Except.bind]

theorem packNetid_ofChars (netId : String) : packNetid 0 (Text.ofChars netId.toList) = packNetId netId := by
  unfold packNetid packNetId
  rw [idNumbers_ofChars]

/-! ## Exactness -/

/-- A string is accepted by all three readers exactly if it is six numbers of
bytes; a setter that raises has changed nothing, and what is accepted is kept. -/
structure NetidExact (maxStrDigits : Nat) (amsAddr : AmsAddr) (netid : Text.Str) : Prop where
  setter : (amsAddr.setNetid maxStrDigits (.text netid)).1 = .ok () ↔
    ∃ numbers, SixIntegers netid numbers ∧ InByteRange numbers
  parser : (∃ netId, parseAmsNetid maxStrDigits netid = .ok netId) ↔
    ∃ numbers, SixIntegers netid numbers ∧ InByteRange numbers
  packing : (∃ bytes, packNetid maxStrDigits netid = .ok bytes) ↔
    ∃ numbers, SixIntegers netid numbers ∧ InByteRange numbers
  unchanged : (amsAddr.setNetid maxStrDigits (.text netid)).1 ≠ .ok () →
    (amsAddr.setNetid maxStrDigits (.text netid)).2 = amsAddr
  stored : ∀ numbers, SixIntegers netid numbers → ∀ stored,
    amsAddr.setNetid maxStrDigits (.text netid) = (.ok (), stored) →
      stored.netid = dottedNumbers numbers ∧ stored.port = amsAddr.port ∧
        stored.netId.toList.map (fun number => (number.toNat : Int)) = numbers
  parsed : ∀ numbers, SixIntegers netid numbers → ∀ netId, parseAmsNetid maxStrDigits netid = .ok netId →
    netId.toList.map (fun number => (number.toNat : Int)) = numbers
  packed : ∀ numbers, SixIntegers netid numbers → ∀ bytes, packNetid maxStrDigits netid = .ok bytes →
    bytes.map (fun number => (number.toNat : Int)) = numbers

/-- Six numbers of bytes that the interpreter converts are kept by every reader. -/
theorem netidExact_valid (six : SixIntegers netid numbers) (range : InByteRange numbers)
    (within : PartsWithinDigits maxStrDigits netid) (amsAddr : AmsAddr) :
    NetidExact maxStrDigits amsAddr netid := by
  have valid : ∃ numbers, SixIntegers netid numbers ∧ InByteRange numbers := ⟨numbers, six, range⟩
  have kept := ubyteArray_numbers six.2 range
  refine ⟨?_, ?_, ?_, setNetid_unchanged, ?_, ?_, ?_⟩
  · exact iff_of_true (setNetid_ok_iff.mpr ⟨⟨numbers, six⟩, within⟩) valid
  · exact iff_of_true (parseAmsNetid_ok_iff.mpr ⟨⟨numbers, six⟩, within⟩) valid
  · exact iff_of_true (packNetid_ok_iff.mpr ⟨valid, within⟩) valid
  · intro others same stored set
    obtain rfl := six.unique same
    rw [setNetid_of_six six within] at set
    cases set
    exact ⟨netid_ubyteArray six.2 range _, rfl, kept⟩
  · intro others same netId parsed
    obtain rfl := six.unique same
    rw [parseAmsNetid_of_six six within] at parsed
    cases parsed
    exact kept
  · intro others same bytes packed
    obtain rfl := six.unique same
    rw [packNetid_of_six six within range] at packed
    cases packed
    exact kept

/-- A string that all readers refuse, and should. -/
theorem netidExact_refused (invalid : ¬ ∃ numbers, SixIntegers netid numbers ∧ InByteRange numbers)
    (refused : ¬ ((∃ numbers, SixIntegers netid numbers) ∧ PartsWithinDigits maxStrDigits netid))
    (amsAddr : AmsAddr) : NetidExact maxStrDigits amsAddr netid := by
  have setter : (amsAddr.setNetid maxStrDigits (.text netid)).1 ≠ .ok () :=
    fun accepted => refused (setNetid_ok_iff.mp accepted)
  have parser : ¬ ∃ netId, parseAmsNetid maxStrDigits netid = .ok netId :=
    fun accepted => refused (parseAmsNetid_ok_iff.mp accepted)
  have packing : ¬ ∃ bytes, packNetid maxStrDigits netid = .ok bytes :=
    fun accepted => invalid (packNetid_ok_iff.mp accepted).1
  refine ⟨iff_of_false setter invalid, iff_of_false parser invalid, iff_of_false packing invalid,
    setNetid_unchanged, ?_, ?_, ?_⟩
  · intro numbers _ stored set
    exact absurd (congrArg Prod.fst set) setter
  · intro numbers _ netId parsed
    exact absurd ⟨netId, parsed⟩ parser
  · intro numbers _ bytes packed
    exact absurd ⟨bytes, packed⟩ packing

/-- The readers are exact unless the string is six integers of which one is no
byte, or of which all are bytes and one has more digits than the interpreter
converts. -/
theorem netid_exact_iff (maxStrDigits : Nat) (amsAddr : AmsAddr) (netid : Text.Str) :
    NetidExact maxStrDigits amsAddr netid ↔
      ∀ numbers, SixIntegers netid numbers → (InByteRange numbers ↔ PartsWithinDigits maxStrDigits netid) := by
  constructor
  · intro exact numbers six
    have setter := setNetid_ok_iff.symm.trans exact.setter
    constructor
    · intro range
      exact (setter.mpr ⟨numbers, six, range⟩).2
    · intro within
      obtain ⟨others, same, range⟩ := setter.mp ⟨⟨numbers, six⟩, within⟩
      exact six.unique same ▸ range
  · intro condition
    by_cases integers : ∃ numbers, SixIntegers netid numbers
    · obtain ⟨numbers, six⟩ := integers
      by_cases range : InByteRange numbers
      · exact netidExact_valid six range ((condition numbers six).mp range) amsAddr
      · apply netidExact_refused
        · rintro ⟨others, same, inside⟩
          exact range (six.unique same ▸ inside)
        · rintro ⟨-, within⟩
          exact range ((condition numbers six).mpr within)
    · apply netidExact_refused
      · rintro ⟨numbers, six, -⟩
        exact integers ⟨numbers, six⟩
      · exact fun both => integers both.1

/-- A component of 256 addresses device 0, where the packing raises. -/
theorem netid_wrapped :
    (AmsAddr.setNetid 4300 ⟨Vector.replicate 6 0, 851⟩ (.text (Text.ofChars "256.1.1.1.1.1".toList))).1 = .ok () ∧
    parseAmsNetid 4300 (Text.ofChars "256.1.1.1.1.1".toList) = .ok #v[0, 1, 1, 1, 1, 1] ∧
    packNetid 4300 (Text.ofChars "256.1.1.1.1.1".toList) = .error .structError ∧
    ¬ NetidExact 4300 ⟨Vector.replicate 6 0, 851⟩ (Text.ofChars "256.1.1.1.1.1".toList) := by
  have six : SixIntegers (Text.ofChars "256.1.1.1.1.1".toList) [256, 1, 1, 1, 1, 1] := ⟨by rfl, rfl⟩
  have accepted : (AmsAddr.setNetid 4300 ⟨Vector.replicate 6 0, 851⟩
      (.text (Text.ofChars "256.1.1.1.1.1".toList))).1 = .ok () := by rfl
  have refused : packNetid 4300 (Text.ofChars "256.1.1.1.1.1".toList) = .error .structError := by
    have read : idNumbers 4300 (Text.ofChars "256.1.1.1.1.1".toList) = .ok [256, 1, 1, 1, 1, 1] := by rfl
    rw [packNetid, read]
    rfl
  refine ⟨accepted, by rfl, refused, ?_⟩
  intro exact
  obtain ⟨numbers, same, range⟩ := exact.setter.mp accepted
  obtain rfl := six.unique same
  have large := (range 256 (by simp)).2
  omega

end PyAds
