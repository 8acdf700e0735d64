import PyAds.Sessions

/-! Adding a route to a PLC. One UDP packet carries two net ids and four
strings, each behind its length; the length counts the characters of a string,
its bytes are those of its encoding. -/
namespace PyAds
open Fallible

/-! ## The packet -/

def PORT_SYSTEMSERVICE : Nat := 10000

/-- `struct.pack(">6B", *map(int, netId.split(".")))` -/
def packNetId (netId : String) : Result Bytes := do
  let numbers ← (netId.toList.splitOn '.').mapM fun part => intOfText (Text.ofChars part)
  if numbers.length = 6 then
    let parts ← numbers.mapM fun number => structPack .B (.int number)
    return parts.flatten
  else .error .structError

/-- `struct.pack("<H", len(text))` and `text.encode("utf-8")` -/
def packText (text : Text.Str) : Result Bytes := do
  let length ← structPack .H (.int text.length)
  let encoded ← encodeUtf8 text
  return length ++ encoded

/-- `text + "\0"` -/
def terminated (text : Text.Str) : Text.Str := text ++ [.scalar '\x00']

/-- The name of the route, which is that of the host unless another one is
given. -/
def sentRouteName (addingHostName : Text.Str) : Option Text.Str → Text.Str
  | some routeName => if routeName.isEmpty then addingHostName else routeName
  | none => addingHostName

/-- The net id to be added, which is the sending one unless another one is
given. -/
def sentNetId (sendingNetId : String) : Option String → String
  | some addedNetId => if addedNetId.isEmpty then sendingNetId else addedNetId
  | none => sendingNetId

/-- `data_header + actual_data` in `adsAddRouteToPLC` -/
def addRoutePacket (sendingNetId : String) (addingHostName username password : Text.Str)
    (routeName : Option Text.Str) (addedNetId : Option String) : Result Bytes := do
  let sending ← packNetId sendingNetId
  let port ← structPack .H (.int PORT_SYSTEMSERVICE)
  let route ← packText (terminated (sentRouteName addingHostName routeName))
  let dataHeader := [0x03, 0x66, 0x14, 0x71, 0, 0, 0, 0, 0x06, 0, 0, 0] ++ sending ++ port ++ [0x05, 0] ++
    [0, 0, 0x0c, 0] ++ route ++ [0x07, 0]
  let idLength ← structPack .H (.int 6)
  let added ← packNetId (sentNetId sendingNetId addedNetId)
  let user ← packText (terminated username)
  let secret ← packText (terminated password)
  let host ← packText (terminated addingHostName)
  return dataHeader ++ (idLength ++ added ++ [0x0d, 0] ++ user ++ [0x02, 0] ++ secret ++ [0x05, 0] ++ host)

/-! ## The receiver -/

/-- What a receiver finds in a packet, and what is left of it. -/
structure ReceivedRoute where
  sendingAms : Bytes
  commPort : Nat
  commandCode : Nat
  routeName : Text.Str
  addingAmsId : Bytes
  username : Text.Str
  password : Text.Str
  hostname : Text.Str
  rest : Bytes
  deriving DecidableEq

/-- `struct.unpack("<H", data[:2])[0]`, and the data behind it. -/
def receiveNumber (data : Bytes) : Result (Nat × Bytes) :=
  if (data.take 2).length = 2 then .ok (LittleEndian.toNat (data.take 2), data.drop 2) else .error .structError

/-- The six numbers of a net id in the first `length` bytes. -/
def receiveNetId (length : Nat) (data : Bytes) : Result (Bytes × Bytes) :=
  if (data.take length).length = 6 then .ok (data.take length, data.drop length) else .error .structError

/-- A length, and a text in as many bytes. -/
def receiveText (data : Bytes) : Result (Text.Str × Bytes) := do
  let (length, data) ← receiveNumber data
  let text ← decodeUtf8 (data.take length)
  return (text, data.drop length)

/-- The receiver in `test_plc_route.py`, up to its answer. -/
def plcRouteReceiver (packet : Bytes) : Result ReceivedRoute := do
  let (sendingAms, data) ← receiveNetId 6 (packet.drop 12)
  let (commPort, data) ← receiveNumber data
  let (commandCode, data) ← receiveNumber data
  let (routeName, data) ← receiveText (data.drop 4)
  let (lenAmsId, data) ← receiveNumber (data.drop 2)
  let (addingAmsId, data) ← receiveNetId lenAmsId data
  let (username, data) ← receiveText (data.drop 2)
  let (password, data) ← receiveText (data.drop 2)
  let (hostname, data) ← receiveText (data.drop 2)
  return ⟨sendingAms, commPort, commandCode, routeName, addingAmsId, username, password, hostname, data⟩

/-! ## Net ids -/

/-- A text that `int` reads as six numbers below 256. -/
def SixNumbers (netId : String) (numbers : NetId) : Prop :=
  (netId.toList.splitOn '.').mapM (fun part => intOfText (Text.ofChars part)) =
    .ok (numbers.toList.map fun number => (number.toNat : Int))

/-- The usual text of a net id. -/
def dottedNetId (numbers : NetId) : String :=
  ".".intercalate (numbers.toList.map fun number => toString number.toNat)

theorem sixNumbers_dotted (numbers : NetId) : SixNumbers (dottedNetId numbers) numbers := by
  apply mapM_intOfText_dotted
  intro empty
  simpa using congrArg List.length empty

theorem packNetId_sixNumbers (six : SixNumbers netId numbers) : packNetId netId = .ok numbers.toList := by
  have each : (numbers.toList.map fun number => (number.toNat : Int)).mapM (fun number => structPack .B (.int number)) =
      .ok (numbers.toList.map fun number => [number]) := by
    rw [mapM_eq_ok, List.forall₂_map_left_iff, List.forall₂_map_right_iff, List.forall₂_same]
    intro number _
    have small : number.toNat < 256 ^ 1 := number.toNat_lt
    change packInt 1 false (.int number.toNat) = .ok [number]
    rw [packInt_natCast small]
    simp [LittleEndian.ofNat]
  unfold packNetId
  rw [six]
  simp only [bind, Except.bind, List.length_map, Vector.length_toList, ↓reduceIte, each]
  simp [pure, Except.pure, ← List.flatMap_def]

/-! ## Texts -/

/-- A length that fits two bytes, and the encoding behind it. -/
def textField (chars : List Char) : Bytes :=
  LittleEndian.ofNat 2 (chars.length + 1) ++ Text.Utf8.encode (chars ++ ['\x00'])

theorem terminated_ofChars (chars : List Char) :
    terminated (Text.ofChars chars) = Text.ofChars (chars ++ ['\x00']) := by
  simp [terminated, Text.ofChars]

theorem structPack_length {n : Nat} : structPack .H (.int n) =
    if n < 65536 then .ok (LittleEndian.ofNat 2 n) else .error .structError := by
  change packInt 2 false (.int n) = _
  split
  · rename_i small
    exact packInt_natCast small
  · rename_i large
    have unfit : ¬ IntFits 2 false n := by
      simp only [IntFits, Bool.false_eq_true, ↓reduceIte]
      omega
    simp [packInt, PyVal.asInt?, unfit]

theorem packText_eq_ok {chars : List Char} : packText (terminated (Text.ofChars chars)) = .ok field ↔
    chars.length < 65535 ∧ field = textField chars := by
  have length : (Text.ofChars (chars ++ ['\x00'])).length = chars.length + 1 := by
    rw [Text.length_ofChars, List.length_append, List.length_singleton]
  rw [terminated_ofChars, packText, length, structPack_length, encodeUtf8_ofChars]
  by_cases small : chars.length + 1 < 65536
  · have short : chars.length < 65535 := by omega
    simp [small, short, textField, bind, Except.bind, pure, Except.pure, eq_comm]
  · have long : ¬ chars.length < 65535 := by omega
    simp [small, long, bind, Except.bind]

/-- The number in front is the one that was packed. -/
theorem receiveNumber_ofNat {n : Nat} (small : n < 65536) (rest : Bytes) :
    receiveNumber (LittleEndian.ofNat 2 n ++ rest) = .ok (n, rest) := by
  have front : (LittleEndian.ofNat 2 n ++ rest).take 2 = LittleEndian.ofNat 2 n :=
    List.take_left' (LittleEndian.length_ofNat ..)
  have behind : (LittleEndian.ofNat 2 n ++ rest).drop 2 = rest := List.drop_left' (LittleEndian.length_ofNat ..)
  rw [receiveNumber, front, behind, LittleEndian.length_ofNat, if_pos rfl, LittleEndian.toNat_ofNat_of_lt small]

theorem receiveNetId_numbers (numbers : NetId) (rest : Bytes) :
    receiveNetId 6 (numbers.toList ++ rest) = .ok (numbers.toList, rest) := by
  have six : numbers.toList.length = 6 := Vector.length_toList
  have front : (numbers.toList ++ rest).take 6 = numbers.toList := List.take_left' six
  have behind : (numbers.toList ++ rest).drop 6 = rest := List.drop_left' six
  rw [receiveNetId, front, behind, if_pos six]

/-- A text is received, and the receiver stands right behind it, exactly when
it has one byte for each character. -/
theorem receiveText_eq_ok {chars : List Char} (short : chars.length < 65535) :
    receiveText (textField chars ++ rest) = .ok (Text.ofChars (chars ++ ['\x00']), data) ↔
      (∀ c ∈ chars, c.toNat < 128) ∧ data = rest := by
  have number := receiveNumber_ofNat (n := chars.length + 1) (by omega) (Text.Utf8.encode (chars ++ ['\x00']) ++ rest)
  have ascii : (∀ c ∈ chars ++ ['\x00'], c.toNat < 128) ↔ ∀ c ∈ chars, c.toNat < 128 := by
    simp [or_imp, forall_and]
  have least := Text.Utf8.length_le_encode (chars ++ ['\x00'])
  rw [List.length_append, List.length_singleton] at least
  rw [receiveText, textField, List.append_assoc, number]
  simp only [bind, Except.bind]
  rw [List.take_append_of_le_length least, List.drop_append_of_le_length least, ← ascii,
    ← Text.Utf8.length_encode_eq_iff]
  constructor
  · intro received
    split at received
    · cases received
    rename_i text decoded
    cases received
    obtain ⟨others, same, whole⟩ := decodeUtf8_eq_ok_iff.mp decoded
    cases Text.ofChars_injective same
    have length := congrArg List.length whole
    rw [List.length_take, Nat.min_eq_left least] at length
    refine ⟨by rw [← length, List.length_append, List.length_singleton], ?_⟩
    rw [length, List.drop_length, List.nil_append]
  · rintro ⟨length, rfl⟩
    rw [List.length_append, List.length_singleton] at length
    rw [← length, List.take_length, List.drop_length, decodeUtf8_encode]
    rfl

/-! ## Packets -/

/-- A text of ASCII characters that fits its length with its terminator. -/
def Sendable (chars : List Char) : Prop := (∀ c ∈ chars, c.toNat < 128) ∧ chars.length < 65535

/-- The name that is sent for the route is the one given or that of the host. -/
theorem sentRouteName_ofChars (addingHostName : List Char) (routeName : Option (List Char)) :
    ∃ sent : List Char, sentRouteName (Text.ofChars addingHostName) (routeName.map Text.ofChars) = Text.ofChars sent ∧
      (Sendable addingHostName → (Sendable sent ↔ Sendable (routeName.getD []))) := by
  have empty : Sendable [] := ⟨by simp, by decide⟩
  cases routeName with
  | none => exact ⟨addingHostName, rfl, fun held => iff_of_true held empty⟩
  | some routeName =>
    cases routeName with
    | nil => exact ⟨addingHostName, rfl, fun held => iff_of_true held empty⟩
    | cons c chars => exact ⟨c :: chars, rfl, fun _ => Iff.rfl⟩

/-- The data behind the fields of fixed size at the front. -/
def routeData (route : List Char) (added : NetId) (username password addingHostName : List Char) : Bytes :=
  textField route ++ ([0x07, 0] ++ (LittleEndian.ofNat 2 6 ++ (added.toList ++ ([0x0d, 0] ++ (textField username ++
    ([0x02, 0] ++ (textField password ++ ([0x05, 0] ++ (textField addingHostName ++ [])))))))))

section Packets
variable {sendingNetId : String} {addedNetId : Option String} {sending added : NetId}
  {route addingHostName username password : List Char}

theorem addRoutePacket_eq_ok (six : SixNumbers sendingNetId sending)
    (six' : SixNumbers (sentNetId sendingNetId addedNetId) added)
    (named : sentRouteName (Text.ofChars addingHostName) routeName = Text.ofChars route) :
    addRoutePacket sendingNetId (Text.ofChars addingHostName) (Text.ofChars username) (Text.ofChars password) routeName
        addedNetId = .ok packet ↔
      (route.length < 65535 ∧ username.length < 65535 ∧ password.length < 65535 ∧ addingHostName.length < 65535) ∧
        packet = [0x03, 0x66, 0x14, 0x71, 0, 0, 0, 0, 0x06, 0, 0, 0] ++ (sending.toList ++
          (LittleEndian.ofNat 2 PORT_SYSTEMSERVICE ++ ([0x05, 0] ++ ([0, 0, 0x0c, 0] ++
            routeData route added username password addingHostName)))) := by
  have port : structPack .H (.int PORT_SYSTEMSERVICE) = .ok (LittleEndian.ofNat 2 PORT_SYSTEMSERVICE) := rfl
  have idLength : structPack .H (.int 6) = .ok (LittleEndian.ofNat 2 6) := rfl
  simp only [addRoutePacket, packNetId_sixNumbers six, packNetId_sixNumbers six', named, port, idLength]
  simp only [bind_eq_ok, packText_eq_ok, Except.ok.injEq, pure, Except.pure]
  constructor
  · rintro ⟨_, rfl, _, rfl, _, ⟨first, rfl⟩, _, rfl, _, rfl, _, ⟨second, rfl⟩, _, ⟨third, rfl⟩, _, ⟨last, rfl⟩, rfl⟩
    exact ⟨⟨first, second, third, last⟩, by simp only [routeData, List.append_assoc, List.append_nil]⟩
  · rintro ⟨⟨first, second, third, last⟩, rfl⟩
    exact ⟨_, rfl, _, rfl, _, ⟨first, rfl⟩, _, rfl, _, rfl, _, ⟨second, rfl⟩, _, ⟨third, rfl⟩, _, ⟨last, rfl⟩,
      by simp only [routeData, List.append_assoc, List.append_nil]⟩

/-- Field by field, the receiver stays in step exactly as long as each text
has one byte for each character. -/
theorem plcRouteReceiver_routeData (shortRoute : route.length < 65535) (shortUser : username.length < 65535)
    (shortSecret : password.length < 65535) (shortHost : addingHostName.length < 65535) :
    plcRouteReceiver ([0x03, 0x66, 0x14, 0x71, 0, 0, 0, 0, 0x06, 0, 0, 0] ++ (sending.toList ++
        (LittleEndian.ofNat 2 PORT_SYSTEMSERVICE ++ ([0x05, 0] ++ ([0, 0, 0x0c, 0] ++
          routeData route added username password addingHostName))))) =
      .ok ⟨sending.toList, PORT_SYSTEMSERVICE, 5, Text.ofChars (route ++ ['\x00']), added.toList,
        Text.ofChars (username ++ ['\x00']), Text.ofChars (password ++ ['\x00']),
        Text.ofChars (addingHostName ++ ['\x00']), []⟩ ↔
      (∀ c ∈ route, c.toNat < 128) ∧ (∀ c ∈ username, c.toNat < 128) ∧ (∀ c ∈ password, c.toNat < 128) ∧
        ∀ c ∈ addingHostName, c.toNat < 128 := by
  have command (rest : Bytes) : receiveNumber ([0x05, 0] ++ rest) = .ok (5, rest) := rfl
  have port (rest : Bytes) := receiveNumber_ofNat (n := PORT_SYSTEMSERVICE) (by decide) rest
  have idLength (rest : Bytes) := receiveNumber_ofNat (n := 6) (by decide) rest
  constructor
  · intro received
    obtain ⟨⟨_, _⟩, front, rest⟩ := bind_eq_ok.mp received
    cases (receiveNetId_numbers ..).symm.trans front
    obtain ⟨⟨_, _⟩, number, rest⟩ := bind_eq_ok.mp rest
    cases (port _).symm.trans number
    obtain ⟨⟨_, _⟩, code, rest⟩ := bind_eq_ok.mp rest
    cases (command _).symm.trans code
    obtain ⟨⟨_, _⟩, first, rest⟩ := bind_eq_ok.mp rest
    obtain ⟨⟨_, _⟩, six, rest⟩ := bind_eq_ok.mp rest
    obtain ⟨⟨_, _⟩, id, rest⟩ := bind_eq_ok.mp rest
    obtain ⟨⟨_, _⟩, second, rest⟩ := bind_eq_ok.mp rest
    obtain ⟨⟨_, _⟩, third, rest⟩ := bind_eq_ok.mp rest
    obtain ⟨⟨_, _⟩, last, same⟩ := bind_eq_ok.mp rest
    cases same
    -- a text that is received as it was sent leaves the receiver behind its field
    obtain ⟨routeAscii, rfl⟩ := (receiveText_eq_ok shortRoute).mp first
    cases (idLength _).symm.trans six
    cases (receiveNetId_numbers ..).symm.trans id
    obtain ⟨userAscii, rfl⟩ := (receiveText_eq_ok shortUser).mp second
    obtain ⟨secretAscii, rfl⟩ := (receiveText_eq_ok shortSecret).mp third
    exact ⟨routeAscii, userAscii, secretAscii, ((receiveText_eq_ok shortHost).mp last).1⟩
  · rintro ⟨first, second, third, last⟩
    refine bind_eq_ok.mpr ⟨_, receiveNetId_numbers .., bind_eq_ok.mpr ⟨_, port _, bind_eq_ok.mpr ⟨_, command _, ?_⟩⟩⟩
    refine bind_eq_ok.mpr ⟨_, (receiveText_eq_ok shortRoute).mpr ⟨first, rfl⟩, ?_⟩
    refine bind_eq_ok.mpr ⟨_, idLength _, bind_eq_ok.mpr ⟨_, receiveNetId_numbers .., ?_⟩⟩
    refine bind_eq_ok.mpr ⟨_, (receiveText_eq_ok shortUser).mpr ⟨second, rfl⟩, ?_⟩
    refine bind_eq_ok.mpr ⟨_, (receiveText_eq_ok shortSecret).mpr ⟨third, rfl⟩, ?_⟩
    exact bind_eq_ok.mpr ⟨_, (receiveText_eq_ok shortHost).mpr ⟨last, rfl⟩, rfl⟩

end Packets

/-- A receiver recovers all fields of the packet exactly when each of the four
texts is ASCII and fits its length. -/
theorem addRoutePacket_received_iff {sending added : NetId} (six : SixNumbers sendingNetId sending)
    (addedSix : SixNumbers (sentNetId sendingNetId addedNetId) added)
    (addingHostName username password : List Char) (routeName : Option (List Char)) :
    (∃ packet, addRoutePacket sendingNetId (Text.ofChars addingHostName) (Text.ofChars username)
          (Text.ofChars password) (routeName.map Text.ofChars) addedNetId = .ok packet ∧
        plcRouteReceiver packet = .ok {
          sendingAms := sending.toList
          commPort := PORT_SYSTEMSERVICE
          commandCode := 5
          routeName := terminated (sentRouteName (Text.ofChars addingHostName) (routeName.map Text.ofChars))
          addingAmsId := added.toList
          username := terminated (Text.ofChars username)
          password := terminated (Text.ofChars password)
          hostname := terminated (Text.ofChars addingHostName)
          rest := [] }) ↔
      Sendable (routeName.getD []) ∧ Sendable username ∧ Sendable password ∧ Sendable addingHostName := by
  obtain ⟨route, named, given⟩ := sentRouteName_ofChars addingHostName routeName
  simp only [addRoutePacket_eq_ok six addedSix named, named, terminated_ofChars]
  constructor
  · rintro ⟨_, ⟨⟨shortRoute, shortUser, shortSecret, shortHost⟩, rfl⟩, received⟩
    obtain ⟨routeAscii, userAscii, secretAscii, hostAscii⟩ :=
      (plcRouteReceiver_routeData shortRoute shortUser shortSecret shortHost).mp received
    exact ⟨(given ⟨hostAscii, shortHost⟩).mp ⟨routeAscii, shortRoute⟩, ⟨userAscii, shortUser⟩,
      ⟨secretAscii, shortSecret⟩, hostAscii, shortHost⟩
  · rintro ⟨routeGiven, ⟨userAscii, shortUser⟩, ⟨secretAscii, shortSecret⟩, hostGiven⟩
    obtain ⟨routeAscii, shortRoute⟩ := (given hostGiven).mpr routeGiven
    exact ⟨_, ⟨⟨shortRoute, shortUser, shortSecret, hostGiven.2⟩, rfl⟩,
      (plcRouteReceiver_routeData shortRoute shortUser shortSecret hostGiven.2).mpr
        ⟨routeAscii, userAscii, secretAscii, hostGiven.1⟩⟩

def senderId : NetId := tankSession.adr.netId

def addedId : NetId := #v[5, 18, 27, 255, 0, 1]

theorem senderId_received :
    ∃ packet, addRoutePacket (dottedNetId senderId) (Text.ofChars ['p', 'c']) (Text.ofChars ['a'])
          (Text.ofChars ['1']) ((some ['r']).map Text.ofChars) (some (dottedNetId addedId)) = .ok packet ∧
        plcRouteReceiver packet = .ok {
          sendingAms := senderId.toList
          commPort := PORT_SYSTEMSERVICE
          commandCode := 5
          routeName := terminated (sentRouteName (Text.ofChars ['p', 'c']) ((some ['r']).map Text.ofChars))
          addingAmsId := addedId.toList
          username := terminated (Text.ofChars ['a'])
          password := terminated (Text.ofChars ['1'])
          hostname := terminated (Text.ofChars ['p', 'c'])
          rest := [] } := by
  have other : sentNetId (dottedNetId senderId) (some (dottedNetId addedId)) = dottedNetId addedId := by decide +kernel
  have sendable : Sendable ['r'] ∧ Sendable ['a'] ∧ Sendable ['1'] ∧ Sendable ['p', 'c'] := by simp [Sendable]
  exact (addRoutePacket_received_iff (sixNumbers_dotted senderId) (other ▸ sixNumbers_dotted addedId) ['p', 'c'] ['a']
    ['1'] (some ['r'])).mpr sendable

/-- A user name beyond ASCII loses its end, and what follows is taken for the
length of the password. -/
theorem user_name_derails : ∃ packet, addRoutePacket (dottedNetId senderId) (Text.ofChars ['p', 'c'])
      (Text.ofChars ['é']) (Text.ofChars ['1']) none none = .ok packet ∧
    plcRouteReceiver packet = .error .structError := by
  have named : sentRouteName (Text.ofChars ['p', 'c']) none = Text.ofChars ['p', 'c'] := rfl
  have sent : sentNetId (dottedNetId senderId) none = dottedNetId senderId := rfl
  exact ⟨_, (addRoutePacket_eq_ok (sixNumbers_dotted senderId) (sent ▸ sixNumbers_dotted senderId) named).mpr
    ⟨by decide, rfl⟩, rfl⟩

end PyAds
