import PyAds.Base.Pattern
import PyAds.Numerals

/-! The data type a type name stands for, which a read by name asks for. It is
found by a table of constants and three regular expressions; a name that none
of them maps has no type. -/
namespace PyAds
open Pattern

/-- A `ctypes` class; `PLCTYPE_STRING` is `c_char`. -/
inductive CDataType where
  | simple (ctype : CType)
  | char
  | array (element : CDataType) (n : Nat)
  deriving DecidableEq, Repr

/-- `ctypes.sizeof` -/
def CDataType.sizeof : CDataType → Nat
  | .simple ctype => ctype.sizeof
  | .char => 1
  | .array element n => n * element.sizeof

/-- What a type name is mapped to: a `ctypes` class, the dummy class of
`PLCTYPE_WSTRING`, or one of the functions `PLCTYPE_ARR_*`. -/
inductive PlcDataType where
  | ctypes (type : CDataType)
  | wstring
  | arrayFunction (element : CType)
  deriving DecidableEq, Repr

/-- `type * size` -/
def PlcDataType.times (type : PlcDataType) (size : Int) : Result PlcDataType :=
  match type with
  | .ctypes element =>
    if size < -2 ^ 63 ∨ 2 ^ 63 ≤ size then .error .overflowError
    else if size < 0 then .error (.valueError s!"Array length must be >= 0, not {size}")
    else if 2 ^ 63 ≤ size * element.sizeof then .error .overflowError
    else .ok (.ctypes (.array element size.toNat))
  | .wstring | .arrayFunction _ => .error .typeError

/-- The attributes of `constants` whose names start with `PLCTYPE_`. -/
def plcConstants : List (List Char × PlcDataType) :=
  [("BOOL".toList, .ctypes (.simple .bool)), ("BYTE".toList, .ctypes (.simple .ubyte)),
   ("DWORD".toList, .ctypes (.simple .uint32)), ("DINT".toList, .ctypes (.simple .int32)),
   ("INT".toList, .ctypes (.simple .int16)), ("LREAL".toList, .ctypes (.simple .double)),
   ("REAL".toList, .ctypes (.simple .float)), ("SINT".toList, .ctypes (.simple .int8)),
   ("STRING".toList, .ctypes .char), ("TOD".toList, .ctypes (.simple .int32)),
   ("UBYTE".toList, .ctypes (.simple .ubyte)), ("UDINT".toList, .ctypes (.simple .uint32)),
   ("UINT".toList, .ctypes (.simple .uint16)), ("USINT".toList, .ctypes (.simple .ubyte)),
   ("WORD".toList, .ctypes (.simple .uint16)), ("LINT".toList, .ctypes (.simple .int64)),
   ("ULINT".toList, .ctypes (.simple .uint64)), ("DATE".toList, .ctypes (.simple .uint32)),
   ("DATE_AND_TIME".toList, .ctypes (.simple .uint32)), ("DT".toList, .ctypes (.simple .uint32)),
   ("TIME".toList, .ctypes (.simple .uint32)), ("ARR_REAL".toList, .arrayFunction .float),
   ("ARR_LREAL".toList, .arrayFunction .double), ("ARR_BOOL".toList, .arrayFunction .bool),
   ("ARR_INT".toList, .arrayFunction .int16), ("ARR_UINT".toList, .arrayFunction .uint16),
   ("ARR_SHORT".toList, .arrayFunction .int16), ("ARR_USHORT".toList, .arrayFunction .uint16),
   ("ARR_DINT".toList, .arrayFunction .int32), ("ARR_UDINT".toList, .arrayFunction .uint32),
   ("ARR_SINT".toList, .arrayFunction .int8), ("ARR_USINT".toList, .arrayFunction .ubyte)]

/-- `PLC_ARRAY_MAP`; note that `real` stands for `LREAL`. -/
def PLC_ARRAY_MAP : List (List Char × CType) :=
  [("real".toList, .double), ("boolean".toList, .bool), ("int32".toList, .int32), ("uint32".toList, .uint32),
   ("int16".toList, .int16), ("uint16".toList, .uint16), ("int8".toList, .int8), ("uint8".toList, .ubyte)]

/-- The groups of a matched array name. -/
structure ArrayGroups where
  lower : List Char
  upper : List Char
  scalar : List Char
  deriving DecidableEq

/-- What `\d` matches. -/
def isDecimal (c : Char) : Bool := (decimalDigit? c.toNat).isSome

/-- `ARRAY \[(\d+)..(\d+)\] OF (.*)`, where the two dots are any characters. -/
def regexArray : List Char → Option ArrayGroups :=
  literal ['A', 'R', 'R', 'A', 'Y', ' ', '['] (digits isDecimal fun lower => anyChar (anyChar (digits isDecimal
    fun upper => literal [']', ' ', 'O', 'F', ' '] (anyChars fun scalar _ => some ⟨lower, upper, scalar⟩))))

/-- `matrix_(\d+)_(.*)_T` -/
def regexMatrix : List Char → Option (List Char × List Char) :=
  literal ['m', 'a', 't', 'r', 'i', 'x', '_'] (digits isDecimal fun size => literal ['_'] (anyChars fun scalar =>
    literal ['_', 'T'] fun _ => some (size, scalar)))

/-- `(.*)\((\d+)\)` -/
def regexList : List Char → Option (List Char × List Char) :=
  anyChars fun scalar => literal ['('] (digits isDecimal fun size => literal [')'] fun _ => some (scalar, size))

theorem regexArray_shorter (matched : regexArray typeStr = some groups) :
    groups.scalar.length < typeStr.length := by
  obtain ⟨first, rfl, inside⟩ := of_literal matched
  obtain ⟨lower, second, rfl, behindLower⟩ := of_digits inside
  obtain ⟨_, third, rfl, oneDot⟩ := of_anyChar behindLower
  obtain ⟨_, fourth, rfl, twoDots⟩ := of_anyChar oneDot
  obtain ⟨upper, fifth, rfl, behindUpper⟩ := of_digits twoDots
  obtain ⟨sixth, rfl, rest⟩ := of_literal behindUpper
  obtain ⟨scalar, last, rfl, final⟩ := of_anyChars rest
  cases final
  simp only [List.length_append, List.length_cons]
  omega

theorem regexList_shorter (matched : regexList typeStr = some groups) : groups.1.length < typeStr.length := by
  obtain ⟨scalar, first, rfl, bracket⟩ := of_anyChars matched
  obtain ⟨second, rfl, inside⟩ := of_literal bracket
  obtain ⟨size, third, rfl, behindSize⟩ := of_digits inside
  obtain ⟨last, rfl, final⟩ := of_literal behindSize
  cases final
  simp only [List.length_append, List.length_cons]
  omega

/-- `int` of a group of digits. The interpreter may limit their number, which
`sys.set_int_max_str_digits` sets; the limit 0 is none. -/
def groupInt (maxStrDigits : Nat) (group : List Char) : Result Int :=
  if maxStrDigits ≠ 0 ∧ maxStrDigits < group.length then
    .error (.valueError (s!"Exceeds the limit ({maxStrDigits} digits) for integer string conversion: value has " ++
      s!"{group.length} digits; use sys.set_int_max_str_digits() to increase the limit"))
  else .ok ((parseInt (group.map fun c => asciiChar (.scalar c))).getD 0)

/-- What is made of a type, if a name is mapped to one. -/
def mapped (meaning : α → Result β) : Option α → Result (Option β)
  | some type => (meaning type).map some
  | none => .ok none

section
variable {α : Type} (times : α → Int → Result α) (constant : PlcDataType → α) (maxStrDigits : Nat)

/-- The second attempt of `get_type_from_str`. -/
def matrixType (typeStr : List Char) : Result (Option α) :=
  match regexMatrix typeStr with
  | some groups => do
    let size ← groupInt maxStrDigits groups.1
    mapped (fun ctype => times (constant (.ctypes (.simple ctype))) size) (OrderedDict.lookup groups.2 PLC_ARRAY_MAP)
  | none => .ok none

/-- The recursion of `get_type_from_str`, for any product of a type and a size.
An array of an unmapped type is tried as a matrix and as a list. -/
def typeOfName (typeStr : List Char) : Result (Option α) :=
  if ['W', 'S', 'T', 'R', 'I', 'N', 'G'].isPrefixOf typeStr then .ok (some (constant .wstring))
  else
    match OrderedDict.lookup typeStr plcConstants with
    | some type => .ok (some (constant type))
    | none => do
      let arrayType ←
        match _found : regexArray typeStr with
        | some groups => do
          let upper ← groupInt maxStrDigits groups.upper
          let lower ← groupInt maxStrDigits groups.lower
          match ← typeOfName groups.scalar with
          | some scalarType => (times scalarType (upper + 1 - lower)).map some
          | none => pure none
        | none => pure none
      match arrayType with
      | some type => return some type
      | none =>
        match ← matrixType times constant maxStrDigits typeStr with
        | some type => return some type
        | none =>
          match _found : regexList typeStr with
          | some groups => do
            let size ← groupInt maxStrDigits groups.2
            match ← typeOfName groups.1 with
            | some scalarType => (times scalarType size).map some
            | none => return none
          | none => return none
termination_by typeStr.length
decreasing_by
  · exact regexList_shorter (by assumption)
  · exact regexArray_shorter (by assumption)

/-! ## The three attempts -/

/-- The first attempt, given the types of shorter names. -/
def arrayType (scalarTypeOf : List Char → Result (Option α)) (typeStr : List Char) : Result (Option α) :=
  match regexArray typeStr with
  | some groups => do
    let upper ← groupInt maxStrDigits groups.upper
    let lower ← groupInt maxStrDigits groups.lower
    scalarTypeOf groups.scalar >>= mapped (times · (upper + 1 - lower))
  | none => .ok none

/-- The third attempt. -/
def listType (scalarTypeOf : List Char → Result (Option α)) (typeStr : List Char) : Result (Option α) :=
  match regexList typeStr with
  | some groups => do
    let size ← groupInt maxStrDigits groups.2
    scalarTypeOf groups.1 >>= mapped (times · size)
  | none => .ok none

end

/-- `get_type_from_str`, with a limit for the digits of numbers. -/
def typeFromStr (maxStrDigits : Nat) (typeStr : List Char) : Result (Option PlcDataType) :=
  typeOfName PlcDataType.times id maxStrDigits typeStr

/-- `get_type_from_str` of a name in the information of one symbol, which is too
short for the usual limit of digits. -/
def getTypeFromStr (typeStr : List Char) : Result (Option PlcDataType) := typeFromStr 0 typeStr

/-- The next attempt is made if one maps nothing. -/
def orTry (attempt next : Result (Option α)) : Result (Option α) := do
  match ← attempt with
  | some type => return some type
  | none => next

section Equations
variable {α : Type} {times : α → Int → Result α} {constant : PlcDataType → α} {maxStrDigits : Nat}
  {typeStr : List Char}

theorem typeOfName_wide (wide : ['W', 'S', 'T', 'R', 'I', 'N', 'G'].isPrefixOf typeStr = true) :
    typeOfName times constant maxStrDigits typeStr = .ok (some (constant .wstring)) := by
  rw [typeOfName, if_pos wide]

variable (notWide : ¬ ['W', 'S', 'T', 'R', 'I', 'N', 'G'].isPrefixOf typeStr = true)
include notWide

theorem typeOfName_constant (named : OrderedDict.lookup typeStr plcConstants = some type) :
    typeOfName times constant maxStrDigits typeStr = .ok (some (constant type)) := by
  rw [typeOfName, if_neg notWide, named]

variable (unnamed : OrderedDict.lookup typeStr plcConstants = none)
include unnamed

theorem typeOfName_attempts : typeOfName times constant maxStrDigits typeStr =
    orTry (arrayType times maxStrDigits (typeOfName times constant maxStrDigits) typeStr)
      (orTry (matrixType times constant maxStrDigits typeStr)
        (listType times maxStrDigits (typeOfName times constant maxStrDigits) typeStr)) := by
  have list : (match _found : regexList typeStr with
      | some groups => do
        let size ← groupInt maxStrDigits groups.2
        match ← typeOfName times constant maxStrDigits groups.1 with
        | some scalarType => (times scalarType size).map some
        | none => return none
      | none => return none) = listType times maxStrDigits (typeOfName times constant maxStrDigits) typeStr := by
    unfold listType
    cases regexList typeStr <;> rfl
  rw [typeOfName, if_neg notWide, unnamed]
  dsimp only
  rw [list, orTry, orTry, arrayType]
  cases regexArray typeStr with
  | none => rfl
  | some groups =>
    dsimp only
    cases groupInt maxStrDigits groups.upper with
    | error e => rfl
    | ok upper =>
      cases groupInt maxStrDigits groups.lower with
      | error e => rfl
      | ok lower =>
        cases typeOfName times constant maxStrDigits groups.scalar with
        | error e => rfl
        | ok scalarType => cases scalarType <;> rfl

/-- An array of a mapped type. -/
theorem typeOfName_array {groups : ArrayGroups} (matched : regexArray typeStr = some groups)
    (upper : groupInt maxStrDigits groups.upper = .ok upperBound)
    (lower : groupInt maxStrDigits groups.lower = .ok lowerBound)
    (scalar : typeOfName times constant maxStrDigits groups.scalar = .ok (some scalarType)) :
    typeOfName times constant maxStrDigits typeStr = (times scalarType (upperBound + 1 - lowerBound)).map some := by
  rw [typeOfName_attempts notWide unnamed, orTry, arrayType, matched]
  simp only [bind, Except.bind, upper, lower, scalar, mapped]
  cases times scalarType (upperBound + 1 - lowerBound) <;> rfl

/-- A list of a mapped type, which neither an array nor a matrix is. -/
theorem typeOfName_list (noArray : regexArray typeStr = none) (noMatrix : regexMatrix typeStr = none)
    {groups : List Char × List Char} (matched : regexList typeStr = some groups)
    (size : groupInt maxStrDigits groups.2 = .ok count)
    (scalar : typeOfName times constant maxStrDigits groups.1 = .ok (some scalarType)) :
    typeOfName times constant maxStrDigits typeStr = (times scalarType count).map some := by
  rw [typeOfName_attempts notWide unnamed, orTry, arrayType, noArray, orTry, matrixType, noMatrix, listType, matched]
  simp only [bind, Except.bind, size, scalar, mapped]

end Equations

theorem times_of_small {element : CDataType} {n : Nat} (small : n < 2 ^ 63) (total : n * element.sizeof < 2 ^ 63) :
    PlcDataType.times (.ctypes element) n = .ok (.ctypes (.array element n)) := by
  have product : (n : Int) * (element.sizeof : Int) < 2 ^ 63 := by exact_mod_cast total
  rw [PlcDataType.times, if_neg (by omega), if_neg (by omega), if_neg (by omega), Int.toNat_natCast]

/-! ## Names of numbers -/

theorem isDecimal_of_isDigit (digit : c.isDigit = true) : isDecimal c = true := by
  have bounds : 48 ≤ c.toNat ∧ c.toNat ≤ 57 := by simpa [Char.isDigit, UInt32.le_iff_toNat_le] using digit
  have found : decimalZeros.find? (fun start => start ≤ c.toNat ∧ c.toNat < start + 10) = some 48 :=
    List.find?_cons_of_pos (by simp only [decide_eq_true_eq]; omega)
  rw [isDecimal, decimalDigit?, found]
  rfl

theorem isDecimal_toDigits (n : Nat) : ∀ c ∈ Nat.toDigits 10 n, isDecimal c = true :=
  fun _ member => isDecimal_of_isDigit (Nat.isDigit_of_mem_toDigits (by decide) (by decide) member)

/-- A number that is written in full is read back. -/
theorem groupInt_toDigits (n : Nat) (short : maxStrDigits = 0 ∨ (Nat.toDigits 10 n).length ≤ maxStrDigits) :
    groupInt maxStrDigits (Nat.toDigits 10 n) = .ok n := by
  have kept : (Nat.toDigits 10 n).map (fun c => asciiChar (.scalar c)) = (Nat.toDigits 10 n).map id := by
    apply List.map_congr_left
    intro c member
    have digit := Nat.isDigit_of_mem_toDigits (by decide) (by decide) member
    have bounds : 48 ≤ c.toNat ∧ c.toNat ≤ 57 := by simpa [Char.isDigit, UInt32.le_iff_toNat_le] using digit
    exact if_pos (by omega)
  rw [groupInt, if_neg (by omega), kept, List.map_id, parseInt_toDigits]
  rfl

/-- The name of an array, in any line. -/
def arrayName (lower upper : Nat) (scalar : List Char) : List Char :=
  ['A', 'R', 'R', 'A', 'Y', ' ', '['] ++ (Nat.toDigits 10 lower ++ (['.', '.'] ++ (Nat.toDigits 10 upper ++
    ([']', ' ', 'O', 'F', ' '] ++ scalar))))

theorem regexArray_arrayName (lower upper : Nat) {scalar : List Char} (line : '\n' ∉ scalar) :
    regexArray (arrayName lower upper scalar) = some ⟨Nat.toDigits 10 lower, Nat.toDigits 10 upper, scalar⟩ := by
  have last : anyChars (fun scalar _ =>
      some (⟨Nat.toDigits 10 lower, Nat.toDigits 10 upper, scalar⟩ : ArrayGroups)) (scalar ++ []) =
      some ⟨Nat.toDigits 10 lower, Nat.toDigits 10 upper, scalar⟩ := by
    apply anyChars_append line
    · intro more rest split some_
      exact absurd (List.append_eq_nil_iff.mp split.symm).1 some_
    · rfl
  rw [List.append_nil] at last
  rw [regexArray, arrayName, literal_append]
  apply digits_append (isDecimal_toDigits lower) Nat.toDigits_ne_nil
  · rintro c ⟨⟩
    decide
  · rw [List.cons_append, anyChar_cons (by decide), List.cons_append, anyChar_cons (by decide), List.nil_append]
    apply digits_append (isDecimal_toDigits upper) Nat.toDigits_ne_nil
    · rintro c ⟨⟩
      decide
    · rw [literal_append, last]

/-- Of the digits and the bracket at the end, no proper suffix starts with a
bracket. -/
theorem regexList_brackets (n : Nat) {scalar : List Char} (line : '\n' ∉ scalar) :
    regexList (scalar ++ ('(' :: (Nat.toDigits 10 n ++ [')']))) = some (scalar, Nat.toDigits 10 n) := by
  rw [regexList]
  apply anyChars_append line
  · intro more rest split some_
    by_contra other
    obtain ⟨result, found⟩ := Option.ne_none_iff_exists'.mp other
    obtain ⟨behind, rfl, -⟩ := of_literal found
    obtain ⟨c, more, rfl⟩ := List.exists_cons_of_ne_nil some_
    have member : '(' ∈ Nat.toDigits 10 n ++ [')'] := by
      rw [(List.cons.inj split).2]
      simp
    rcases List.mem_append.mp member with digit | bracket
    · have decimal := isDecimal_toDigits n '(' digit
      exact absurd decimal (by decide)
    · simp at bracket
  · have bracket := literal_append ['('] (digits isDecimal fun size => literal [')'] fun _ =>
      some (scalar, size)) (Nat.toDigits 10 n ++ [')'])
    apply bracket.trans
    apply digits_append (isDecimal_toDigits n) Nat.toDigits_ne_nil
    · rintro c ⟨⟩
      decide
    · exact literal_append [')'] _ []

end PyAds
