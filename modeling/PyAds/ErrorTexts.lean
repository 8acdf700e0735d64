import PyAds.ErrorCodes
import PyAds.Numerals

/-! The error texts as values. A failed item of a sum read has such a text in
the place of its value; every one of them counts as true and is no number. -/
namespace PyAds

/-- A text that begins like a message. -/
def IsMessage (text : String) : Prop := ∃ c rest, text = String.ofList (c :: rest) ∧ OpensMessage c

def Messages (table : ErrorTable) : Prop := ∀ entry ∈ table, IsMessage entry.2

/-- Messages that do not begin like `no error`. -/
def Failures (table : ErrorTable) : Prop :=
  ∀ entry ∈ table, ∃ c rest, entry.2 = String.ofList (c :: rest) ∧ OpensMessage c ∧ c ≠ 'n'

private theorem isMessage_ofList {c : Char} {rest : List Char}
    (opens : c.toNat = 39 ∨ 58 ≤ c.toNat ∧ c.toNat < 127) :
    IsMessage (String.ofList (c :: rest)) :=
  ⟨c, rest, rfl, opens⟩

private theorem isFailure_ofList {c : Char} {rest : List Char}
    (opens : (c.toNat = 39 ∨ 58 ≤ c.toNat ∧ c.toNat < 127) ∧ c ≠ 'n') :
    ∃ first others, String.ofList (c :: rest) = String.ofList (first :: others) ∧ OpensMessage first ∧ first ≠ 'n' :=
  ⟨c, rest, rfl, opens⟩

/-! ## The tables -/

set_option maxRecDepth 2000

private theorem failures_GENERAL_ERRORS : Failures GENERAL_ERRORS := by
  repeat refine List.forall_mem_cons.mpr ⟨isFailure_ofList (by decide), ?_⟩
  exact List.forall_mem_nil _

private theorem failures_CHANNEL_ERRORS : Failures CHANNEL_ERRORS := by
  repeat refine List.forall_mem_cons.mpr ⟨isFailure_ofList (by decide), ?_⟩
  exact List.forall_mem_nil _

private theorem failures_GROUP_ERRORS : Failures GROUP_ERRORS := by
  repeat refine List.forall_mem_cons.mpr ⟨isFailure_ofList (by decide), ?_⟩
  exact List.forall_mem_nil _

private theorem failures_AXIS_ERRORS : Failures AXIS_ERRORS := by
  repeat refine List.forall_mem_cons.mpr ⟨isFailure_ofList (by decide), ?_⟩
  exact List.forall_mem_nil _

private theorem failures_TF5055_ERRORS : Failures TF5055_ERRORS := by
  repeat refine List.forall_mem_cons.mpr ⟨isFailure_ofList (by decide), ?_⟩
  exact List.forall_mem_nil _

private theorem failures_ENCODER_ERRORS : Failures ENCODER_ERRORS := by
  repeat refine List.forall_mem_cons.mpr ⟨isFailure_ofList (by decide), ?_⟩
  exact List.forall_mem_nil _

private theorem failures_CONTROLLER_ERRORS : Failures CONTROLLER_ERRORS := by
  repeat refine List.forall_mem_cons.mpr ⟨isFailure_ofList (by decide), ?_⟩
  exact List.forall_mem_nil _

private theorem failures_DRIVE_ERRORS : Failures DRIVE_ERRORS := by
  repeat refine List.forall_mem_cons.mpr ⟨isFailure_ofList (by decide), ?_⟩
  exact List.forall_mem_nil _

private theorem failures_TABLE_ERRORS : Failures TABLE_ERRORS := by
  repeat refine List.forall_mem_cons.mpr ⟨isFailure_ofList (by decide), ?_⟩
  exact List.forall_mem_nil _

private theorem failures_NC_PLC_ERRORS : Failures NC_PLC_ERRORS := by
  repeat refine List.forall_mem_cons.mpr ⟨isFailure_ofList (by decide), ?_⟩
  exact List.forall_mem_nil _

private theorem failures_KINEMATIC_TRANSFORMATION_ERRORS : Failures KINEMATIC_TRANSFORMATION_ERRORS := by
  repeat refine List.forall_mem_cons.mpr ⟨isFailure_ofList (by decide), ?_⟩
  exact List.forall_mem_nil _

private theorem failures_BODE_RETURN_CODES : Failures BODE_RETURN_CODES := by
  repeat refine List.forall_mem_cons.mpr ⟨isFailure_ofList (by decide), ?_⟩
  exact List.forall_mem_nil _

private theorem failures_FURTHER_ERROR_CODES : Failures FURTHER_ERROR_CODES := by
  repeat refine List.forall_mem_cons.mpr ⟨isFailure_ofList (by decide), ?_⟩
  exact List.forall_mem_nil _

private theorem messages_ADS_ERROR_CODES : Messages ADS_ERROR_CODES := by
  repeat refine List.forall_mem_cons.mpr ⟨isMessage_ofList (by decide), ?_⟩
  exact List.forall_mem_nil _

private theorem failures_append (first : Failures tables) (second : Failures table) :
    Failures (tables ++ table) :=
  List.forall_mem_append.mpr ⟨first, second⟩

theorem failures_NC_ERROR_CODES : Failures NC_ERROR_CODES := by
  apply failures_append _ failures_FURTHER_ERROR_CODES
  apply failures_append _ failures_BODE_RETURN_CODES
  apply failures_append _ failures_KINEMATIC_TRANSFORMATION_ERRORS
  apply failures_append _ failures_NC_PLC_ERRORS
  apply failures_append _ failures_TABLE_ERRORS
  apply failures_append _ failures_DRIVE_ERRORS
  apply failures_append _ failures_CONTROLLER_ERRORS
  apply failures_append _ failures_ENCODER_ERRORS
  apply failures_append _ failures_TF5055_ERRORS
  apply failures_append _ failures_AXIS_ERRORS
  apply failures_append _ failures_GROUP_ERRORS
  exact failures_append failures_GENERAL_ERRORS failures_CHANNEL_ERRORS

theorem Failures.messages (failures : Failures table) : Messages table := by
  intro entry member
  obtain ⟨c, rest, text, opens, _⟩ := failures entry member
  exact ⟨c, rest, text, opens⟩

/-! ## What a text counts as -/

/-- Every error text begins like a message. -/
theorem isMessage_errorCode (known : ERROR_CODES code = some text) : IsMessage text := by
  rcases Option.or_eq_some_iff.mp known with found | ⟨_, found⟩
  · exact failures_NC_ERROR_CODES.messages _ (OrderedDict.mem_of_lookup found)
  · exact messages_ADS_ERROR_CODES _ (OrderedDict.mem_of_lookup found)

/-- What `adsSumRead` stores for a failed item. -/
def errorValue (text : String) : PyVal := .str (Text.ofChars text.toList)

theorem truthy_errorValue (known : ERROR_CODES code = some text) : (errorValue text).truthy = true := by
  obtain ⟨c, rest, rfl, _⟩ := isMessage_errorCode known
  rw [errorValue, String.toList_ofList]
  rfl

/-- Only code 0 has the text of a success. -/
theorem eq_zero_of_noError (reported : errorText code = .ok (errorValue "no error")) : code = 0 := by
  unfold errorText at reported
  split at reported
  · rename_i text known
    simp only [errorValue, Except.ok.injEq, PyVal.str.injEq] at reported
    obtain rfl := String.toList_injective (Text.ofChars_injective reported)
    rcases Option.or_eq_some_iff.mp known with found | ⟨-, found⟩
    · obtain ⟨c, rest, text, -, other⟩ := failures_NC_ERROR_CODES _ (OrderedDict.mem_of_lookup found)
      have first : "no error".toList = c :: rest := (congrArg String.toList text).trans String.toList_ofList
      exact absurd (List.cons.inj first).1.symm other
    · have all : ADS_ERROR_CODES.all (fun entry => entry.2 != "no error" || entry.1 == 0) = true := by decide +kernel
      simpa using List.all_eq_true.mp all _ (OrderedDict.mem_of_lookup found)
  · cases reported

theorem int?_errorValue (known : ERROR_CODES code = some text) :
    (errorValue text).int? = .error (.valueError "invalid literal for int() with base 10") := by
  obtain ⟨c, rest, rfl, opens⟩ := isMessage_errorCode known
  rw [errorValue, String.toList_ofList]
  exact int?_message opens rest

end PyAds
