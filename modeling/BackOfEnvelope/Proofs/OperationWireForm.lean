import BackOfEnvelope.Proofs.PipelineDecoding

/-!
# The wire form of operations

Reading an operation brings it into a normal form: functions that exist are known by
name, and operands that are written like a reference are references.  Writing and
reading again keeps exactly the operations in normal form, so it keeps everything
that was read, and a pipeline runs alike from its steps and from what they are read
as.
-/

namespace BackOfEnvelope

namespace NumberLayout

/-- The digits and what stands among them in a JSON number. -/
def isNumberCharacter (c : Char) : Bool :=
  c.isDigit || c = '.' || c = '-' || c = '+' || c = 'e'

theorem isNumberCharacter_of_isDigit {c : Char} (digit : c.isDigit) : isNumberCharacter c := by
  simp [isNumberCharacter, digit]

theorem isDigit_of_mem_shortestDigits {tie : DigitTie} {m : Magnitude} {c : Char}
    (member : c ∈ (m.shortestDigits tie).digits) : c.isDigit := by
  apply isDigit_of_mem_decimalSpelling
  have kept := List.dropWhile_subset _ (List.mem_reverse.mp member)
  exact List.mem_reverse.mp kept

theorem isNumberCharacter_of_mem_toString {n : Int} {c : Char} (member : c ∈ (toString n).toList) :
    isNumberCharacter c := by
  cases n with
  | ofNat n => exact isNumberCharacter_of_isDigit (isDigit_of_mem_decimalSpelling member)
  | negSucc n =>
      have spelled : (toString (Int.negSucc n)).toList = '-' :: decimalSpelling (n + 1) :=
        String.toList_append
      rw [spelled] at member
      rcases List.mem_cons.mp member with rfl | digit
      · rfl
      · exact isNumberCharacter_of_isDigit (isDigit_of_mem_decimalSpelling digit)

variable {decimal : DecimalDigits} {c : Char}

theorem isNumberCharacter_of_mem_positional (digits : ∀ d ∈ decimal.digits, d.isDigit)
    (member : c ∈ json.positional decimal) : isNumberCharacter c := by
  simp only [positional] at member
  split at member
  · simp only [List.mem_cons, List.mem_append, List.mem_replicate] at member
    rcases member with rfl | rfl | ⟨-, rfl⟩ | digit
    · rfl
    · rfl
    · rfl
    · exact isNumberCharacter_of_isDigit (digits c digit)
  · split at member
    · simp only [json, if_true, List.mem_append, List.mem_replicate, List.mem_cons,
        List.not_mem_nil, or_false] at member
      rcases member with (digit | ⟨-, rfl⟩) | rfl | rfl
      · exact isNumberCharacter_of_isDigit (digits c digit)
      · rfl
      · rfl
      · rfl
    · simp only [List.mem_append, List.mem_cons] at member
      rcases member with digit | rfl | digit
      · exact isNumberCharacter_of_isDigit (digits c (List.mem_of_mem_take digit))
      · rfl
      · exact isNumberCharacter_of_isDigit (digits c (List.mem_of_mem_drop digit))

theorem isNumberCharacter_of_mem_scientific (digits : ∀ d ∈ decimal.digits, d.isDigit)
    (member : c ∈ json.scientific decimal) : isNumberCharacter c := by
  have exponent : ∀ d ∈ ((if 0 < decimal.point - 1 then "+" else "") ++
      toString (decimal.point - 1)).toList, isNumberCharacter d := by
    intro d inside
    rw [String.toList_append, List.mem_append] at inside
    rcases inside with sign | digit
    · split at sign
      · obtain rfl : d = '+' := List.mem_singleton.mp sign
        rfl
      · cases sign
    · exact isNumberCharacter_of_mem_toString digit
  simp only [scientific, List.mem_append, List.mem_cons] at member
  rcases member with (first | fraction) | rfl | inside
  · exact isNumberCharacter_of_isDigit (digits c (List.mem_of_mem_take first))
  · split at fraction
    · cases fraction
    · rcases List.mem_cons.mp fraction with rfl | digit
      · rfl
      · exact isNumberCharacter_of_isDigit (digits c (List.mem_of_mem_drop digit))
  · rfl
  · exact exponent c inside

/-- The JSON text of a number that is not finite is `null`; that of any other is made of
digits and their marks. -/
theorem write_json_cases (x : Float) :
    json.write x = "null" ∨ ∀ c ∈ (json.write x).toList, isNumberCharacter c := by
  unfold write
  split
  · exact .inl rfl
  · exact .inl rfl
  · next negative m _ =>
      right
      have digits : ∀ d ∈ (m.shortestDigits json.tie).digits, d.isDigit :=
        fun d => isDigit_of_mem_shortestDigits
      have unsigned : ∀ c ∈ (if m.significand = 0 then if json.marksIntegral then "0.0" else "0"
          else String.ofList (if json.isPositional (m.shortestDigits json.tie).point then
            json.positional (m.shortestDigits json.tie)
          else json.scientific (m.shortestDigits json.tie))).toList, isNumberCharacter c := by
        intro c member
        split at member
        · have zero : ['0', '.', '0'].all isNumberCharacter := rfl
          exact List.all_eq_true.mp zero c member
        · rw [String.toList_ofList] at member
          split at member
          · exact isNumberCharacter_of_mem_positional digits member
          · exact isNumberCharacter_of_mem_scientific digits member
      intro c member
      dsimp only at member
      split at member
      · rw [String.toList_append, List.mem_append] at member
        rcases member with sign | inside
        · obtain rfl : c = '-' := List.mem_singleton.mp sign
          rfl
        · exact unsigned c inside
      · exact unsigned c member

end NumberLayout

namespace StepFunction

theorem ofName?_name (function : StepFunction) : ofName? function.name = some function := by
  cases function <;> rfl

theorem ofName?_eq_none_iff {name : String} :
    ofName? name = none ↔ name ∉ all.map StepFunction.name := by
  simp [ofName?]

/-- No value but a string has the name of a function for its text. -/
theorem compact_ne_name {raw : Json} (noText : ∀ text, raw ≠ .text text)
    (function : StepFunction) : raw.compact ≠ function.name := by
  have letters : function.name.toList.all NumberLayout.isNumberCharacter = false := by
    cases function <;> rfl
  have noBracket :
      function.name.toList.head? ≠ some '[' ∧ function.name.toList.head? ≠ some '{' := by
    cases function <;> decide
  have noNull : "null" ≠ function.name := by
    cases function <;> decide
  obtain ⟨c, member, unlike⟩ := List.all_eq_false.mp letters
  intro same
  cases raw with
  | null => exact noNull same
  | boolean value => cases value <;> cases function <;> exact absurd same (by decide)
  | integer value =>
      have numeral := NumberLayout.isNumberCharacter_of_mem_toString (n := value) (same ▸ member)
      exact unlike numeral
  | float value =>
      rcases NumberLayout.write_json_cases value with null | numeral
      · exact noNull (null.symm.trans same)
      · have spelled : NumberLayout.json.write value = function.name := same
        exact unlike (numeral c (spelled ▸ member))
  | text text => exact noText text rfl
  | array items =>
      apply noBracket.1
      rw [← same, Json.compact, String.toList_append, String.toList_append]
      rfl
  | object fields =>
      apply noBracket.2
      rw [← same, Json.compact, String.toList_append, String.toList_append]
      rfl

end StepFunction

namespace StepAction

/-- An action is read back unless it is a function that is called unknown but exists. -/
theorem ofJson_toJson_iff (action : StepAction) :
    ofJson action.toJson = action ↔
      ∀ name, action = .unknown name → name ∉ StepFunction.all.map StepFunction.name := by
  cases action with
  | known function => simp [toJson, ofJson, StepFunction.ofName?_name]
  | missing => simp [toJson, ofJson]
  | unknown name =>
      simp only [toJson, ofJson, unknown.injEq, forall_eq', ← StepFunction.ofName?_eq_none_iff]
      cases StepFunction.ofName? name <;> simp

theorem not_mem_names_of_ofJson {raw : Json} {name : String} (read : ofJson raw = .unknown name) :
    name ∉ StepFunction.all.map StepFunction.name := by
  cases raw with
  | text text =>
      simp only [ofJson] at read
      split at read
      · cases read
      · next unknown =>
          cases read
          exact StepFunction.ofName?_eq_none_iff.mp unknown
  | null => cases read
  | boolean _ | integer _ | float _ | array _ | object _ =>
      cases read
      intro member
      obtain ⟨function, -, same⟩ := List.mem_map.mp member
      exact StepFunction.compact_ne_name (by simp) function same.symm

end StepAction

namespace Operand

/-- The texts that refer to a result where an operand is read. -/
def IsReserved (text : String) : Prop :=
  text = "result" ∨
    2 ≤ text.length ∧ text.toList.head? = some '{' ∧ text.toList.getLast? = some '}'

theorem bracedName?_eq_none_iff {text : String} :
    bracedName? text = none ↔
      ¬ (2 ≤ text.length ∧ text.toList.head? = some '{' ∧ text.toList.getLast? = some '}') := by
  unfold bracedName?
  rw [← String.length_toList]
  split
  · next rest spelled =>
      rw [spelled]
      cases rest with
      | nil => simp
      | cons second others => simp [List.getLast?_cons_cons]
  · next noBrace =>
      simp only [true_iff, not_and]
      intro _ opens _
      obtain ⟨rest, spelled⟩ := List.head?_eq_some_iff.mp opens
      exact noBrace rest spelled

theorem ofJson_text_of_isReserved {text : String} (reserved : IsReserved text) :
    ofJson (.text text) ≠ .literal (.text text) := by
  simp only [ofJson]
  split
  · simp
  · next notResult =>
      split
      · simp
      · next unbraced =>
          have notBraced := bracedName?_eq_none_iff.mp unbraced
          exact absurd (reserved.resolve_left notResult) notBraced

theorem not_isReserved_of_ofJson {raw : Json} {text : String}
    (read : ofJson raw = .literal (.text text)) : ¬ IsReserved text := by
  cases raw with
  | text given =>
      have unchanged : given = text := by
        simp only [ofJson] at read
        split at read
        · cases read
        · split at read
          · cases read
          · cases read
            rfl
      subst unchanged
      intro reserved
      exact ofJson_text_of_isReserved reserved read
  | null | boolean _ | integer _ | float _ | array _ | object _ => cases read

theorem ofJson_text_of_not_isReserved {text : String} (plain : ¬ IsReserved text) :
    ofJson (.text text) = .literal (.text text) := by
  unfold IsReserved at plain
  rw [not_or] at plain
  simp only [ofJson, if_neg plain.1, bracedName?_eq_none_iff.mpr plain.2]

theorem ofJson_toJson_variable (name : String) :
    ofJson (toJson (.variable name)) = .variable name := by
  have spelled : ("\x7b" ++ name ++ "\x7d").toList = '{' :: (name.toList ++ ['}']) := by
    rw [String.toList_append, String.toList_append]
    rfl
  have notResult : "\x7b" ++ name ++ "\x7d" ≠ "result" := by
    intro same
    rw [same] at spelled
    cases spelled
  have braced : bracedName? ("\x7b" ++ name ++ "\x7d") = some name := by
    simp only [bracedName?, spelled, List.getLast?_concat, if_pos, List.dropLast_concat,
      String.ofList_toList]
  simp only [toJson, ofJson, if_neg notResult, braced]

/-- An operand is read back unless it is a string that is written like a reference. -/
theorem ofJson_toJson_iff (operand : Operand) :
    ofJson operand.toJson = operand ↔
      ∀ text, operand = .literal (.text text) → ¬ IsReserved text := by
  cases operand with
  | previousResult => simp [toJson, ofJson]
  | «variable» name => simp [ofJson_toJson_variable]
  | literal value =>
      cases value with
      | text text =>
          simp only [toJson, literal.injEq, Json.text.injEq, forall_eq']
          exact ⟨not_isReserved_of_ofJson, ofJson_text_of_not_isReserved⟩
      | null | boolean _ | integer _ | float _ | array _ | object _ => simp [toJson, ofJson]

end Operand

namespace Operation

/-- What reading leaves as it is: no operand is a string that is written like a reference,
and no function is unknown that has the name of one that exists. -/
structure Canonical (operation : Operation) : Prop where
  operands : ∀ text, .literal (.text text) ∈ operation.operands → ¬ Operand.IsReserved text
  action : ∀ name, operation.action = .unknown name →
    name ∉ ["add", "subtract", "multiply", "divide", "power", "sqrt", "percent", "percentOf"]

theorem ofJson?_toJson (operation : Operation) :
    ofJson? operation.toJson = some
      ⟨StepAction.ofJson operation.action.toJson,
        operation.operands.map fun operand => Operand.ofJson operand.toJson, operation.name⟩ := by
  obtain ⟨action, operands, name⟩ := operation
  cases name <;>
    simp [ofJson?, toJson, Fields.find?, ofFields?, operandsOfJson?, nameOfJson?,
      Function.comp_def]

theorem ofJson?_toJson_eq_some_iff (operation : Operation) :
    ofJson? operation.toJson = some operation ↔ operation.Canonical := by
  have operands : operation.operands.map (fun operand => Operand.ofJson operand.toJson) =
        operation.operands ↔
      ∀ text, .literal (.text text) ∈ operation.operands → ¬ Operand.IsReserved text := by
    have kept := List.map_inj_left (l := operation.operands)
      (f := fun operand => Operand.ofJson operand.toJson) (g := id)
    rw [List.map_id] at kept
    calc _ ↔ ∀ operand ∈ operation.operands, Operand.ofJson operand.toJson = operand := kept
      _ ↔ ∀ operand ∈ operation.operands, ∀ text, operand = .literal (.text text) →
            ¬ Operand.IsReserved text := by
            simp only [Operand.ofJson_toJson_iff]
      _ ↔ _ := ⟨fun plain text member => plain _ member text rfl,
            fun plain operand member text same => plain text (same ▸ member)⟩
  rw [ofJson?_toJson, Option.some.injEq]
  constructor
  · intro same
    obtain ⟨sameAction, sameOperands⟩ : StepAction.ofJson operation.action.toJson =
        operation.action ∧ operation.operands.map (fun operand => Operand.ofJson operand.toJson) =
          operation.operands :=
      ⟨congrArg Operation.action same, congrArg Operation.operands same⟩
    exact ⟨operands.mp sameOperands, (StepAction.ofJson_toJson_iff _).mp sameAction⟩
  · rintro ⟨plain, truly⟩
    have sameAction := (StepAction.ofJson_toJson_iff operation.action).mpr truly
    rw [sameAction, operands.mpr plain]

theorem canonical_of_ofFields? {function operands name : Option Json} {operation : Operation}
    (read : ofFields? function operands name = some operation) : operation.Canonical := by
  simp only [ofFields?, Option.bind_eq_bind, Option.bind_eq_some_iff, Option.pure_def,
    Option.some.injEq] at read
  obtain ⟨taken, readOperands, carried, -, rfl⟩ := read
  constructor
  · intro text member
    cases operands with
    | none =>
        cases readOperands
        cases member
    | some raw =>
        cases raw with
        | array items =>
            cases readOperands
            obtain ⟨item, -, itemRead⟩ := List.mem_map.mp member
            exact Operand.not_isReserved_of_ofJson itemRead
        | null | boolean _ | integer _ | float _ | text _ | object _ => cases readOperands
  · intro unknown same
    cases function with
    | none => cases same
    | some raw => exact StepAction.not_mem_names_of_ofJson same

/-- What is read is in normal form, however it was written. -/
theorem canonical_of_ofJson? {raw : Json} {operation : Operation}
    (read : ofJson? raw = some operation) : operation.Canonical := by
  unfold ofJson? at read
  split at read
  · exact canonical_of_ofFields? read
  · exact canonical_of_ofFields? read
  · exact canonical_of_ofFields? read
  · exact canonical_of_ofFields? read
  · exact canonical_of_ofFields? read
  · cases read

end Operation

namespace Pipeline

/-- What steps decode to is written in such a way that it decodes to the same. -/
theorem decodeFrom_map_toJson {step : Nat} {steps : List Json} {operations : List Operation}
    (decoded : decodeFrom step steps = .ok operations) :
    decodeFrom step (operations.map Operation.toJson) = .ok operations := by
  induction steps generalizing step operations with
  | nil =>
      cases decoded
      rfl
  | cons raw rest ih =>
      obtain ⟨operation, others, rfl, first, remaining⟩ := decodeFrom_cons_eq_ok decoded
      have canonical : operation.Canonical := by
        unfold decodeStep at first
        split at first
        · next read =>
            cases first
            exact Operation.canonical_of_ofJson? read
        · cases first
      have again : Operation.ofJson? operation.toJson = some operation :=
        (Operation.ofJson?_toJson_eq_some_iff operation).mpr canonical
      simp only [List.map_cons, decodeFrom, decodeStep, again, ih remaining]

theorem runSteps_map_toJson {steps : List Json} {operations : List Operation}
    (decoded : decodeFrom 0 steps = .ok operations) (names : Namespace) :
    runSteps (operations.map Operation.toJson) names = runSteps steps names := by
  rw [runSteps_of_decodeFrom decoded, runSteps_of_decodeFrom (decodeFrom_map_toJson decoded)]

end Pipeline

namespace Operation

/-- What is read as an operation is read again from what is written for it, and of all
operations just those in normal form are.  So the steps of a pipeline can be replaced by
what is written for the operations that they are read as, in any namespace. -/
theorem toJson_roundTrip :
    (∀ raw operation, ofJson? raw = some operation → ofJson? operation.toJson = some operation) ∧
    (∀ operation, ofJson? operation.toJson = some operation ↔ operation.Canonical) ∧
    (∀ steps operations names, Pipeline.decodeFrom 0 steps = .ok operations →
      Pipeline.runSteps (operations.map toJson) names = Pipeline.runSteps steps names) ∧
    (∀ field operations names, Pipeline.operations field = .ok (some operations) →
      Pipeline.runSteps (operations.map toJson) names = Pipeline.runField field names) := by
  refine ⟨?_, ofJson?_toJson_eq_some_iff, ?_, ?_⟩
  · intro raw operation read
    exact (ofJson?_toJson_eq_some_iff operation).mpr (canonical_of_ofJson? read)
  · intro steps operations names decoded
    exact Pipeline.runSteps_map_toJson decoded names
  · intro field operations names decoded
    unfold Pipeline.operations at decoded
    split at decoded
    · cases decoded
    · cases decoded
    · next steps given =>
        split at decoded
        · cases decoded
        · next read whole =>
            cases decoded
            simp only [Pipeline.runField, given]
            exact Pipeline.runSteps_map_toJson whole names

/-- A step in the form of a list, with a function that is no string, two references and a
number, which is written as an object. -/
theorem toJson_roundTrip_of_list :
    let raw : Json := .array [.boolean true, .array [.text "result", .text "\x7bx\x7d", .integer 3]]
    let operation : Operation :=
      ⟨.unknown "true", [.previousResult, .variable "x", .literal (.integer 3)], none⟩
    let field : Option Yaml := some (.sequence [.sequence [.boolean true,
      .sequence [.text "result", .text "\x7bx\x7d", .integer 3]]])
    ofJson? raw = some operation ∧ ofJson? operation.toJson = some operation ∧
      Pipeline.decodeFrom 0 [raw] = .ok [operation] ∧
      Pipeline.runSteps [operation.toJson] Namespace.empty =
        Pipeline.runSteps [raw] Namespace.empty ∧
      Pipeline.operations field = .ok (some [operation]) ∧
      Pipeline.runSteps [operation.toJson] Namespace.empty =
        Pipeline.runField field Namespace.empty := by
  intro raw operation field
  have read : ofJson? raw = some operation := rfl
  have decoded : Pipeline.decodeFrom 0 [raw] = .ok [operation] := rfl
  have decodedField : Pipeline.operations field = .ok (some [operation]) := rfl
  obtain ⟨again, -, steps, fields⟩ := toJson_roundTrip
  exact ⟨read, again raw operation read, decoded, steps _ _ Namespace.empty decoded,
    decodedField, fields _ _ Namespace.empty decodedField⟩

end Operation

end BackOfEnvelope
