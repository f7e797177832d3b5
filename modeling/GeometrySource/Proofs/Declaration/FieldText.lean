import GeometrySource.Proofs.Declaration.Method

/-!
# Where fields are written

The members that are derived from a list of fields, taken apart into the texts that depend on the list and the lines
around them, which do not.
-/

namespace GeometrySource.Declaration

open Script

variable (ctx : Context)

/-- The texts of derived members that go through a list of fields. -/
structure FieldTexts where
  /-- The head of the constructor. -/
  constructorHead : String
  /-- The statements of the constructor behind the checks. -/
  assignments : List String
  /-- The statement of every conversion from another number type. -/
  conversion : String
  /-- The statement of `GetHashCode`. -/
  hash : String
  /-- The statement of the equality operator. -/
  equal : String
  /-- The statement of the inequality operator. -/
  notEqual : String
  /-- The statement of the `ToString` method with a format and a provider. -/
  formatted : String
  /-- The statements of `Write`. -/
  writes : List String
  /-- The statements of `Read` in front of the last one. -/
  locals : List String
  /-- The last statement of `Read`. -/
  result : String

/-- The texts that a list of fields is written in. -/
def fieldTexts (list : List Field) : FieldTexts where
  constructorHead := "public " ++ ctx.name ++ parameterList (list.map fun f => ⟨f.type ctx, f.parameter⟩)
  assignments := list.map fun f => f.name ++ " = " ++ f.parameter ++ ";"
  conversion := returning (construct ctx.name (list.map fun f => cast (f.type ctx) ("value." ++ f.name)))
  hash := returning (" + ".intercalate (list.map fun f => f.name ++ ".GetHashCode()"))
  equal := returning (" & ".intercalate (list.map (compareField "==")))
  notEqual := returning (" | ".intercalate (list.map (compareField "!=")))
  formatted := returning (formattedFields list)
  writes := fieldWrites ctx list
  locals := list.map fun f => "var " ++ f.parameter ++ " = reader." ++ f.readMethod ctx ++ "();"
  result := returning (construct ctx.name (list.map Field.parameter))

/-! ## The lines around -/

/-- The doc comment of the constructor. -/
def fieldConstructorDoc (list : List Field) : Script :=
  constructorSummary ctx ++ list.flatMap fun f => param f.parameter f.doc

/-- The lines in front of a conversion's head. -/
def conversionDoc (source : Numeric) : Script :=
  conversionComment ctx source (ctx.nameFor source) ++ clsMarkerIf (ctx.needsClsMarker source)

/-- The head of a conversion. -/
def conversionHead (source : Numeric) : String :=
  operatorLine ctx source (ctx.nameFor source)

/-- The doc comment of `GetHashCode`. -/
def hashDoc : Script :=
  summary "Returns the hash code for the current instance." ++ returns "A 32-bit signed integer hash code."

/-- The two `Equals` methods, and the doc comment of the equality operator behind them. -/
def equalsMethods : Script :=
  summary "Indicates whether this instance and a specified object are equal." ++
    param "obj" "Another object to compare to." ++
    returns ("true if obj and this instance are the same type and represent the same value; " ++
      "otherwise, false.") ++
    .line "public override bool Equals(object obj)" ::
    block
      (.line ("if (obj is " ++ ctx.name ++ ")") ::
        body [returning ("Equals(" ++ cast ctx.name "obj" ++ ")")] ++
        [.line "return false;"]) ++
    summary ("Determines whether the specified " ++ see ctx.name ++ " is equal to the current " ++ see ctx.name ++
      ".") ++
    param "other" "The value to compare with the current instance." ++
    returns "true if the specified value is equal to the current instance; otherwise, false." ++
    method ("public bool Equals(" ++ ctx.name ++ " other)") ["return this == other;"] ++
    equalDoc

/-- The three `ToString` methods that call the fourth, and the doc comment of that one. -/
def callingToStrings : Script :=
  formattingSummary ctx "" ++
    formattingReturns "" ++
    method "public override string ToString()" ["return ToString(\"G\", CultureInfo.CurrentCulture);"] ++
    formattingSummary ctx " by using the specified culture-specific formatting information" ++
    providerParam ++
    formattingReturns ", as specified by provider" ++
    method "public string ToString(IFormatProvider provider)" ["return ToString(\"G\", provider);"] ++
    formattingSummary ctx " by using the specified format for its components" ++
    formatParam ++
    formattingReturns "" ++
    method "public string ToString(string format)" ["return ToString(format, CultureInfo.CurrentCulture);"] ++
    formattingSummary ctx
      " by using the specified format and culture-specific format information for its components" ++
    formatParam ++
    providerParam ++
    formattingReturns ", as specified by format and provider"

/-- The doc comment of `Write`. -/
def writeDoc : Script :=
  summary ("Writes the given " ++ see ctx.name ++ " to a binary stream.") ++
    param "writer" "The binary writer to write to." ++
    param ctx.parameter ("The " ++ see ctx.name ++ " to write.")

/-- The doc comment of `Read`. -/
def readDoc : Script :=
  summary ("Reads a " ++ see ctx.name ++ " from a binary stream.") ++
    param "reader" "The binary reader to read from." ++
    returns ("The " ++ see ctx.name ++ " read from the stream.")

/-- The heads of the operators and functions around the texts. -/
def equalHead : String :=
  "public static bool operator ==" ++ parameterList (operands ctx)

def notEqualHead : String :=
  "public static bool operator !=" ++ parameterList (operands ctx)

def writeHead : String :=
  "public static void Write(this " ++ ctx.binaryWriter ++ " writer, " ++ ctx.name ++ " " ++ ctx.parameter ++ ")"

def readHead : String :=
  "public static " ++ ctx.name ++ " Read" ++ ctx.name ++ "(this " ++ ctx.binaryReader ++ " reader)"

/-! ## Members as methods -/

theorem fieldConstructor_eq (list : List Field) (requires : List String) :
    fieldConstructor ctx list requires =
      fieldConstructorDoc ctx list ++
        method (fieldTexts ctx list).constructorHead
          ((requires.map fun condition => "Contract.Requires(" ++ condition ++ ");") ++
            (fieldTexts ctx list).assignments) := by
  simp only [fieldConstructor, fieldConstructorDoc, method, fieldTexts, List.append_assoc, List.singleton_append]

theorem conversion_nameFor_eq (source : Numeric) (args : List String) :
    conversion ctx source (ctx.nameFor source) args =
      conversionDoc ctx source ++ method (conversionHead ctx source) [returning (construct ctx.name args)] := by
  rw [conversion_eq, conversionDoc, method, conversionHead]
  simp only [List.append_assoc, List.singleton_append]

theorem equalityMembers_eq (hash equal notEqual : List String) :
    equalityMembers ctx hash equal notEqual =
      hashDoc ++ method "public override int GetHashCode()" hash ++ equalsMethods ctx ++
        method (equalHead ctx) equal ++ notEqualDoc ++ method (notEqualHead ctx) notEqual := by
  unfold equalityMembers hashDoc equalsMethods equalHead notEqualHead method
  simp only [List.append_assoc, List.cons_append]

theorem toStringMembers_eq (formatted : String) :
    toStringMembers ctx formatted =
      callingToStrings ctx ++
        method "public string ToString(string format, IFormatProvider provider)" [returning formatted] := by
  simp only [toStringMembers, callingToStrings, method, List.append_assoc, List.cons_append]

theorem binaryMembers_eq (writes reads : List String) :
    binaryMembers ctx writes reads =
      writeDoc ctx ++ method (writeHead ctx) writes ++ readDoc ctx ++ method (readHead ctx) reads := by
  unfold binaryMembers writeDoc readDoc writeHead readHead method
  simp only [List.append_assoc, List.cons_append]

/-! ## Members in print -/

theorem plain_fieldConstructorDoc (list : List Field) : (fieldConstructorDoc ctx list).Plain where
  nested := by
    have hdocs : Nested (list.flatMap fun f => param f.parameter f.doc) := nested_flatMap fun f _ => nested_param _ _
    simp [fieldConstructorDoc, constructorSummary, hdocs]
  steady := by simp [fieldConstructorDoc, constructorSummary, summary, param]

theorem plain_conversionDoc (source : Numeric) : (conversionDoc ctx source).Plain where
  nested := by simp [conversionDoc, conversionComment]
  steady := by
    cases hmarked : ctx.needsClsMarker source <;>
      simp [conversionDoc, conversionComment, hmarked, clsMarkerIf, summary, param, returns]

theorem plain_hashDoc : hashDoc.Plain where
  nested := by simp [hashDoc]
  steady := by simp [hashDoc, summary, returns]

theorem plain_equalsMethods : (equalsMethods ctx).Plain where
  nested := by simp [equalsMethods, equalDoc, method, nested_objectBlock, -String.reduceAppend]
  steady := by simp [equalsMethods, equalDoc, summary, param, returns, method, body, -String.reduceAppend]

theorem plain_notEqualDoc : notEqualDoc.Plain where
  nested := by simp [notEqualDoc]
  steady := by simp [notEqualDoc, summary, param, returns]

theorem plain_callingToStrings : (callingToStrings ctx).Plain where
  nested := by
    simp [callingToStrings, formattingSummary, formattingReturns, formatParam, providerParam, method,
      -String.reduceAppend]
  steady := by
    simp [callingToStrings, formattingSummary, formattingReturns, formatParam, providerParam, summary, param, returns,
      method, body, -String.reduceAppend]

theorem plain_writeDoc : (writeDoc ctx).Plain where
  nested := by simp [writeDoc]
  steady := by simp [writeDoc, summary, param]

theorem plain_readDoc : (readDoc ctx).Plain where
  nested := by simp [readDoc]
  steady := by simp [readDoc, summary, param, returns]

/-- The constructor in print, at any place. -/
theorem sheet_fieldConstructor (list : List Field) (requires : List String) (opened : Bool) :
    (fieldConstructor ctx list requires).sheet opened =
      linesText (fieldConstructorDoc ctx list) ++
        methodText (fieldTexts ctx list).constructorHead
          ((requires.map fun condition => "Contract.Requires(" ++ condition ++ ");") ++
            (fieldTexts ctx list).assignments) := by
  have hdoc := plain_fieldConstructorDoc ctx list
  rw [fieldConstructor_eq, hdoc.nested.sheet_append_plain (plain_method _ _), hdoc.sheet_eq, sheet_method]

/-- The conversions in print, at any place: one for each other number type, all with one statement. -/
theorem sheet_conversions (list : List Field) (opened : Bool) :
    (conversions ctx list).sheet opened =
      String.join (ctx.others.map fun source =>
        linesText (conversionDoc ctx source) ++
          methodText (conversionHead ctx source) [(fieldTexts ctx list).conversion]) := by
  have hone : ∀ source, Nested (conversion ctx source (ctx.nameFor source)
      (list.map fun f => cast (f.type ctx) ("value." ++ f.name))) := fun source => nested_conversion ctx _ _ _
  unfold conversions conversionsBy
  induction ctx.others generalizing opened with
  | nil => rfl
  | cons source rest ih =>
    have hdoc := plain_conversionDoc ctx source
    rw [List.flatMap_cons, (hone source).sheet_append, ih, conversion_nameFor_eq,
      hdoc.nested.sheet_append_plain (plain_method _ _), hdoc.sheet_eq, sheet_method, List.map_cons, String.join_cons]
    rfl

/-- The members of equality in print, at any place. -/
theorem sheet_equality (list : List Field) (opened : Bool) :
    (equality ctx list).sheet opened =
      regionText opened "Equatable"
        (linesText hashDoc ++ methodText "public override int GetHashCode()" [(fieldTexts ctx list).hash] ++
          linesText (equalsMethods ctx) ++ methodText (equalHead ctx) [(fieldTexts ctx list).equal] ++
          linesText notEqualDoc ++ methodText (notEqualHead ctx) [(fieldTexts ctx list).notEqual]) := by
  have hhash := plain_hashDoc.append (plain_method "public override int GetHashCode()" [(fieldTexts ctx list).hash])
  have hequals := hhash.append (plain_equalsMethods ctx)
  have hequal := hequals.append (plain_method (equalHead ctx) [(fieldTexts ctx list).equal])
  have hdoc := hequal.append plain_notEqualDoc
  have hall := hdoc.append (plain_method (notEqualHead ctx) [(fieldTexts ctx list).notEqual])
  have hregion : equality ctx list = region "Equatable"
      (equalityMembers ctx [(fieldTexts ctx list).hash] [(fieldTexts ctx list).equal]
        [(fieldTexts ctx list).notEqual]) :=
    rfl
  rw [hregion, equalityMembers_eq, sheet_region opened _ hall]
  rw [linesText, hdoc.nested.sheet_append_plain (plain_method _ _), hequal.nested.sheet_append_plain plain_notEqualDoc,
    hequals.nested.sheet_append_plain (plain_method _ _), hhash.nested.sheet_append_plain (plain_equalsMethods ctx),
    plain_hashDoc.nested.sheet_append_plain (plain_method _ _), sheet_method, sheet_method, sheet_method]

/-- The members of string conversion in print, at any place. -/
theorem sheet_toStringRegion (list : List Field) (opened : Bool) :
    (toStringRegion ctx list).sheet opened =
      regionText opened "ToString"
        (linesText (callingToStrings ctx) ++
          methodText "public string ToString(string format, IFormatProvider provider)"
            [(fieldTexts ctx list).formatted]) := by
  have hdoc := plain_callingToStrings ctx
  rw [toStringRegion, toStringMembers_eq, sheet_region opened _ (hdoc.append (plain_method _ _)), linesText,
    hdoc.nested.sheet_append_plain (plain_method _ _), sheet_method]
  rfl

/-- The binary functions in print, at any place. -/
theorem sheet_binary (list : List Field) (opened : Bool) :
    (binary ctx list).sheet opened =
      regionText opened "Binary"
        (linesText (writeDoc ctx) ++ methodText (writeHead ctx) (fieldTexts ctx list).writes ++
          linesText (readDoc ctx) ++
          methodText (readHead ctx) ((fieldTexts ctx list).locals ++ [(fieldTexts ctx list).result])) := by
  have hwrite := (plain_writeDoc ctx).append (plain_method (writeHead ctx) (fieldWrites ctx list))
  have hdoc := hwrite.append (plain_readDoc ctx)
  rw [binary, binaryMembers_eq, sheet_region opened _ (hdoc.append (plain_method _ _)), linesText,
    hdoc.nested.sheet_append_plain (plain_method _ _), hwrite.nested.sheet_append_plain (plain_readDoc ctx),
    (plain_writeDoc ctx).nested.sheet_append_plain (plain_method _ _), sheet_method, sheet_method]
  rfl

end GeometrySource.Declaration
