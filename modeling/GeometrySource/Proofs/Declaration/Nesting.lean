import GeometrySource.Declaration.Outline
import GeometrySource.Proofs.Layout.Nesting

/-!
# Declarations are nested

Every part that a declaration is made of is a nested script, whatever texts and statements it is given. A struct and its
static class are a head and a block each.
-/

namespace GeometrySource.Declaration

open Script

variable (ctx : Context)

/-! ## Doc comments and single lines -/

@[simp]
theorem nested_summary (text : String) : (summary text).Nested := by
  simp [summary]

@[simp]
theorem nested_param (name text : String) : (param name text).Nested := by
  simp [param]

@[simp]
theorem nested_returns (text : String) : (returns text).Nested := by
  simp [returns]

@[simp]
theorem nested_clsMarkerIf (marked : Bool) : (clsMarkerIf marked).Nested := by
  cases marked <;> simp [clsMarkerIf]

/-! ## Members -/

@[simp]
theorem nested_field_declaration (f : Field) : (f.declaration ctx).Nested := by
  simp [Field.declaration]

/-- The fields of a struct are nested. -/
@[simp]
theorem nested_fields (list : List Field) : (fields ctx list).Nested :=
  nested_region _ (nested_flatMap fun f _ => nested_field_declaration ctx f)

@[simp]
theorem nested_constant (name doc : String) (args : List String) : (constant ctx name doc args).Nested := by
  simp [constant]

@[simp]
theorem nested_property (type name doc expression : String) : (property type name doc expression).Nested := by
  simp [property]

@[simp]
theorem nested_fieldConstructor (list : List Field) (requires : List String) :
    (fieldConstructor ctx list requires).Nested := by
  have hdocs : Nested (list.flatMap fun f => param f.parameter f.doc) := nested_flatMap fun f _ => nested_param _ _
  simp [fieldConstructor, constructorSummary, hdocs]

@[simp]
theorem nested_chainedConstructor (parameters : List DescribedParameter) (args : List String) :
    (chainedConstructor ctx parameters args).Nested := by
  have hdocs : Nested (parameters.flatMap fun p => param p.name p.doc) := nested_flatMap fun p _ => nested_param _ _
  simp [chainedConstructor, constructorSummary, hdocs]

@[simp]
theorem nested_operator (doc result symbol : String) (parameters : List Parameter) (expression : String) :
    (operator doc result symbol parameters expression).Nested := by
  simp [operator]

@[simp]
theorem nested_function (doc result name : String) (parameters : List Parameter) (statements : List String) :
    (function doc result name parameters statements).Nested := by
  simp [function]

@[simp]
theorem nested_displacements (build : String → String) : (displacements ctx build).Nested :=
  nested_flatMap fun _ _ => nested_operator _ _ _ _ _

@[simp]
theorem nested_conversion (source : Numeric) (sourceName : String) (args : List String) :
    (conversion ctx source sourceName args).Nested := by
  simp [conversion]

@[simp]
theorem nested_conversionsBy (args : List String) : (conversionsBy ctx args).Nested :=
  nested_flatMap fun _ _ => nested_conversion ctx _ _ _

@[simp]
theorem nested_conversions (list : List Field) : (conversions ctx list).Nested :=
  nested_conversionsBy ctx _

/-- The block that compares an object of the type, and no other object. -/
theorem nested_objectBlock (name : String) :
    Nested (block (.line ("if (obj is " ++ name ++ ")") ::
      (body [returning ("Equals(" ++ cast name "obj" ++ ")")] ++ [.line "return false;"]))) :=
  nested_block (by simp)

@[simp]
theorem nested_equalityMembers (hash equal notEqual : List String) :
    (equalityMembers ctx hash equal notEqual).Nested := by
  simp [equalityMembers, equalDoc, notEqualDoc, nested_objectBlock, -String.reduceAppend]

@[simp]
theorem nested_equality (list : List Field) : (equality ctx list).Nested := by
  simp [equality]

@[simp]
theorem nested_equalsFunction : (equalsFunction ctx).Nested := by
  simp [equalsFunction, equalDoc]

@[simp]
theorem nested_toStringMembers (formatted : String) : (toStringMembers ctx formatted).Nested := by
  simp [toStringMembers, formattingSummary, formattingReturns, formatParam, providerParam, -String.reduceAppend]

@[simp]
theorem nested_toStringRegion (list : List Field) : (toStringRegion ctx list).Nested := by
  simp [toStringRegion]

@[simp]
theorem nested_binaryMembers (writes reads : List String) : (binaryMembers ctx writes reads).Nested := by
  simp [binaryMembers]

@[simp]
theorem nested_binary (list : List Field) : (binary ctx list).Nested := by
  simp [binary]

/-! ## Conversions -/

/-- The line that declares a conversion operator. -/
def conversionLine (keyword target source : String) : String :=
  "public static " ++ keyword ++ " operator " ++ target ++ "(" ++ source ++ " value)"

/-- The line of the operator that converts a type with a number type. -/
def operatorLine (source : Numeric) (sourceName : String) : String :=
  conversionLine (ctx.conversionKind source).keyword ctx.name sourceName

/-- The doc comment of a conversion. -/
def conversionComment (source : Numeric) (sourceName : String) : Script :=
  summary ("Defines an " ++ (ctx.conversionKind source).keyword ++ " conversion of a " ++ see sourceName ++ " to a " ++
      see ctx.name ++ ".") ++
    param "value" ("The value to convert to a " ++ see ctx.name ++ ".") ++
    returns ("A " ++ see ctx.name ++ " that has the same value as <paramref name=\"value\"/>.")

/-- A conversion is its doc comment, the operator behind a possible marker, and a block with one statement. -/
theorem conversion_eq (source : Numeric) (sourceName : String) (args : List String) :
    conversion ctx source sourceName args =
      conversionComment ctx source sourceName ++
        ((clsMarkerIf (ctx.needsClsMarker source) ++ [.line (operatorLine ctx source sourceName)]) ++
          body [returning (construct ctx.name args)]) := by
  simp only [conversion, conversionComment, List.append_assoc, List.cons_append, List.nil_append]
  rfl

/-! ## Structs and files -/

/-- The lines of a struct in front of its block. -/
def structHead (description : String) : Script :=
  summary ("Represents " ++ description ++ " in " ++ ctx.dimension.repr ++ " dimensional space, using " ++
      ctx.numeric.description ++ ".") ++
    [.line "[Serializable]", .line "[ComVisible(true)]", .line "[StructLayout(LayoutKind.Sequential)]"] ++
    clsMarkerIf (!ctx.numeric.clsCompliant) ++
    [.line ("public struct " ++ ctx.name ++ " : IEquatable<" ++ ctx.name ++ ">, IFormattable")]

/-- The lines of a static class in front of its block. -/
def companionHead : Script :=
  .separate :: summary ("Provides static methods for " ++ ctx.parameter ++ " functions.") ++
    [.line ("public static partial class " ++ ctx.companion)]

/-- A declaration is the struct and the static class, each a head and a block. -/
theorem outline_eq (description : String) (members functions : Script) :
    outline ctx description members functions =
      structHead ctx description ++ block members ++ (companionHead ctx ++ block functions) := by
  simp only [outline, openStruct, openCompanion, closeStruct, closeCompanion, structHead, companionHead, block,
    List.append_assoc]

@[simp]
theorem nested_structHead (description : String) : (structHead ctx description).Nested := by
  simp [structHead]

@[simp]
theorem nested_companionHead : (companionHead ctx).Nested := by
  simp [companionHead]

/-- A declaration around nested members and functions is nested. -/
@[simp]
theorem nested_outline (description : String) {members functions : Script} (hm : members.Nested)
    (hf : functions.Nested) :
    (outline ctx description members functions).Nested := by
  rw [outline_eq]
  simp [hm, hf]

@[simp]
theorem nested_derivedMembers (list : List Field) {further : Script} (h : further.Nested) :
    (derivedMembers ctx list further).Nested := by
  have hconversions : Nested (region "Conversions" (conversions ctx list ++ further)) := nested_region _ (by simp [h])
  simp [derivedMembers, hconversions]

@[simp]
theorem nested_derivedFunctions (list : List Field) : (derivedFunctions ctx list).Nested := by
  simp [derivedFunctions]

end GeometrySource.Declaration
