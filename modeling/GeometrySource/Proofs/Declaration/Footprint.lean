import GeometrySource.Declaration.Outline

/-!
# What declarations read

A template is given the whole request and the whole configuration. Of these the parts of a declaration read the shape, the
number type and the dimension (`Context.SameType`), and beyond that only the conversions read the number types that the
shape is generated for, and only the heads of the binary functions the types of the writer and the reader
(`Context.Agree`). The namespace is read by the opening of a file alone.
-/

namespace GeometrySource

/-- Two contexts of one declared type. Their specs may be written in different ways, and the configurations may differ. -/
structure Context.SameType (a b : Context) : Prop where
  shape : a.shape = b.shape
  numeric : a.numeric = b.numeric
  dimension : a.dimension = b.dimension

/-- Two contexts that a declaration cannot tell apart: of one declared type, which is generated for the same number types,
with one writer and one reader. -/
structure Context.Agree (a b : Context) : Prop extends Context.SameType a b where
  types : a.types = b.types
  binaryWriter : a.binaryWriter = b.binaryWriter
  binaryReader : a.binaryReader = b.binaryReader

variable {a b : Context}

/-! ## Names -/

namespace Context.SameType

theorem shapeName (h : a.SameType b) (s : Shape) (n : Numeric) : a.shapeName s n = b.shapeName s n := by
  rw [Context.shapeName, Context.shapeName, h.dimension]

theorem nameFor (h : a.SameType b) (n : Numeric) : a.nameFor n = b.nameFor n := by
  rw [Context.nameFor, Context.nameFor, h.shapeName, h.shape]

theorem name (h : a.SameType b) : a.name = b.name := by
  rw [Context.name, Context.name, h.nameFor, h.numeric]

theorem scalar (h : a.SameType b) : a.scalar = b.scalar := by
  rw [Context.scalar, Context.scalar, h.numeric]

theorem point (h : a.SameType b) : a.point = b.point := by
  rw [Context.point, Context.point, h.numeric, h.dimension]

theorem vector (h : a.SameType b) : a.vector = b.vector := by
  rw [Context.vector, Context.vector, h.numeric, h.dimension]

theorem size (h : a.SameType b) : a.size = b.size := by
  rw [Context.size, Context.size, h.numeric, h.dimension]

theorem real (h : a.SameType b) : a.real = b.real := by
  rw [Context.real, Context.real, h.numeric]

theorem positive (h : a.SameType b) : a.positive = b.positive := by
  rw [Context.positive, Context.positive, h.numeric]

theorem conversionKind (h : a.SameType b) (source : Numeric) : a.conversionKind source = b.conversionKind source := by
  rw [Context.conversionKind, Context.conversionKind, h.numeric]

theorem needsClsMarker (h : a.SameType b) (source : Numeric) : a.needsClsMarker source = b.needsClsMarker source := by
  rw [Context.needsClsMarker, Context.needsClsMarker, h.numeric]

theorem companion (h : a.SameType b) : a.companion = b.companion := by
  rw [Context.companion, Context.companion, h.shape]

theorem parameter (h : a.SameType b) : a.parameter = b.parameter := by
  rw [Context.parameter, Context.parameter, h.shape]

end Context.SameType

/-- The number types that conversions come from. -/
theorem Context.Agree.others (h : a.Agree b) : a.others = b.others := by
  rw [Context.others, Context.others, h.types, h.numeric]

namespace Declaration

open Script

/-! ## Fields -/

theorem Field.typeFor_congr (h : a.SameType b) (f : Field) (n : Numeric) : f.typeFor a n = f.typeFor b n := by
  rw [Field.typeFor, Field.typeFor, h.dimension]

theorem Field.type_congr (h : a.SameType b) (f : Field) : f.type a = f.type b := by
  rw [Field.type, Field.type, Field.typeFor_congr h, h.numeric]

theorem Field.readMethod_congr (h : a.SameType b) (f : Field) : f.readMethod a = f.readMethod b := by
  rw [Field.readMethod, Field.readMethod, Field.type_congr h, h.numeric]

theorem fields_congr (h : a.SameType b) (list : List Field) : fields a list = fields b list := by
  simp only [fields, Field.declaration, Field.type_congr h]

/-! ## The frame -/

/-- The opening of a file reads the namespace and nothing else. -/
theorem openFile_congr (h : a.namespaceName = b.namespaceName) : openFile a = openFile b := by
  rw [openFile, openFile, h]

theorem openStruct_congr (h : a.SameType b) (description : String) : openStruct a description = openStruct b description := by
  simp only [openStruct, h.dimension, h.numeric, h.name]

theorem openCompanion_congr (h : a.SameType b) : openCompanion a = openCompanion b := by
  simp only [openCompanion, h.parameter, h.companion]

theorem outline_congr (h : a.SameType b) (description : String) (members functions : Script) :
    outline a description members functions = outline b description members functions := by
  rw [outline, outline, openStruct_congr h, openCompanion_congr h]

/-! ## Members -/

theorem constant_congr (h : a.SameType b) (name doc : String) (args : List String) :
    constant a name doc args = constant b name doc args := by
  simp only [constant, h.name]

theorem constructorSummary_congr (h : a.SameType b) : constructorSummary a = constructorSummary b := by
  rw [constructorSummary, constructorSummary, h.name]

theorem fieldConstructor_congr (h : a.SameType b) (list : List Field) (requires : List String) :
    fieldConstructor a list requires = fieldConstructor b list requires := by
  simp only [fieldConstructor, constructorSummary_congr h, h.name, Field.type_congr h]

theorem chainedConstructor_congr (h : a.SameType b) (parameters : List DescribedParameter) (args : List String) :
    chainedConstructor a parameters args = chainedConstructor b parameters args := by
  simp only [chainedConstructor, constructorSummary_congr h, h.name]

theorem displacements_congr (h : a.SameType b) (build : String → String) :
    displacements a build = displacements b build := by
  have hone : displacement a build = displacement b build := by
    funext t
    simp only [displacement, h.name, h.parameter, h.vector]
  rw [displacements, displacements, hone]

theorem equalityMembers_congr (h : a.SameType b) (hash equal notEqual : List String) :
    equalityMembers a hash equal notEqual = equalityMembers b hash equal notEqual := by
  simp only [equalityMembers, operands, h.name]

theorem equality_congr (h : a.SameType b) (list : List Field) : equality a list = equality b list := by
  rw [equality, equality, equalityMembers_congr h]

theorem equalsFunction_congr (h : a.SameType b) : equalsFunction a = equalsFunction b := by
  simp only [equalsFunction, operands, h.name]

theorem toStringMembers_congr (h : a.SameType b) (formatted : String) :
    toStringMembers a formatted = toStringMembers b formatted := by
  simp only [toStringMembers, formattingSummary, h.name]

theorem toStringRegion_congr (h : a.SameType b) (list : List Field) : toStringRegion a list = toStringRegion b list := by
  rw [toStringRegion, toStringRegion, toStringMembers_congr h]

/-! ## Conversions and binary functions -/

theorem conversion_congr (h : a.SameType b) (source : Numeric) (sourceName : String) (args : List String) :
    conversion a source sourceName args = conversion b source sourceName args := by
  simp only [conversion, h.conversionKind, h.name, h.needsClsMarker]

/-- The conversions from the other number types read which these are. -/
theorem conversionsBy_congr (h : a.Agree b) (args : List String) : conversionsBy a args = conversionsBy b args := by
  simp only [conversionsBy, h.others, h.nameFor, conversion_congr h.toSameType]

theorem conversions_congr (h : a.Agree b) (list : List Field) : conversions a list = conversions b list := by
  simp only [conversions, Field.type_congr h.toSameType, conversionsBy_congr h]

/-- The binary functions read the types of the writer and the reader. -/
theorem binaryMembers_congr (h : a.Agree b) (writes reads : List String) :
    binaryMembers a writes reads = binaryMembers b writes reads := by
  simp only [binaryMembers, h.name, h.parameter, h.binaryWriter, h.binaryReader]

theorem binary_congr (h : a.Agree b) (list : List Field) : binary a list = binary b list := by
  simp only [binary, fieldWrites, fieldReads, h.parameter, h.name, Field.readMethod_congr h.toSameType,
    binaryMembers_congr h]

theorem derivedMembers_congr (h : a.Agree b) (list : List Field) (furtherConversions : Script) :
    derivedMembers a list furtherConversions = derivedMembers b list furtherConversions := by
  rw [derivedMembers, derivedMembers, conversions_congr h, equality_congr h.toSameType, toStringRegion_congr h.toSameType]

theorem derivedFunctions_congr (h : a.Agree b) (list : List Field) :
    derivedFunctions a list = derivedFunctions b list := by
  rw [derivedFunctions, derivedFunctions, binary_congr h, equalsFunction_congr h.toSameType]

end Declaration

end GeometrySource
