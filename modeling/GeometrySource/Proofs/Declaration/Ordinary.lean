import GeometrySource.Proofs.Declaration.Line

/-!
# Ordinary parts of declarations

Every part of a declaration but the head of the struct and the conversions has ordinary lines only, as long as the texts
it is given stay on one line and no parameter is called like the one of a conversion.
-/

namespace GeometrySource.Declaration

open Script Text

variable (ctx : Context)

/-! ## Expressions -/

@[simp]
theorem singleLine_see (name : String) : SingleLine (see name) ↔ SingleLine name := by
  simp (disch := (with_reducible apply Written.intro; decide)) [see, singleLine_of_written]

@[simp]
theorem singleLine_commaList (texts : List String) : SingleLine (commaList texts) ↔ ∀ text ∈ texts, SingleLine text :=
  singleLine_intercalate (.intro (by decide)) texts

@[simp]
theorem singleLine_construct (type : String) (args : List String) :
    SingleLine (construct type args) ↔ SingleLine type ∧ ∀ arg ∈ args, SingleLine arg := by
  simp (disch := (with_reducible apply Written.intro; decide)) [construct, singleLine_of_written]

@[simp]
theorem singleLine_cast (type operand : String) :
    SingleLine (cast type operand) ↔ SingleLine type ∧ SingleLine operand := by
  simp (disch := (with_reducible apply Written.intro; decide)) [cast, singleLine_of_written]

@[simp]
theorem ordinary_returning (expression : String) : Ordinary (returning expression) ↔ SingleLine expression := by
  simp (disch := (with_reducible apply Written.intro; decide)) [returning, String.append_assoc, ordinary_append_iff,
    singleLine_of_written]

/-- The lines of a statement with a block are its header and those of the block. -/
@[simp]
theorem ordinary_braced (header : String) (inner : List String) :
    (∀ line ∈ braced header inner, Ordinary line) ↔ Ordinary header ∧ ∀ line ∈ inner, Ordinary line := by
  simp (disch := (with_reducible apply Written.intro; decide)) [braced, ordinary_of_written, or_imp, forall_and]

/-! ## Comments, blocks and regions -/

@[simp]
theorem ordinary_summary (text : String) : EachLine Ordinary (summary text) ↔ SingleLine text := by
  simp (disch := (with_reducible apply Written.intro; decide)) [summary, ordinary_of_written, ordinary_append_iff,
    singleLine_of_written]

@[simp]
theorem ordinary_param (name text : String) :
    EachLine Ordinary (param name text) ↔ SingleLine name ∧ SingleLine text := by
  simp (disch := (with_reducible apply Written.intro; decide)) [param, String.append_assoc, ordinary_append_iff,
    singleLine_of_written]

@[simp]
theorem ordinary_returns (text : String) : EachLine Ordinary (returns text) ↔ SingleLine text := by
  simp (disch := (with_reducible apply Written.intro; decide)) [returns, String.append_assoc, ordinary_append_iff,
    singleLine_of_written]

theorem ordinary_openBrace : Ordinary "\x7b" := ordinary_of_written (.intro (by decide))

theorem ordinary_closeBrace : Ordinary "\x7d" := ordinary_of_written (.intro (by decide))

@[simp]
theorem ordinary_block {inner : Script} : EachLine Ordinary (block inner) ↔ EachLine Ordinary inner := by
  simp [eachLine_block, ordinary_openBrace, ordinary_closeBrace]

@[simp]
theorem ordinary_body {statements : List String} :
    EachLine Ordinary (body statements) ↔ ∀ statement ∈ statements, Ordinary statement := by
  simp [body]

@[simp]
theorem ordinary_openRegion {name : String} : EachLine Ordinary (openRegion name) ↔ SingleLine name := by
  simp (disch := (with_reducible apply Written.intro; decide)) [openRegion, ordinary_append_iff, singleLine_of_written]

@[simp]
theorem ordinary_closeRegion : EachLine Ordinary closeRegion := by
  simp (disch := (with_reducible apply Written.intro; decide)) [closeRegion, ordinary_of_written]

@[simp]
theorem ordinary_region {name : String} {inner : Script} :
    EachLine Ordinary (region name inner) ↔ SingleLine name ∧ EachLine Ordinary inner := by
  simp [region]

/-! ## Fields and constructors -/

/-- A field whose parameter is not called like the one of a conversion. -/
structure Field.Plain (f : Field) : Prop where
  name : IsWord f.name
  doc : SingleLine f.doc
  distinct : f.parameter ≠ "value"

variable {ctx}

theorem Field.Plain.parameter {f : Field} (h : f.Plain) : IsWord f.parameter :=
  isWord_parameterName h.name

/-- The declarations of plain fields are ordinary. -/
theorem ordinary_fields {list : List Field} (h : ∀ f ∈ list, f.Plain) : EachLine Ordinary (fields ctx list) := by
  rw [fields, ordinary_region, eachLine_flatMap]
  refine ⟨by decide, fun f hf => ?_⟩
  have hplain := h f hf
  simp (disch := (with_reducible apply Written.intro; decide)) [Field.declaration, String.append_assoc,
    ordinary_append_iff, singleLine_of_written, hplain.doc, hplain.name.singleLine, (f.isWord_type ctx).singleLine]

@[simp]
theorem ordinary_constructorSummary : EachLine Ordinary (constructorSummary ctx) := by
  simp (disch := (with_reducible apply Written.intro; decide)) [constructorSummary, singleLine_of_written]

/-- The constructor of plain fields is ordinary. -/
theorem ordinary_fieldConstructor {list : List Field} {requires : List String} (h : ∀ f ∈ list, f.Plain)
    (hrequires : ∀ condition ∈ requires, SingleLine condition) :
    EachLine Ordinary (fieldConstructor ctx list requires) := by
  have hdocs : EachLine Ordinary (list.flatMap fun f => param f.parameter f.doc) := by
    rw [eachLine_flatMap]
    intro f hf
    simp [(h f hf).parameter.singleLine, (h f hf).doc]
  have hhead : Ordinary ("public " ++ ctx.name ++ parameterList (list.map fun f => ⟨f.type ctx, f.parameter⟩)) := by
    refine ordinary_parameterList (by simp [show SingleLine "public " by decide]) ?_
    intro p hp
    obtain ⟨f, hf, rfl⟩ := List.mem_map.mp hp
    exact ⟨(f.isWord_type ctx).singleLine, (h f hf).parameter, (h f hf).distinct⟩
  have hchecks : ∀ condition ∈ requires, Ordinary ("Contract.Requires(" ++ condition ++ ");") := by
    intro condition hmem
    simp (disch := (with_reducible apply Written.intro; decide)) [String.append_assoc, ordinary_append_iff,
      singleLine_of_written, hrequires condition hmem]
  have hassignments : ∀ f ∈ list, Ordinary (f.name ++ " = " ++ f.parameter ++ ";") := by
    intro f hf
    simp (disch := (with_reducible apply Written.intro; decide)) [ordinary_append_iff_of_end, singleLine_of_written,
      (h f hf).name.singleLine, (h f hf).parameter.singleLine]
  simpa [fieldConstructor, or_imp, forall_and, hdocs, hhead] using ⟨hchecks, hassignments⟩

/-- A constructor that passes arguments on is ordinary. -/
theorem ordinary_chainedConstructor {parameters : List DescribedParameter} {args : List String}
    (h : ∀ p ∈ parameters, p.toParameter.Plain ∧ SingleLine p.doc) (hargs : ∀ arg ∈ args, SingleLine arg) :
    EachLine Ordinary (chainedConstructor ctx parameters args) := by
  have hdocs : EachLine Ordinary (parameters.flatMap fun p => param p.name p.doc) := by
    rw [eachLine_flatMap]
    intro p hp
    simp [(h p hp).1.name.singleLine, (h p hp).2]
  have hhead : Ordinary ("public " ++ ctx.name ++ parameterList (parameters.map DescribedParameter.toParameter)) := by
    refine ordinary_parameterList (by simp [show SingleLine "public " by decide]) ?_
    intro p hp
    obtain ⟨described, hdescribed, rfl⟩ := List.mem_map.mp hp
    exact (h described hdescribed).1
  have htab : "\t: this(" ++ commaList args ++ ")" = "\t" ++ (": this(" ++ (commaList args ++ ")")) := by
    simp [← String.toList_inj]
  have hthis : Ordinary ("\t: this(" ++ commaList args ++ ")") := by
    rw [htab, ordinary_tab_append]
    simpa (disch := (with_reducible apply Written.intro; decide)) [ordinary_append_iff,
      singleLine_of_written] using hargs
  simp (disch := (with_reducible apply Written.intro; decide)) [chainedConstructor, hdocs, hhead, hthis,
    ordinary_of_written]

/-! ## Constants, properties, operators and functions -/

/-- A constant is ordinary. -/
@[simp]
theorem ordinary_constant {name doc : String} {args : List String} :
    EachLine Ordinary (constant ctx name doc args) ↔ SingleLine doc ∧ SingleLine name ∧ ∀ arg ∈ args, SingleLine arg := by
  simp (disch := (with_reducible apply Written.intro; decide)) [constant, ordinary_append_iff_of_end,
    singleLine_of_written]

/-- A property with an ordinary head is ordinary. -/
theorem ordinary_property {type name doc expression : String} (hname : Ordinary ("public " ++ type ++ " " ++ name))
    (hdoc : SingleLine doc) (hexpression : SingleLine expression) :
    EachLine Ordinary (property type name doc expression) := by
  simp (disch := (with_reducible apply Written.intro; decide)) [property, hname, hdoc, hexpression, ordinary_of_written]

/-- A property whose name is a word has an ordinary head. -/
theorem ordinary_propertyHead {type name : String} (htype : SingleLine type) (hname : IsWord name) :
    Ordinary ("public " ++ type ++ " " ++ name) :=
  ordinary_append_word (by simp [htype, show SingleLine "public " by decide, show SingleLine " " by decide]) hname

/-- An operator with plain parameters is ordinary. -/
theorem ordinary_operator {doc result symbol expression : String} {parameters : List Parameter} (hdoc : SingleLine doc)
    (hresult : SingleLine result) (hsymbol : SingleLine symbol) (h : ∀ p ∈ parameters, p.Plain)
    (hexpression : SingleLine expression) : EachLine Ordinary (operator doc result symbol parameters expression) := by
  have hhead : Ordinary ("public static " ++ result ++ " operator " ++ symbol ++ parameterList parameters) :=
    ordinary_parameterList
      (by simp [hresult, hsymbol, show SingleLine "public static " by decide, show SingleLine " operator " by decide]) h
  simp [operator, hdoc, hhead, hexpression]

/-- A function with plain parameters and ordinary statements is ordinary. -/
theorem ordinary_function {doc result name : String} {parameters : List Parameter} {statements : List String}
    (hdoc : SingleLine doc) (hresult : SingleLine result) (hname : SingleLine name) (h : ∀ p ∈ parameters, p.Plain)
    (hstatements : ∀ statement ∈ statements, Ordinary statement) :
    EachLine Ordinary (function doc result name parameters statements) := by
  have hhead : Ordinary ("public static " ++ result ++ " " ++ name ++ parameterList parameters) :=
    ordinary_parameterList
      (by simp [hresult, hname, show SingleLine "public static " by decide, show SingleLine " " by decide]) h
  simpa [function, hdoc, hhead] using hstatements

/-- A parameter that holds a shape is plain. -/
@[simp]
theorem plain_shapeParameter {type : String} (s : Shape) : Parameter.Plain ⟨type, s.parameter⟩ ↔ SingleLine type := by
  have hdistinct : s.parameter ≠ "value" := by cases s <;> decide
  exact ⟨Parameter.Plain.type, fun htype => ⟨htype, s.isWord_parameter, hdistinct⟩⟩

@[simp]
theorem plain_contextParameter {type : String} : Parameter.Plain ⟨type, ctx.parameter⟩ ↔ SingleLine type :=
  plain_shapeParameter ctx.shape

/-- The displacements are ordinary. -/
theorem ordinary_displacements {build : String → String} (h : ∀ symbol, SingleLine symbol → SingleLine (build symbol)) :
    EachLine Ordinary (displacements ctx build) := by
  rw [displacements, eachLine_flatMap]
  intro t _
  have hsymbol : SingleLine t.symbol := by cases t <;> decide
  have hverb : SingleLine t.verb := by cases t <;> decide
  refine ordinary_operator ?_ ctx.singleLine_name hsymbol ?_ (h t.symbol hsymbol)
  · simp (disch := (with_reducible apply Written.intro; decide)) [hverb, singleLine_of_written]
  · simp (disch := (with_reducible apply Written.intro; decide)) [plain_iff_of_written]

/-! ## Members that follow from the fields -/

/-- The members of equality are ordinary if their statements are. -/
theorem ordinary_equalityMembers {hash equal notEqual : List String} (hhash : ∀ s ∈ hash, Ordinary s)
    (hequal : ∀ s ∈ equal, Ordinary s) (hnotEqual : ∀ s ∈ notEqual, Ordinary s) :
    EachLine Ordinary (equalityMembers ctx hash equal notEqual) := by
  have hoperands : ∀ p ∈ operands ctx, p.Plain := by
    simp (disch := (with_reducible apply Written.intro; decide)) [operands, plain_iff_of_written]
  have heq : Ordinary ("public static bool operator ==" ++ parameterList (operands ctx)) :=
    ordinary_parameterList (singleLine_of_written (.intro (by decide))) hoperands
  have hne : Ordinary ("public static bool operator !=" ++ parameterList (operands ctx)) :=
    ordinary_parameterList (singleLine_of_written (.intro (by decide))) hoperands
  have hall : EachLine Ordinary (body hash) ∧ EachLine Ordinary (body equal) ∧ EachLine Ordinary (body notEqual) := by
    simpa using ⟨hhash, hequal, hnotEqual⟩
  simp (disch := (with_reducible apply Written.intro; decide)) only [equalityMembers, equalDoc, notEqualDoc, hall, heq,
    hne, eachLine_append, eachLine_line_cons, eachLine_nil, ordinary_summary, ordinary_param, ordinary_returns,
    ordinary_block, ordinary_body, List.forall_mem_cons, List.not_mem_nil, String.append_assoc, ordinary_append_iff,
    ordinary_of_written, ordinary_returning, singleLine_append, singleLine_see, singleLine_cast, singleLine_of_written,
    ctx.singleLine_name, and_true, false_imp_iff, implies_true]

/-- Equality over plain fields is ordinary. -/
theorem ordinary_equality {list : List Field} (h : ∀ f ∈ list, f.Plain) : EachLine Ordinary (equality ctx list) := by
  have hnames : ∀ f ∈ list, SingleLine f.name := fun f hf => (h f hf).name.singleLine
  rw [equality, ordinary_region]
  refine ⟨by decide, ordinary_equalityMembers ?_ ?_ ?_⟩
  · simpa (disch := (with_reducible apply Written.intro; decide)) [singleLine_intercalate,
      singleLine_of_written] using hnames
  · simpa (disch := (with_reducible apply Written.intro; decide)) [singleLine_intercalate, compareField,
      singleLine_of_written] using hnames
  · simpa (disch := (with_reducible apply Written.intro; decide)) [singleLine_intercalate, compareField,
      singleLine_of_written] using hnames

/-- The static `Equals` is ordinary. -/
theorem ordinary_equalsFunction : EachLine Ordinary (equalsFunction ctx) := by
  have hhead : Ordinary ("public static bool Equals" ++ parameterList (operands ctx)) := by
    refine ordinary_parameterList (singleLine_of_written (.intro (by decide))) ?_
    simp (disch := (with_reducible apply Written.intro; decide)) [operands, plain_iff_of_written]
  simp (disch := (with_reducible apply Written.intro; decide)) [equalsFunction, equalDoc, hhead, ordinary_of_written,
    singleLine_of_written]

/-- The members of string conversion are ordinary. -/
theorem ordinary_toStringMembers {formatted : String} (h : SingleLine formatted) :
    EachLine Ordinary (toStringMembers ctx formatted) := by
  simp (disch := (with_reducible apply Written.intro; decide)) only [toStringMembers, formattingSummary,
    formattingReturns, formatParam, providerParam, h, eachLine_append, eachLine_line_cons, ordinary_summary,
    ordinary_param, ordinary_returns, ordinary_body, List.forall_mem_cons, List.not_mem_nil, ordinary_of_written,
    ordinary_returning, singleLine_append, singleLine_see, singleLine_of_written, ctx.singleLine_name, and_true,
    false_imp_iff, implies_true]

/-- String conversion over plain fields is ordinary. -/
theorem ordinary_toStringRegion {list : List Field} (h : ∀ f ∈ list, f.Plain) :
    EachLine Ordinary (toStringRegion ctx list) := by
  have hnames : ∀ f ∈ list, SingleLine f.name := fun f hf => (h f hf).name.singleLine
  rw [toStringRegion, ordinary_region]
  refine ⟨by decide, ordinary_toStringMembers ?_⟩
  have hplaces : ∀ place ∈ (List.range list.length).map placeholder, SingleLine place := by
    intro place hplace
    obtain ⟨index, -, rfl⟩ := List.mem_map.mp hplace
    rw [placeholder, singleLine_append, singleLine_append]
    exact ⟨⟨by decide, singleLine_repr index⟩, by decide⟩
  have hfields : ∀ text ∈ list.map fun f => f.name ++ ".ToString(format, provider)", SingleLine text := by
    intro text htext
    obtain ⟨f, hf, rfl⟩ := List.mem_map.mp htext
    rw [singleLine_append]
    exact ⟨hnames f hf, singleLine_of_written (.intro (by decide))⟩
  unfold formattedFields
  simp only [singleLine_append, singleLine_commaList]
  exact ⟨⟨⟨⟨by decide, hplaces⟩, by decide⟩, hfields⟩, by decide⟩

/-- The binary functions are ordinary if their statements are and the names of writer and reader stay on one line. -/
theorem ordinary_binaryMembers {writes reads : List String} (hwriter : SingleLine ctx.binaryWriter)
    (hreader : SingleLine ctx.binaryReader) (hwrites : ∀ s ∈ writes, Ordinary s) (hreads : ∀ s ∈ reads, Ordinary s) :
    EachLine Ordinary (binaryMembers ctx writes reads) := by
  have hwrite : Ordinary ("public static void Write(this " ++ ctx.binaryWriter ++ " writer, " ++ ctx.name ++ " " ++
      ctx.parameter ++ ")") := by
    have hparameter : Parameter.Plain ⟨ctx.name, ctx.parameter⟩ := by simp
    refine ordinary_lastParameter ?_ hparameter.name hparameter.distinct
    simp (disch := (with_reducible apply Written.intro; decide)) [hwriter, singleLine_of_written]
  have hread : Ordinary ("public static " ++ ctx.name ++ " Read" ++ ctx.name ++ "(this " ++ ctx.binaryReader ++
      " reader)") := by
    have hgroup : "public static " ++ ctx.name ++ " Read" ++ ctx.name ++ "(this " ++ ctx.binaryReader ++ " reader)" =
        "public static " ++ ctx.name ++ " Read" ++ ctx.name ++ "(this " ++ ctx.binaryReader ++ " " ++ "reader" ++
          ")" := by
      simp [String.append_assoc]
    rw [hgroup]
    refine ordinary_lastParameter ?_ (by decide) (by decide)
    simp (disch := (with_reducible apply Written.intro; decide)) [hreader, singleLine_of_written]
  have hall : EachLine Ordinary (body writes) ∧ EachLine Ordinary (body reads) := by simpa using ⟨hwrites, hreads⟩
  simp (disch := (with_reducible apply Written.intro; decide)) only [binaryMembers, hall, hwrite, hread,
    eachLine_append, eachLine_line_cons, ordinary_summary, ordinary_param, ordinary_returns, singleLine_append,
    singleLine_see, singleLine_of_written, ctx.singleLine_name, ctx.singleLine_parameter, and_true]

/-- The binary functions over plain fields are ordinary. -/
theorem ordinary_binary {list : List Field} (hwriter : SingleLine ctx.binaryWriter)
    (hreader : SingleLine ctx.binaryReader) (h : ∀ f ∈ list, f.Plain) : EachLine Ordinary (binary ctx list) := by
  rw [binary, ordinary_region]
  refine ⟨by decide, ordinary_binaryMembers hwriter hreader ?_ ?_⟩
  · intro statement hmem
    obtain ⟨f, hf, rfl⟩ := List.mem_map.mp hmem
    simp (disch := (with_reducible apply Written.intro; decide)) [String.append_assoc, ordinary_append_iff,
      singleLine_of_written, (h f hf).name.singleLine]
  · intro statement hmem
    rcases List.mem_append.mp hmem with hread | hreturn
    · obtain ⟨f, hf, rfl⟩ := List.mem_map.mp hread
      simp (disch := (with_reducible apply Written.intro; decide)) [String.append_assoc, ordinary_append_iff,
        singleLine_of_written, (h f hf).parameter.singleLine, (f.isWord_readMethod ctx).singleLine]
    · rw [List.mem_singleton.mp hreturn, ordinary_returning, singleLine_construct]
      refine ⟨ctx.singleLine_name, fun arg harg => ?_⟩
      obtain ⟨f, hf, rfl⟩ := List.mem_map.mp harg
      exact (h f hf).parameter.singleLine

/-- The functions that follow from plain fields are ordinary. -/
theorem ordinary_derivedFunctions {list : List Field} (hwriter : SingleLine ctx.binaryWriter)
    (hreader : SingleLine ctx.binaryReader) (h : ∀ f ∈ list, f.Plain) : EachLine Ordinary (derivedFunctions ctx list) :=
  eachLine_append.mpr ⟨ordinary_binary hwriter hreader h, ordinary_equalsFunction⟩

end GeometrySource.Declaration
