import GeometrySource.Proofs.Declaration.Head
import GeometrySource.Proofs.Declaration.Stream

/-!
# Shape types in declarations

What the lines of every part of a declaration lead to: to the declared type, to the sources of conversions and to what is
handed to the part, or to no shape type at all because the line is no head.
-/

namespace GeometrySource.Declaration

open Script Text

variable {cited : String → Prop}

/-! ## Doc comments, blocks and regions -/

@[simp]
theorem leads_summary (text : String) : EachLine (Leads cited) (summary text) := by
  simp +decide [summary]

@[simp]
theorem leads_param (name text : String) : EachLine (Leads cited) (param name text) := by
  simp +decide [param]

@[simp]
theorem leads_returns (text : String) : EachLine (Leads cited) (returns text) := by
  simp +decide [returns]

@[simp]
theorem leads_clsMarkerIf (marked : Bool) : EachLine (Leads cited) (clsMarkerIf marked) := by
  cases marked <;> simp +decide [clsMarkerIf]

@[simp]
theorem leads_block {inner : Script} : EachLine (Leads cited) (block inner) ↔ EachLine (Leads cited) inner := by
  simp +decide [eachLine_block]

@[simp]
theorem leads_body {statements : List String} :
    EachLine (Leads cited) (body statements) ↔ ∀ statement ∈ statements, Leads cited statement := by
  simp [body]

@[simp]
theorem leads_region {name : String} {inner : Script} :
    EachLine (Leads cited) (region name inner) ↔ EachLine (Leads cited) inner := by
  simp +decide [region, openRegion, closeRegion]

@[simp]
theorem leads_returning (expression : String) : Leads cited (returning expression) := by
  simp +decide [returning]

/-! ## Members -/

variable {ctx : Context}

/-- The declarations of fields refer to nothing. -/
@[simp]
theorem leads_fields (list : List Field) : EachLine (Leads cited) (fields ctx list) := by
  have hfield : ∀ f : Field, EachLine (Leads cited) (f.declaration ctx) := fun f => by simp +decide [Field.declaration]
  simp [fields, hfield]

@[simp]
theorem leads_constant (name doc : String) (args : List String) :
    EachLine (Leads cited) (constant ctx name doc args) := by
  simp +decide [constant]

theorem leads_property {type name doc expression : String} (h : EndsQuiet name) :
    EachLine (Leads cited) (property type name doc expression) := by
  simp +decide [property, h]

@[simp]
theorem leads_constructorSummary : EachLine (Leads cited) (constructorSummary ctx) := by
  simp [constructorSummary]

variable (hname : cited ctx.name)

include hname

/-- The name of the declared type may be mentioned. -/
theorem names_name : Names cited ctx.name :=
  names_of_isWord ctx.isWord_name fun _ => hname

/-- The head of a constructor mentions the types and names of its parameters. -/
theorem names_constructorHead {parameters : List Parameter}
    (h : ∀ p ∈ parameters, Names cited p.type ∧ Names cited p.name) :
    Names cited ("public " ++ ctx.name ++ parameterList parameters) := by
  rw [names_parameterList, names_written_append (.intro (by decide))]
  exact ⟨names_name hname, h⟩

theorem leads_fieldConstructor {list : List Field} {requires : List String} (h : ∀ f ∈ list, IsWord f.name) :
    EachLine (Leads cited) (fieldConstructor ctx list requires) := by
  have hhead : Names cited ("public " ++ ctx.name ++ parameterList (list.map fun f => ⟨f.type ctx, f.parameter⟩)) := by
    refine names_constructorHead hname fun p hp => ?_
    obtain ⟨f, hf, rfl⟩ := List.mem_map.mp hp
    exact ⟨names_type f ctx, names_parameterName (h f hf)⟩
  have hchecks : ∀ condition ∈ requires, Leads cited ("Contract.Requires(" ++ condition ++ ");") :=
    fun condition _ => by simp +decide
  have hassignments : ∀ f ∈ list, Leads cited (f.name ++ " = " ++ f.parameter ++ ";") := fun f _ => by simp +decide
  simpa [fieldConstructor, or_imp, forall_and, hhead] using ⟨hchecks, hassignments⟩

theorem leads_chainedConstructor {parameters : List DescribedParameter} {args : List String}
    (h : ∀ p ∈ parameters, Names cited p.type ∧ Names cited p.name) :
    EachLine (Leads cited) (chainedConstructor ctx parameters args) := by
  have hhead : Names cited ("public " ++ ctx.name ++ parameterList (parameters.map DescribedParameter.toParameter)) :=
    names_constructorHead hname (by simpa using h)
  have hdocs : EachLine (Leads cited) (parameters.flatMap fun p => param p.name p.doc) := by simp
  simp +decide [chainedConstructor, hhead, hdocs]

omit hname

/-- An operator whose head mentions nothing else. -/
theorem leads_operator {doc result symbol expression : String} {parameters : List Parameter}
    (hresult : Names cited result) (hsymbol : Names cited symbol)
    (h : ∀ p ∈ parameters, Names cited p.type ∧ Names cited p.name) :
    EachLine (Leads cited) (operator doc result symbol parameters expression) := by
  have hhead : Names cited ("public static " ++ result ++ " operator " ++ symbol ++ parameterList parameters) := by
    rw [names_parameterList]
    simp only [String.append_assoc]
    rw [names_written_append (.intro (by decide)), names_append_written_append (.intro (by decide))]
    exact ⟨⟨hresult, hsymbol⟩, h⟩
  simp [operator, hhead]

/-- A function whose head mentions nothing else. -/
theorem leads_function {doc result name : String} {parameters : List Parameter} {statements : List String}
    (hresult : Names cited result) (hname : Names cited name)
    (h : ∀ p ∈ parameters, Names cited p.type ∧ Names cited p.name)
    (hstatements : ∀ statement ∈ statements, Leads cited statement) :
    EachLine (Leads cited) (function doc result name parameters statements) := by
  have hhead : Names cited ("public static " ++ result ++ " " ++ name ++ parameterList parameters) := by
    rw [names_parameterList]
    simp only [String.append_assoc]
    rw [names_written_append (.intro (by decide)), names_append_written_append (.intro (by decide))]
    exact ⟨⟨hresult, hname⟩, h⟩
  simpa [function, hhead] using hstatements

/-- The keyword of a conversion mentions nothing. -/
theorem names_conversionKeyword (kind : ConversionKind) : Names cited kind.keyword := by
  cases kind <;> exact names_of_written (.intro (by decide))

include hname

theorem leads_displacements (build : String → String) : EachLine (Leads cited) (displacements ctx build) := by
  rw [displacements, eachLine_flatMap]
  intro t _
  refine leads_operator (names_name hname) ?_ ?_
  · cases t <;> exact names_of_written (.intro (by decide))
  · simp (disch := (with_reducible apply Written.intro; decide)) [names_name hname, names_of_written]

/-- A conversion mentions the type that it converts. -/
theorem leads_conversion (source : Numeric) {sourceName : String} {args : List String} (h : Names cited sourceName) :
    EachLine (Leads cited) (conversion ctx source sourceName args) := by
  have hhead : Names cited (operatorLine ctx source sourceName) := by
    unfold operatorLine conversionLine
    simp only [String.append_assoc]
    rw [names_written_append (.intro (by decide)), names_append_written_append (.intro (by decide)),
      names_append_written_append (.intro (by decide)), names_append_written (.intro (by decide))]
    exact ⟨names_conversionKeyword _, names_name hname, h⟩
  simp [conversion_eq, conversionComment, hhead]

/-- The conversions from this shape's types mention these types. -/
theorem leads_conversionsBy (hothers : ∀ n ∈ ctx.others, cited (ctx.nameFor n)) (args : List String) :
    EachLine (Leads cited) (conversionsBy ctx args) := by
  rw [conversionsBy, eachLine_flatMap]
  intro n hn
  exact leads_conversion hname n (names_of_isWord (isWord_typeName _ _ _) fun _ => hothers n hn)

/-- The members of equality, by statements that refer to nothing. -/
theorem leads_equalityMembers {hash equal notEqual : List String} (hhash : ∀ statement ∈ hash, Leads cited statement)
    (hequal : ∀ statement ∈ equal, Leads cited statement) (hnotEqual : ∀ statement ∈ notEqual, Leads cited statement) :
    EachLine (Leads cited) (equalityMembers ctx hash equal notEqual) := by
  have hhashHead : Names cited "public override int GetHashCode()" := names_of_written (.intro (by decide))
  have hobjectHead : Names cited "public override bool Equals(object obj)" := names_of_written (.intro (by decide))
  have hotherHead : Names cited ("public bool Equals(" ++ ctx.name ++ " other)") := by
    rw [names_append_written (.intro (by decide)), names_written_append (.intro (by decide))]
    exact names_name hname
  have hoperands : ∀ p ∈ operands ctx, Names cited p.type ∧ Names cited p.name := by
    simp (disch := (with_reducible apply Written.intro; decide)) [operands, names_name hname, names_of_written]
  have hequalHead : Names cited ("public static bool operator ==" ++ parameterList (operands ctx)) :=
    names_parameterList.mpr ⟨names_of_written (.intro (by decide)), hoperands⟩
  have hnotEqualHead : Names cited ("public static bool operator !=" ++ parameterList (operands ctx)) :=
    names_parameterList.mpr ⟨names_of_written (.intro (by decide)), hoperands⟩
  simpa +decide [equalityMembers, equalDoc, notEqualDoc, hhashHead, hobjectHead, hotherHead, hequalHead, hnotEqualHead,
    -String.reduceAppend] using ⟨hhash, hequal, hnotEqual⟩

/-- Equality over fields refers to the declared type only. -/
theorem leads_equality (list : List Field) : EachLine (Leads cited) (equality ctx list) := by
  rw [equality, leads_region]
  exact leads_equalityMembers hname (by simp) (by simp) (by simp)

theorem leads_equalsFunction : EachLine (Leads cited) (equalsFunction ctx) := by
  have hoperands : ∀ p ∈ operands ctx, Names cited p.type ∧ Names cited p.name := by
    simp (disch := (with_reducible apply Written.intro; decide)) [operands, names_name hname, names_of_written]
  have hhead : Names cited ("public static bool Equals" ++ parameterList (operands ctx)) :=
    names_parameterList.mpr ⟨names_of_written (.intro (by decide)), hoperands⟩
  simp +decide [equalsFunction, equalDoc, hhead]

omit hname

@[simp]
theorem leads_toStringMembers (formatted : String) : EachLine (Leads cited) (toStringMembers ctx formatted) := by
  have hplain : Names cited "public override string ToString()" := names_of_written (.intro (by decide))
  have hprovider : Names cited "public string ToString(IFormatProvider provider)" := names_of_written (.intro (by decide))
  have hformat : Names cited "public string ToString(string format)" := names_of_written (.intro (by decide))
  have hboth : Names cited "public string ToString(string format, IFormatProvider provider)" :=
    names_of_written (.intro (by decide))
  simp +decide [toStringMembers, formattingSummary, formattingReturns, formatParam, providerParam, hplain, hprovider,
    hformat, hboth, -String.reduceAppend]

@[simp]
theorem leads_toStringRegion (list : List Field) : EachLine (Leads cited) (toStringRegion ctx list) := by
  simp [toStringRegion]

/-- The name of a reading function is not that of a shape's type. -/
theorem names_readName (ctx : Context) : Names cited ("Read" ++ ctx.name) := by
  have hword : IsWord ("Read" ++ ctx.name) := IsWord.append (by decide) ctx.isWord_name.2
  refine names_of_isWord hword fun hshape => absurd hshape.beginsLikeShape ?_
  have hstart : ("Read" ++ ctx.name).toList.take 3 = ['R', 'e', 'a'] := by simp
  rw [beginsLikeShape, hstart]
  decide

include hname

/-- The head of the function that writes a value mentions the declared type and the writer. -/
theorem names_writeHead (hwriter : Names cited ctx.binaryWriter) : Names cited (writeHead ctx) := by
  unfold writeHead
  simp only [String.append_assoc]
  rw [names_written_append (.intro (by decide)), names_append_written_append (.intro (by decide)),
    names_append_written_append (.intro (by decide)), names_append_written (.intro (by decide))]
  exact ⟨hwriter, names_name hname, names_shapeParameter ctx⟩

/-- The head of the function that reads a value mentions the declared type and the reader. -/
theorem names_readHead (hreader : Names cited ctx.binaryReader) : Names cited (readHead ctx) := by
  have hparts : readHead ctx = "public static " ++ (ctx.name ++ (" " ++ (("Read" ++ ctx.name) ++ ("(this " ++
      (ctx.binaryReader ++ " reader)"))))) := by
    unfold readHead
    simp [← String.toList_inj]
  rw [hparts, names_written_append (.intro (by decide)), names_append_written_append (.intro (by decide)),
    names_append_written_append (.intro (by decide)), names_append_written (.intro (by decide))]
  exact ⟨names_name hname, names_readName ctx, hreader⟩

/-- The binary functions, by statements that refer to nothing, mention the writer and the reader. -/
theorem leads_binaryMembers (hwriter : Names cited ctx.binaryWriter) (hreader : Names cited ctx.binaryReader)
    {writes reads : List String} (hwrites : ∀ statement ∈ writes, Leads cited statement)
    (hreads : ∀ statement ∈ reads, Leads cited statement) :
    EachLine (Leads cited) (binaryMembers ctx writes reads) := by
  rw [binaryMembers_eq]
  simpa [writeDoc, readDoc, method, names_writeHead hname hwriter, names_readHead hname hreader] using ⟨hwrites, hreads⟩

/-- The binary functions over fields mention the declared type, the writer and the reader. -/
theorem leads_binary (hwriter : Names cited ctx.binaryWriter) (hreader : Names cited ctx.binaryReader)
    (list : List Field) : EachLine (Leads cited) (binary ctx list) := by
  rw [binary, leads_region]
  refine leads_binaryMembers hname hwriter hreader ?_ ?_
  · simp +decide [fieldWrites]
  · simp +decide [fieldReads, or_imp, forall_and]

/-! ## Structs -/

/-- The members that follow from fields mention the declared type and the sources of their conversions. -/
theorem leads_derivedMembers (hothers : ∀ n ∈ ctx.others, cited (ctx.nameFor n)) (list : List Field) {further : Script}
    (h : EachLine (Leads cited) further) : EachLine (Leads cited) (derivedMembers ctx list further) := by
  have hconversions : EachLine (Leads cited) (conversions ctx list) := leads_conversionsBy hname hothers _
  simp [derivedMembers, hconversions, h, leads_equality hname]

/-- The functions that follow from fields mention the declared type, the writer and the reader. -/
theorem leads_derivedFunctions (hwriter : Names cited ctx.binaryWriter) (hreader : Names cited ctx.binaryReader)
    (list : List Field) : EachLine (Leads cited) (derivedFunctions ctx list) :=
  eachLine_append.mpr ⟨leads_binary hname hwriter hreader list, leads_equalsFunction hname⟩

omit hname

/-- The heads of the struct and of the static class list no parameters. -/
theorem leads_outline {description : String} {members functions : Script} (hm : EachLine (Leads cited) members)
    (hf : EachLine (Leads cited) functions) : EachLine (Leads cited) (outline ctx description members functions) := by
  have hcompanion : EndsQuiet ("public static partial class " ++ ctx.companion) := by
    unfold Context.companion
    cases ctx.shape <;> simp +decide
  rw [outline_eq]
  simp +decide [structHead, companionHead, hcompanion, hm, hf]

end GeometrySource.Declaration
