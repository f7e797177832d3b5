import GeometrySource.Proofs.Declaration.Nesting
import GeometrySource.Proofs.Layout.Balance
import GeometrySource.Proofs.Naming.Word

/-!
# Declarations are balanced

Every part that a declaration is made of is a balanced script, as long as the statements it is given are balanced.
-/

namespace GeometrySource.Declaration

open Script Text

variable (ctx : Context)

/-! ## Doc comments and single lines -/

/-- A word is a plain beginning of a line. -/
theorem startsPlain_of_isWord {word : String} (h : IsWord word) : StartsPlain word := by
  obtain ⟨c, rest, hlist⟩ := List.exists_cons_of_ne_nil (mt String.toList_eq_nil_iff.mp h.1)
  have hword : isWordChar c = true := h.2 c (hlist ▸ List.mem_cons_self)
  refine begins_iff.mpr ⟨c, rest, hlist, ?_⟩
  rw [isPlainStart, Bool.not_eq_true', ← Bool.not_eq_true, List.contains_iff_mem]
  intro hmem
  have hall : (['\t', '\x7b', '\x7d', '#', ':'].all fun d => !isWordChar d) = true := by decide
  have hmark : isWordChar c = false := by simpa using List.all_eq_true.mp hall c hmem
  rw [hmark] at hword
  cases hword

@[simp]
theorem balanced_summary (text : String) : (summary text).Balanced := by
  simp +decide [summary]

@[simp]
theorem balanced_param (name text : String) : (param name text).Balanced := by
  simp +decide [param]

@[simp]
theorem balanced_returns (text : String) : (returns text).Balanced := by
  simp +decide [returns]

@[simp]
theorem balanced_clsMarkerIf (marked : Bool) : (clsMarkerIf marked).Balanced := by
  cases marked <;> simp +decide [clsMarkerIf]

@[simp]
theorem startsPlain_returning (expression : String) : StartsPlain (returning expression) := by
  simp +decide [returning]

/-- A statement that returns a value is balanced. -/
@[simp]
theorem balanced_lines_returning (expression : String) : (lines [returning expression]).Balanced :=
  (balanced_lines_cons (startsPlain_returning expression)).mpr balanced_lines_nil

/-! ## Members -/

@[simp]
theorem balanced_field_declaration (f : Field) : (f.declaration ctx).Balanced := by
  simp +decide [Field.declaration]

/-- The fields of a struct are balanced. -/
@[simp]
theorem balanced_fields (list : List Field) : (fields ctx list).Balanced :=
  balanced_region _ (balanced_flatMap fun f _ => balanced_field_declaration ctx f)

@[simp]
theorem balanced_constant (name doc : String) (args : List String) : (constant ctx name doc args).Balanced := by
  simp +decide [constant]

@[simp]
theorem balanced_property (type name doc expression : String) : (property type name doc expression).Balanced := by
  have hget : Balanced (.line "get" :: body [returning expression]) := by simp +decide
  simp +decide [property, hget]

@[simp]
theorem balanced_constructorSummary : (constructorSummary ctx).Balanced := by
  simp [constructorSummary]

/-- The constructor of fields that are called by words is balanced. -/
theorem balanced_fieldConstructor {list : List Field} {requires : List String} (h : ∀ f ∈ list, IsWord f.name) :
    (fieldConstructor ctx list requires).Balanced := by
  have hdocs : Balanced (list.flatMap fun f => param f.parameter f.doc) := balanced_flatMap fun f _ => balanced_param _ _
  have hstatements : (lines ((requires.map fun condition => "Contract.Requires(" ++ condition ++ ");") ++
      list.map fun f => f.name ++ " = " ++ f.parameter ++ ";")).Balanced := by
    refine balanced_lines fun statement hmem => ?_
    rcases List.mem_append.mp hmem with hrequire | hassign
    · obtain ⟨condition, -, rfl⟩ := List.mem_map.mp hrequire
      simp +decide
    · obtain ⟨f, hf, rfl⟩ := List.mem_map.mp hassign
      simp [startsPlain_of_isWord (h f hf)]
  simp +decide [fieldConstructor, hdocs, hstatements]

@[simp]
theorem balanced_operator (doc result symbol : String) (parameters : List Parameter) (expression : String) :
    (operator doc result symbol parameters expression).Balanced := by
  simp +decide [operator]

/-- The initializer of a constructor is at its place one tab further in. -/
theorem readLine_initializer (stack : List Bracket) (args : String) :
    readLine stack (depth stack) ("\t: this(" ++ args ++ ")") = some stack := by
  have hline : "\t: this(" ++ args ++ ")" = "\t" ++ (": this(" ++ args ++ ")") := by simp [← String.toList_inj]
  have hunindent : unindent ("\t: this(" ++ args ++ ")") = ": this(" ++ args ++ ")" := by
    rw [hline, unindent_tab_append]
    exact unindent_of_head? (c := ':') (by simp) (by decide)
  have htabs : tabCount ("\t: this(" ++ args ++ ")") = 1 := by simp [tabCount]
  have hinitializer : IsInitializer ("\t: this(" ++ args ++ ")") := by
    rw [IsInitializer, hunindent, String.toList_append, String.toList_append]
    exact ⟨⟨args.toList ++ ")".toList, by rw [List.append_assoc]⟩, List.suffix_append _ _⟩
  have hoverhang : overhang ("\t: this(" ++ args ++ ")") = 1 := if_pos hinitializer
  have hmark : mark? ("\t: this(" ++ args ++ ")") = none := by
    cases hmark : mark? ("\t: this(" ++ args ++ ")") with
    | none => rfl
    | some mark => simp [overhang_of_mark hmark] at hoverhang
  exact readLine_of_unmarked hmark (by rw [htabs, hoverhang])

/-- A constructor that passes arguments on is balanced, its braces being lines of their own. -/
@[simp]
theorem balanced_chainedConstructor (parameters : List DescribedParameter) (args : List String) :
    (chainedConstructor ctx parameters args).Balanced := by
  have hdocs : Balanced (parameters.flatMap fun p => param p.name p.doc) :=
    balanced_flatMap fun p _ => balanced_param _ _
  have hrest : Balanced [.line ("\t: this(" ++ commaList args ++ ")"), .line "\x7b", .line "\x7d"] := by
    intro stack
    simp only [Script.read, readLine_initializer, readLine_openBrace, readLine_closeBrace, Option.bind_some]
  simp +decide [chainedConstructor, hdocs, hrest]

@[simp]
theorem balanced_function (doc result name : String) (parameters : List Parameter) {statements : List String}
    (h : (lines statements).Balanced) : (function doc result name parameters statements).Balanced := by
  simp +decide [function, h]

@[simp]
theorem balanced_displacements (build : String → String) : (displacements ctx build).Balanced :=
  balanced_flatMap fun _ _ => balanced_operator _ _ _ _ _

@[simp]
theorem balanced_conversion (source : Numeric) (sourceName : String) (args : List String) :
    (conversion ctx source sourceName args).Balanced := by
  simp +decide [conversion]

@[simp]
theorem balanced_conversionsBy (args : List String) : (conversionsBy ctx args).Balanced :=
  balanced_flatMap fun _ _ => balanced_conversion ctx _ _ _

@[simp]
theorem balanced_conversions (list : List Field) : (conversions ctx list).Balanced :=
  balanced_conversionsBy ctx _

/-- The block that compares an object of the type, and no other object, is balanced. -/
theorem balanced_objectBlock (name : String) :
    Balanced (block (.line ("if (obj is " ++ name ++ ")") ::
      (body [returning ("Equals(" ++ cast name "obj" ++ ")")] ++ [.line "return false;"]))) :=
  balanced_block (by simp +decide)

/-- The members of equality are balanced if their statements are. -/
@[simp]
theorem balanced_equalityMembers {hash equal notEqual : List String} (hhash : (lines hash).Balanced)
    (hequal : (lines equal).Balanced) (hnotEqual : (lines notEqual).Balanced) :
    (equalityMembers ctx hash equal notEqual).Balanced := by
  simp +decide [equalityMembers, equalDoc, notEqualDoc, balanced_objectBlock, hhash, hequal, hnotEqual,
    -String.reduceAppend]

@[simp]
theorem balanced_equality (list : List Field) : (equality ctx list).Balanced :=
  balanced_region _ (by simp)

@[simp]
theorem balanced_equalsFunction : (equalsFunction ctx).Balanced :=
  balanced_region _ (by simp +decide [equalDoc])

@[simp]
theorem balanced_toStringMembers (formatted : String) : (toStringMembers ctx formatted).Balanced := by
  simp +decide [toStringMembers, formattingSummary, formattingReturns, formatParam, providerParam, -String.reduceAppend]

@[simp]
theorem balanced_toStringRegion (list : List Field) : (toStringRegion ctx list).Balanced := by
  simp [toStringRegion]

/-- The binary functions are balanced if their statements are. -/
@[simp]
theorem balanced_binaryMembers {writes reads : List String} (hwrites : (lines writes).Balanced)
    (hreads : (lines reads).Balanced) : (binaryMembers ctx writes reads).Balanced := by
  simp +decide [binaryMembers, hwrites, hreads]

@[simp]
theorem balanced_binary (list : List Field) : (binary ctx list).Balanced := by
  have hwrites : (lines (fieldWrites ctx list)).Balanced := by
    refine balanced_lines fun statement hmem => ?_
    obtain ⟨f, -, rfl⟩ := List.mem_map.mp hmem
    simp +decide
  have hreads : (lines (fieldReads ctx list)).Balanced := by
    refine balanced_lines fun statement hmem => ?_
    rcases List.mem_append.mp hmem with hread | hreturn
    · obtain ⟨f, -, rfl⟩ := List.mem_map.mp hread
      simp +decide
    · rw [List.mem_singleton.mp hreturn]
      exact startsPlain_returning _
  simp [binary, hwrites, hreads]

/-! ## Structs and files -/

@[simp]
theorem balanced_structHead (description : String) : (structHead ctx description).Balanced := by
  simp +decide [structHead]

@[simp]
theorem balanced_companionHead : (companionHead ctx).Balanced := by
  simp +decide [companionHead]

/-- A declaration around balanced members and functions is balanced. -/
theorem balanced_outline (description : String) {members functions : Script} (hm : members.Balanced)
    (hf : functions.Balanced) : (outline ctx description members functions).Balanced := by
  rw [outline_eq]
  simp [hm, hf]

@[simp]
theorem balanced_derivedMembers (list : List Field) {further : Script} (h : further.Balanced) :
    (derivedMembers ctx list further).Balanced := by
  have hconversions : Balanced (region "Conversions" (conversions ctx list ++ further)) := balanced_region _ (by simp [h])
  simp [derivedMembers, hconversions]

@[simp]
theorem balanced_derivedFunctions (list : List Field) : (derivedFunctions ctx list).Balanced := by
  simp [derivedFunctions]

end GeometrySource.Declaration
