import GeometrySource.Proofs.Declaration.Conversion
import GeometrySource.Proofs.Declaration.Orderly

/-!
# The frame of a declaration

The parts of a declaration that have landmarks: the heads of the struct and of its static class, and the heads of the two
binary functions. A declaration whose other parts are orderly has these four landmarks and no more.
-/

namespace GeometrySource.Declaration

open Script Text

variable (ctx : Context)

/-- The line that opens the static class. -/
def classLine : String :=
  classOpening ++ ctx.companion

/-- The landmarks of a declaration. -/
def landmarks : List String :=
  [structLine ctx.name, classLine ctx, writeHead ctx, readHead ctx]

/-! ## Binary functions -/

theorem writeHead_eq :
    writeHead ctx = staticOpening ++ "void Write" ++ "(" ++
      ("this " ++ (ctx.binaryWriter ++ " writer, " ++ ctx.name ++ " " ++ ctx.parameter ++ ")")) := by
  unfold writeHead staticOpening
  simp [← String.toList_inj]

theorem readHead_eq :
    readHead ctx = staticOpening ++ (ctx.name ++ " Read" ++ ctx.name) ++ "(" ++
      ("this " ++ (ctx.binaryReader ++ " reader)")) := by
  unfold readHead staticOpening
  simp [← String.toList_inj]

theorem isExtensionHead_writeHead : IsExtensionHead (writeHead ctx) :=
  (isExtensionHead_static_iff _ _ (writeHead_eq ctx) (by decide)).mpr (startsWith_append _ _)

theorem isExtensionHead_readHead : IsExtensionHead (readHead ctx) := by
  have hfront : '(' ∉ (ctx.name ++ " Read" ++ ctx.name).toList := by simp [(isType_name ctx).bare]
  exact (isExtensionHead_static_iff _ _ (readHead_eq ctx) hfront).mpr (startsWith_append _ _)

/-- The head of an extension method is a landmark. -/
theorem Orderly.cons_extensionHead {type line : String} {marks : List String} {rest : Script}
    (h : Orderly type marks rest) (hmark : IsExtensionHead line) (hend : Ends isPlainEnd line) :
    Orderly type (line :: marks) (.line line :: rest) := by
  obtain ⟨hunindent, hsound⟩ := sound_of_public (show IsWord "static" by decide) hmark.1 hend
  exact h.cons_landmark hunindent hsound (.inr (.inr hmark))

/-- The binary functions have their two heads as landmarks. -/
theorem orderly_binaryMembers (type : String) {writes reads : List String} (hwrites : ∀ statement ∈ writes, Neat statement)
    (hreads : ∀ statement ∈ reads, Neat statement) :
    Orderly type [writeHead ctx, readHead ctx] (binaryMembers ctx writes reads) := by
  have hwriteDoc : Orderly type [] (writeDoc ctx) := by simp +decide [writeDoc]
  have hreadDoc : Orderly type [] (readDoc ctx) := by simp +decide [readDoc]
  have hends : Ends isPlainEnd (writeHead ctx) ∧ Ends isPlainEnd (readHead ctx) := by
    rw [writeHead_eq, readHead_eq]
    simp +decide
  have hwrite : Orderly type [writeHead ctx] (method (writeHead ctx) writes) :=
    (orderly_body hwrites).cons_extensionHead (isExtensionHead_writeHead ctx) hends.1
  have hread : Orderly type [readHead ctx] (method (readHead ctx) reads) :=
    (orderly_body hreads).cons_extensionHead (isExtensionHead_readHead ctx) hends.2
  rw [binaryMembers_eq, List.append_assoc, List.append_assoc, orderly_append hwriteDoc]
  exact hwrite.append ((orderly_append hreadDoc).mpr hread)

/-- The binary functions over fields have their two heads as landmarks. -/
theorem orderly_binary (type : String) (list : List Field) :
    Orderly type [writeHead ctx, readHead ctx] (binary ctx list) := by
  refine (orderly_binaryMembers ctx type ?_ ?_).region (by decide)
  · simp +decide [fieldWrites, String.append_assoc]
  · simp +decide [fieldReads, String.append_assoc, or_imp, forall_and]

/-! ## Structs -/

theorem startsWith_structLine (type : String) : StartsWith structOpening (structLine type) := by
  unfold structLine
  simp only [String.append_assoc]
  exact startsWith_append _ _

/-- The head of the struct is the one landmark in front of its block. -/
theorem orderly_structHead (type description : String) :
    Orderly type [structLine ctx.name] (structHead ctx description) := by
  have hword : IsWord "struct" := by decide
  have hstart := startsWith_structLine ctx.name
  have hend : Ends isPlainEnd (structLine ctx.name) := by
    unfold structLine
    simp +decide
  obtain ⟨hunindent, hsound⟩ := sound_of_public hword hstart hend
  have hline : Orderly type [structLine ctx.name] [.line (structLine ctx.name)] :=
    orderly_nil.cons_landmark hunindent hsound (.inl hstart)
  have hdoc : Orderly type [] (structDoc ctx description) := by
    simp +decide [structDoc, String.append_assoc]
  rw [structHead_eq, orderly_append hdoc, orderly_append (orderly_clsMarkerIf type _)]
  exact hline

/-- The head of the static class is the one landmark in front of its block, behind a blank line. -/
theorem orderly_companionHead (type : String) : Orderly type [classLine ctx] (companionHead ctx) := by
  have hword : IsWord "static" := by decide
  have hopening : StartsWith classOpening (classLine ctx) := startsWith_append _ _
  have hend : Ends isPlainEnd ctx.companion := by
    unfold Context.companion
    cases ctx.shape <;> decide
  obtain ⟨hunindent, hsound⟩ := sound_of_public hword (StartsWith.trans (by decide) hopening)
    (ends_append.mpr (.inl hend))
  have hline : Orderly type [classLine ctx] [.line (classLine ctx)] :=
    orderly_nil.cons_landmark hunindent hsound (.inr (.inl hopening))
  have hdoc : Orderly type [] (summary ("Provides static methods for " ++ ctx.parameter ++ " functions.")) :=
    orderly_summary (by simp +decide [String.append_assoc])
  have hopen : Neat "/// <summary>" := neat_of_calm (by decide) (by decide)
  have hclosing : ¬IsClosing "/// <summary>" := by decide
  have hhead := (orderly_append hdoc).mpr hline
  exact (orderly_separate_cons hopen hclosing).mpr ((orderly_neat_cons hopen).mp hhead)

/-- A declaration of orderly parts has four landmarks. -/
theorem orderly_outline {type description : String} {members functions : Script} (hm : Orderly type [] members)
    (hf : Orderly type [writeHead ctx, readHead ctx] functions) :
    Orderly type (landmarks ctx) (outline ctx description members functions) := by
  have hstruct := (orderly_structHead ctx type description).append hm.block
  have hclass := (orderly_companionHead ctx type).append hf.block
  rw [outline_eq]
  exact hstruct.append hclass

/-- The members that follow from the fields are orderly. -/
theorem orderly_derivedMembers (type : String) (list : List Field) {further : Script} (h : Orderly type [] further) :
    Orderly type [] (derivedMembers ctx list further) := by
  have hconversions : Orderly type [] (region "Conversions" (conversions ctx list ++ further)) :=
    orderly_region (by decide) (by simp [h])
  simp [derivedMembers, hconversions]

/-- The functions that follow from the fields have the two binary heads as landmarks. -/
theorem orderly_derivedFunctions (type : String) (list : List Field) :
    Orderly type [writeHead ctx, readHead ctx] (derivedFunctions ctx list) :=
  (orderly_binary ctx type list).append_bare (orderly_equalsFunction ctx type)

end GeometrySource.Declaration
