import GeometrySource.Proofs.Declaration.Nesting
import GeometrySource.Proofs.Layout.Row

/-!
# Methods in print

A method is a head and a block of statements, and a region stands between two lines of its own. What they print follows
from what they hold, so that a statement of a member can be found in the text of the members around it.
-/

namespace GeometrySource.Declaration

open Script

/-- A head and a block of statements. -/
def method (head : String) (statements : List String) : Script :=
  .line head :: body statements

/-- A head and a block of statements, in print. -/
def methodText (head : String) (statements : List String) : String :=
  head ++ "\n" ++ "\x7b\n" ++ Text.indented "\t" (Text.unlines statements) ++ "\x7d\n"

/-- A region in print, where `opened` says whether there is no blank line in front of it. -/
def regionText (opened : Bool) (name inner : String) : String :=
  (if opened then "" else "\n") ++ ("#region " ++ name ++ "\n") ++ inner ++ "#endregion\n"

/-- The doc comments and other lines of a script that stands anywhere, in print. -/
abbrev linesText (script : Script) : String :=
  script.sheet true

/-- A method prints the same anywhere. -/
theorem plain_method (head : String) (statements : List String) : (method head statements).Plain where
  nested := by simp [method]
  steady := by simp [method, body]

/-- A method prints its head and, one tab further in between braces, its statements. -/
@[simp]
theorem sheet_method (opened : Bool) (head : String) (statements : List String) :
    (method head statements).sheet opened = methodText head statements := by
  have hprint : ∀ text, Row.print ⟨1, text⟩ = Text.indented "\t" text := fun text => rfl
  have hbody : (statements.map fun text => (⟨1, text⟩ : Row)).map Row.print = statements.map (Text.indented "\t") := by
    rw [List.map_map]
    exact List.map_congr_left fun text _ => hprint text
  have hopening : "\x7b" ++ "\n" = "\x7b\n" := rfl
  have hclosing : Text.unlines ["\x7d"] = "\x7d\n" := rfl
  rw [sheet, method, body, rows, rows_block (nested_lines statements), rows_lines, List.map_cons, List.map_cons,
    List.map_append, hbody, Text.unlines_cons, Text.unlines_cons, Text.unlines_append, ← Text.indented_unlines,
    List.map_singleton, Row.print_zero, Row.print_zero, Row.print_zero, hopening, hclosing, methodText]
  simp only [String.append_assoc]

/-- A region prints its two lines around what is inside. -/
theorem sheet_region (opened : Bool) (name : String) {inner : Script} (h : inner.Plain) :
    (region name inner).sheet opened = regionText opened name (linesText inner) := by
  have hopen : (openRegion name).Nested := by simp [openRegion]
  have hinner : (openRegion name ++ inner).Nested := by simp [openRegion, h.nested]
  have hclose : closeRegion.Plain := ⟨by simp [closeRegion], by simp [closeRegion]⟩
  have hhead : (openRegion name).sheet opened = (if opened then "" else "\n") ++ ("#region " ++ name ++ "\n") := by
    cases opened <;> simp [sheet, openRegion, rows]
  have hend : closeRegion.sheet true = "#endregion\n" := by simp [sheet, closeRegion, rows]
  rw [region, hinner.sheet_append_plain hclose, hopen.sheet_append_plain h, hhead, hend, regionText]

end GeometrySource.Declaration
