import GeometrySource.Declaration.Frame
import GeometrySource.Proofs.Layout.LineStart

/-!
# Heads on lines of their own

Whatever has been written before, also inside a line that has not been ended, the head of a region and the comment of a
static class do not go on with it: both are written behind a separation.
-/

namespace GeometrySource.Declaration

open Script Text

variable {e : Emitter}

theorem startsWith_region (h : e.Anchored) (name : String) (inner : Script) :
    StartsWith (e.separate.text ++ e.margin ++ "#region ") (e.run (region name inner)).text :=
  h.startsWith_line (by decide) (by decide) name (inner ++ closeRegion)

theorem startsWith_openCompanion (h : e.Anchored) (ctx : Context) :
    StartsWith (e.separate.text ++ e.margin ++ "/// <summary>") (e.run (openCompanion ctx)).text :=
  h.startsWith_line (by decide) (by decide) "" _

/-- Lines start where the flag says so. After any steps on a fresh emitter, with any texts and any tokens:
1. The flag is set exactly if the text is empty or has a line feed last.
2. Separating leaves the start of a line.
3. The head of a region, and the comment of a static class, begin a line: nothing but the margin stands between them and
   the line start that separating leaves. -/
theorem line_starts (script : Script) :
    let e := ({} : Emitter).run script
    (e.atLineStart = true ↔ e.text = "" ∨ e.text.toList.getLast? = some '\n') ∧
      (e.separate.atLineStart = true ∧
        (e.separate.text = "" ∨ e.separate.text.toList.getLast? = some '\n')) ∧
      (∀ name inner, StartsWith (e.separate.text ++ e.margin ++ "#region ") (e.run (region name inner)).text) ∧
      ∀ ctx, StartsWith (e.separate.text ++ e.margin ++ "/// <summary>") (e.run (openCompanion ctx)).text := by
  intro e
  have hanchored : e.Anchored := Emitter.anchored_fresh.run script
  exact ⟨hanchored, ⟨hanchored.atLineStart_separate, hanchored.ended_separate⟩, startsWith_region hanchored,
    startsWith_openCompanion hanchored⟩

/-- A line that has not been ended, under a token with a line feed: the head of a region ends it first. -/
example : (({} : Emitter).run (.push ">\n" :: .write "a" :: region "Fields" [])).text =
    ">\na\n>\n#region Fields\n>\n#endregion\n" := by
  decide

end GeometrySource.Declaration
