import GeometrySource.Proofs.Catalogue.Conversion
import GeometrySource.Proofs.Template.Balance

/-!
# The layout of a generated file

In a generated file the indentation shows the nesting: blocks and regions are closed in their turn, and every line stands
as many tabs in as blocks are open around it, whatever template made the declaration for whatever shape.
-/

namespace GeometrySource.Catalogue

open Declaration Script Text

/-- A file around a balanced declaration is balanced. -/
theorem balanced_fileScript (ctx : Context) {declaration : Script} (h : declaration.Balanced) :
    (fileScript ctx declaration).Balanced := by
  have hheader : (lines (headerLines ctx).dropLast).Balanced := by simp +decide [headerLines]
  rw [fileScript_eq, balanced_append hheader]
  exact balanced_block h

/-- Indentation equals nesting: the lines of a generated file have the layout of their brackets, provided that the names
which the configuration supplies stay on one line. -/
theorem bracketLayout_of_generate {c : Catalogue} {spec : Spec} {source : Source}
    (hnamespace : SingleLine c.config.namespaceName) (hwriter : SingleLine c.config.binaryWriter)
    (hreader : SingleLine c.config.binaryReader) (h : c.generate spec = .ok source) :
    BracketLayout (Text.lines source.text) := by
  obtain ⟨t, ctx, declaration, -, -, hctx, hscript, rfl⟩ := generate_eq_ok h
  obtain ⟨a, rfl, -⟩ := Template.exists_arrangement_of_ofSpec hctx hwriter hreader hscript
  obtain ⟨dimension, -, rfl⟩ := Template.exists_of_map_eq_ok hctx
  exact (balanced_fileScript _ (Template.balanced_script hscript)).bracketLayout
    (nested_fileScript _ (Template.nested_script hscript)) (singleLine_fileScript hnamespace a.singleLine_script)

/-- A ray, and a line declared by the template of polygons. -/
theorem bracketLayout_of_generate_ray :
    ∃ bare c ray line, empty { generalTypes := [.int], realTypes := [.double] } = .ok bare ∧
      c = (bare.register .ray .ray).register .line .polygon ∧
      SingleLine c.config.namespaceName ∧ SingleLine c.config.binaryWriter ∧ SingleLine c.config.binaryReader ∧
      c.generate ⟨.ray, .double, none⟩ = .ok ray ∧ c.generate ⟨.line, .int, some 1⟩ = .ok line ∧
      BracketLayout (Text.lines ray.text) ∧ BracketLayout (Text.lines line.text) := by
  have hsingle : SingleLine "Numerics.Geometry" ∧ SingleLine "System.IO.BinaryWriter" ∧
      SingleLine "System.IO.BinaryReader" := by decide
  obtain ⟨hnamespace, hwriter, hreader⟩ := hsingle
  have hlayout := fun spec source => @bracketLayout_of_generate
    (register (register ⟨{ generalTypes := [.int], realTypes := [.double] }, fun _ => none, rfl⟩ .ray .ray) .line .polygon)
    spec source hnamespace hwriter hreader
  exact ⟨_, _, _, _, rfl, rfl, hnamespace, hwriter, hreader, rfl, rfl, hlayout ⟨.ray, .double, none⟩ _ rfl,
    hlayout ⟨.line, .int, some 1⟩ _ rfl⟩

end GeometrySource.Catalogue
