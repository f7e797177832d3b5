import GeometrySource.Proofs.Declaration.FieldFlow

/-!
# One list of fields, everywhere

The constructor, the conversions, equality, string conversion and the binary functions go through their fields in the
order of one list, and agree on it so far that values survive a way through `Write` and `Read`.
-/

namespace GeometrySource.Declaration

/-- Where texts that speak of a list of fields stand: what each of the derived members appends to an emitter is made of
them and of lines that do not depend on the fields, but for the doc comment of the constructor. -/
structure FieldTexts.StandIn (texts : FieldTexts) (ctx : Context) (list : List Field) (requires : List String)
    (e : Emitter) : Prop where
  constructor : (e.run (fieldConstructor ctx list requires)).text =
    e.text ++ Text.indented e.margin
      (linesText (fieldConstructorDoc ctx list) ++
        methodText texts.constructorHead
          ((requires.map fun condition => "Contract.Requires(" ++ condition ++ ");") ++ texts.assignments))
  conversions : (e.run (conversions ctx list)).text =
    e.text ++ Text.indented e.margin
      (String.join (ctx.others.map fun source =>
        linesText (conversionDoc ctx source) ++ methodText (conversionHead ctx source) [texts.conversion]))
  equality : (e.run (equality ctx list)).text =
    e.text ++ Text.indented e.margin
      (regionText e.opened "Equatable"
        (linesText hashDoc ++ methodText "public override int GetHashCode()" [texts.hash] ++
          linesText (equalsMethods ctx) ++ methodText (equalHead ctx) [texts.equal] ++
          linesText notEqualDoc ++ methodText (notEqualHead ctx) [texts.notEqual]))
  formatting : (e.run (toStringRegion ctx list)).text =
    e.text ++ Text.indented e.margin
      (regionText e.opened "ToString"
        (linesText (callingToStrings ctx) ++
          methodText "public string ToString(string format, IFormatProvider provider)" [texts.formatted]))
  binary : (e.run (binary ctx list)).text =
    e.text ++ Text.indented e.margin
      (regionText e.opened "Binary"
        (linesText (writeDoc ctx) ++ methodText (writeHead ctx) texts.writes ++
          linesText (readDoc ctx) ++ methodText (readHead ctx) (texts.locals ++ [texts.result])))

/-- The texts of a list of fields stand in the members that are derived from it. -/
theorem standIn_fieldTexts (ctx : Context) (list : List Field) (requires : List String) {e : Emitter}
    (he : e.Reachable) (hline : e.atLineStart = true) : (fieldTexts ctx list).StandIn ctx list requires e := by
  have hended := he.atLineStart_iff.mp hline
  refine ⟨?_, ?_, ?_, ?_, ?_⟩
  · rw [Emitter.text_run_sheet (nested_fieldConstructor ctx list requires) hended hline, sheet_fieldConstructor]
  · rw [Emitter.text_run_sheet (nested_conversions ctx list) hended hline, sheet_conversions]
  · rw [Emitter.text_run_sheet (nested_equality ctx list) hended hline, sheet_equality]
  · rw [Emitter.text_run_sheet (nested_toStringRegion ctx list) hended hline, sheet_toStringRegion]
  · rw [Emitter.text_run_sheet (nested_binary ctx list) hended hline, sheet_binary]

/-- The members that are derived from a list of well named fields agree on it. At the start of a line they append texts
which, read back, are this list in this order in every place. Carried out, `Write` puts the fields' values on a stream,
`Read` takes the same values from there, and the constructor gives each of them to the field that it came from. -/
theorem field_agreement (ctx : Context) {e : Emitter} (he : e.Reachable) (hline : e.atLineStart = true)
    {list : List Field} (h : WellNamed list) (requires : List String) :
    ∃ texts : FieldTexts, texts.StandIn ctx list requires e ∧ texts.Describe ctx list ∧
      ∀ (V : Type) (values : String → V) (rest : List V),
        ∃ made, texts.carryOut ctx values rest = some (made, rest) ∧
          ∀ f ∈ list, made f.name = some (values f.name) := by
  have hdescribe := describe_fieldTexts ctx h
  exact ⟨fieldTexts ctx list, standIn_fieldTexts ctx list requires he hline, hdescribe,
    fun _ values rest => carryOut_describe h hdescribe values rest⟩

/-- The law at a scalar, a point and a vector, one tab further in. -/
theorem field_agreement_ray :
    let ctx : Context := ⟨⟨.ray, .double, none⟩, 3, .double, ⟨"Shapes", [.int], [.double, .float], "Writer", "Reader"⟩⟩
    let list : List Field := [⟨.scalar, "D", "A number."⟩, ⟨.point, "Position", "A point."⟩,
      ⟨.vector, "Direction_2", "A vector\nof length one."⟩]
    let e := ({} : Emitter).run (Script.openBlock)
    e.Reachable ∧ e.atLineStart = true ∧ WellNamed list ∧
      ∃ texts : FieldTexts, texts.StandIn ctx list ["0 <= d"] e ∧ texts.Describe ctx list ∧
        ∃ made, texts.carryOut ctx String.length [7] = some (made, [7]) ∧
          ∀ f ∈ list, made f.name = some f.name.length := by
  intro ctx list e
  have he : e.Reachable := ⟨_, rfl⟩
  have hline : e.atLineStart = true := rfl
  have hnamed : WellNamed list := ⟨by decide, by decide, by decide, by decide⟩
  obtain ⟨texts, hstand, hdescribe, hcarry⟩ := field_agreement ctx he hline hnamed ["0 <= d"]
  exact ⟨he, hline, hnamed, texts, hstand, hdescribe, hcarry Nat String.length [7]⟩

end GeometrySource.Declaration
