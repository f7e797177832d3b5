import GeometrySource.Proofs.Layout.Wording
import GeometrySource.Proofs.Text.Opening
import GeometrySource.Text.Blank
import Mathlib.Data.List.Chain

/-!
# Blank lines

Where blank lines stand in a text: one at a time, never just inside a block or a region, and in front of every region that
is not the first thing in its block. A script is spaced if `separate` always has a line behind it that may follow a blank
line, and if its region heads all have one in front; what a spaced script prints has its blank lines in the right places.
-/

namespace GeometrySource

namespace Text

/-! ## Lines -/

/-- Whether a character shows. -/
def isVisible (c : Char) : Bool :=
  !isBlank c

/-- Whether a line is the head of a region, tabs in front or not. -/
def IsRegionHead (line : String) : Prop :=
  StartsWith "#region" (unindent line)

/-- Whether a line closes a block or a region, tabs in front or not. -/
def IsClosing (line : String) : Prop :=
  unindent line = "\x7d" ∨ StartsWith "#endregion" (unindent line)

instance (line : String) : Decidable (IsRegionHead line) :=
  inferInstanceAs (Decidable (StartsWith _ _))

instance (line : String) : Decidable (IsClosing line) :=
  inferInstanceAs (Decidable (_ ∨ _))

/-- A line that shows at its end, and that ends in an opening brace only if it is nothing else. -/
structure Trim (line : String) : Prop where
  visible : Ends isVisible line
  brace : Script.opensBlock line = true → unindent line = "\x7b"

/-- The blank lines of a text are in their places:
1. No line ends in white space.
2. There are no two blank lines in a row.
3. No blank line follows a line that ends in an opening brace.
4. No blank line precedes the end of a block or of a region.
5. In front of the head of a region there is an opening brace, or one blank line and no more. -/
structure WellSpaced (lines : List String) : Prop where
  trimmed : ∀ line ∈ lines, ¬Ends isBlank line
  single : ∀ above line, [above, line] <:+: lines → allBlank above = true → allBlank line = false
  opened : ∀ above line, [above, line] <:+: lines → Ends (· = '\x7b') above → allBlank line = false
  closed : ∀ above line, [above, line] <:+: lines → allBlank above = true → ¬IsClosing line
  regions : ∀ before line after, lines = before ++ line :: after → IsRegionHead line →
    (∃ front brace, before = front ++ [brace] ∧ unindent brace = "\x7b") ∨
      ∃ front full blank, before = front ++ [full, blank] ∧ allBlank full = false ∧ allBlank blank = true

/-- Whether a line may stand directly below another one. -/
structure MayFollow (above line : String) : Prop where
  blank : allBlank line = true → allBlank above = false ∧ Script.opensBlock above = false
  closing : IsClosing line → allBlank above = false
  region : IsRegionHead line → unindent above = "\x7b" ∨ allBlank above = true

theorem Trim.not_ends_isBlank {line : String} (h : Trim line) : ¬Ends isBlank line := by
  obtain ⟨c, hlast, hvisible⟩ := ends_iff.mp h.visible
  intro hends
  obtain ⟨d, hlast', hblank⟩ := ends_iff.mp hends
  obtain rfl := Option.mem_unique hlast hlast'
  rw [isVisible, hblank] at hvisible
  cases hvisible

/-- A line that shows at its end is not blank. -/
theorem allBlank_of_ends {line : String} (h : Ends isVisible line) : allBlank line = false := by
  obtain ⟨c, hlast, hvisible⟩ := ends_iff.mp h
  rw [allBlank, List.all_eq_false]
  exact ⟨c, List.mem_of_getLast? hlast, by simpa [isVisible] using hvisible⟩

/-- A line that is an opening brace behind its tabs is not blank. -/
theorem allBlank_of_unindent_eq_brace {line : String} (h : unindent line = "\x7b") : allBlank line = false := by
  rw [allBlank, List.all_eq_false]
  refine ⟨'\x7b', (toList_unindent_suffix line).mem (h ▸ by decide), by decide⟩

/-- A line that is not blank may stand below any line if it neither closes nor is the head of a region. -/
theorem mayFollow_of_visible {above line : String} (hvisible : allBlank line = false) (hclosing : ¬IsClosing line)
    (hregion : ¬IsRegionHead line) : MayFollow above line :=
  ⟨fun hblank => by simp [hvisible] at hblank, fun h => absurd h hclosing, fun h => absurd h hregion⟩

/-- A line ends in an opening brace exactly if `separate` leaves nothing behind it. -/
theorem ends_brace_iff {line : String} : Ends (· = '\x7b') line ↔ Script.opensBlock line = true := by
  rw [ends_iff, Script.opensBlock, decide_eq_true_iff]
  constructor
  · rintro ⟨c, hlast, hc⟩
    rwa [of_decide_eq_true hc] at hlast
  · exact fun hlast => ⟨_, hlast, by decide⟩

/-- Lines each of which may stand below the one before are well spaced, if they do not begin with a blank line or the head
of a region. -/
theorem wellSpaced_of_isChain {lines : List String} (htrimmed : ∀ line ∈ lines, ¬Ends isBlank line)
    (hfirst : ∀ first ∈ lines.head?, allBlank first = false ∧ ¬IsRegionHead first) (h : lines.IsChain MayFollow) :
    WellSpaced lines := by
  have hbelow : ∀ {before after : List String} {above line : String},
      lines = before ++ above :: line :: after → MayFollow above line :=
    fun hlines => List.isChain_iff_forall_rel_of_append_cons_cons.mp h hlines
  have hpair : ∀ {above line : String}, [above, line] <:+: lines → MayFollow above line := by
    rintro above line ⟨before, after, hlines⟩
    rw [List.append_assoc] at hlines
    exact hbelow hlines.symm
  refine ⟨htrimmed, fun above line hinfix habove => ?_, fun above line hinfix habove => ?_,
    fun above line hinfix habove hclosing => ?_, fun before line after hlines hline => ?_⟩
  · by_contra hblank
    have hfull := ((hpair hinfix).blank (by simpa using hblank)).1
    rw [habove] at hfull
    cases hfull
  · by_contra hblank
    have hbrace := ((hpair hinfix).blank (by simpa using hblank)).2
    rw [ends_brace_iff.mp habove] at hbrace
    cases hbrace
  · have hfull := (hpair hinfix).closing hclosing
    rw [habove] at hfull
    cases hfull
  · rcases List.eq_nil_or_concat' before with rfl | ⟨front, above, rfl⟩
    · exact absurd hline (hfirst line (by rw [hlines]; rfl)).2
    · rw [List.append_assoc, List.singleton_append] at hlines
      rcases (hbelow hlines).region hline with hbrace | hblank
      · exact .inl ⟨front, above, rfl, hbrace⟩
      · rcases List.eq_nil_or_concat' front with rfl | ⟨front, full, rfl⟩
        · have hfull := (hfirst above (by rw [hlines]; rfl)).1
          rw [hblank] at hfull
          cases hfull
        · rw [List.append_assoc, List.singleton_append] at hlines
          exact .inr ⟨front, full, above, by simp, ((hbelow hlines).blank hblank).1, hblank⟩

end Text

/-! ## Lines in print -/

namespace Row

open Text

variable {r : Row}

/-- A row in print ends like its text. -/
theorem ends_print (h : SingleLine r.text) {p : Char → Bool} : Ends p r.print ↔ Ends p r.text := by
  by_cases hempty : r.text = ""
  · rw [print, hempty, indented_empty]
  · rw [print, indented_of_singleLine _ h hempty, ends_append, or_iff_left fun hnone => hempty hnone.1]

theorem opensBlock_print (h : SingleLine r.text) : Script.opensBlock r.print = Script.opensBlock r.text := by
  rw [Bool.eq_iff_iff, ← ends_brace_iff, ← ends_brace_iff, ends_print h]

theorem allBlank_print (h : SingleLine r.text) : allBlank r.print = allBlank r.text := by
  by_cases hempty : r.text = ""
  · rw [print, hempty, indented_empty]
  · have htabs : (tabs r.depth).toList.all isBlank = true := by
      simpa [tabs, Script.tab] using Or.inr (by decide)
    rw [print, indented_of_singleLine _ h hempty, allBlank, String.toList_append, List.all_append, htabs, Bool.true_and,
      allBlank]

/-- Rows in print may stand below each other if their texts may. -/
theorem mayFollow_print {s : Row} (hr : SingleLine r.text) (hs : SingleLine s.text) (h : MayFollow r.text s.text) :
    MayFollow r.print s.print where
  blank := by
    rw [allBlank_print hr, allBlank_print hs, opensBlock_print hr]
    exact h.blank
  closing := by
    rw [IsClosing, unindent_print hs, allBlank_print hr]
    exact h.closing
  region := by
    rw [IsRegionHead, unindent_print hs, unindent_print hr, allBlank_print hr]
    exact h.region

end Row

namespace Script

open Text

/-- Whether the lines of a script are trim and its `separate` steps where a blank line may stand, `parted` saying whether
there is one right in front. -/
def Spaced (parted : Bool) : Script → Prop
  | [] => parted = false
  | .line text :: rest => Trim text ∧ (if parted then ¬IsClosing text else ¬IsRegionHead text) ∧ Spaced false rest
  | .separate :: rest => parted = false ∧ Spaced true rest
  | .push _ :: rest => Spaced parted rest
  | .pop :: rest => Spaced parted rest
  | .write _ :: rest => Spaced parted rest

/-! ## What is printed -/

/-- What stands above the next line, where `opened` says that it opens a block and `parted` that `separate` was the last
step. -/
inductive Above : Bool → Bool → String → Prop
  | brace {parted : Bool} {line : String} (h : unindent line = "\x7b") : Above parted true line
  | text {line : String} (hvisible : allBlank line = false) (hbrace : opensBlock line = false) : Above false false line
  | gap : Above true false ""

/-- Behind a trim line there is that line. -/
theorem Above.of_trim {line : String} (h : Trim line) : Above false (opensBlock line) line := by
  cases hbrace : opensBlock line with
  | true => exact .brace (h.brace hbrace)
  | false => exact .text (allBlank_of_ends h.visible) hbrace

/-- A trim line may stand where it is put. -/
theorem Above.mayFollow {parted opened : Bool} {above line : String} (h : Above parted opened above) (hline : Trim line)
    (hplace : if parted then ¬IsClosing line else ¬IsRegionHead line) : MayFollow above line := by
  have hvisible := allBlank_of_ends hline.visible
  refine ⟨fun hblank => by simp [hvisible] at hblank, fun hclosing => ?_, fun hregion => ?_⟩
  · cases h with
    | brace h => exact allBlank_of_unindent_eq_brace h
    | text hfull _ => exact hfull
    | gap => exact absurd hclosing hplace
  · cases h with
    | brace h => exact .inl h
    | text _ _ => exact absurd hregion hplace
    | gap => exact .inr rfl

/-- Below what stands above it the wording of a spaced script has every line where it may stand. -/
theorem Spaced.isChain {script : Script} {parted opened : Bool} {above : String} (h : script.Spaced parted)
    (habove : Above parted opened above) : (above :: script.wording opened).IsChain MayFollow := by
  -- The invariant is `Above`: it says of the line printed last what `wording` and `Spaced` remember of it.
  induction script generalizing parted opened above with
  | nil => exact .singleton above
  | cons step rest ih =>
    cases step with
    | line text =>
      obtain ⟨htrim, hplace, hrest⟩ := h
      exact .cons_cons (habove.mayFollow htrim hplace) (ih hrest (.of_trim htrim))
    | separate =>
      obtain ⟨rfl, hrest⟩ := h
      cases habove with
      | brace hbrace => exact ih hrest (.brace hbrace)
      | text hvisible hbrace =>
        -- Only here a blank line is printed, below a line that is neither blank nor opens a block.
        refine .cons_cons ⟨fun _ => ⟨hvisible, hbrace⟩, fun _ => hvisible, fun hregion => ?_⟩ (ih hrest .gap)
        exact absurd hregion (by decide)
    | push token => exact ih h habove
    | pop => exact ih h habove
    | write text => exact ih h habove

/-- The lines of a spaced script are trim. -/
theorem Spaced.eachLine {script : Script} {parted : Bool} (h : script.Spaced parted) : script.EachLine Trim := by
  induction script generalizing parted with
  | nil => exact eachLine_nil
  | cons step rest ih =>
    cases step with
    | line text => exact eachLine_line_cons.mpr ⟨h.1, ih h.2.2⟩
    | separate => exact eachLine_separate_cons.mpr (ih h.2)
    | push token => exact eachLine_push_cons.mpr (ih h)
    | pop => exact eachLine_pop_cons.mpr (ih h)
    | write text => exact fun line hmem => ih h line (by simpa using hmem)

/-- Behind a spaced script, what follows has to be spaced. -/
theorem spaced_append {first second : Script} {parted : Bool} (h : first.Spaced parted) :
    Spaced parted (first ++ second) ↔ second.Spaced false := by
  induction first generalizing parted with
  | nil =>
    obtain rfl := h
    rfl
  | cons step rest ih =>
    cases step with
    | line text =>
      obtain ⟨htrim, hplace, hrest⟩ := h
      rw [List.cons_append, Spaced, ih hrest, and_iff_right htrim, and_iff_right hplace]
    | separate =>
      obtain ⟨rfl, hrest⟩ := h
      rw [List.cons_append, Spaced, ih hrest, and_iff_right rfl]
    | push token => exact ih h
    | pop => exact ih h
    | write text => exact ih h

end Script

/-- What a nested script prints is well spaced, if every line of its wording may stand below the one before, and a blank one
below the last. -/
theorem Emitter.wellSpaced_run_fresh {script : Script} (hnested : script.Nested) (hlines : script.EachLine Text.SingleLine)
    (htrimmed : ∀ text ∈ script.wording true, ¬Text.Ends Text.isBlank text)
    (hfirst : ∀ first ∈ (script.wording true ++ [""]).head?, Text.allBlank first = false ∧ ¬Text.IsRegionHead first)
    (h : (script.wording true ++ [""]).IsChain Text.MayFollow) :
    Text.WellSpaced (Text.lines (({} : Emitter).run script).text) := by
  let printed := script.rows 0 true ++ [⟨0, ""⟩]
  have hsingle : ∀ r ∈ printed, Text.SingleLine r.text := by
    intro r hr
    rcases List.mem_append.mp hr with hr | hlast
    · exact hlines.wording (by decide) true r.text (Script.text_mem_wording hr)
    · rw [List.mem_singleton.mp hlast]
      decide
  have hwording : printed.map Row.text = script.wording true ++ [""] := by
    rw [List.map_append, Script.map_text_rows]
    rfl
  have htext : Text.lines (({} : Emitter).run script).text = printed.map Row.print := by
    rw [run_fresh hnested, Script.sheet, Text.lines_unlines, List.map_append]
    · rfl
    · intro text hmem
      obtain ⟨r, hr, rfl⟩ := List.mem_map.mp hmem
      exact Row.singleLine_print (hsingle r (List.mem_append_left _ hr))
  rw [htext]
  rw [← hwording, List.head?_map] at hfirst
  rw [← hwording, List.isChain_map] at h
  refine Text.wellSpaced_of_isChain (fun line hline => ?_) (fun first hmem => ?_) ?_
  · obtain ⟨r, hr, rfl⟩ := List.mem_map.mp hline
    rw [Row.ends_print (hsingle r hr)]
    rcases List.mem_append.mp hr with hr | hlast
    · exact htrimmed r.text (Script.text_mem_wording hr)
    · rw [List.mem_singleton.mp hlast]
      decide
  · rw [List.head?_map] at hmem
    obtain ⟨r, hr, rfl⟩ := Option.map_eq_some_iff.mp hmem
    have hr' := hsingle r (List.mem_of_head? hr)
    rw [Row.allBlank_print hr', Text.IsRegionHead, Row.unindent_print hr']
    exact hfirst r.text (Option.mem_map_of_mem _ hr)
  · rw [List.isChain_map]
    exact h.imp_of_mem_imp fun r s hr hs => Row.mayFollow_print (hsingle r hr) (hsingle s hs)

end GeometrySource
