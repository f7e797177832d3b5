import GeometrySource.Declaration.Expression
import GeometrySource.Proofs.Layout.Bracket
import GeometrySource.Proofs.Text.Edge

/-!
# Balanced scripts

A script is balanced if it can stand wherever the tabs are those of the blocks around it, and leaves brackets and tabs as
they were. Everything that is declared is put together from balanced scripts, and what a nested and balanced script prints
has the layout of its brackets. Braces that are written by hand, with tabs by hand, are no different from blocks.
-/

namespace GeometrySource

namespace Text

/-! ## Lines further in -/

theorem tabCount_tab_append (line : String) : tabCount ("\t" ++ line) = tabCount line + 1 := by
  simp [tabCount]

/-- Tabs in front of a line are counted. -/
theorem tabCount_tabs_append (count : Nat) (line : String) : tabCount (tabs count ++ line) = tabCount line + count := by
  induction count with
  | zero => simp
  | succ count ih =>
    have htabs : tabs (count + 1) ++ line = "\t" ++ (tabs count ++ line) := by
      simp [tabs, List.replicate_succ, Script.tab, String.append_assoc]
    rw [htabs, tabCount_tab_append, ih, Nat.add_assoc]

/-- Tabs in front of a line are read like a margin. -/
theorem readLine_tabs_append (stack : List Bracket) (margin count : Nat) (line : String) :
    readLine stack margin (tabs count ++ line) = readLine stack (margin + count) line := by
  have hmark : mark? (tabs count ++ line) = mark? line := by
    unfold mark?
    rw [unindent_tabs_append]
  have hoverhang : overhang (tabs count ++ line) = overhang line := by
    have hinitializer : IsInitializer (tabs count ++ line) ↔ IsInitializer line := by
      simp only [IsInitializer, unindent_tabs_append]
    simp only [overhang, hinitializer]
  have htabs : margin + tabCount (tabs count ++ line) = margin + count + tabCount line := by
    rw [tabCount_tabs_append]
    omega
  unfold readLine
  rw [hmark, hoverhang, htabs]

end Text

namespace Script

open Text

/-- Reads the lines of a script, given what is open and the tabs of the place: what is open after it, and the tabs that
it leaves. -/
def read (stack : List Bracket) (margin : Nat) : Script → Option (List Bracket × Nat)
  | [] => some (stack, margin)
  | .line text :: rest => (readLine stack margin text).bind fun after => read after margin rest
  | .push _ :: rest => read stack (margin + 1) rest
  | .pop :: rest => read stack (margin - 1) rest
  | .separate :: rest => read stack margin rest
  | .write _ :: rest => read stack margin rest

/-- A script that is at its place wherever the tabs are those of the blocks around it, and leaves everything as it was. -/
def Balanced (script : Script) : Prop :=
  ∀ stack, read stack (depth stack) script = some (stack, depth stack)

/-! ## Plain lines -/

/-- A character that no line with tabs, a mark or an initializer begins with. -/
def isPlainStart (c : Char) : Bool :=
  !(['\t', '\x7b', '\x7d', '#', ':'].contains c)

/-- Whether a text shows at its beginning that it is no mark and no initializer and has no tabs in front. -/
abbrev StartsPlain (text : String) : Prop :=
  Begins isPlainStart text

/-- A plain line is at its place where the tabs are those of the blocks around it. -/
theorem readLine_of_startsPlain {text : String} (h : StartsPlain text) (stack : List Bracket) :
    readLine stack (depth stack) text = some stack := by
  obtain ⟨c, rest, hlist, hplain⟩ := begins_iff.mp h
  have hhead : text.toList.head? = some c := by rw [hlist, List.head?_cons]
  have hdiffers : ∀ start : Char, isPlainStart start = false → start ≠ c := by
    rintro start hstart rfl
    rw [hstart] at hplain
    cases hplain
  have hbegins : ∀ start : String, Begins (fun d => !isPlainStart d) start → ¬start.toList <+: text.toList := by
    rintro start hstart ⟨more, hmore⟩
    obtain ⟨d, behind, hd, hfails⟩ := begins_iff.mp hstart
    rw [← hmore, hd, List.cons_append, List.head?_cons, Option.some.injEq] at hhead
    exact hdiffers d (by simpa using hfails) hhead
  have hunindent : unindent text = text := unindent_of_head? hhead (hdiffers '\t' (by decide)).symm
  have hmark : mark? text = none := by
    have hopen : text ≠ "\x7b" := fun heq => hbegins "\x7b" (by decide) (heq ▸ List.prefix_rfl)
    have hclose : text ≠ "\x7d" := fun heq => hbegins "\x7d" (by decide) (heq ▸ List.prefix_rfl)
    unfold mark?
    rw [hunindent, if_neg hopen, if_neg hclose, if_neg (hbegins _ (by decide)), if_neg (hbegins _ (by decide))]
  have htabs : tabCount text = 0 := by
    rw [tabCount, hlist, List.takeWhile_cons_of_neg (by simpa using (hdiffers '\t' (by decide)).symm), List.length_nil]
  have hoverhang : overhang text = 0 := by
    refine if_neg fun hinitializer => hbegins ": this(" (by decide) ?_
    rw [← hunindent]
    exact hinitializer.1
  exact readLine_of_unmarked hmark (by rw [htabs, hoverhang])

/-! ## What is printed -/

/-- The printed lines of a script are read as its lines are. -/
theorem readLines_rows {script : Script} (hlines : script.EachLine SingleLine) {stack after : List Bracket}
    {margin left : Nat} (h : read stack margin script = some (after, left)) (opened : Bool) :
    readLines stack ((rows margin opened script).map Row.print) = some after := by
  induction script generalizing stack margin opened with
  | nil =>
    obtain ⟨rfl, -⟩ := Prod.mk.inj (Option.some.inj h)
    rfl
  | cons step rest ih =>
    have hrest : EachLine SingleLine rest := fun text hmem => hlines text (List.mem_cons_of_mem _ hmem)
    cases step with
    | line text =>
      obtain ⟨between, hline, hbehind⟩ := Option.bind_eq_some_iff.mp h
      rw [rows, List.map_cons, readLines]
      by_cases hempty : text = ""
      · have hbetween : between = stack := by
          rcases readLine_cases hline with ⟨_, hmark, -⟩ | ⟨_, hmark, -⟩ | ⟨-, -, heq⟩
          · simp [hempty, mark?_empty] at hmark
          · simp [hempty, mark?_empty] at hmark
          · exact heq
        have hprint : Row.print ⟨margin, text⟩ = "" := by rw [Row.print, hempty, indented_empty]
        rw [if_pos hprint]
        exact ih hrest (hbetween ▸ hbehind) _
      · have hprint : Row.print ⟨margin, text⟩ = tabs margin ++ text :=
          indented_of_singleLine _ (hlines text List.mem_cons_self) hempty
        have hread : readLine stack 0 (tabs margin ++ text) = some between := by
          rw [readLine_tabs_append, Nat.zero_add, hline]
        rw [hprint, if_neg (by simp [hempty]), hread, Option.bind_some]
        exact ih hrest hbehind _
    | push token => exact ih hrest h opened
    | pop => exact ih hrest h opened
    | write text => exact ih hrest h opened
    | separate =>
      cases opened with
      | true => exact ih hrest h true
      | false =>
        have hprint : Row.print ⟨margin, ""⟩ = "" := indented_empty _
        rw [rows, List.map_cons, hprint, readLines, if_pos rfl]
        exact ih hrest h false

/-- What a nested and balanced script prints has the layout of its brackets. -/
theorem Balanced.bracketLayout {script : Script} (h : script.Balanced) (hnested : script.Nested)
    (hlines : script.EachLine SingleLine) : BracketLayout (Text.lines (({} : Emitter).run script).text) := by
  have hsingle : ∀ text ∈ (script.rows 0 true).map Row.print, SingleLine text := by
    intro text hmem
    obtain ⟨r, hr, rfl⟩ := List.mem_map.mp hmem
    exact Row.singleLine_print (hlines.wording (by decide) true r.text (text_mem_wording hr))
  rw [Emitter.run_fresh hnested, sheet, lines_unlines hsingle]
  apply bracketLayout_of_readLines
  have hread : read [] 0 script = some ([], 0) := h []
  rw [readLines_append, readLines_rows hlines hread true]
  rfl

/-! ## How balanced scripts are put together -/

theorem read_append (stack : List Bracket) (margin : Nat) (first second : Script) :
    read stack margin (first ++ second) =
      (read stack margin first).bind fun (after, left) => read after left second := by
  induction first generalizing stack margin with
  | nil => rfl
  | cons step rest ih =>
    cases step with
    | line text =>
      rw [List.cons_append, read, read, Option.bind_assoc]
      exact congrArg _ (funext fun after => ih after margin)
    | _ => exact ih _ _

@[simp]
theorem balanced_nil : Balanced [] := fun _ => rfl

/-- Behind a balanced script, what follows has to be balanced. -/
@[simp]
theorem balanced_append {first second : Script} (h : first.Balanced) :
    Balanced (first ++ second) ↔ second.Balanced := by
  have hread : ∀ stack, read stack (depth stack) (first ++ second) = read stack (depth stack) second := by
    intro stack
    rw [read_append, h stack, Option.bind_some]
  simp only [Balanced, hread]

/-- A plain line in front is of no account. -/
@[simp]
theorem balanced_line_cons {text : String} {rest : Script} (h : StartsPlain text) :
    Balanced (.line text :: rest) ↔ rest.Balanced := by
  have hline : Balanced [.line text] := by
    intro stack
    rw [read, readLine_of_startsPlain h]
    rfl
  exact balanced_append hline

@[simp]
theorem balanced_separate_cons {rest : Script} : Balanced (.separate :: rest) ↔ rest.Balanced := Iff.rfl

/-- A blank line in front is of no account. -/
@[simp]
theorem balanced_blank_cons {rest : Script} : Balanced (.line "" :: rest) ↔ rest.Balanced := by
  have hread : ∀ stack, readLine stack (depth stack) "" = some stack := by
    intro stack
    have htabs : tabCount "" = 0 := by decide
    have hoverhang : overhang "" = 0 := by decide
    exact readLine_of_unmarked mark?_empty (by rw [htabs, hoverhang])
  simp only [Balanced, Script.read, hread, Option.bind_some]

@[simp]
theorem balanced_lines_blank_cons {rest : List String} : Balanced (lines ("" :: rest)) ↔ (lines rest).Balanced :=
  balanced_blank_cons

/-- Plain lines are balanced. -/
theorem balanced_lines {texts : List String} (h : ∀ text ∈ texts, StartsPlain text) : (lines texts).Balanced := by
  induction texts with
  | nil => exact balanced_nil
  | cons text rest ih =>
    have hrest := ih fun other hmem => h other (List.mem_cons_of_mem _ hmem)
    exact (balanced_line_cons (h text List.mem_cons_self)).mpr hrest

@[simp]
theorem balanced_lines_nil : Balanced (lines []) := balanced_nil

@[simp]
theorem balanced_lines_cons {text : String} {rest : List String} (h : StartsPlain text) :
    Balanced (lines (text :: rest)) ↔ (lines rest).Balanced :=
  balanced_line_cons h

@[simp]
theorem balanced_lines_append {first second : List String} (h : (lines first).Balanced) :
    Balanced (lines (first ++ second)) ↔ (lines second).Balanced := by
  rw [lines, List.map_append]
  exact balanced_append h

/-- Balanced scripts for the entries of a list are balanced one after another. -/
theorem balanced_flatMap {α : Type} {list : List α} {f : α → Script} (h : ∀ x ∈ list, (f x).Balanced) :
    Balanced (list.flatMap f) := by
  induction list with
  | nil => exact balanced_nil
  | cons x rest ih =>
    rw [List.flatMap_cons, balanced_append (h x List.mem_cons_self)]
    exact ih fun y hy => h y (List.mem_cons_of_mem _ hy)

/-! ## Blocks and regions -/

theorem mark?_openBrace : mark? "\x7b" = some (.opens .brace) := by decide

theorem mark?_closeBrace : mark? "\x7d" = some (.closes .brace) := by decide

/-- An opening brace is at its place where the tabs are those of the blocks around it. -/
theorem readLine_openBrace (stack : List Bracket) : readLine stack (depth stack) "\x7b" = some (.brace :: stack) := by
  have htabs : tabCount "\x7b" = 0 := by decide
  exact readLine_of_opens mark?_openBrace (by rw [htabs, Nat.add_zero])

/-- A closing brace is at its place where the tabs are those around its block. -/
theorem readLine_closeBrace (stack : List Bracket) : readLine (.brace :: stack) (depth stack) "\x7d" = some stack := by
  have htabs : tabCount "\x7d" = 0 := by decide
  exact readLine_of_closes mark?_closeBrace (by rw [htabs]; rfl)

/-- A block around a balanced script is balanced. -/
@[simp]
theorem balanced_block {inner : Script} (h : inner.Balanced) : (block inner).Balanced := by
  intro stack
  have hinner : read (.brace :: stack) (depth stack + 1) inner = some (.brace :: stack, depth stack + 1) := by
    simpa [depth] using h (.brace :: stack)
  rw [block_eq, read, readLine_openBrace, Option.bind_some, read, read_append, hinner, Option.bind_some]
  simp only [read, Nat.add_sub_cancel, readLine_closeBrace, Option.bind_some]

@[simp]
theorem balanced_body {statements : List String} (h : (lines statements).Balanced) : (body statements).Balanced :=
  balanced_block h

/-- A body of one plain statement is balanced. -/
@[simp]
theorem balanced_body_singleton {statement : String} (h : StartsPlain statement) : (body [statement]).Balanced :=
  balanced_body ((balanced_lines_cons h).mpr balanced_lines_nil)

/-- The head of a region opens a region, whatever its name. -/
theorem mark?_openRegion (name : String) : mark? ("#region " ++ name) = some (.opens .region) := by
  have hlist : ("#region " ++ name).toList = "#region".toList ++ ' ' :: name.toList := by simp
  have hhead : ("#region " ++ name).toList.head? = some '#' := by rw [hlist]; rfl
  have hne : ∀ brace : String, brace.toList.head? ≠ some '#' → "#region " ++ name ≠ brace := by
    rintro brace hbrace rfl
    exact hbrace hhead
  unfold mark?
  rw [unindent_of_head? hhead (by decide), if_neg (hne _ (by decide)), if_neg (hne _ (by decide)), hlist,
    if_pos (List.prefix_append _ _)]

/-- The head of a region is at its place where the tabs are those of the blocks around it. -/
theorem readLine_openRegion (stack : List Bracket) (name : String) :
    readLine stack (depth stack) ("#region " ++ name) = some (.region :: stack) := by
  have htabs : tabCount ("#region " ++ name) = 0 := by simp [tabCount]
  exact readLine_of_opens (mark?_openRegion name) (by rw [htabs, Nat.add_zero])

/-- The end of a region is at its place where the tabs are those of the blocks around it. -/
theorem readLine_closeRegion (stack : List Bracket) :
    readLine (.region :: stack) (depth stack) "#endregion" = some stack := by
  have hmark : mark? "#endregion" = some (.closes .region) := by decide
  have htabs : tabCount "#endregion" = 0 := by decide
  exact readLine_of_closes hmark (by rw [htabs]; rfl)

/-- A region around a balanced script is balanced. -/
@[simp]
theorem balanced_region (name : String) {inner : Script} (h : inner.Balanced) : (region name inner).Balanced := by
  intro stack
  have hinner : read (.region :: stack) (depth stack) inner = some (.region :: stack, depth stack) := by
    simpa [depth] using h (.region :: stack)
  rw [region, openRegion, List.append_assoc, List.cons_append, List.cons_append, List.nil_append, read, read,
    readLine_openRegion, Option.bind_some, read_append, hinner, Option.bind_some]
  simp only [closeRegion, read, readLine_closeRegion, Option.bind_some]

/-! ## Braces and tabs by hand -/

/-- Statements with a tab by hand are read like lines under a tab. -/
theorem read_lines_tab (stack : List Bracket) (margin : Nat) (statements : List String) (rest : Script) :
    read stack margin (lines (statements.map ("\t" ++ ·)) ++ rest) =
      read stack margin (.push tab :: (lines statements ++ .pop :: rest)) := by
  rw [read]
  induction statements generalizing stack with
  | nil => simp [lines, read]
  | cons statement others ih =>
    have htab : readLine stack margin ("\t" ++ statement) = readLine stack (margin + 1) statement :=
      readLine_tabs_append stack margin 1 statement
    simp only [lines, List.map_cons, List.cons_append, read, htab] at ih ⊢
    exact congrArg _ (funext ih)

/-- A statement with a block under it, written by hand, is balanced if its block is. -/
@[simp]
theorem balanced_lines_braced {header : String} {inner : List String} (hheader : StartsPlain header)
    (hinner : (lines inner).Balanced) : (lines (Declaration.braced header inner)).Balanced := by
  have hlines : lines (Declaration.braced header inner) =
      .line header :: .line "\x7b" :: (lines (inner.map ("\t" ++ ·)) ++ [.line "\x7d"]) := by
    simp [Declaration.braced, lines]
  have hblock : (block (lines inner)).Balanced := balanced_block hinner
  rw [hlines, balanced_line_cons hheader]
  intro stack
  rw [← hblock stack, block_eq, read, read]
  exact congrArg _ (funext fun after => read_lines_tab after _ inner _)

end Script

end GeometrySource
