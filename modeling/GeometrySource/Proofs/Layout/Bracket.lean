import GeometrySource.Proofs.Layout.Wording

/-!
# Brackets in a text

Blocks and regions show in a text as lines of their own. A reader that goes through the lines with the stack of what is
open tells whether they are well nested, and whether every line stands as far in as blocks are open around it.
-/

namespace GeometrySource

/-- What lines open and close. -/
inductive Bracket
  /-- A block between braces. -/
  | brace
  /-- A named region. -/
  | region
  deriving DecidableEq, Repr

/-- What a line does to what is open. -/
inductive Mark
  | opens (bracket : Bracket)
  | closes (bracket : Bracket)
  deriving DecidableEq, Repr

/-- Marks in which every bracket is closed in its turn. -/
inductive WellNested : List Mark → Prop
  | nil : WellNested []
  | nest (bracket : Bracket) {inner rest : List Mark} (hinner : WellNested inner) (hrest : WellNested rest) :
      WellNested (.opens bracket :: (inner ++ .closes bracket :: rest))

namespace Text

/-! ## Lines -/

/-- What a line opens or closes, whatever tabs stand in front of it. -/
def mark? (line : String) : Option Mark :=
  if unindent line = "\x7b" then some (.opens .brace)
  else if unindent line = "\x7d" then some (.closes .brace)
  else if "#region".toList <+: (unindent line).toList then some (.opens .region)
  else if "#endregion".toList <+: (unindent line).toList then some (.closes .region)
  else none

/-- The number of tabs that a line begins with. -/
def tabCount (line : String) : Nat :=
  (line.toList.takeWhile fun c => c = '\t').length

/-- Whether a line is the initializer of a constructor, whatever tabs stand in front of it. -/
def IsInitializer (line : String) : Prop :=
  ": this(".toList <+: (unindent line).toList ∧ ")".toList <:+ (unindent line).toList

instance (line : String) : Decidable (IsInitializer line) :=
  inferInstanceAs (Decidable (_ ∧ _))

/-- How much further in a line stands than the blocks around it. -/
def overhang (line : String) : Nat :=
  if IsInitializer line then 1 else 0

/-- How many of some lines open a block. -/
def openedBlocks (lines : List String) : Nat :=
  lines.countP fun line => mark? line = some (.opens .brace)

/-- How many of some lines close a block. -/
def closedBlocks (lines : List String) : Nat :=
  lines.countP fun line => mark? line = some (.closes .brace)

/-- How many blocks are open. -/
def depth (stack : List Bracket) : Nat :=
  stack.count .brace

/-- Reads a line that stands behind a margin of tabs, given what is open: what is open after it, if it closes what was
opened last and stands as far in as blocks are open around it. -/
def readLine (stack : List Bracket) (margin : Nat) (line : String) : Option (List Bracket) :=
  match mark? line, stack with
  | some (.opens bracket), _ => if margin + tabCount line = depth stack then some (bracket :: stack) else none
  | some (.closes bracket), top :: below =>
    if top = bracket ∧ margin + tabCount line = depth below then some below else none
  | some (.closes _), [] => none
  | none, _ => if margin + tabCount line = depth stack + overhang line then some stack else none

/-- Reads the lines of a text one after the other. Blank lines need no tabs. -/
def readLines (stack : List Bracket) : List String → Option (List Bracket)
  | [] => some stack
  | line :: rest =>
    if line = "" then readLines stack rest else (readLine stack 0 line).bind fun after => readLines after rest

/-! ## What is read is well nested -/

end Text

/-- Well nested marks one after another are well nested. -/
theorem WellNested.append {first second : List Mark} (hfirst : WellNested first) (hsecond : WellNested second) :
    WellNested (first ++ second) := by
  induction hfirst with
  | nil => exact hsecond
  | nest bracket hinner _ _ ih =>
    rw [List.cons_append, List.append_assoc, List.cons_append]
    exact .nest bracket hinner ih

/-- Marks that close what is open in its turn, each time after some well nested marks. -/
def Unwinds : List Bracket → List Mark → Prop
  | [], marks => WellNested marks
  | bracket :: below, marks =>
    ∃ inner rest, marks = inner ++ .closes bracket :: rest ∧ WellNested inner ∧ Unwinds below rest

/-- Well nested marks in front make no difference. -/
theorem Unwinds.append {stack : List Bracket} {first second : List Mark} (hfirst : WellNested first)
    (h : Unwinds stack second) : Unwinds stack (first ++ second) := by
  cases stack with
  | nil => exact hfirst.append h
  | cons bracket below =>
    obtain ⟨inner, rest, rfl, hinner, hrest⟩ := h
    exact ⟨first ++ inner, rest, (List.append_assoc _ _ _).symm, hfirst.append hinner, hrest⟩

namespace Text

/-- What can happen when a line is read: it opens a bracket, closes the last one, or does neither. -/
theorem readLine_cases {stack after : List Bracket} {margin : Nat} {line : String}
    (h : readLine stack margin line = some after) :
    (∃ bracket, mark? line = some (.opens bracket) ∧ margin + tabCount line = depth stack ∧ after = bracket :: stack) ∨
      (∃ bracket, mark? line = some (.closes bracket) ∧ margin + tabCount line = depth after ∧
        stack = bracket :: after) ∨
      (mark? line = none ∧ margin + tabCount line = depth stack + overhang line ∧ after = stack) := by
  unfold readLine at h
  split at h
  · rename_i bracket hmark
    obtain ⟨htabs, hafter⟩ := Option.ite_none_right_eq_some.mp h
    exact .inl ⟨bracket, hmark, htabs, (Option.some.inj hafter).symm⟩
  · rename_i bracket top below hmark
    obtain ⟨⟨rfl, htabs⟩, hafter⟩ := Option.ite_none_right_eq_some.mp h
    obtain rfl := Option.some.inj hafter
    exact .inr (.inl ⟨top, hmark, htabs, rfl⟩)
  · cases h
  · rename_i hmark
    obtain ⟨htabs, hafter⟩ := Option.ite_none_right_eq_some.mp h
    exact .inr (.inr ⟨hmark, htabs, (Option.some.inj hafter).symm⟩)

/-- An opening line is read where it stands as far in as blocks are open. -/
theorem readLine_of_opens {stack : List Bracket} {margin : Nat} {line : String} {bracket : Bracket}
    (hmark : mark? line = some (.opens bracket)) (htabs : margin + tabCount line = depth stack) :
    readLine stack margin line = some (bracket :: stack) := by
  unfold readLine
  rw [hmark]
  exact if_pos htabs

/-- A closing line is read where it stands as far in as blocks are open around what it closes. -/
theorem readLine_of_closes {below : List Bracket} {margin : Nat} {line : String} {bracket : Bracket}
    (hmark : mark? line = some (.closes bracket)) (htabs : margin + tabCount line = depth below) :
    readLine (bracket :: below) margin line = some below := by
  unfold readLine
  rw [hmark]
  exact if_pos ⟨rfl, htabs⟩

/-- Any other line is read where it stands as far in as blocks are open, an initializer one tab further. -/
theorem readLine_of_unmarked {stack : List Bracket} {margin : Nat} {line : String} (hmark : mark? line = none)
    (htabs : margin + tabCount line = depth stack + overhang line) : readLine stack margin line = some stack := by
  unfold readLine
  rw [hmark]
  exact if_pos htabs

/-- A blank line opens and closes nothing. -/
theorem mark?_empty : mark? "" = none := by
  decide

/-- Lines that are read to the end unwind what was open. -/
theorem unwinds_of_readLines {lines : List String} {stack : List Bracket} (h : readLines stack lines = some []) :
    Unwinds stack (lines.filterMap mark?) := by
  induction lines generalizing stack with
  | nil =>
    obtain rfl := Option.some.inj h
    exact .nil
  | cons line rest ih =>
    rw [readLines] at h
    by_cases hblank : line = ""
    · rw [if_pos hblank] at h
      rw [hblank, List.filterMap_cons_none mark?_empty]
      exact ih h
    · rw [if_neg hblank] at h
      obtain ⟨after, hline, hrest⟩ := Option.bind_eq_some_iff.mp h
      have hunwinds := ih hrest
      rcases readLine_cases hline with ⟨bracket, hmark, -, rfl⟩ | ⟨bracket, hmark, -, rfl⟩ | ⟨hmark, -, rfl⟩
      · obtain ⟨inner, behind, hbehind, hinner, hbelow⟩ := hunwinds
        have hwhole := hbelow.append (.nest bracket hinner .nil)
        rw [List.cons_append, List.append_assoc, List.cons_append, List.nil_append] at hwhole
        rwa [List.filterMap_cons_some hmark, hbehind]
      · rw [List.filterMap_cons_some hmark]
        exact ⟨[], _, rfl, .nil, hunwinds⟩
      · rwa [List.filterMap_cons_none hmark]

/-- Lines behind others are read with what these leave open. -/
theorem readLines_append (stack : List Bracket) (first second : List String) :
    readLines stack (first ++ second) = (readLines stack first).bind fun after => readLines after second := by
  induction first generalizing stack with
  | nil => rfl
  | cons line rest ih =>
    rw [List.cons_append, readLines, readLines]
    by_cases hblank : line = ""
    · rw [if_pos hblank, if_pos hblank, ih]
    · rw [if_neg hblank, if_neg hblank, Option.bind_assoc]
      exact congrArg _ (funext fun after => ih after)

/-! ## Every line stands as far in as it should -/

/-- A line that opens or closes something is no initializer. -/
theorem overhang_of_mark {line : String} {mark : Mark} (h : mark? line = some mark) : overhang line = 0 := by
  refine if_neg fun hinitializer => ?_
  have hcolon : (unindent line).toList.head? = some ':' := by
    obtain ⟨rest, hrest⟩ := hinitializer.1
    rw [← hrest, List.head?_append]
    rfl
  have hregion : ∀ start : String, start.toList.head? = some '#' → ¬start.toList <+: (unindent line).toList := by
    rintro start hstart ⟨rest, hrest⟩
    rw [← hrest, List.head?_append, hstart, Option.some_or, Option.some.injEq] at hcolon
    exact absurd hcolon (by decide)
  unfold mark? at h
  split at h
  · rename_i hbrace
    rw [hbrace] at hcolon
    exact absurd hcolon (by decide)
  · split at h
    · rename_i hbrace
      rw [hbrace] at hcolon
      exact absurd hcolon (by decide)
    · rw [if_neg (hregion _ (by decide)), if_neg (hregion _ (by decide))] at h
      cases h

/-- What is open after a line is what was open before and what the line opens, without what it closes. -/
theorem depth_of_readLine {stack after : List Bracket} {margin : Nat} {line : String}
    (h : readLine stack margin line = some after) :
    depth after + closedBlocks [line] = depth stack + openedBlocks [line] := by
  rcases readLine_cases h with ⟨bracket, hmark, -, rfl⟩ | ⟨bracket, hmark, -, rfl⟩ | ⟨hmark, -, rfl⟩
  · cases bracket <;> simp [depth, closedBlocks, openedBlocks, hmark]
  · cases bracket <;> simp [depth, closedBlocks, openedBlocks, hmark]
  · simp [depth, closedBlocks, openedBlocks, hmark]

/-- A line that is read stands as far in as blocks are open around it. -/
theorem tabCount_of_readLine {stack after : List Bracket} {margin : Nat} {line : String}
    (h : readLine stack margin line = some after) :
    margin + tabCount line + closedBlocks [line] = depth stack + overhang line := by
  rcases readLine_cases h with ⟨bracket, hmark, htabs, rfl⟩ | ⟨bracket, hmark, htabs, rfl⟩ | ⟨hmark, htabs, rfl⟩
  · simp [closedBlocks, hmark, htabs, overhang_of_mark hmark]
  · cases bracket <;> simp [depth, closedBlocks, hmark, htabs, overhang_of_mark hmark]
  · simp [closedBlocks, hmark, htabs]

/-- What is open after some lines is what was open before and what they open, without what they close. -/
theorem depth_of_readLines {lines : List String} {stack after : List Bracket} (h : readLines stack lines = some after) :
    depth after + closedBlocks lines = depth stack + openedBlocks lines := by
  induction lines generalizing stack with
  | nil =>
    obtain rfl := Option.some.inj h
    simp only [closedBlocks, openedBlocks, List.countP_nil]
  | cons line rest ih =>
    have hclosed : closedBlocks ([line] ++ rest) = closedBlocks [line] + closedBlocks rest := List.countP_append
    have hopened : openedBlocks ([line] ++ rest) = openedBlocks [line] + openedBlocks rest := List.countP_append
    rw [readLines] at h
    rw [← List.singleton_append, hclosed, hopened]
    by_cases hblank : line = ""
    · rw [if_pos hblank] at h
      have hrest := ih h
      simp only [hblank, closedBlocks, openedBlocks, List.countP_singleton, mark?_empty] at hrest ⊢
      simpa using hrest
    · rw [if_neg hblank] at h
      obtain ⟨between, hline, hrest⟩ := Option.bind_eq_some_iff.mp h
      have hstep := depth_of_readLine hline
      have hrest := ih hrest
      omega

/-- The layout of some lines follows their brackets:
1. What the lines open and close is well nested.
2. No more blocks are closed than were opened before, and in the end all of them are closed.
3. Every line that is not blank begins with as many tabs as blocks are open around it, an initializer with one more. -/
structure BracketLayout (lines : List String) : Prop where
  nested : WellNested (lines.filterMap mark?)
  closed_le_opened : ∀ before after, lines = before ++ after → closedBlocks before ≤ openedBlocks before
  closed_eq_opened : closedBlocks lines = openedBlocks lines
  tabs : ∀ before line after, lines = before ++ line :: after → line ≠ "" →
    tabCount line + closedBlocks (before ++ [line]) = openedBlocks before + if IsInitializer line then 1 else 0

/-- Lines that are read to the end have their layout. -/
theorem bracketLayout_of_readLines {lines : List String} (h : readLines [] lines = some []) : BracketLayout lines := by
  refine ⟨unwinds_of_readLines h, ?_, ?_, ?_⟩
  · rintro before after rfl
    rw [readLines_append] at h
    obtain ⟨stack, hbefore, -⟩ := Option.bind_eq_some_iff.mp h
    have hdepth : depth stack + closedBlocks before = 0 + openedBlocks before := depth_of_readLines hbefore
    omega
  · have hdepth : 0 + closedBlocks lines = 0 + openedBlocks lines := depth_of_readLines h
    omega
  · rintro before line after rfl hline
    rw [readLines_append] at h
    obtain ⟨stack, hbefore, hbehind⟩ := Option.bind_eq_some_iff.mp h
    rw [readLines, if_neg hline] at hbehind
    obtain ⟨next, hread, -⟩ := Option.bind_eq_some_iff.mp hbehind
    have hdepth : depth stack + closedBlocks before = 0 + openedBlocks before := depth_of_readLines hbefore
    have htabs := tabCount_of_readLine hread
    have hclosed : closedBlocks (before ++ [line]) = closedBlocks before + closedBlocks [line] := List.countP_append
    unfold overhang at htabs
    omega

end Text

end GeometrySource
