import GeometrySource.Proofs.Declaration.Landmark
import GeometrySource.Proofs.Layout.Spacing

/-!
# Neat lines

Most lines of a declaration are neat: they are trim, they are no head of a region and no landmark, and they have nothing to
do with constructors. Whether a line is neat shows at what is written down at its two ends; of the head of a static member
the beginning of its parameter list counts as well.
-/

namespace GeometrySource.Declaration

open Script Text

/-- A trim line that is no head of a region and has nothing to do with constructors. -/
structure Sound (line : String) : Prop where
  trim : Trim line
  inner : ¬IsRegionHead line
  unannounced : ¬StartsWith announcement (unindent line)
  unconstructed : ∀ w, IsWord w → ¬StartsWith (constructorOpening w) (unindent line)

/-- A sound line that is no landmark. -/
structure Neat (line : String) : Prop extends Sound line where
  unmarked : ¬IsLandmark (unindent line)

/-! ## Words -/

/-- Words that differ, or that different characters follow, diverge. -/
theorem diverge_words {a b x y : String} {c d : Char} (ha : IsWord a) (hb : IsWord b) (hx : x.toList = [c])
    (hy : y.toList = [d]) (hc : isWordChar c = false) (hd : isWordChar d = false) (hne : a = b → c ≠ d) :
    Diverge (a ++ x) (b ++ y) := by
  have hprefix : ∀ {a b : List Char} {c d : Char}, (∀ w ∈ a, isWordChar w = true) → (∀ w ∈ b, isWordChar w = true) →
      isWordChar c = false → isWordChar d = false → a ++ [c] <+: b ++ [d] → a = b ∧ c = d := by
    rintro a b c d ha hb hc hd ⟨rest, hrest⟩
    have hword := congrArg (List.takeWhile isWordChar) hrest
    rw [List.append_assoc, List.singleton_append, List.takeWhile_append_of_pos ha, List.takeWhile_append_of_pos hb,
      List.takeWhile_cons_of_neg (by simp [hc]), List.takeWhile_cons_of_neg (by simp [hd]), List.append_nil,
      List.append_nil] at hword
    rw [hword, List.append_assoc, List.append_right_inj, List.singleton_append] at hrest
    exact ⟨hword, (List.cons.inj hrest).1⟩
  constructor
  · intro h
    rw [StartsWith, String.toList_append, String.toList_append, hx, hy] at h
    obtain ⟨hword, hmark⟩ := hprefix ha.2 hb.2 hc hd h
    exact hne (String.toList_inj.mp hword) hmark
  · intro h
    rw [StartsWith, String.toList_append, String.toList_append, hx, hy] at h
    obtain ⟨hword, hmark⟩ := hprefix hb.2 ha.2 hd hc h
    exact hne (String.toList_inj.mp hword).symm hmark.symm

/-- A line in which `public` and another word begin is not the head of a constructor. -/
theorem not_startsWith_constructorOpening {line word : String} (hword : IsWord word)
    (h : StartsWith (publicOpening ++ word ++ " ") line) (w : String) (hw : IsWord w) :
    ¬StartsWith (constructorOpening w) line := by
  have hdiverge : Diverge (publicOpening ++ word ++ " ") (constructorOpening w) := by
    rw [constructorOpening, String.append_assoc, String.append_assoc]
    exact (diverge_append_append _).mpr
      (diverge_words hword hw (c := ' ') (d := '(') rfl rfl (by decide) (by decide) fun _ => by decide)
  exact hdiverge.not_startsWith_of_startsWith h

/-! ## Lines and their ends -/

/-- Whether a character shows and is no opening brace. -/
def isPlainEnd (c : Char) : Bool :=
  isVisible c && c ≠ '\x7b'

/-- A line that ends so is trim. -/
theorem trim_of_ends {line : String} (h : Ends isPlainEnd line) : Trim line := by
  obtain ⟨c, hlast, hplain⟩ := ends_iff.mp h
  obtain ⟨hvisible, hbrace⟩ := (Bool.and_eq_true _ _).mp hplain
  refine ⟨ends_iff.mpr ⟨c, hlast, hvisible⟩, fun hopens => ?_⟩
  rw [opensBlock, decide_eq_true_iff, Option.mem_def.mp hlast, Option.some.injEq] at hopens
  exact absurd hopens (of_decide_eq_true hbrace)

/-- A line that diverges from a tab has none in front. -/
theorem unindent_of_diverge {line : String} (h : Diverge line "\t") : unindent line = line := by
  have hne : line.toList ≠ [] := fun hempty =>
    h.1 (by rw [StartsWith, hempty]; exact List.nil_prefix)
  obtain ⟨c, rest, hlist⟩ := List.exists_cons_of_ne_nil hne
  refine unindent_of_head? (c := c) (by rw [hlist, List.head?_cons]) ?_
  rintro rfl
  exact h.2 (by rw [StartsWith, hlist]; exact ⟨rest, rfl⟩)

/-- A line that diverges from the head of a region is none. -/
theorem not_isRegionHead_of_diverge {line : String} (htab : Diverge line "\t") (h : Diverge line "#region") :
    ¬IsRegionHead line := by
  rw [IsRegionHead, unindent_of_diverge htab]
  exact h.not_startsWith

/-- A line that diverges from the ends of blocks and of regions is none of them. -/
theorem not_isClosing_of_diverge {line : String} (htab : Diverge line "\t") (hbrace : Diverge line "\x7d")
    (hregion : Diverge line "#endregion") : ¬IsClosing line := by
  rw [IsClosing, unindent_of_diverge htab, not_or]
  exact ⟨fun hline => hbrace.2 (hline ▸ List.prefix_rfl), hregion.not_startsWith⟩

/-- A line that begins with `public` is not indented, no head of a region and no doc comment. -/
theorem of_publicOpening {line : String} (h : StartsWith publicOpening line) :
    unindent line = line ∧ ¬IsRegionHead line ∧ ¬StartsWith announcement line := by
  have hdiverge : ∀ start, Diverge publicOpening start → Diverge line start := fun start hstart => hstart.of_startsWith h
  have htab := hdiverge "\t" (by decide)
  exact ⟨unindent_of_diverge htab, not_isRegionHead_of_diverge htab (hdiverge _ (by decide)),
    (hdiverge _ (by decide)).not_startsWith⟩

/-- A line in which `public` and a word begin is sound. -/
theorem sound_of_public {line word : String} (hword : IsWord word) (h : StartsWith (publicOpening ++ word ++ " ") line)
    (hend : Ends isPlainEnd line) : unindent line = line ∧ Sound line := by
  obtain ⟨hunindent, hregion, hannounced⟩ := of_publicOpening h.of_append.of_append
  refine ⟨hunindent, trim_of_ends hend, hregion, ?_, ?_⟩
  · rwa [hunindent]
  · rw [hunindent]
    exact not_startsWith_constructorOpening hword h

/-! ## Calm beginnings -/

/-- How the lines that are not neat begin. -/
def tellingOpenings : List String :=
  ["\t", "#region", announcement, publicOpening]

/-- The word behind `public` in a line. -/
def memberWord (line : String) : String :=
  String.ofList ((line.toList.drop publicOpening.toList.length).takeWhile isWordChar)

/-- Whether a text is the beginning of a member that is not static. -/
def LeadsMember (text : String) : Prop :=
  (IsWord (memberWord text) ∧ memberWord text ≠ "static" ∧ memberWord text ≠ "struct") ∧
    StartsWith (publicOpening ++ memberWord text ++ " ") text

/-- Whether lines that begin with a text are neat, whatever follows. -/
def Calm (text : String) : Prop :=
  (∀ opening ∈ tellingOpenings, Diverge text opening) ∨ LeadsMember text

instance (text : String) : Decidable (LeadsMember text) :=
  inferInstanceAs (Decidable (_ ∧ _))

instance (text : String) : Decidable (Calm text) :=
  have : Decidable (∀ opening ∈ tellingOpenings, Diverge text opening) := List.decidableBAll _ _
  inferInstanceAs (Decidable (_ ∨ _))

/-- A line in which `public` and a word begin has this word behind `public`. -/
theorem memberWord_of_startsWith {line word : String} (hword : IsWord word)
    (h : StartsWith (publicOpening ++ word ++ " ") line) : memberWord line = word := by
  obtain ⟨rest, hrest⟩ := h
  rw [memberWord, ← hrest, String.append_assoc, String.toList_append, List.append_assoc, List.drop_left,
    String.toList_append, List.append_assoc, List.takeWhile_append_of_pos hword.2,
    show " ".toList = [' '] from rfl, List.singleton_append, List.takeWhile_cons_of_neg (by decide), List.append_nil,
    String.ofList_toList]

/-- A text is the beginning of a member that is not static if another word stands behind `public`. -/
theorem leadsMember_of_startsWith {text word : String} (hword : IsWord word) (hstatic : word ≠ "static")
    (hstruct : word ≠ "struct") (h : StartsWith (publicOpening ++ word ++ " ") text) : LeadsMember text := by
  rw [LeadsMember, memberWord_of_startsWith hword h]
  exact ⟨⟨hword, hstatic, hstruct⟩, h⟩

/-- What follows a calm beginning makes no difference. -/
@[simp]
theorem calm_append {first : String} (h : Calm first) (rest : String) : Calm (first ++ rest) := by
  refine h.imp (fun hdiverge opening hmem => diverge_append (hdiverge opening hmem) rest) ?_
  rintro ⟨⟨hword, hstatic, hstruct⟩, hstart⟩
  exact leadsMember_of_startsWith hword hstatic hstruct (hstart.append rest)

/-- A line is calm if the type of a member, or the like, stands behind `public`. -/
theorem calm_of_word {word : String} (h : IsWord word) (hstatic : word ≠ "static") (hstruct : word ≠ "struct") :
    Calm (publicOpening ++ word ++ " ") :=
  .inr (leadsMember_of_startsWith h hstatic hstruct List.prefix_rfl)

/-- A line that is no member is no landmark. -/
theorem not_isLandmark_of_diverge {line : String} (h : Diverge line publicOpening) : ¬IsLandmark line := by
  have hpublic : ∀ start, StartsWith publicOpening start → ¬StartsWith start line := fun start hstart hline =>
    h.not_startsWith (hstart.trans hline)
  rintro (hstruct | hclass | ⟨hstatic, -⟩)
  · exact hpublic structOpening (by decide) hstruct
  · exact hpublic classOpening (by decide) hclass
  · exact hpublic staticOpening (by decide) hstatic

/-- A line that is no member is not the head of a constructor. -/
theorem not_startsWith_constructorOpening_of_diverge {line : String} (h : Diverge line publicOpening) (w : String) :
    ¬StartsWith (constructorOpening w) line := by
  rw [constructorOpening, String.append_assoc]
  exact fun hline => h.not_startsWith ((startsWith_append publicOpening _).trans hline)

/-- A line that is neither indented nor a member nor announces one makes no difference to landmarks. -/
theorem landmarked_cons_of_diverge {type text : String} {marks : List String} {rest : Script} (htab : Diverge text "\t")
    (hannounced : Diverge text announcement) (hpublic : Diverge text publicOpening) :
    Landmarked type marks (.line text :: rest) ↔ Landmarked type marks rest := by
  have hunindent := unindent_of_diverge htab
  apply landmarked_line_cons <;> rw [hunindent]
  · exact not_isLandmark_of_diverge hpublic
  · exact fun w _ => not_startsWith_constructorOpening_of_diverge hpublic w
  · exact hannounced.not_startsWith

/-- A line that begins calmly is neat if it is trim. -/
theorem neat_of_calm_of_trim {line : String} (h : ∀ opening ∈ tellingOpenings, Diverge line opening) (htrim : Trim line) :
    Neat line := by
  have htab := h "\t" (by decide)
  have hunindent := unindent_of_diverge htab
  have hpublic := h publicOpening (by decide)
  refine ⟨⟨htrim, not_isRegionHead_of_diverge htab (h _ (by decide)), ?_, fun w _ => ?_⟩, ?_⟩
  · rw [hunindent]
    exact (h announcement (by decide)).not_startsWith
  · rw [hunindent]
    exact not_startsWith_constructorOpening_of_diverge hpublic w
  · rw [hunindent]
    exact not_isLandmark_of_diverge hpublic

/-- A line that begins calmly and ends plainly is neat. -/
@[simp]
theorem neat_of_calm {line : String} (h : Calm line) (hend : Ends isPlainEnd line) : Neat line := by
  rcases h with hdiverge | ⟨⟨hword, hstatic, hstruct⟩, hstart⟩
  · exact neat_of_calm_of_trim hdiverge (trim_of_ends hend)
  · obtain ⟨hunindent, hsound⟩ := sound_of_public hword hstart hend
    refine ⟨hsound, ?_⟩
    -- All landmarks have `struct` or `static` behind `public`, and the word of this line is neither.
    have hother : ∀ other, IsWord other → memberWord line ≠ other →
        ¬StartsWith (publicOpening ++ other ++ " ") line := by
      intro other hother hne
      have hdiverge : Diverge (publicOpening ++ memberWord line ++ " ") (publicOpening ++ other ++ " ") := by
        rw [String.append_assoc, String.append_assoc]
        exact (diverge_append_append _).mpr
          (diverge_words hword hother (c := ' ') (d := ' ') rfl rfl (by decide) (by decide) fun heq => absurd heq hne)
      exact hdiverge.not_startsWith_of_startsWith hstart
    rw [hunindent]
    rintro (hline | hline | ⟨hline, -⟩)
    · exact hother "struct" (by decide) hstruct hline
    · exact hother "static" (by decide) hstatic (StartsWith.trans (by decide) hline)
    · exact hother "static" (by decide) hstatic hline

/-- Whether a character is the first of no line that is telling. -/
def isCalmStart (c : Char) : Bool :=
  !(['\t', '#', '/', 'p'].contains c)

theorem calm_of_begins {text : String} (h : Begins isCalmStart text) : Calm text := by
  have hopenings : ∀ opening ∈ tellingOpenings, Begins (fun c => !isCalmStart c) opening := by decide
  exact .inl fun opening hmem => diverge_of_begins h (hopenings opening hmem)

/-- A line that is written down is neat if its first and its last character say so. -/
theorem neat_of_written {line : String}
    (h : Written (fun cs => cs.head?.any isCalmStart = true ∧ cs.getLast?.any isPlainEnd = true) line) : Neat line := by
  obtain ⟨cs, rfl, hfirst, hlast⟩ := h
  refine neat_of_calm (calm_of_begins ?_) ?_
  · rwa [Begins, String.toList_ofList]
  · rwa [Ends, String.toList_ofList]

/-- An opening brace on a line of its own is neat. -/
theorem neat_brace : Neat "\x7b" :=
  neat_of_calm_of_trim (by decide) ⟨by decide, fun _ => by decide⟩

/-- Lines that are the same without the tabs in front and end alike are neat together. -/
theorem Neat.congr {line other : String} (h : Neat line) (hunindent : unindent other = unindent line)
    (hends : ∀ p, Ends p other ↔ Ends p line) : Neat other := by
  have hopens : opensBlock other = opensBlock line := by
    rw [Bool.eq_iff_iff, ← ends_brace_iff, ← ends_brace_iff, hends]
  refine ⟨⟨⟨(hends _).mpr h.trim.visible, ?_⟩, ?_, ?_, ?_⟩, ?_⟩
  · rw [hopens, hunindent]
    exact h.trim.brace
  · rw [IsRegionHead, hunindent]
    exact h.inner
  · rw [hunindent]
    exact h.unannounced
  · rw [hunindent]
    exact h.unconstructed
  · rw [hunindent]
    exact h.unmarked

/-- A tab in front makes no difference. -/
@[simp]
theorem neat_tab_append {line : String} : Neat ("\t" ++ line) ↔ Neat line := by
  by_cases hempty : line = ""
  · have hblank : ¬Ends isVisible "\t" ∧ ¬Ends isVisible "" := by decide
    rw [hempty, String.append_empty]
    exact ⟨fun h => absurd h.trim.visible hblank.1, fun h => absurd h.trim.visible hblank.2⟩
  · have hends : ∀ p, Ends p ("\t" ++ line) ↔ Ends p line := by
      intro p
      rw [ends_append, or_iff_left fun hnone => hempty hnone.1]
    have hunindent := unindent_tab_append line
    exact ⟨fun h => h.congr hunindent.symm fun p => (hends p).symm, fun h => h.congr hunindent hends⟩

/-! ## Static members -/

/-- Behind the beginning of a static member the first parenthesis is that of its parameter list. -/
theorem fromParenthesis_static {front : String} (h : '(' ∉ front.toList) (inner : String) :
    fromParenthesis (staticOpening ++ front ++ "(" ++ inner) = "(" ++ inner := by
  have hpass : ∀ c ∈ (staticOpening ++ front).toList, decide (c ≠ '(') = true := by
    intro c hc
    rw [decide_eq_true_iff]
    rintro rfl
    rcases List.mem_append.mp (String.toList_append ▸ hc) with hopening | hfront
    · exact absurd hopening (by decide)
    · exact h hfront
  have hparenthesis : "(".toList = ['('] := rfl
  rw [fromParenthesis, String.append_assoc, String.toList_append, List.dropWhile_append_of_pos hpass, String.toList_append,
    hparenthesis, List.singleton_append, List.dropWhile_cons_of_neg (by simp), ← String.toList_inj, String.toList_ofList,
    String.toList_append, hparenthesis, List.singleton_append]

/-- The head of a static member is no static class if something else stands behind `static`. -/
theorem not_startsWith_classOpening {line : String} (front inner : String) (hline : line = staticOpening ++ front ++ inner)
    (h : Diverge front "partial class ") : ¬StartsWith classOpening line := by
  have hopening : classOpening = staticOpening ++ "partial class " := rfl
  rw [hline, hopening, String.append_assoc, startsWith_append_append]
  exact (diverge_append h _).not_startsWith

/-- The head of a static member is an extension method exactly if its parameter list begins with `this`. -/
theorem isExtensionHead_static_iff {line : String} (front inner : String)
    (hline : line = staticOpening ++ front ++ "(" ++ inner) (hfront : '(' ∉ front.toList) : IsExtensionHead line ↔ StartsWith "this " inner := by
  have hstart : StartsWith staticOpening line := by
    rw [hline, String.append_assoc, String.append_assoc]
    exact startsWith_append _ _
  have hopening : "(this " = "(" ++ "this " := rfl
  rw [IsExtensionHead, and_iff_right hstart, hline, fromParenthesis_static hfront, hopening, startsWith_append_append]

/-- The head of a static member is neat if it is no static class and its parameter list does not begin with `this`. -/
theorem neat_static {line : String} (front inner : String) (hline : line = staticOpening ++ front ++ "(" ++ inner)
    (hfront : '(' ∉ front.toList) (hclass : Diverge front "partial class ") (hthis : Diverge inner "this ")
    (hend : Ends isPlainEnd inner) : Neat line := by
  have hstart : StartsWith staticOpening line := by
    rw [hline, String.append_assoc, String.append_assoc]
    exact startsWith_append _ _
  have hends : Ends isPlainEnd line := by
    rw [hline, ends_append]
    exact .inl hend
  obtain ⟨hunindent, hsound⟩ := sound_of_public (show IsWord "static" by decide) hstart hends
  refine ⟨hsound, ?_⟩
  rw [hunindent]
  rintro (hstruct | hmark | hmark)
  · exact (show Diverge staticOpening structOpening by decide).not_startsWith_of_startsWith hstart hstruct
  · rw [String.append_assoc] at hline
    exact not_startsWith_classOpening _ _ hline hclass hmark
  · exact hthis.not_startsWith ((isExtensionHead_static_iff _ _ hline hfront).mp hmark)

end GeometrySource.Declaration
