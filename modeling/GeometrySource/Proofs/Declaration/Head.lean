import GeometrySource.Proofs.Declaration.Nesting
import GeometrySource.Proofs.Layout.Wording
import GeometrySource.Proofs.Naming.TypeName
import GeometrySource.Proofs.Text.Edge
import GeometrySource.Proofs.Text.Mention

/-!
# Heads of members

The head of a member is a line that begins with `public` and ends with a parenthesis, and the types in its parameter list
are what the declaration refers to; the source of a conversion is one of them. A line refers to a shape's type only if it
mentions its name, and most lines show at one of their ends that they are no head.
-/

namespace GeometrySource.Declaration

open Script Text

/-- How the head of a member begins. -/
def publicOpening : String := "public "

/-- The words in the types of the parameters that a line lists if it is the head of a member, tabs in front or not. Of a
parameter all words but the last belong to the type; the last one is its name. -/
def parameterTypes (line : String) : List String :=
  if publicOpening.toList <+: (unindent line).toList ∧ ")".toList <:+ line.toList then
    (cut ',' 0 ((tokens line).dropWhile (· ≠ .mark '(')).tail.dropLast).flatMap fun parameter =>
      (wordsAmong parameter).dropLast
  else
    []

@[simp]
theorem parameterTypes_empty : parameterTypes "" = [] := by
  decide

/-- A tab in front makes no difference. -/
theorem parameterTypes_tab_append (line : String) : parameterTypes ("\t" ++ line) = parameterTypes line := by
  have hlist : ("\t" ++ line).toList = '\t' :: line.toList := by simp
  have htokens : tokens ("\t" ++ line) = .mark '\t' :: tokens line := tokens_append (.inl (by decide))
  have hend : ")".toList <:+ ("\t" ++ line).toList ↔ ")".toList <:+ line.toList := by
    rw [hlist, List.suffix_cons_iff]
    exact or_iff_right (by simp)
  have hdrop : (tokens ("\t" ++ line)).dropWhile (· ≠ .mark '(') = (tokens line).dropWhile (· ≠ .mark '(') := by
    rw [htokens, List.dropWhile_cons_of_pos (by decide)]
  simp only [parameterTypes, unindent_tab_append, hend, hdrop]

/-- Some tabs in front make no difference. -/
theorem parameterTypes_tabs_append (count : Nat) (line : String) :
    parameterTypes (tabs count ++ line) = parameterTypes line := by
  induction count with
  | zero => simp
  | succ count ih => rw [tabs_succ_append, parameterTypes_tab_append, ih]

/-- The types of parameters are made of words of the line. -/
theorem mem_words_of_mem_parameterTypes {line w : String} (h : w ∈ parameterTypes line) : w ∈ words line := by
  unfold parameterTypes at h
  split at h
  · obtain ⟨parameter, hcut, hw⟩ := List.mem_flatMap.mp h
    have htoken : .word w ∈ parameter := mem_wordsAmong.mp (List.dropLast_subset _ hw)
    have hinside := List.mem_of_mem_tail (List.dropLast_subset _ (mem_of_mem_cut hcut htoken))
    exact mem_wordsAmong.mpr ((List.dropWhile_suffix _).mem hinside)
  · cases h

/-- A parameter whose type and name are words has these as its tokens. -/
theorem tokens_parameter {p : Parameter} (htype : IsWord p.type) (hname : IsWord p.name) :
    tokens p.text = [.word p.type, .word p.name] := by
  rw [Parameter.text, String.append_assoc, tokens_append (.inr (BeginsApart.append _ (by decide) (by decide))),
    tokens_append (.inl (by decide)), tokens_of_isWord htype, tokens_of_isWord hname]
  rfl

/-- A list of such parameters has these tokens with commas between them and parentheses around them. -/
theorem tokens_parameterList {parameters : List Parameter} (h : ∀ p ∈ parameters, IsWord p.type ∧ IsWord p.name)
    (front : String) :
    tokens (front ++ parameterList parameters) =
      tokens front ++ .mark '(' ::
        ([.mark ','].intercalate (parameters.map fun p => [.word p.type, .word p.name]) ++ [.mark ')']) := by
  have hseparator : Separates ", " ',' := by decide
  have hlist : tokens (commaList (parameters.map Parameter.text)) =
      [.mark ','].intercalate (parameters.map fun p => [.word p.type, .word p.name]) := by
    rw [commaList, tokens_intercalate _ (by decide) hseparator.2.1 hseparator.2.2, hseparator.1, List.map_map]
    exact congrArg _ (List.map_congr_left fun p hp => tokens_parameter (h p hp).1 (h p hp).2)
  rw [parameterList, tokens_append (.inr (.append _ (.append _ (by decide) (by decide)) (by simp))),
    tokens_append (.inr (by decide)), tokens_append (.inl (by decide)), hlist]
  rfl

/-- The head of a member refers to the types of its parameters, where these and their names are words. -/
theorem parameterTypes_head {front : String} {parameters : List Parameter}
    (hpublic : publicOpening.toList <+: front.toList) (hfront : '(' ∉ front.toList) (hne : parameters ≠ [])
    (hwords : ∀ p ∈ parameters, IsWord p.type ∧ IsWord p.name) :
    parameterTypes (front ++ parameterList parameters) = parameters.map Parameter.type := by
  have hstart : (front ++ parameterList parameters).toList.head? = some 'p' := by
    obtain ⟨rest, hrest⟩ := hpublic
    rw [String.toList_append, ← hrest]
    rfl
  have hhead : publicOpening.toList <+: (unindent (front ++ parameterList parameters)).toList ∧
      ")".toList <:+ (front ++ parameterList parameters).toList := by
    rw [unindent_of_head? hstart (by decide), parameterList, ← String.append_assoc, String.toList_append,
      String.toList_append]
    exact ⟨(hpublic.trans (List.prefix_append _ _)).trans (List.prefix_append _ _), List.suffix_append _ _⟩
  have hpass : ∀ t ∈ tokens front, decide (t ≠ .mark '(') = true := by
    intro t ht
    rw [decide_eq_true_iff]
    rintro rfl
    exact hfront (mem_of_mark_mem_scan ht)
  have hpieces : ∀ piece ∈ parameters.map fun p => [Token.word p.type, Token.word p.name], uncut? ',' 0 piece = some 0 := by
    simp [uncut?, parentheses]
  rw [parameterTypes, if_pos hhead, tokens_parameterList hwords, List.dropWhile_append_of_pos hpass,
    List.dropWhile_cons_of_neg (by simp), List.tail_cons, List.dropLast_concat,
    cut_intercalate (by simpa using hne) hpieces, List.flatMap_map]
  exact List.map_eq_flatMap.symm

/-- The head of a conversion refers to the type that is converted. -/
example : parameterTypes "public static explicit operator CircleI(CircleD value)" = ["CircleD"] := by decide

/-- Whether every shape type that a text refers to in a parameter list has a property. -/
def Cites (cited : String → Prop) (text : String) : Prop :=
  ∀ line ∈ lines text, ∀ w ∈ parameterTypes line, IsShapeTypeName w → cited w

/-- Whether every shape type that a text mentions has a property. -/
def Names (cited : String → Prop) (text : String) : Prop :=
  ∀ w ∈ words text, IsShapeTypeName w → cited w

/-- Only what is mentioned is referred to. -/
theorem Names.cites {cited : String → Prop} {text : String} (h : Names cited text) : Cites cited text :=
  fun _ hline w hw => h w (mem_words_of_mem_lines hline (mem_words_of_mem_parameterTypes hw))

/-! ## Lines that are no heads -/

/-- Whether a text shows at its beginning that it is no head, behind tabs if there are any. -/
def StartsQuiet (text : String) : Prop :=
  (text.toList.dropWhile fun c => c = '\t').head?.any (· ≠ 'p') = true

/-- Whether a character is no closing parenthesis. -/
def isQuietEnd (c : Char) : Bool :=
  c ≠ ')'

/-- Whether a text shows at its end that it is no head. -/
abbrev EndsQuiet (text : String) : Prop :=
  Ends isQuietEnd text

instance (text : String) : Decidable (StartsQuiet text) :=
  inferInstanceAs (Decidable (_ = true))

/-- Only what stands in front makes a difference, unless it is nothing but tabs. -/
@[simp]
theorem startsQuiet_append {first second : String} :
    StartsQuiet (first ++ second) ↔
      StartsQuiet first ∨ (first.toList.dropWhile fun c => c = '\t') = [] ∧ StartsQuiet second := by
  unfold StartsQuiet
  rw [String.toList_append, List.dropWhile_append]
  cases hfirst : first.toList.dropWhile fun c => c = '\t' with
  | nil => simp
  | cons c rest => simp

/-- A line that begins so is no head. -/
theorem parameterTypes_of_startsQuiet {line : String} (h : StartsQuiet line) : parameterTypes line = [] := by
  refine if_neg fun ⟨⟨rest, hrest⟩, _⟩ => ?_
  have hlist : (unindent line).toList = line.toList.dropWhile fun c => c = '\t' := by simp [unindent]
  have hopening : publicOpening.toList.head? = some 'p' := by decide
  rw [StartsQuiet, ← hlist, ← hrest, List.head?_append, hopening, Option.some_or] at h
  exact absurd h (by decide)

/-- A line that ends so is no head. -/
theorem parameterTypes_of_endsQuiet {line : String} (h : EndsQuiet line) : parameterTypes line = [] := by
  refine if_neg fun ⟨_, ⟨front, hfront⟩⟩ => ?_
  obtain ⟨c, hlast, hc⟩ := ends_iff.mp h
  rw [← hfront, List.getLast?_append] at hlast
  have hparenthesis : c = ')' := by simpa using hlast.symm
  exact absurd hc (by simp [hparenthesis, isQuietEnd])

/-- A line that ends in a word is no head. -/
theorem endsQuiet_of_isWord {word : String} (h : IsWord word) : EndsQuiet word := by
  obtain ⟨c, hc⟩ : ∃ c, word.toList.getLast? = some c :=
    Option.isSome_iff_exists.mp (by simpa [List.getLast?_isSome] using h.1)
  have hword : isWordChar c = true := h.2 c (List.mem_of_getLast? hc)
  refine ends_iff.mpr ⟨c, hc, ?_⟩
  rw [isQuietEnd, decide_eq_true_iff]
  rintro rfl
  exact absurd hword (by decide)

/-- Whether a text shows at one of its ends that it is no head, or else mentions only shape types with a property. -/
def Leads (cited : String → Prop) (text : String) : Prop :=
  StartsQuiet text ∨ EndsQuiet text ∨ Names cited text

variable {cited : String → Prop}

@[simp]
theorem leads_of_startsQuiet {text : String} (h : StartsQuiet text) : Leads cited text := Or.inl h

@[simp]
theorem leads_of_endsQuiet {text : String} (h : EndsQuiet text) : Leads cited text := Or.inr (Or.inl h)

@[simp]
theorem leads_of_names {text : String} (h : Names cited text) : Leads cited text := Or.inr (Or.inr h)

/-- A single line that leads to a mention refers to nothing else. -/
theorem Leads.cites {text : String} (h : Leads cited text) (hsingle : SingleLine text) : Cites cited text := by
  rcases h with hstart | hend | hnames
  · intro line hline w hw
    rw [lines_of_singleLine hsingle, List.mem_singleton] at hline
    rw [hline, parameterTypes_of_startsQuiet hstart] at hw
    cases hw
  · intro line hline w hw
    rw [lines_of_singleLine hsingle, List.mem_singleton] at hline
    rw [hline, parameterTypes_of_endsQuiet hend] at hw
    cases hw
  · exact hnames.cites

/-! ## What texts mention -/

/-- Whether no word among some characters begins like a shape. -/
def Foreign (cs : List Char) : Prop :=
  ∀ t ∈ scan [] cs, ∀ w ∈ t.word?, beginsLikeShape w = false

instance (cs : List Char) : Decidable (Foreign cs) :=
  have : ∀ t : Token, Decidable (∀ w ∈ t.word?, beginsLikeShape w = false) := fun t => Option.decidableForallMem t.word?
  List.decidableBAll _ _

/-- Whether no word goes on in front of some characters. -/
def HeadApart (cs : List Char) : Prop :=
  ∃ c ∈ cs.head?, isWordChar c = false

/-- Whether no word goes on behind some characters. -/
def LastApart (cs : List Char) : Prop :=
  ∃ c ∈ cs.getLast?, isWordChar c = false

instance (cs : List Char) : Decidable (HeadApart cs) :=
  Option.decidableExistsMem cs.head?

instance (cs : List Char) : Decidable (LastApart cs) :=
  Option.decidableExistsMem cs.getLast?

/-- Texts that do not meet inside a word mention what both of them do. -/
theorem names_append {first second : String} (h : EndsApart first ∨ BeginsApart second) :
    Names cited (first ++ second) ↔ Names cited first ∧ Names cited second := by
  simp only [Names, words_append h, List.mem_append, or_imp, forall_and]

/-- A text that is written down mentions no shape type if its characters say so. -/
theorem names_of_written {text : String} (h : Written Foreign text) : Names cited text := by
  obtain ⟨cs, rfl, hforeign⟩ := h
  intro w hw hshape
  have htoken : .word w ∈ tokens (String.ofList cs) := mem_wordsAmong.mp hw
  rw [tokens, String.toList_ofList] at htoken
  exact absurd hshape.beginsLikeShape (by simp [hforeign _ htoken w rfl])

/-- A text that is written down, in front of another one. -/
theorem names_written_append {first rest : String} (h : Written (fun cs => Foreign cs ∧ LastApart cs) first) :
    Names cited (first ++ rest) ↔ Names cited rest := by
  obtain ⟨cs, rfl, hforeign, c, hc, hapart⟩ := h
  have hends : EndsApart (String.ofList cs) := by
    intro d hd
    rw [String.toList_ofList] at hd
    exact Option.mem_unique hc hd ▸ hapart
  rw [names_append (.inl hends)]
  exact and_iff_right (names_of_written (.intro hforeign))

/-- A text that is written down, behind another one. -/
theorem names_append_written {rest last : String} (h : Written (fun cs => Foreign cs ∧ HeadApart cs) last) :
    Names cited (rest ++ last) ↔ Names cited rest := by
  obtain ⟨cs, rfl, hforeign, c, hc, hapart⟩ := h
  have hbegins : BeginsApart (String.ofList cs) := by
    intro d hd
    rw [String.toList_ofList] at hd
    exact Option.mem_unique hc hd ▸ hapart
  rw [names_append (.inr hbegins)]
  exact and_iff_left (names_of_written (.intro hforeign))

/-- A text that is written down, between two others. -/
theorem names_append_written_append {first middle last : String}
    (h : Written (fun cs => Foreign cs ∧ HeadApart cs ∧ LastApart cs) middle) :
    Names cited (first ++ (middle ++ last)) ↔ Names cited first ∧ Names cited last := by
  obtain ⟨cs, rfl, hforeign, hhead, hlast⟩ := h
  have hbegins : BeginsApart (String.ofList cs ++ last) := by
    obtain ⟨c, hc, hapart⟩ := hhead
    refine BeginsApart.append last (fun d hd => ?_) ?_
    · rw [String.toList_ofList] at hd
      exact Option.mem_unique hc hd ▸ hapart
    · rintro hempty
      rw [← String.toList_inj, String.toList_ofList, String.toList_empty] at hempty
      simp [hempty] at hc
  rw [names_append (.inr hbegins), names_written_append (.intro ⟨hforeign, hlast⟩)]

/-- A word mentions itself. -/
theorem names_of_isWord {word : String} (h : IsWord word) (hcited : IsShapeTypeName word → cited word) :
    Names cited word := by
  intro w hw hshape
  rw [words_of_isWord h, List.mem_singleton] at hw
  exact hw ▸ hcited (hw ▸ hshape)

@[simp]
theorem names_keyword (n : Numeric) : Names cited n.keyword :=
  names_of_isWord n.isWord_keyword fun h => absurd h (not_isShapeTypeName_keyword n)

@[simp]
theorem names_point (ctx : Context) : Names cited ctx.point :=
  names_of_isWord (isWord_typeName _ _ _) fun h => absurd h (not_isShapeTypeName_typeName (by simp) _ _)

@[simp]
theorem names_vector (ctx : Context) : Names cited ctx.vector :=
  names_of_isWord (isWord_typeName _ _ _) fun h => absurd h (not_isShapeTypeName_typeName (by simp) _ _)

@[simp]
theorem names_size (ctx : Context) : Names cited ctx.size :=
  names_of_isWord (isWord_typeName _ _ _) fun h => absurd h (not_isShapeTypeName_typeName (by simp) _ _)

@[simp]
theorem names_shapeParameter (ctx : Context) : Names cited ctx.parameter := by
  unfold Context.parameter
  cases ctx.shape <;> exact names_of_written (.intro (by decide))

@[simp]
theorem names_scalar (ctx : Context) : Names cited ctx.scalar :=
  names_keyword ctx.numeric

theorem names_type (f : Field) (ctx : Context) : Names cited (f.type ctx) := by
  unfold Field.type Field.typeFor
  split
  · exact names_keyword _
  · exact names_point ctx
  · exact names_vector ctx

/-- The parameter spelling of a word mentions no shape type. -/
theorem names_parameterName {name : String} (h : IsWord name) : Names cited (parameterName name) :=
  names_of_isWord (isWord_parameterName h) fun hshape => absurd hshape (not_isShapeTypeName_parameterName name)

/-- Texts with commas between them mention what each of them does. -/
theorem names_commaList {texts : List String} :
    Names cited (commaList texts) ↔ ∀ text ∈ texts, Names cited text := by
  have hseparator : Separates ", " ',' := by decide
  simp only [Names, commaList, mem_words_intercalate hseparator]
  exact ⟨fun h text htext w hw => h w ⟨text, htext, hw⟩, fun h w ⟨text, htext, hw⟩ => h text htext w hw⟩

/-- A parameter mentions what its type and its name do. -/
theorem names_parameter {p : Parameter} : Names cited p.text ↔ Names cited p.type ∧ Names cited p.name := by
  rw [Parameter.text, String.append_assoc, names_append_written_append (.intro (by decide))]

/-- A parameter list behind a text mentions what its types and names do. -/
theorem names_parameterList {front : String} {parameters : List Parameter} :
    Names cited (front ++ parameterList parameters) ↔
      Names cited front ∧ ∀ p ∈ parameters, Names cited p.type ∧ Names cited p.name := by
  rw [parameterList, String.append_assoc, names_append_written_append (.intro (by decide)),
    names_append_written (.intro (by decide)), names_commaList, List.forall_mem_map]
  simp only [names_parameter]

end GeometrySource.Declaration
