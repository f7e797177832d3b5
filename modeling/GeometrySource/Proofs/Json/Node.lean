import GeometrySource.Json.Node
import GeometrySource.Proofs.Json.Token

/-!
# Trees in a text

A text holds a tree exactly if it spells the tree's tokens, as the JSON standard has it. The reader is complete by induction
on the tree, its bound being the number of tokens that are left, and sound by induction on the bound.
-/

namespace GeometrySource.Json

namespace Node

/-- A text spells a tree if it spells its tokens. -/
def SpelledBy (node : Node) (text : String) : Prop :=
  Spelling node.tokens text.toList

/-! ## Tokens of a tree -/

/-- No tree begins with a closing bracket. -/
theorem exists_tokens_cons (node : Node) : ∃ first more, node.tokens = first :: more ∧ first ≠ .closeArray := by
  cases node
  all_goals
    rw [tokens]
    exact ⟨_, _, rfl, by simp⟩

theorem length_tokens_pos (node : Node) : 0 < node.tokens.length := by
  obtain ⟨first, more, htokens, -⟩ := node.exists_tokens_cons
  simp [htokens]

/-- Items begin with a tree. -/
theorem exists_itemTokens_cons (item : Node) (items : List Node) :
    ∃ first more, itemTokens (item :: items) = first :: more ∧ first ≠ .closeArray := by
  obtain ⟨first, more, htokens, hfirst⟩ := item.exists_tokens_cons
  cases items with
  | nil => exact ⟨first, more, by rw [itemTokens, htokens], hfirst⟩
  | cons next rest => exact ⟨first, _, by rw [itemTokens, htokens, List.cons_append], hfirst⟩

/-- Members begin with a key. -/
theorem exists_memberTokens_cons (member : Quoted × Node) (members : List (Quoted × Node)) :
    ∃ more, memberTokens (member :: members) = .string member.1 :: more := by
  cases members with
  | nil => exact ⟨_, by rw [memberTokens]⟩
  | cons next rest => exact ⟨_, by rw [memberTokens]⟩

/-! ## Reading a tree back -/

theorem readWithin?_openArray {n : Nat} {tokens : List Token} (h : tokens.head? ≠ some .closeArray) :
    readWithin? (n + 1) (.openArray :: tokens) =
      (readItemsWithin? n tokens).map fun (items, rest) => (array items, rest) := by
  rw [readWithin?]
  rintro rest rfl
  exact h rfl

theorem readWithin?_openObject {n : Nat} {tokens : List Token} (h : tokens.head? ≠ some .closeObject) :
    readWithin? (n + 1) (.openObject :: tokens) =
      (readMembersWithin? n tokens).map fun (members, rest) => (object members, rest) := by
  rw [readWithin?]
  rintro rest rfl
  exact h rfl

/-- What a bound `n` is good for: reading each tree, and each list of items or members, of so few tokens. -/
structure Suffices (n : Nat) : Prop where
  tree (node : Node) (rest : List Token) (hn : node.tokens.length ≤ n) :
    readWithin? n (node.tokens ++ rest) = some (node, rest)
  items (item : Node) (items : List Node) (rest : List Token) (hn : (itemTokens (item :: items)).length < n) :
    readItemsWithin? n (itemTokens (item :: items) ++ .closeArray :: rest) = some (item :: items, rest)
  members (member : Quoted × Node) (members : List (Quoted × Node)) (rest : List Token)
    (hn : (memberTokens (member :: members)).length < n) :
    readMembersWithin? n (memberTokens (member :: members) ++ .closeObject :: rest) = some (member :: members, rest)

namespace Suffices

variable {n : Nat}

theorem readWithin?_succ (h : Suffices n) (node : Node) (rest : List Token) (hn : node.tokens.length ≤ n + 1) :
    readWithin? (n + 1) (node.tokens ++ rest) = some (node, rest) := by
  cases node with
  | array items =>
    cases items with
    | nil => rfl
    | cons item items =>
      rw [tokens, List.length_cons, List.length_append, List.length_singleton] at hn
      have hread := h.items item items rest (by omega)
      obtain ⟨first, more, htokens, hfirst⟩ := exists_itemTokens_cons item items
      rw [tokens, List.cons_append, List.append_assoc, List.singleton_append, readWithin?_openArray, hread, Option.map_some]
      simpa [htokens] using hfirst
  | object members =>
    cases members with
    | nil => rfl
    | cons member members =>
      rw [tokens, List.length_cons, List.length_append, List.length_singleton] at hn
      have hread := h.members member members rest (by omega)
      obtain ⟨more, htokens⟩ := exists_memberTokens_cons member members
      rw [tokens, List.cons_append, List.append_assoc, List.singleton_append, readWithin?_openObject, hread,
        Option.map_some]
      simp [htokens]
  | _ => rw [tokens, List.singleton_append, readWithin?]

theorem readItemsWithin?_succ (h : Suffices n) (item : Node) (items : List Node) (rest : List Token)
    (hn : (itemTokens (item :: items)).length < n + 1) :
    readItemsWithin? (n + 1) (itemTokens (item :: items) ++ .closeArray :: rest) = some (item :: items, rest) := by
  cases items with
  | nil =>
    rw [itemTokens] at hn ⊢
    have hitem := h.tree item (.closeArray :: rest) (by omega)
    simp only [readItemsWithin?, hitem, Option.bind_eq_bind, Option.bind_some]
  | cons next items =>
    rw [itemTokens, List.length_append, List.length_cons] at hn
    -- The item takes up a token, so the bound for the other items may be smaller by one.
    have hitem := h.tree item (.comma :: (itemTokens (next :: items) ++ .closeArray :: rest)) (by omega)
    have hpos := item.length_tokens_pos
    have hitems := h.items next items rest (by omega)
    rw [itemTokens, List.append_assoc, List.cons_append]
    simp only [readItemsWithin?, hitem, hitems, Option.bind_eq_bind, Option.bind_some]

theorem readMembersWithin?_succ (h : Suffices n) (member : Quoted × Node) (members : List (Quoted × Node))
    (rest : List Token) (hn : (memberTokens (member :: members)).length < n + 1) :
    readMembersWithin? (n + 1) (memberTokens (member :: members) ++ .closeObject :: rest) =
      some (member :: members, rest) := by
  obtain ⟨key, value⟩ := member
  cases members with
  | nil =>
    rw [memberTokens, List.length_cons, List.length_cons] at hn
    have hvalue := h.tree value (.closeObject :: rest) (by omega)
    rw [memberTokens]
    simp only [List.cons_append, readMembersWithin?, hvalue, Option.bind_eq_bind, Option.bind_some]
  | cons next members =>
    rw [memberTokens, List.length_cons, List.length_cons, List.length_append, List.length_cons] at hn
    have hvalue := h.tree value (.comma :: (memberTokens (next :: members) ++ .closeObject :: rest)) (by omega)
    have hmembers := h.members next members rest (by omega)
    rw [memberTokens]
    simp only [List.cons_append, List.append_assoc, readMembersWithin?, hvalue, hmembers, Option.bind_eq_bind,
      Option.bind_some]

end Suffices

/-- Every bound is good for as many tokens. -/
theorem suffices_bound (n : Nat) : Suffices n := by
  induction n with
  | zero =>
    refine ⟨fun node rest hn => ?_, fun _ _ _ hn => ?_, fun _ _ _ hn => ?_⟩
    · have hpos := node.length_tokens_pos
      omega
    · omega
    · omega
  | succ n ih => exact ⟨ih.readWithin?_succ, ih.readItemsWithin?_succ, ih.readMembersWithin?_succ⟩

/-! ## What is read is there -/

/-- What a bound `n` never gets wrong: the tokens that are read are those of the tree, or of the items or members, that
comes out. -/
structure Faithful (n : Nat) : Prop where
  tree (tokens : List Token) (node : Node) (rest : List Token) (h : readWithin? n tokens = some (node, rest)) :
    tokens = node.tokens ++ rest
  items (tokens : List Token) (items : List Node) (rest : List Token)
    (h : readItemsWithin? n tokens = some (items, rest)) : items ≠ [] ∧ tokens = itemTokens items ++ .closeArray :: rest
  members (tokens : List Token) (members : List (Quoted × Node)) (rest : List Token)
    (h : readMembersWithin? n tokens = some (members, rest)) :
    members ≠ [] ∧ tokens = memberTokens members ++ .closeObject :: rest

theorem itemTokens_cons {items : List Node} (h : items ≠ []) (item : Node) :
    itemTokens (item :: items) = item.tokens ++ .comma :: itemTokens items := by
  cases items with
  | nil => exact absurd rfl h
  | cons next rest => rw [itemTokens]

theorem memberTokens_cons {members : List (Quoted × Node)} (h : members ≠ []) (key : Quoted) (value : Node) :
    memberTokens ((key, value) :: members) =
      .string key :: .colon :: (value.tokens ++ .comma :: memberTokens members) := by
  cases members with
  | nil => exact absurd rfl h
  | cons next rest => rw [memberTokens]

namespace Faithful

variable {n : Nat}

theorem tokens_of_readWithin? (ih : Faithful n) (tokens : List Token) (node : Node) (rest : List Token)
    (h : readWithin? (n + 1) tokens = some (node, rest)) : tokens = node.tokens ++ rest := by
  unfold readWithin? at h
  split at h
  case h_6 =>
    obtain ⟨⟨items, after⟩, hitems, heq⟩ := Option.map_eq_some_iff.mp h
    obtain ⟨rfl, rfl⟩ := Prod.mk.inj heq
    obtain ⟨-, rfl⟩ := ih.items _ _ _ hitems
    rw [Node.tokens, List.cons_append, List.append_assoc, List.singleton_append]
  case h_8 =>
    obtain ⟨⟨members, after⟩, hmembers, heq⟩ := Option.map_eq_some_iff.mp h
    obtain ⟨rfl, rfl⟩ := Prod.mk.inj heq
    obtain ⟨-, rfl⟩ := ih.members _ _ _ hmembers
    rw [Node.tokens, List.cons_append, List.append_assoc, List.singleton_append]
  case h_9 => cases h
  all_goals
    obtain ⟨rfl, rfl⟩ := Prod.mk.inj (Option.some.inj h)
    rfl

theorem tokens_of_readItemsWithin? (ih : Faithful n) (tokens : List Token) (items : List Node) (rest : List Token)
    (h : readItemsWithin? (n + 1) tokens = some (items, rest)) :
    items ≠ [] ∧ tokens = itemTokens items ++ .closeArray :: rest := by
  simp only [readItemsWithin?, Option.bind_eq_bind, Option.bind_eq_some_iff, Prod.exists] at h
  obtain ⟨item, after, hitem, h⟩ := h
  obtain rfl := ih.tree _ _ _ hitem
  split at h
  · obtain ⟨rfl, rfl⟩ := Prod.mk.inj (Option.some.inj h)
    exact ⟨List.cons_ne_nil _ _, by rw [itemTokens]⟩
  · simp only [Option.bind_eq_some_iff, Prod.exists, Option.some.injEq, Prod.mk.injEq] at h
    obtain ⟨others, _, hothers, rfl, rfl⟩ := h
    obtain ⟨hne, rfl⟩ := ih.items _ _ _ hothers
    exact ⟨List.cons_ne_nil _ _, by rw [itemTokens_cons hne, List.append_assoc, List.cons_append]⟩
  · cases h

theorem tokens_of_readMembersWithin? (ih : Faithful n) (tokens : List Token) (members : List (Quoted × Node))
    (rest : List Token) (h : readMembersWithin? (n + 1) tokens = some (members, rest)) :
    members ≠ [] ∧ tokens = memberTokens members ++ .closeObject :: rest := by
  unfold readMembersWithin? at h
  split at h
  · simp only [Option.bind_eq_bind, Option.bind_eq_some_iff, Prod.exists] at h
    obtain ⟨value, after, hvalue, h⟩ := h
    obtain rfl := ih.tree _ _ _ hvalue
    split at h
    · obtain ⟨rfl, rfl⟩ := Prod.mk.inj (Option.some.inj h)
      exact ⟨List.cons_ne_nil _ _, by rw [memberTokens, List.cons_append, List.cons_append]⟩
    · simp only [Option.bind_eq_some_iff, Prod.exists, Option.some.injEq, Prod.mk.injEq] at h
      obtain ⟨others, _, hothers, rfl, rfl⟩ := h
      obtain ⟨hne, rfl⟩ := ih.members _ _ _ hothers
      exact ⟨List.cons_ne_nil _ _, by simp [memberTokens_cons hne]⟩
    · cases h
  · cases h

end Faithful

/-- No bound gets anything wrong. -/
theorem faithful_bound (n : Nat) : Faithful n := by
  induction n with
  | zero => exact ⟨fun _ _ _ h => (by cases h), fun _ _ _ h => (by cases h), fun _ _ _ h => (by cases h)⟩
  | succ n ih => exact ⟨ih.tokens_of_readWithin?, ih.tokens_of_readItemsWithin?, ih.tokens_of_readMembersWithin?⟩

/-- A list of tokens is read as a tree exactly if it is the tree's. -/
theorem ofTokens?_eq_some_iff {tokens : List Token} {node : Node} : ofTokens? tokens = some node ↔ tokens = node.tokens := by
  constructor
  · intro h
    unfold ofTokens? at h
    split at h
    · rename_i hread
      obtain rfl := Option.some.inj h
      rw [(faithful_bound _).tree _ _ _ hread, List.append_nil]
    · cases h
  · rintro rfl
    have hread := (suffices_bound _).tree node [] (Nat.le_refl _)
    rw [List.append_nil] at hread
    rw [ofTokens?, hread]

/-! ## Trees and texts -/

mutual

/-- No two numbers stand side by side in a tree. -/
theorem isChain_tokens : (node : Node) → node.tokens.IsChain Token.Apart
  | null => by simp [tokens]
  | bool value => by simp [tokens]
  | number literal => by simp [tokens]
  | string items => by simp [tokens]
  | array items => by
    have hitems := isChain_itemTokens items
    simp [tokens, List.isChain_cons, List.isChain_append, hitems, Token.Apart, Token.isNumber]
  | object members => by
    have hmembers := isChain_memberTokens members
    simp [tokens, List.isChain_cons, List.isChain_append, hmembers, Token.Apart, Token.isNumber]

theorem isChain_itemTokens : (items : List Node) → (itemTokens items).IsChain Token.Apart
  | [] => by simp [itemTokens]
  | [item] => by simpa [itemTokens] using isChain_tokens item
  | item :: next :: rest => by
    have hitem := isChain_tokens item
    have hitems := isChain_itemTokens (next :: rest)
    simp [itemTokens, List.isChain_cons, List.isChain_append, hitem, hitems, Token.Apart, Token.isNumber]

theorem isChain_memberTokens : (members : List (Quoted × Node)) → (memberTokens members).IsChain Token.Apart
  | [] => by simp [memberTokens]
  | [(key, value)] => by
    have hvalue := isChain_tokens value
    simp [memberTokens, List.isChain_cons, hvalue, Token.Apart, Token.isNumber]
  | (key, value) :: next :: rest => by
    have hvalue := isChain_tokens value
    have hmembers := isChain_memberTokens (next :: rest)
    simp [memberTokens, List.isChain_cons, List.isChain_append, hvalue, hmembers, Token.Apart, Token.isNumber]

end

/-- A text holds a tree exactly if it spells it. -/
theorem ofText?_eq_some_iff {node : Node} {text : String} : ofText? text = some node ↔ node.SpelledBy text := by
  unfold ofText?
  rw [Option.bind_eq_some_iff]
  constructor
  · rintro ⟨tokens, htokens, hnode⟩
    obtain rfl := ofTokens?_eq_some_iff.mp hnode
    exact Token.spelling_of_readAll? htokens
  · intro h
    exact ⟨_, Token.readAll?_of_spelling h node.isChain_tokens, ofTokens?_eq_some_iff.mpr rfl⟩

/-! ## Trees as they are written -/

/-- Whether every token of a tree is spelled by its own text. -/
def Written (node : Node) : Prop :=
  ∀ token ∈ node.tokens, token.Spelled token.text

/-- The text of such a tree spells it. -/
theorem Written.spelledBy_text {node : Node} (h : node.Written) : node.SpelledBy node.text := by
  have hspelling := Spelling.of_text h
  rwa [SpelledBy, text, String.toList_ofList]

theorem mem_itemTokens {items : List Node} {token : Token} (h : token ∈ itemTokens items) :
    token = .comma ∨ ∃ item ∈ items, token ∈ item.tokens := by
  induction items with
  | nil => simp [itemTokens] at h
  | cons item items ih =>
    cases items with
    | nil => exact Or.inr ⟨item, List.mem_cons_self, by rwa [itemTokens] at h⟩
    | cons next rest =>
      rw [itemTokens, List.mem_append, List.mem_cons] at h
      rcases h with hitem | rfl | hrest
      · exact Or.inr ⟨item, List.mem_cons_self, hitem⟩
      · exact Or.inl rfl
      · refine (ih hrest).imp_right ?_
        rintro ⟨other, hother, htoken⟩
        exact ⟨other, List.mem_cons_of_mem _ hother, htoken⟩

theorem mem_memberTokens {members : List (Quoted × Node)} {token : Token} (h : token ∈ memberTokens members) :
    token = .comma ∨ token = .colon ∨ ∃ member ∈ members, token = .string member.1 ∨ token ∈ member.2.tokens := by
  induction members with
  | nil => simp [memberTokens] at h
  | cons member members ih =>
    cases members with
    | nil =>
      rw [memberTokens, List.mem_cons, List.mem_cons] at h
      rcases h with rfl | rfl | hvalue
      · exact Or.inr (Or.inr ⟨member, List.mem_cons_self, Or.inl rfl⟩)
      · exact Or.inr (Or.inl rfl)
      · exact Or.inr (Or.inr ⟨member, List.mem_cons_self, Or.inr hvalue⟩)
    | cons next rest =>
      rw [memberTokens, List.mem_cons, List.mem_cons, List.mem_append, List.mem_cons] at h
      rcases h with rfl | rfl | hvalue | rfl | hrest
      · exact Or.inr (Or.inr ⟨member, List.mem_cons_self, Or.inl rfl⟩)
      · exact Or.inr (Or.inl rfl)
      · exact Or.inr (Or.inr ⟨member, List.mem_cons_self, Or.inr hvalue⟩)
      · exact Or.inl rfl
      · refine (ih hrest).imp_right (Or.imp_right ?_)
        rintro ⟨other, hother, htoken⟩
        exact ⟨other, List.mem_cons_of_mem _ hother, htoken⟩

theorem written_number {literal : Number} (h : literal.Proper) : (number literal).Written := by
  rw [Written, tokens, List.forall_mem_singleton]
  exact ⟨h, rfl⟩

theorem written_string {items : Quoted} (h : items.Spelled (items.flatMap Item.text)) : (string items).Written := by
  rw [Written, tokens, List.forall_mem_singleton]
  exact ⟨_, h, rfl⟩

theorem written_array {items : List Node} (h : ∀ item ∈ items, item.Written) : (array items).Written := by
  intro token htoken
  rw [tokens, List.mem_cons, List.mem_append, List.mem_singleton] at htoken
  rcases htoken with rfl | hitems | rfl
  · rfl
  · rcases mem_itemTokens hitems with rfl | ⟨item, hitem, htoken⟩
    · rfl
    · exact h item hitem token htoken
  · rfl

theorem written_object {members : List (Quoted × Node)}
    (h : ∀ member ∈ members, member.1.Spelled (member.1.flatMap Item.text) ∧ member.2.Written) :
    (object members).Written := by
  intro token htoken
  rw [tokens, List.mem_cons, List.mem_append, List.mem_singleton] at htoken
  rcases htoken with rfl | hmembers | rfl
  · rfl
  · rcases mem_memberTokens hmembers with rfl | rfl | ⟨member, hmember, rfl | hvalue⟩
    · rfl
    · rfl
    · exact ⟨_, (h member hmember).1, rfl⟩
    · exact (h member hmember).2 token hvalue
  · rfl

end Node

end GeometrySource.Json
