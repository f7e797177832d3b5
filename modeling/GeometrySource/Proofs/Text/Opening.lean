import GeometrySource.Proofs.Text.Edge
import Mathlib.Data.List.Infix

/-!
# How lines open

Which text a line begins with, and when two texts diverge, so that nothing begins with both of them. Texts diverge by what
is written down at their beginnings, whatever follows.
-/

namespace GeometrySource.Text

/-- Whether a text begins with another one. -/
def StartsWith (start text : String) : Prop :=
  start.toList <+: text.toList

/-- Whether two texts differ at a place that both of them have. -/
def Diverge (first second : String) : Prop :=
  ¬StartsWith first second ∧ ¬StartsWith second first

instance (start text : String) : Decidable (StartsWith start text) :=
  inferInstanceAs (Decidable (_ <+: _))

instance (first second : String) : Decidable (Diverge first second) :=
  inferInstanceAs (Decidable (_ ∧ _))

variable {first second start text : String}

theorem startsWith_append (start rest : String) : StartsWith start (start ++ rest) := by
  rw [StartsWith, String.toList_append]
  exact List.prefix_append _ _

theorem StartsWith.trans (h : StartsWith first second) (h' : StartsWith second text) : StartsWith first text :=
  List.IsPrefix.trans h h'

/-- A text that begins with two parts begins with the first of them. -/
theorem StartsWith.of_append {rest : String} (h : StartsWith (first ++ rest) text) : StartsWith first text :=
  (startsWith_append first rest).trans h

theorem StartsWith.append (h : StartsWith start first) (rest : String) : StartsWith start (first ++ rest) :=
  h.trans (startsWith_append first rest)

theorem startsWith_empty : StartsWith start "" ↔ start = "" := by
  rw [StartsWith, String.toList_empty, List.prefix_nil, String.toList_eq_nil_iff]

/-- What stands in front of both texts makes no difference. -/
@[simp]
theorem startsWith_append_append (front : String) :
    StartsWith (front ++ start) (front ++ text) ↔ StartsWith start text := by
  rw [StartsWith, String.toList_append, String.toList_append, List.prefix_append_right_inj, StartsWith]

/-- Of two texts that a line begins with, one begins with the other. -/
theorem StartsWith.comparable (h : StartsWith first text) (h' : StartsWith second text) :
    StartsWith first second ∨ StartsWith second first :=
  List.prefix_or_prefix_of_prefix h h'

/-- What a text begins with decides whether it diverges. -/
theorem Diverge.of_startsWith (h : Diverge first start) (hfirst : StartsWith first text) : Diverge text start :=
  ⟨fun htext => h.1 (hfirst.trans htext), fun hstart => (hstart.comparable hfirst).elim h.2 h.1⟩

/-- What follows makes no difference to texts that diverge. -/
@[simp]
theorem diverge_append (h : Diverge first start) (rest : String) : Diverge (first ++ rest) start :=
  h.of_startsWith (startsWith_append first rest)

/-- What stands in front of both texts makes no difference. -/
theorem diverge_append_append (front : String) : Diverge (front ++ first) (front ++ second) ↔ Diverge first second := by
  rw [Diverge, startsWith_append_append, startsWith_append_append, Diverge]

/-- A text does not begin with what it diverges from. -/
theorem Diverge.not_startsWith (h : Diverge text start) : ¬StartsWith start text :=
  h.2

/-- Nothing begins with both of two texts that diverge. -/
theorem Diverge.not_startsWith_of_startsWith (h : Diverge first second) (hfirst : StartsWith first text) :
    ¬StartsWith second text :=
  fun hsecond => (hfirst.comparable hsecond).elim h.1 h.2

/-- Texts that begin with different characters diverge. -/
theorem diverge_of_begins {p : Char → Bool} (hfirst : Begins p first) (hsecond : Begins (fun c => !p c) second) :
    Diverge first second := by
  obtain ⟨c, rest, hlist, hc⟩ := begins_iff.mp hfirst
  obtain ⟨d, more, hother, hd⟩ := begins_iff.mp hsecond
  have hne : c ≠ d := by
    rintro rfl
    rw [hc] at hd
    cases hd
  rw [Diverge, StartsWith, StartsWith, hlist, hother, List.cons_prefix_cons, List.cons_prefix_cons]
  exact ⟨fun h => hne h.1, fun h => hne h.1.symm⟩

end GeometrySource.Text
