import GeometrySource.Proofs.Catalogue.Generate
import GeometrySource.Proofs.Catalogue.Plan
import GeometrySource.Proofs.Naming.Word
import GeometrySource.Proofs.Shape.Display

/-!
# Records and listings name specs

A record that generation leaves shows the spec that was asked for, and nothing in front of it or behind it can be taken for
a part of it. So a record is left by requests for one spec only, and an entry of a listed plan stands for one spec.
-/

namespace GeometrySource.Catalogue

open Text

theorem startRecord_injective {s t : Spec} (h : startRecord s = startRecord t) : s = t := by
  have hmessage : "generating " ++ s.display = "generating " ++ t.display := congrArg LogRecord.message h
  exact Spec.display_injective ((String.append_right_inj _).mp hmessage)

/-- A beginning and a success have different levels. -/
theorem startRecord_ne_doneRecord (s : Spec) (source : Source) : startRecord s ≠ doneRecord source := by
  intro h
  have hlevel : LogLevel.trace = LogLevel.debug := congrArg LogRecord.level h
  cases hlevel

/-- The record of a success shows the name of the declared type, which is a word, and then the spec. -/
theorem spec_eq_of_doneRecord_eq {source other : Source} (hname : IsWord source.typeName)
    (hother : IsWord other.typeName) (h : doneRecord source = doneRecord other) : source.spec = other.spec := by
  have hmessage := congrArg LogRecord.message h
  simp only [doneRecord, String.append_assoc, String.append_right_inj] at hmessage
  have hfor : ∀ text, Begins (fun c => !isWordChar c) (" for " ++ text) :=
    fun text => begins_append.mpr (Or.inl (by decide))
  obtain ⟨-, hrest⟩ := append_inj_of_begins hname.2 hother.2 (hfor _) (hfor _) hmessage
  exact (Spec.eq_of_display_append_eq ((String.append_right_inj _).mp hrest)).1

/-- A request leaves the record of its beginning, and perhaps that of its success. -/
theorem mem_log_generateLogged {c : Catalogue} {spec : Spec} {r : LogRecord} (h : r ∈ (c.generateLogged spec).log) :
    r = startRecord spec ∨ ∃ source, IsWord source.typeName ∧ source.spec = spec ∧ r = doneRecord source := by
  cases hprepare : c.prepare spec with
  | error e =>
    rw [generateLogged_of_refused hprepare] at h
    cases h
  | ok prepared =>
    obtain ⟨t, ctx⟩ := prepared
    rw [generateLogged_of_prepare hprepare] at h
    cases hscript : t.script ctx with
    | error e =>
      simp only [hscript] at h
      exact Or.inl (List.mem_singleton.mp h)
    | ok declaration =>
      simp only [hscript] at h
      rcases List.mem_cons.mp h with hstart | hdone
      · exact Or.inl hstart
      · exact Or.inr ⟨sourceFor spec ctx declaration, ctx.isWord_name, rfl, List.mem_singleton.mp hdone⟩

/-- Requests that leave the same record are requests for one spec. -/
theorem spec_eq_of_mem_log {c b : Catalogue} {s t : Spec} {r : LogRecord} (hs : r ∈ (c.generateLogged s).log)
    (ht : r ∈ (b.generateLogged t).log) : s = t := by
  rcases mem_log_generateLogged hs with hstart | ⟨source, hname, rfl, hdone⟩
  · rcases mem_log_generateLogged ht with hstart' | ⟨other, -, rfl, hdone⟩
    · exact startRecord_injective (hstart.symm.trans hstart')
    · exact absurd (hstart.symm.trans hdone) (startRecord_ne_doneRecord s other)
  · rcases mem_log_generateLogged ht with hstart | ⟨other, hother, rfl, hdone'⟩
    · exact absurd (hstart.symm.trans hdone) (startRecord_ne_doneRecord t source)
    · exact spec_eq_of_doneRecord_eq hname hother (hdone.symm.trans hdone')

/-- A spec is known by what is shown of it:
1. The same is shown of two specs exactly if they are one spec.
2. A spec with a dimension written out is never shown like the one without, also if the dimension is the implicit one.
3. Requests that leave the same record, to any catalogues, are requests for one spec.
4. In a listed plan every planned spec is shown once. -/
theorem display_identifies :
    (∀ s t : Spec, s.display = t.display ↔ s = t) ∧
      (∀ (s : Shape) (n : Numeric) (d : UInt32), (⟨s, n, some d⟩ : Spec).display ≠ (⟨s, n, none⟩ : Spec).display) ∧
      (∀ (c b : Catalogue) (s t : Spec), ∀ r ∈ (c.generateLogged s).log, r ∈ (b.generateLogged t).log → s = t) ∧
      ∀ c : Catalogue, ∀ s ∈ c.plan, (c.plan.map Spec.display).count s.display = 1 := by
  refine ⟨fun s t => ⟨Spec.display_injective, congrArg Spec.display⟩, fun s n d h => ?_,
    fun c b s t r hs ht => spec_eq_of_mem_log hs ht, fun c s hs => ?_⟩
  · cases Spec.display_injective h
  · have hplan : c.plan.Nodup := (nodup_map_place c).of_map
    have hlisted : (c.plan.map Spec.display).Nodup := hplan.map fun _ _ => Spec.display_injective
    exact List.count_eq_one_of_mem hlisted (List.mem_map_of_mem hs)

/-- Rays with and without their dimension: both are accepted, and they leave different records. A planned line is listed
once. -/
theorem display_identifies_ray :
    (⟨.ray, .double, some 3⟩ : Spec).display ≠ (⟨.ray, .double, none⟩ : Spec).display ∧
      (⟨.trace, "generating Ray<double, 3>"⟩ ∈ (standard.generateLogged ⟨.ray, .double, some 3⟩).log ∧
        ∀ t, ⟨.trace, "generating Ray<double, 3>"⟩ ∈ (standard.generateLogged t).log → ⟨.ray, .double, some 3⟩ = t) ∧
      (⟨.line, .float, some 3⟩ : Spec) ∈ standard.plan ∧ (standard.plan.map Spec.display).count "Line<float, 3>" = 1 := by
  obtain ⟨-, hwritten, hrecord, hlisted⟩ := display_identifies
  have hray : ⟨.trace, "generating Ray<double, 3>"⟩ ∈ (standard.generateLogged ⟨.ray, .double, some 3⟩).log :=
    List.mem_cons_self
  have hline : (⟨.line, .float, some 3⟩ : Spec) ∈ standard.plan := by decide
  exact ⟨hwritten .ray .double 3, ⟨hray, fun t => hrecord _ _ _ t _ hray⟩, hline, hlisted _ _ hline⟩

end GeometrySource.Catalogue
