import GeometrySource.Error
import GeometrySource.Layout.Script

/-!
# Emissions

Writing that may be refused on the way, when something that it needs is not there. What has been written before a refusal
stays written, and what comes after it is left out.
-/

namespace GeometrySource

/-- Steps for an emitter, up to an end or a refusal, and what they led to. -/
structure Emission (α : Type) where
  /-- The steps that are taken, also if a refusal follows them. -/
  steps : Script
  result : Except Error α

namespace Emission

variable {α β : Type}

/-- Takes the steps of a script. -/
def write (script : Script) : Emission Unit :=
  ⟨script, .ok ()⟩

/-- Takes what was looked up, or passes its refusal on. Nothing is written. -/
def lookUp (found : Except Error α) : Emission α :=
  ⟨[], found⟩

/-- One emission and then another one, unless the first is refused. -/
def andThen (m : Emission α) (next : α → Emission β) : Emission β :=
  match m.result with
  | .ok a => ⟨m.steps ++ (next a).steps, (next a).result⟩
  | .error error => ⟨m.steps, .error error⟩

instance : Monad Emission where
  pure a := ⟨[], .ok a⟩
  bind := andThen

/-- Takes the steps on an emitter. -/
def run (m : Emission α) (e : Emitter) : Except Error α × Emitter :=
  (m.result, e.run m.steps)

/-! ### Laws of emissions -/

/-- Two writes are one write of both scripts. -/
@[simp]
theorem write_bind_write (first second : Script) :
    (write first >>= fun _ => write second) = write (first ++ second) := rfl

/-- A value that is found is passed on. -/
@[simp]
theorem lookUp_ok_bind (a : α) (next : α → Emission β) : (lookUp (.ok a) >>= next) = next a := rfl

/-- A refused look-up leaves out what comes after it. -/
@[simp]
theorem lookUp_error_bind (error : Error) (next : α → Emission β) :
    (lookUp (.error error) >>= next) = lookUp (.error error) := rfl

/-- A refusal behind a script leaves the steps of the script. -/
theorem write_bind_lookUp_error (script : Script) (error : Error) :
    (write script >>= fun _ => (lookUp (.error error) : Emission α)) = ⟨script, .error error⟩ :=
  congrArg (Emission.mk · (.error error)) (List.append_nil script)

/-- Looking up what a function makes of a value is looking up the value and using what the function makes of it. -/
theorem lookUp_map_bind {γ : Type} (found : Except Error α) (f : α → β) (next : β → Emission γ) :
    (lookUp (found.map f) >>= next) = (lookUp found >>= fun a => next (f a)) := by
  cases found <;> rfl

/-- Writing takes its steps. -/
@[simp]
theorem run_write (script : Script) (e : Emitter) : (write script).run e = (.ok (), e.run script) := rfl

/-- Looking up leaves the emitter as it is. -/
@[simp]
theorem run_lookUp (found : Except Error α) (e : Emitter) : (lookUp found).run e = (found, e) := rfl

/-- The second emission goes on where the first has ended, unless the first is refused; then the emitter is left as the
first has left it. -/
theorem run_bind (m : Emission α) (next : α → Emission β) (e : Emitter) :
    (m >>= next).run e =
      match m.run e with
      | (.ok a, after) => (next a).run after
      | (.error error, after) => (.error error, after) := by
  obtain ⟨steps, result⟩ := m
  cases result with
  | ok a => exact Prod.ext rfl (Emitter.run_append e steps (next a).steps)
  | error error => rfl

/-- Something that is missing, looked up behind a first line. -/
example (text : String) (error : Error) (e : Emitter) :
    (do write [.line text]; lookUp (.error error); write [.line "\x7b"] : Emission Unit).run e =
      (.error error, e.writeLine text) := rfl

end Emission

end GeometrySource
