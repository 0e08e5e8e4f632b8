import DscProtocol.Lib.Checked
import DscProtocol.Lib.Simulation
import Mathlib.Control.Monad.Writer

set_option autoImplicit false

/- Programs that fail or leave entries in a journal. Forgetting the entries gives the plain
program, and an observer who only reads the journal can follow the state. -/
namespace Journal

variable {ε η α β : Type}

/-- A failing program that also writes entries; a failure takes them back. -/
abbrev Writes (ε η : Type) : Type → Type := WriterT (List η) (Except ε)

/-- The writing program does what the plain one does and leaves these entries if it returns. -/
def Records (program : Writes ε η α) (plain : Except ε α) (entries : List η) : Prop :=
  program.run = plain.map fun value => (value, entries)

variable {program : Writes ε η α} {plain : Except ε α} {entries : List η}

/-- Forgetting the entries. -/
theorem Records.erase (records : Records program plain entries) :
    program.run.map Prod.fst = plain := by
  rw [records]
  cases plain <;> rfl

theorem Records.run_of_ok {value : α} (records : Records program plain entries)
    (returned : plain = .ok value) : program.run = .ok (value, entries) := by
  rw [records, returned]
  rfl

/-- A plain step leaves nothing. -/
theorem records_lift (plain : Except ε α) :
    Records (liftM plain : Writes ε η α) plain [] := by
  cases plain <;> rfl

theorem records_pure (value : α) : Records (pure value : Writes ε η α) (.ok value) [] := rfl

theorem records_tell (entries : List η) :
    Records (tell entries : Writes ε η PUnit) (.ok PUnit.unit) entries := rfl

/-- Entries follow each other in the order of the steps. -/
theorem Records.bind {next : α → Writes ε η β} {follow : α → Except ε β} {later : List η}
    (first : Records program plain entries)
    (rest : ∀ value, plain = .ok value → Records (next value) (follow value) later) :
    Records (program >>= next) (plain >>= follow) (entries ++ later) := by
  cases returned : plain with
  | error reason =>
      have failed : program.run = .error reason := by
        rw [first, returned]
        rfl
      change (program.run >>= fun result =>
        (fun answer => (answer.1, result.2 ++ answer.2)) <$> (next result.1).run) = .error reason
      rw [failed]
      rfl
  | ok value =>
      have left : program.run = .ok (value, entries) := first.run_of_ok returned
      have right := rest value returned
      change (program.run >>= fun result =>
        (fun answer => (answer.1, result.2 ++ answer.2)) <$> (next result.1).run) =
          (follow value).map fun answer => (answer, entries ++ later)
      rw [left]
      change (fun answer => (answer.1, entries ++ answer.2)) <$> (next value).run = _
      rw [right]
      cases follow value <;> rfl

/-- A plain step in front of a writing program. -/
theorem Records.lift_bind {next : α → Writes ε η β} {follow : α → Except ε β} {later : List η}
    (rest : ∀ value, plain = .ok value → Records (next value) (follow value) later) :
    Records ((liftM plain : Writes ε η α) >>= next) (plain >>= follow) later :=
  (records_lift plain).bind rest

/-- An entry in front of a writing program. -/
theorem Records.tell_bind {next : PUnit → Writes ε η β} {follow : Except ε β} {later : List η}
    (rest : Records (next PUnit.unit) follow later) :
    Records ((tell entries : Writes ε η PUnit) >>= next) follow (entries ++ later) := by
  have both : Records ((tell entries : Writes ε η PUnit) >>= next)
      (Except.ok PUnit.unit >>= fun _ => follow) (entries ++ later) :=
    (records_tell entries).bind fun _ _ => rest
  exact both

/-- A program that ends with plain steps. -/
theorem Records.bind_quiet {next : α → Writes ε η β} {follow : α → Except ε β}
    (first : Records program plain entries)
    (rest : ∀ value, plain = .ok value → Records (next value) (follow value) []) :
    Records (program >>= next) (plain >>= follow) entries := by
  have both := first.bind rest
  rw [List.append_nil] at both
  exact both

/-- A plain step that is announced. -/
theorem records_announced (plain : Except ε α) (entries : List η) :
    Records ((liftM plain : Writes ε η α) >>= fun value =>
      (tell entries : Writes ε η PUnit) >>= fun _ => pure value) plain entries := by
  cases plain with
  | error reason => rfl
  | ok value =>
      change Except.ok (value, [] ++ (entries ++ [])) = Except.ok (value, entries)
      rw [List.nil_append, List.append_nil]

/-- A step followed by nothing but a change of its result. -/
theorem Records.map (records : Records program plain entries) (f : α → β) :
    Records (program >>= fun value => pure (f value)) (plain >>= fun value => .ok (f value))
      entries :=
  records.bind_quiet (fun value _ => records_pure (f value))

section Replay

variable {σ κ ρ : Type} {exec : σ → κ → Except ε σ} {labels : σ → κ → List η}
  {view : σ → ρ} {follow : ρ → η → ρ} {holds : σ → Prop} {permitted : σ → κ → Prop}

/-- If the entries of every committed action lead an observer to its result, then reading the
journal of a run leads to the view of the state reached. -/
theorem follow_trace
    (keeps : ∀ state action, holds state → permitted state action →
      holds (Runs.commit exec state action))
    (faithful : ∀ state action after, holds state → permitted state action →
      exec state action = .ok after →
      Runs.run follow (view state) (labels state action) = view after)
    {state : σ} {actions : List κ} (start : holds state)
    (along : Runs.Along (Runs.commit exec) permitted state actions) :
    Runs.run follow (view state) (Runs.trace exec labels state actions) =
      view (Runs.run (Runs.commit exec) state actions) := by
  have matched : ∀ state action after, holds state → permitted state action →
      exec state action = .ok after →
      Runs.Along follow (fun _ _ => True) (view state) (labels state action) ∧
        Runs.run follow (view state) (labels state action) = view after := by
    intro state action after held allowed returned
    exact ⟨Runs.along_of_forall (fun _ _ => trivial) _ _,
      faithful state action after held allowed returned⟩
  exact (Runs.simulates keeps matched start along).2

end Replay

end Journal
