import GeneralApplications.Platform.InMemory

/-!
# Runs against the platform in memory

A run is taken apart errand by errand: each is carried out on the platform that the errands before
it have left.
-/

namespace GeneralApplications.Platform

variable {α : Type} {d : Disruption} {p : Platform}

/-- The errands noted before make no difference to what is noted after them. -/
theorem interpret_note (m : Errands α) (p : Platform) (es : List Errand) :
    m.interpret (note d) ⟨p, es⟩ =
      ((m.interpret (note d) ⟨p, []⟩).1, ⟨(m.interpret (note d) ⟨p, []⟩).2.platform,
        (m.interpret (note d) ⟨p, []⟩).2.errands ++ es⟩) := by
  induction m generalizing p es with
  | done a => rfl
  | ask e next ih =>
    have hask (es : List Errand) : (Dialogue.ask e next).interpret (note d) ⟨p, es⟩ =
        (next (p.carryOut d e).1).interpret (note d) ⟨(p.carryOut d e).2, e :: es⟩ := rfl
    rw [hask, hask, ih _ _ (e :: es), ih _ _ [e]]
    simp

theorem run_done (a : α) : run d p (.done a) = (a, [], p) := rfl

/-- A run that begins with an errand. -/
theorem run_ask (e : Errand) (next : e.Outcome → Errands α) :
    run d p (.ask e next) =
      ((run d (p.carryOut d e).2 (next (p.carryOut d e).1)).1,
        e :: (run d (p.carryOut d e).2 (next (p.carryOut d e).1)).2.1,
        (run d (p.carryOut d e).2 (next (p.carryOut d e).1)).2.2) := by
  have hask : (Dialogue.ask e next).interpret (note d) ⟨p, []⟩ =
      (next (p.carryOut d e).1).interpret (note d) ⟨(p.carryOut d e).2, [e]⟩ := rfl
  simp only [run]
  rw [hask, interpret_note]
  exact Prod.ext rfl (Prod.ext (List.reverse_append ..) rfl)

end GeneralApplications.Platform
