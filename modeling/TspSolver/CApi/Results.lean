import TspSolver.CApi
import Mathlib.Data.List.GetD

/-!
# Reading a tour out of a result

The copying loop of `tsp_solver_result_get_tour` fills a prefix of the caller's
buffer and nothing else, and it runs past the buffer exactly when the caller
promised more room than there is.
-/

namespace TspSolver

/-- After `count` turns the buffer starts with `count` nodes of the tour. -/
theorem copyTour_turns (tour buffer : List ℕ) {count : ℕ} (inTour : count ≤ tour.length)
    (inBuffer : count ≤ buffer.length) :
    (List.range count).foldlM
      (fun filled index =>
        if index < filled.length then some (filled.set index (tour.getD index 0)) else none)
      buffer = some (tour.take count ++ buffer.drop count) := by
  induction count with
  | zero => rfl
  | succ count ih =>
      have startLength : (tour.take count).length = count := by
        simp only [List.length_take]
        omega
      have room : count < (tour.take count ++ buffer.drop count).length := by
        simp only [List.length_append, List.length_take, List.length_drop]
        omega
      rw [List.range_succ, List.foldlM_append, ih (by omega) (by omega)]
      simp only [Option.bind_eq_bind, Option.bind_some, List.foldlM_cons, List.foldlM_nil,
        if_pos room]
      rw [List.set_append_right _ _ (by omega), startLength, Nat.sub_self,
        List.drop_eq_getElem_cons (by omega : count < buffer.length), List.set_cons_zero,
        List.getD_eq_getElem _ _ (by omega : count < tour.length),
        List.take_succ_eq_append_getElem (by omega : count < tour.length), List.append_assoc]
      rfl

/-- The loop fills a prefix of a large enough buffer and is undefined on a smaller one. -/
theorem copyTour_eq (tour buffer : List ℕ) :
    copyTour tour buffer =
      if tour.length ≤ buffer.length then some (tour ++ buffer.drop tour.length) else none := by
  by_cases room : tour.length ≤ buffer.length
  · rw [if_pos room, copyTour, copyTour_turns tour buffer (Nat.le_refl _) room,
      List.take_length]
  · have shorter : buffer.length < tour.length := not_le.mp room
    rw [if_neg room, copyTour, ← Nat.add_sub_cancel' (Nat.succ_le_of_lt shorter),
      List.range_add, List.foldlM_append, List.range_succ, List.foldlM_append,
      copyTour_turns tour buffer shorter.le (Nat.le_refl _)]
    simp

/--
The getter copies the whole tour to the front of the buffer and keeps the rest,
refuses a capacity below the tour's size without touching either argument, and
is undefined exactly when the capacity it was given exceeds the buffer and the
tour does, too.
-/
theorem getTour_exact (result : Result) (buffer : List ℕ) (capacity stale : ℕ) :
    tspSolverResultGetTour (some result) (some buffer) capacity (some stale) =
      if capacity < result.tour.length then
        some (.invalidArgument, some buffer, some stale)
      else if result.tour.length ≤ buffer.length then
        some (.ok, some (result.tour ++ buffer.drop result.tour.length),
          some result.tour.length)
      else none := by
  rw [tspSolverResultGetTour, copyTour_eq]
  split_ifs <;> rfl

/-- Reading a list entry by entry gives the list. -/
theorem map_getD_range (nodes : List ℕ) :
    (List.range nodes.length).map (fun index => nodes.getD index 0) = nodes := by
  apply List.ext_getElem
  · simp
  · intro index _ inside
    simp [List.getElem?_eq_getElem inside]

theorem map_cast_range {Entry : Type} (cast : ℕ → Entry) (nodes : List ℕ) :
    (List.range nodes.length).map (fun index => cast (nodes.getD index 0)) = nodes.map cast := by
  have cast_read := congrArg (List.map cast) (map_getD_range nodes)
  rwa [List.map_map] at cast_read

end TspSolver
