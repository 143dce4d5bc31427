import TspSolver.Solve.Optimum
import TspSolver.Walk.Symmetry
import TspSolver.Walk.Metric

/-!
# How the optimum moves with the distances

Three changes of a model whose effect on the exact search is known beforehand:
potentials at the nodes shift the objective and keep the tour, new names for the
nodes and turned arcs keep the objective, and lower distances or fewer nodes of
a metric model do not raise it.
-/

namespace TspSolver

/-! ## Changes of a problem -/

section Problems

variable {problem image : Problem}

/-- The optimum is not raised when every tour of the one problem undercuts to one of the other. -/
theorem Problem.IsOptimum.le {cost imageCost : ℤ} (optimum : problem.IsOptimum cost)
    (imageOptimum : image.IsOptimum imageCost)
    (undercut : ∀ order, problem.IsTour order → ∃ other, image.IsTour other ∧
      image.tourCost other ≤ problem.tourCost order) : imageCost ≤ cost := by
  rcases optimum.1 with ⟨order, tour, rfl⟩
  rcases undercut order tour with ⟨other, otherTour, cheaper⟩
  exact (imageOptimum.2 ⟨other, otherTour, rfl⟩).trans cheaper

/-- Both distances from a node to another differ by the potentials at their ends. -/
structure Shifted (problem image : Problem) (out into : ℕ → ℤ) : Prop where
  size_eq : image.size = problem.size
  edge_eq : ∀ source < problem.size, ∀ target < problem.size, source ≠ target →
    image.edge source target = problem.edge source target + (out source + into target)

/-- What the potentials add to every tour. -/
def potentialSum (out into : ℕ → ℤ) (size : ℕ) : ℤ :=
  ((List.range size).map fun node => out node + into node).sum

theorem Shifted.tourCost_eq {out into : ℕ → ℤ} (shifted : Shifted problem image out into)
    (several : 2 ≤ problem.size) {order : List ℕ} (tour : problem.IsTour order) :
    image.tourCost order = problem.tourCost order + potentialSum out into problem.size := by
  have inRange {node : ℕ} (nodeMem : node ∈ order) := (tour.mem_iff node).mp nodeMem
  have several : 2 ≤ order.length := by
    rw [tour.length_eq]
    exact several
  rw [potentialSum, ← (List.Perm.map _ tour).sum_eq]
  apply Walk.closedCost_potentials tour.nodup several
  intro source sourceMem target targetMem
  exact shifted.edge_eq source (inRange sourceMem) target (inRange targetMem)

theorem Shifted.isTour_iff {out into : ℕ → ℤ} (shifted : Shifted problem image out into)
    (order : List ℕ) : image.IsTour order ↔ problem.IsTour order := by
  rw [Problem.IsTour, Problem.IsTour, shifted.size_eq]

/-- The nodes of the first problem under the names they have in the second. -/
structure Renaming (problem image : Problem) (rename : ℕ → ℕ) : Prop where
  perm : ((List.range problem.size).map rename).Perm (List.range image.size)
  /-- All arcs keep their direction, or all are turned. -/
  edge_eq : (∀ source < problem.size, ∀ target < problem.size,
      image.edge (rename source) (rename target) = problem.edge source target) ∨
    ∀ source < problem.size, ∀ target < problem.size,
      image.edge (rename target) (rename source) = problem.edge source target

theorem Renaming.exists_tour {rename : ℕ → ℕ} (renames : Renaming problem image rename)
    {order : List ℕ} (tour : problem.IsTour order) :
    ∃ other, image.IsTour other ∧ image.tourCost other = problem.tourCost order := by
  have inRange {node : ℕ} (nodeMem : node ∈ order) := (tour.mem_iff node).mp nodeMem
  have named : image.IsTour (order.map rename) := (List.Perm.map _ tour).trans renames.perm
  rcases renames.edge_eq with kept | turned
  · refine ⟨order.map rename, named, ?_⟩
    apply Walk.closedCost_map
    intro source sourceMem target targetMem
    exact kept source (inRange sourceMem) target (inRange targetMem)
  · refine ⟨(order.map rename).reverse, (List.reverse_perm _).trans named, ?_⟩
    rw [Problem.tourCost, ← Walk.closedCost_flip_reverse, List.reverse_reverse]
    apply Walk.closedCost_map
    intro source sourceMem target targetMem
    exact turned source (inRange sourceMem) target (inRange targetMem)

theorem Renaming.exists_old {rename : ℕ → ℕ} (renames : Renaming problem image rename)
    {node : ℕ} (nodeLt : node < image.size) : ∃ old < problem.size, rename old = node := by
  have nodeMem := renames.perm.mem_iff.mpr (List.mem_range.mpr nodeLt)
  rcases List.mem_map.mp nodeMem with ⟨old, oldMem, named⟩
  exact ⟨old, List.mem_range.mp oldMem, named⟩

theorem Renaming.exists_back {rename : ℕ → ℕ} (renames : Renaming problem image rename) :
    ∃ back : ℕ → ℕ, ∀ old < problem.size, back (rename old) = old := by
  have injective : Set.InjOn rename (Set.Iio problem.size) := by
    intro left leftLt right rightLt
    have named : ((List.range problem.size).map rename).Nodup :=
      renames.perm.nodup_iff.mpr List.nodup_range
    exact List.inj_on_of_nodup_map named (List.mem_range.mpr leftLt) (List.mem_range.mpr rightLt)
  refine ⟨Function.invFunOn rename (Set.Iio problem.size), ?_⟩
  intro old oldLt
  exact injective.leftInvOn_invFunOn oldLt

/-- The renaming back. -/
theorem Renaming.symm {rename : ℕ → ℕ} (renames : Renaming problem image rename) :
    ∃ back, Renaming image problem back := by
  rcases renames.exists_back with ⟨back, undone⟩
  refine ⟨back, ?_, ?_⟩
  · have identity : (List.range problem.size).map (back ∘ rename) = List.range problem.size := by
      conv_rhs => rw [← List.map_id (List.range problem.size)]
      apply List.map_congr_left
      intro old oldMem
      exact undone old (List.mem_range.mp oldMem)
    have images := (List.Perm.map back renames.perm).symm
    rwa [List.map_map, identity] at images
  · -- Every node of the image has an old name, so a relation of old names carries over.
    have transferred {relation : ℕ → ℕ → Prop}
        (holds : ∀ source < problem.size, ∀ target < problem.size,
          relation (rename source) (rename target)) :
        ∀ source < image.size, ∀ target < image.size, relation source target := by
      intro source sourceLt target targetLt
      rcases renames.exists_old sourceLt with ⟨oldSource, oldSourceLt, rfl⟩
      rcases renames.exists_old targetLt with ⟨oldTarget, oldTargetLt, rfl⟩
      exact holds oldSource oldSourceLt oldTarget oldTargetLt
    rcases renames.edge_eq with kept | turned
    · left
      apply transferred
      intro source sourceLt target targetLt
      rw [undone source sourceLt, undone target targetLt, kept source sourceLt target targetLt]
    · right
      apply transferred
      intro source sourceLt target targetLt
      rw [undone source sourceLt, undone target targetLt, turned target targetLt source sourceLt]

theorem Renaming.optimum_eq {rename : ℕ → ℕ} (renames : Renaming problem image rename)
    {cost imageCost : ℤ} (optimum : problem.IsOptimum cost)
    (imageOptimum : image.IsOptimum imageCost) : imageCost = cost := by
  have undercut {left right : Problem} {rename : ℕ → ℕ} (renames : Renaming left right rename) :
      ∀ order, left.IsTour order → ∃ other, right.IsTour other ∧
        right.tourCost other ≤ left.tourCost order := by
    intro order tour
    rcases renames.exists_tour tour with ⟨other, otherTour, same⟩
    exact ⟨other, otherTour, same.le⟩
  rcases renames.symm with ⟨back, reversed⟩
  exact le_antisymm (optimum.le imageOptimum (undercut renames))
    (imageOptimum.le optimum (undercut reversed))

/-- The first nodes of a metric problem, at distances no larger than theirs. -/
structure Embeds (problem image : Problem) : Prop where
  size_le : problem.size ≤ image.size
  metric : Walk.IsMetric image.edge (· < image.size)
  edge_le : ∀ source < problem.size, ∀ target < problem.size,
    problem.edge source target ≤ image.edge source target

/-- Leaving out the other nodes turns a tour into a shorter one. -/
theorem Embeds.optimum_le (embeds : Embeds problem image) {cost imageCost : ℤ}
    (optimum : problem.IsOptimum cost) (imageOptimum : image.IsOptimum imageCost) :
    cost ≤ imageCost := by
  apply imageOptimum.le optimum
  intro order tour
  have inRange {node : ℕ} (nodeMem : node ∈ order) := (tour.mem_iff node).mp nodeMem
  refine ⟨order.filter (· < problem.size), ?_, ?_⟩
  · have kept := List.Perm.filter (fun node => decide (node < problem.size)) tour
    apply kept.trans
    rw [List.perm_ext_iff_of_nodup (List.nodup_range.filter _) List.nodup_range]
    intro node
    have sizeLe := embeds.size_le
    simp only [List.mem_filter, List.mem_range, decide_eq_true_iff]
    omega
  · have sublist : (order.filter (· < problem.size)).Sublist order := List.filter_sublist
    apply le_trans _ (embeds.metric.closedCost_sublist_le sublist fun _ nodeMem => inRange nodeMem)
    apply Walk.closedCost_le
    intro source sourceMem target targetMem
    exact embeds.edge_le source (by simpa using (List.mem_filter.mp sourceMem).2) target
      (by simpa using (List.mem_filter.mp targetMem).2)

end Problems

/-! ## Answers of the exact search -/

namespace Model

variable {model image : Model} {options imageOptions : Options}

/--
Potentials at the nodes, as a fee for entering or leaving them, keep the tour the
search returns and shift its objective by their sum.
-/
theorem solve_potentials {out into : ℕ → ℤ} (searchable : model.Searchable)
    (imageSearchable : image.Searchable) (several : 2 ≤ model.size)
    (shifted : Shifted model.toProblem image.toProblem out into) (searches : options.Searches) :
    ∃ result imageResult, model.solve options = (.ok, some result) ∧
      image.solve options = (.ok, some imageResult) ∧ imageResult.tour = result.tour ∧
      imageResult.objective.toInt =
        result.objective.toInt + potentialSum out into model.size := by
  rcases searchable.exists_least searches with ⟨tour, solved, tourFrom, costEq, least⟩
  rcases imageSearchable.exists_least searches with
    ⟨twin, imageSolved, twinFrom, twinCostEq, twinLeast⟩
  have sizeEq : image.size = model.size := by
    rw [← size_toProblem, shifted.size_eq, size_toProblem]
  rw [sizeEq] at twinFrom twinLeast
  rw [← size_toProblem] at several
  have twinTour := (shifted.isTour_iff _).mp twinFrom.isTour
  -- Both searches prefer the same one of two tours of equal cost.
  have orderEq : twin.order = tour.order := by
    have forward := least twin.order ⟨twinTour, twinFrom.head_eq⟩
    have backward := twinLeast tour.order
      ⟨(shifted.isTour_iff _).mpr tourFrom.isTour, tourFrom.head_eq⟩
    rw [shifted.tourCost_eq several twinTour,
      shifted.tourCost_eq several tourFrom.isTour] at backward
    rcases forward with cheaper | ⟨tied, before⟩
    · omega
    · rcases backward with cheaper | ⟨_, after⟩
      · omega
      · apply List.reverse_injective
        exact le_antisymm after before
  refine ⟨_, _, solved, imageSolved, orderEq, ?_⟩
  simp only [resultOf]
  rw [twinCostEq, costEq, orderEq, shifted.tourCost_eq several tourFrom.isTour, size_toProblem]

/-- Three nodes, where leaving node 1 costs ten more and entering node 2 costs four less. -/
theorem solve_potentials_three :
    let model := ofMatrix (fun source target => if source < target then 5 else 8) 3
    let image := ofMatrix (fun source target => (if source < target then 5 else 8) +
      (if source = 1 then 10 else 0) + (if target = 2 then -4 else 0)) 3
    ∃ result imageResult, model.solve { algorithm := .heldKarp } = (.ok, some result) ∧
      image.solve { algorithm := .heldKarp } = (.ok, some imageResult) ∧
      imageResult.tour = result.tour ∧
      imageResult.objective.toInt = result.objective.toInt + 6 := by
  intro model image
  have searchable : model.Searchable := searchable_of_bounded (reachable_ofMatrix _ 3) (by decide)
    (by decide) (by decide) (by decide)
  have imageSearchable : image.Searchable := searchable_of_bounded (reachable_ofMatrix _ 3)
    (by decide) (by decide) (by decide) (by decide)
  exact solve_potentials searchable imageSearchable (by decide)
    (⟨by decide, by decide⟩ : Shifted model.toProblem image.toProblem
      (fun node => if node = 1 then 10 else 0) (fun node => if node = 2 then -4 else 0))
    ⟨rfl, by decide⟩

/--
New names for the nodes keep the objective, and so do turned arcs; the seeds of
the two searches do not matter.
-/
theorem solve_relabelled {rename : ℕ → ℕ} (searchable : model.Searchable)
    (imageSearchable : image.Searchable)
    (renames : Renaming model.toProblem image.toProblem rename) (searches : options.Searches)
    (imageSearches : imageOptions.Searches) :
    ∃ result imageResult, model.solve options = (.ok, some result) ∧
      image.solve imageOptions = (.ok, some imageResult) ∧
      imageResult.objective = result.objective := by
  rcases searchable.exists_optimum searches with ⟨result, solved, optimum⟩
  rcases imageSearchable.exists_optimum imageSearches with ⟨imageResult, imageSolved, imageOptimum⟩
  refine ⟨result, imageResult, solved, imageSolved, ?_⟩
  exact Int64.toInt_inj.mp (renames.optimum_eq optimum imageOptimum)

/-- Three nodes named in a circle and all arcs turned. -/
theorem solve_relabelled_three :
    let model := ofMatrix (fun source target => if source < target then 5 else 8) 3
    let image := ofMatrix (fun source target =>
      if (target + 2) % 3 < (source + 2) % 3 then 5 else 8) 3
    ∃ result imageResult, model.solve { algorithm := .heldKarp } = (.ok, some result) ∧
      image.solve { algorithm := .heldKarp, randomSeed := 2 } = (.ok, some imageResult) ∧
      imageResult.objective = result.objective := by
  intro model image
  have searchable : model.Searchable := searchable_of_bounded (reachable_ofMatrix _ 3) (by decide)
    (by decide) (by decide) (by decide)
  have imageSearchable : image.Searchable := searchable_of_bounded (reachable_ofMatrix _ 3)
    (by decide) (by decide) (by decide) (by decide)
  exact solve_relabelled searchable imageSearchable
    (⟨by decide, .inr (by decide)⟩ : Renaming model.toProblem image.toProblem
      fun node => (node + 1) % 3) ⟨rfl, by decide⟩ ⟨rfl, by decide⟩

/--
The objective does not fall when a model gains nodes and distances rise, as long
as the larger model is metric.
-/
theorem solve_grown (searchable : model.Searchable) (imageSearchable : image.Searchable)
    (embeds : Embeds model.toProblem image.toProblem) (searches : options.Searches)
    (imageSearches : imageOptions.Searches) :
    ∃ result imageResult, model.solve options = (.ok, some result) ∧
      image.solve imageOptions = (.ok, some imageResult) ∧
      result.objective ≤ imageResult.objective := by
  rcases searchable.exists_optimum searches with ⟨result, solved, optimum⟩
  rcases imageSearchable.exists_optimum imageSearches with ⟨imageResult, imageSolved, imageOptimum⟩
  refine ⟨result, imageResult, solved, imageSolved, ?_⟩
  exact Int64.le_iff_toInt_le.mpr (embeds.optimum_le optimum imageOptimum)

/-- Two nodes at asymmetric distances, and four nodes at distance six from each other. -/
theorem solve_grown_four :
    let model := ofMatrix (fun source target => if source < target then 5 else 3) 2
    let image := ofMatrix (fun _ _ => 6) 4
    ∃ result imageResult, model.solve { algorithm := .heldKarp } = (.ok, some result) ∧
      image.solve { algorithm := .heldKarp, randomSeed := 3 } = (.ok, some imageResult) ∧
      result.objective ≤ imageResult.objective := by
  intro model image
  have searchable : model.Searchable := searchable_of_bounded (reachable_ofMatrix _ 2) (by decide)
    (by decide) (by decide) (by decide)
  have imageSearchable : image.Searchable := searchable_of_bounded (reachable_ofMatrix _ 4)
    (by decide) (by decide) (by decide) (by decide)
  exact solve_grown searchable imageSearchable ⟨by decide, by decide, by decide⟩
    ⟨rfl, by decide⟩ ⟨rfl, by decide⟩

end Model

end TspSolver
