import Moderation.Proofs.Worker.Pool
import Moderation.Worker.Shift
/-!
Labour that keeps a property of the jobs in a pool. No step of a pool brings a job that has not been
put into it, so the property is kept by every step, and so is what the labour does to the world.
-/
namespace Moderation.Worker
open Time
variable {α σ : Type} {P : α → Prop} {R : σ → σ → Prop}

def Labour.Keeps (labour : Labour α σ) (P : α → Prop) (R : σ → σ → Prop) : Prop :=
  ∀ clock job world progress, P job → labour clock job world = some progress →
    match progress with
    | .done world' => R world world'
    | .waits job' world' _ => P job' ∧ R world world'

namespace Pool
variable {p p' : Pool α} {h : Hand} {job : α}

theorem jobs_lose_subset (p : Pool α) (h : Hand) : (p.lose h).jobs ⊆ p.jobs := by
  unfold lose settled
  split
  next =>
    exact List.append_subset.2 ⟨fun j hj => List.mem_append_left _
      ((List.filter_sublist.map _).subset hj), List.subset_append_right ..⟩
  next =>
    exact List.append_subset.2 ⟨fun j hj => List.mem_append_left _
      ((List.filter_sublist.map _).subset hj), List.nil_subset _⟩

theorem jobs_finish_subset (p : Pool α) (h : Hand) : (p.finish h).jobs ⊆ p.jobs := by
  unfold finish
  split
  · split
    · exact jobs_lose_subset p _
    · exact List.append_subset.2 ⟨fun j hj => List.mem_append_left _
        ((List.filter_sublist.map _).subset hj), List.subset_append_right ..⟩
  · exact jobs_lose_subset p _

theorem mem_jobs_update {j : α} (hj : j ∈ (p.update h job).jobs) : j = job ∨ j ∈ p.jobs := by
  obtain hj | hj := List.mem_append.1 hj
  · simp only [update, List.map_map, List.mem_map, Function.comp_apply] at hj
    obtain ⟨r, hr, rfl⟩ := hj
    split
    · exact .inl rfl
    · exact .inr (List.mem_append_left _ (List.mem_map_of_mem hr))
  · exact .inr (List.mem_append_right _ hj)

theorem mem_jobs_put {isVital : Bool} {j : α} (hj : j ∈ (p.put isVital job).jobs) :
    j = job ∨ j ∈ p.jobs := by
  obtain ⟨q, hq, hput⟩ | ⟨-, hput⟩ | ⟨-, hput⟩ := p.put_cases isVital job
  · obtain ⟨hitems, -, -⟩ := Queue.items_offer hq
    simp only [hput, jobs, hitems, List.mem_append, List.mem_singleton] at hj ⊢
    tauto
  · simp only [hput, jobs, List.map_append, List.map_cons, List.map_nil, List.mem_append,
      List.mem_singleton] at hj ⊢
    tauto
  · exact .inr (hput ▸ hj)

theorem mem_jobs_of_job? (hj : p.job? h = some job) : job ∈ p.jobs := by
  obtain ⟨r, hfind, rfl⟩ := Option.map_eq_some_iff.1 hj
  exact List.mem_append_left _ (List.mem_map_of_mem (List.mem_of_find?_eq_some hfind))

theorem jobs_take?_subset (ht : p.take? = some (h, job, p')) : job ∈ p.jobs ∧ p'.jobs ⊆ p.jobs := by
  obtain ⟨hrunning, hitems, -, -⟩ := take?_eq_some ht
  refine ⟨by simp [jobs, hitems], fun j hj => ?_⟩
  simp only [jobs, hrunning, hitems, List.map_append, List.map_cons, List.map_nil,
    List.mem_append, List.mem_cons] at hj ⊢
  tauto

/-- What labour keeps is kept by a step of a pool. -/
theorem keeps_step {labour : Labour α σ} (hlabour : labour.Keeps P R) (hrefl : ∀ w, R w w)
    (hjobs : ∀ j ∈ p.jobs, P j) {clock : Span} {world : σ}
    {step : Schedule.Step Hand (Pool α × σ)} (hstep : p.step? labour clock h world = some step) :
    (∀ j ∈ step.state.1.jobs, P j) ∧ R world step.state.2 := by
  have hproceed : ∀ {q : Pool α} {job : α} {woken : List Hand} {progress : Progress α σ},
      (∀ j ∈ q.jobs, P j) → P job → labour clock job world = some progress →
      (∀ j ∈ (q.proceed h woken progress).state.1.jobs, P j) ∧
        R world (q.proceed h woken progress).state.2 := by
    intro q job woken progress hq hjob hprogress
    have hkept := hlabour clock job world progress hjob hprogress
    cases progress with
    | done world' => exact ⟨fun j hj => hq j (jobs_finish_subset q h hj), hkept⟩
    | waits job' world' sleep =>
      refine ⟨fun j hj => ?_, hkept.2⟩
      obtain rfl | hj := mem_jobs_update hj
      · exact hkept.1
      · exact hq j hj
  unfold step? at hstep
  split at hstep
  next job hjob =>
    obtain ⟨progress, hprogress, rfl⟩ := Option.map_eq_some_iff.1 hstep
    exact hproceed hjobs (hjobs job (mem_jobs_of_job? hjob)) hprogress
  next =>
    split at hstep
    next =>
      obtain ⟨⟨hand, job, q⟩, htake, hstep⟩ := Option.bind_eq_some_iff.1 hstep
      obtain ⟨hmem, hsub⟩ := jobs_take?_subset htake
      have hq : ∀ j ∈ q.jobs, P j := fun j hj => hjobs j (hsub hj)
      simp only at hstep
      split at hstep
      next =>
        cases hstep
        exact ⟨hq, hrefl world⟩
      next progress hprogress =>
        cases hstep
        exact hproceed hq (hjobs job hmem) hprogress
    next => cases hstep

end Pool

end Moderation.Worker
