import Moderation.Pipeline.Basic
import Moderation.Proofs.Bus.Run
import Moderation.Proofs.Settings.Accepted
/-!
The subscriptions of the consumers. Consumers with names of their own are never in each other's
way, so a pipeline with settings that were accepted does not fail to start because of the bus.
-/
namespace Moderation.Pipeline
open Settings

namespace Consumer

def subscriber (capacity : Nat) (c : Consumer) : Subscriber :=
  ⟨c.name, c.interest, .empty capacity, 0, 0⟩

theorem subscribe_of_new {b : Bus} {capacity : Nat} (hpos : 1 ≤ capacity) {c : Consumer}
    (hnew : ∀ s ∈ b.subscribers, s.name ≠ c.name) :
    b.subscribe c.name c.interest capacity = .ok ⟨b.subscribers ++ [c.subscriber capacity]⟩ := by
  have hfree : (b.subscribers.any fun s => s.name = c.name && s.interest.overlaps c.interest) =
      false := by
    rw [List.any_eq_false]
    intro s hs
    simp [hnew s hs]
  rw [Bus.subscribe, if_neg (by omega), hfree]
  rfl

/-- Consumers with names of their own subscribe one after the other. -/
theorem foldlM_subscribe {capacity : Nat} (hpos : 1 ≤ capacity) {cs : List Consumer} {b : Bus}
    (hnames : (b.subscribers.map (·.name) ++ cs.map name).Nodup) :
    cs.foldlM (fun b c => b.subscribe c.name c.interest capacity) b =
      .ok ⟨b.subscribers ++ cs.map (subscriber capacity)⟩ := by
  induction cs generalizing b with
  | nil => simp [pure, Except.pure]
  | cons c cs ih =>
    have hnew : ∀ s ∈ b.subscribers, s.name ≠ c.name := by
      intro s hs
      exact (List.nodup_append.1 hnames).2.2 s.name (List.mem_map_of_mem hs) c.name (by simp)
    rw [List.foldlM_cons, subscribe_of_new hpos hnew]
    change cs.foldlM _ (⟨b.subscribers ++ [c.subscriber capacity]⟩ : Bus) = _
    rw [ih (by simpa [subscriber] using hnames)]
    simp

/-- All consumers subscribe, with and without filters. -/
theorem bus_all {capacity : Nat} (hpos : 1 ≤ capacity) (filterEnabled : Bool) :
    bus capacity (all filterEnabled) = .ok ⟨(all filterEnabled).map (subscriber capacity)⟩ := by
  refine foldlM_subscribe (b := .empty) hpos ?_
  cases filterEnabled <;> decide

end Consumer

/-- A pipeline whose filters can be loaded starts, unless its log file cannot be opened. -/
theorem start_eq {s : Settings} (hpos : 1 ≤ s.busQueueCapacity) {store : Store} {fault : Fault}
    {filters : List FilterRecord}
    (hfilters : loadFilters s ⟨store, fault, .ofSeconds s.storeTimeoutSeconds⟩ = .ok filters)
    (canOpen : String → Bool) :
    State.start s store fault canOpen =
      if s.unhandledLogPath.all canOpen then .ok {
        consumers := Consumer.all s.filterEnabled
        intake := ⟨.start s.ingestQueueCapacity,
          ⟨(Consumer.all s.filterEnabled).map (Consumer.subscriber s.busQueueCapacity)⟩, []⟩
        archive := ⟨store, fault, .ofSeconds s.storeTimeoutSeconds⟩
        engine := .start (policy s) (Warning.filtersOf filters)
        book := .empty
        created := 0
        pool := .start s.workers s.workerQueueCapacity
        calls := [] }
      else .error .unhandledLog := by
  simp only [State.start, hfilters, Consumer.bus_all hpos]
  cases s.unhandledLogPath.all canOpen <;> rfl

/-- Variables that agree give the same settings. Settings that were accepted are usable, and all
consumers can subscribe with them, so that a pipeline whose filters can be loaded starts, unless its
log file cannot be opened. -/
theorem start_of_ofVariables (vars : Variables) :
    (∀ vars', Agree vars vars' → ofVariables vars = ofVariables vars') ∧
    ∀ s, ofVariables vars = .ok s → s.Usable ∧
      (∀ filterEnabled, ∃ b,
        Consumer.bus s.busQueueCapacity (Consumer.all filterEnabled) = .ok b) ∧
      ∀ store fault canOpen filters,
        loadFilters s ⟨store, fault, .ofSeconds s.storeTimeoutSeconds⟩ = .ok filters →
        (∀ cause, State.start s store fault canOpen ≠ .error (.bus cause)) ∧
        (s.unhandledLogPath.all canOpen = true →
          ∃ state, State.start s store fault canOpen = .ok state) := by
  refine ⟨fun vars' h => h.ofVariables, fun s h => ?_⟩
  have husable := usable_of_ofVariables h
  refine ⟨husable, fun enabled => ⟨_, Consumer.bus_all husable.busQueueCapacity enabled⟩,
    fun store fault canOpen filters hfilters => ?_⟩
  rw [start_eq husable.busQueueCapacity hfilters]
  refine ⟨fun cause => ?_, fun hopen => ?_⟩
  · split <;> nofun
  · rw [if_pos hopen]
    exact ⟨_, rfl⟩

def fewVariables : Variables
  | "BUS_QUEUE_CAPACITY" => some " 1 "
  | "OWNER_STEAM_ID" => some "[U:1:7]"
  | "WARNING_EXCEEDED_DURATION" => some "30m"
  | "FILTER_ENABLED" => some "\t"
  | _ => none

def fewerVariables : Variables
  | "FILTER_ENABLED" => none
  | key => fewVariables key

theorem start_of_ofVariables_few :
    Agree fewVariables fewerVariables ∧ ofVariables fewVariables = ofVariables fewerVariables ∧
    ∃ s, ofVariables fewVariables = .ok s ∧ s.Usable ∧
      ∃ state, State.start s .empty .none (fun _ => true) = .ok state := by
  have hagree : Agree fewVariables fewerVariables := by
    intro key
    by_cases hkey : key = "FILTER_ENABLED"
    · subst hkey
      refine .inr ⟨?_, nofun⟩
      rintro v ⟨⟩
      decide
    · refine .inl ?_
      unfold fewerVariables
      split
      next => exact absurd rfl hkey
      next => rfl
  obtain ⟨hsame, hstart⟩ := start_of_ofVariables fewVariables
  have hread : (ofVariables fewVariables).map (fun s => (s.filterEnabled, s.storeTimeoutSeconds,
      s.unhandledLogPath)) = .ok (true, 5, none) := by decide +kernel
  cases hs : ofVariables fewVariables with
  | error e =>
    rw [hs] at hread
    cases hread
  | ok s =>
    rw [hs] at hread
    obtain ⟨husable, -, hany⟩ := hstart s hs
    have hfields := Except.ok.inj hread
    simp only [Prod.mk.injEq] at hfields
    obtain ⟨henabled, htimeout, hlog⟩ := hfields
    obtain ⟨-, hopen⟩ := hany .empty .none (fun _ => true) []
      (by rw [loadFilters, if_pos henabled, htimeout]; rfl)
    exact ⟨hagree, by rw [← hs]; exact hsame _ hagree, s, rfl, husable, hopen (by rw [hlog]; rfl)⟩

end Moderation.Pipeline
