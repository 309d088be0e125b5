import Moderation.Ingest.Reception
import Moderation.Proofs.Ingest.Routes
import Moderation.Proofs.Schedule
/-!
Routes while their tasks ingest what has been received. Batches leave the queues in order, none comes
and no server gets a route, however long the tasks go on.
-/
namespace Moderation.Ingest
open Schedule Time

/-- The routes of a router after some batches have left their queues. -/
structure Router.Drains (r r' : Router) : Prop where
  capacity : r'.capacity = r.capacity
  isCancelled : r'.isCancelled = r.isCancelled
  routed : ∀ id, (r'.routes.get? id).isSome = (r.routes.get? id).isSome
  items : ∀ id, (r'.route id).queue.items <:+ (r.route id).queue.items
  isOpen : ∀ id, (r'.route id).queue.isOpen = true → (r.route id).queue.isOpen = true

theorem Router.Drains.refl (r : Router) : r.Drains r :=
  ⟨rfl, rfl, fun _ => rfl, fun _ => List.suffix_rfl, fun _ h => h⟩

theorem Router.Drains.trans {r r' r'' : Router} (h : r.Drains r') (h' : r'.Drains r'') :
    r.Drains r'' where
  capacity := h'.capacity.trans h.capacity
  isCancelled := h'.isCancelled.trans h.isCancelled
  routed id := (h'.routed id).trans (h.routed id)
  items id := (h'.items id).trans (h.items id)
  isOpen id := h.isOpen id ∘ h'.isOpen id

/-- A route that gives a batch away and may be closed. -/
theorem Router.Drains.of_get? {r r' : Router} {id : Int} {route route' : Route} {b : Batch}
    {queue : Queue Batch} (hget : r.routes.get? id = some route)
    (htake : route.queue.take? = some (b, queue))
    (hqueue : route'.queue = queue ∨ route'.queue = queue.close)
    (hcapacity : r'.capacity = r.capacity) (hcancelled : r'.isCancelled = r.isCancelled)
    (hroutes : ∀ id', r'.routes.get? id' =
      if id = id' then some route' else r.routes.get? id') : r.Drains r' := by
  obtain ⟨hitems, -, hopen⟩ := Queue.items_take? htake
  have hown : r'.route id = route' := Intake.route_of_get? (by rw [hroutes, if_pos rfl])
  have hothers (id' : Int) (hne : id ≠ id') : r'.route id' = r.route id' := by
    rw [Router.route, Router.route, hroutes, if_neg hne, hcapacity]
  refine ⟨hcapacity, hcancelled, fun id' => ?_, fun id' => ?_, fun id' => ?_⟩
  · rw [hroutes]
    split
    next heq => rw [← heq, hget]; rfl
    next => rfl
  · by_cases heq : id = id'
    · subst heq
      rw [hown, Intake.route_of_get? hget, hitems]
      obtain hq | hq := hqueue
      · rw [hq]
        exact List.suffix_cons b queue.items
      · rw [hq]
        exact List.nil_suffix
    · exact ⟨[], by rw [hothers id' heq, List.nil_append]⟩
  · by_cases heq : id = id'
    · subst heq
      rw [hown, Intake.route_of_get? hget, ← hopen]
      obtain hq | hq := hqueue
      · rw [hq]
        exact fun h => h
      · rw [hq]
        exact fun h => by cases h
    · rw [hothers id' heq]
      exact fun h => h

theorem Intake.drains_ingestNext? {x x' : Intake} {now : Stamp} {id : Int}
    {entries : List Entry} (h : x.ingestNext? now id = some (entries, x')) :
    x.router.Drains x'.router := by
  cases hget : x.router.routes.get? id with
  | none => simp [ingestNext?, Router.take?, hget] at h
  | some route =>
    cases hqueue : route.queue.take? with
    | none => simp [ingestNext?, Router.take?, hget, hqueue] at h
    | some taken =>
      obtain ⟨b, queue⟩ := taken
      obtain ⟨router, htake, hcapacity, hcancelled, hroutes⟩ := exists_take? hget hqueue
      have hrouter : router.route id = { route with queue } :=
        route_of_get? (by rw [hroutes, if_pos rfl])
      -- what is left to do is to put the route back, closed or not
      have hback (route' : Route) (hq : route'.queue = queue ∨ route'.queue = queue.close) :
          x.router.Drains { router with routes := router.routes.insert id route' } :=
        .of_get? hget hqueue hq hcapacity hcancelled (get?_insert_taken hroutes route')
      unfold ingestNext? at h
      simp only [htake, Option.bind_eq_bind, Option.bind_some] at h
      cases hstop : router.isCancelled with
      | true =>
        simp only [hstop] at h
        cases h
        exact hback _ (.inr (by rw [hrouter]))
      | false =>
        simp only [hstop] at h
        cases hresult : ((router.route id).ingestor.ingest now b.server b.lines).2 with
        | ok i =>
          simp only [hresult] at h
          cases h
          exact hback _ (.inl (by rw [hrouter]))
        | error o =>
          simp only [hresult] at h
          cases h
          exact hback _ (.inr (by rw [hrouter]))

theorem isKept_drains (now : Stamp) :
    IsKept (tasks now) fun x x' => x.router.Drains x'.router where
  refl x := .refl x.router
  trans := Router.Drains.trans
  step h := by
    obtain ⟨⟨entries, x'⟩, hnext, rfl⟩ := Option.map_eq_some_iff.1 h
    exact Intake.drains_ingestNext? hnext

theorem Reception.drains_settle (r : Reception) (now : Stamp) :
    r.intake.router.Drains (r.settle now).intake.router :=
  let fuel := r.agenda.ready.length + r.intake.router.waiting + 1
  (isKept_drains now).run .zero fuel r.agenda r.intake

end Moderation.Ingest
