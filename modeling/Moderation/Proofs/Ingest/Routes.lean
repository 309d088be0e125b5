import Mathlib.Data.List.Dedup
import Moderation.Proofs.Ingest.Run
import Moderation.Proofs.Table
/-!
Runs of the routes, in which batches are submitted and the tasks of the servers ingest them at any
time. A step concerns the route of one server and depends on it alone; a route gives its batches to
its ingestor in the order in which it took them.
-/
namespace Moderation.Ingest
open Log Number Time

namespace Intake

inductive Op where
  | submit (b : Batch)
  | ingest (id : Int) (now : Stamp)

inductive Answer where
  | submitted (result : Except IngestError Unit)
  | ingested (now : Stamp) (b : Batch) (entries : List Entry)
  | idle

def Op.server : Op → Int
  | .submit b => b.server.id
  | .ingest id _ => id

def Op.submitted? : Op → Option Int
  | .submit b => some b.server.id
  | .ingest _ _ => none

def step (x : Intake) : Op → Answer × Intake
  | .submit b => (.submitted (x.router.submit b).1, { x with router := (x.router.submit b).2 })
  | .ingest id now =>
    match x.router.take? id, x.ingestNext? now id with
    | some (b, _), some (entries, x') => (.ingested now b entries, x')
    | _, _ => (.idle, x)

def after (x : Intake) (ops : List Op) : Intake := ops.foldl (fun x op => (x.step op).2) x

def answers (x : Intake) : List Op → List Answer
  | [] => []
  | op :: ops => (x.step op).1 :: answers (x.step op).2 ops

def own (id : Int) (ops : List Op) : List Op := ops.filter (·.server = id)

def answersTo (id : Int) (ops : List Op) (as : List Answer) : List Answer :=
  ((ops.zip as).filter (·.1.server = id)).map (·.2)

def accepted (ops : List Op) (as : List Answer) : List Batch :=
  (ops.zip as).filterMap fun
    | (.submit b, .submitted (.ok _)) => some b
    | _ => none

def ingestions (as : List Answer) : List (Stamp × Batch × List Entry) :=
  as.filterMap fun
    | .ingested now b entries => some (now, b, entries)
    | _ => none

def readings (now : Stamp) (b : Batch) : List Reading := b.lines.map (⟨now, b.server, ·⟩)

end Intake

def Batch.IsReadable (b : Batch) : Prop :=
  ∀ line ∈ b.lines, ∀ now, ∃ c, classify now b.server line = .ok c

theorem Batch.IsReadable.exists_ingest {b : Batch} (h : b.IsReadable) (i : Ingestor)
    (now : Stamp) : ∃ entries i', i.ingest now b.server b.lines = (entries, .ok i') := by
  unfold IsReadable at h
  unfold Ingestor.ingest
  generalize b.lines = lines at h
  induction lines generalizing i with
  | nil => exact ⟨[], i, rfl⟩
  | cons line lines ih =>
    obtain ⟨c, hc⟩ := h line (by simp) now
    obtain ⟨entries, i', hrest⟩ := ih (i.enter line c).2 fun l hl =>
      h l (List.mem_cons_of_mem line hl)
    have hclassified : (⟨now, b.server, line⟩ : Reading).classified = .ok c := hc
    exact ⟨(i.enter line c).1 :: entries, i', by
      simp only [List.map_cons, Ingestor.follow, hclassified, hrest]⟩

namespace Route
open Intake

def react (r : Route) : Op → Answer × Route
  | .submit b =>
    match r.queue.offer b with
    | .ok queue => (.submitted (.ok ()), { r with queue })
    | .error cause => (.submitted (.error (.ofRefusal b.server.name cause)), r)
  | .ingest _ now =>
    match r.queue.take? with
    | none => (.idle, r)
    | some (b, queue) =>
      match r.ingestor.ingest now b.server b.lines with
      | (entries, .ok i) => (.ingested now b entries, ⟨queue, i⟩)
      | (entries, .error _) => (.ingested now b entries, ⟨queue.close, r.ingestor⟩)

section React
variable {r : Route} {b : Batch} {queue : Queue Batch} {id : Int} {now : Stamp}
  {entries : List Entry}

theorem react_submit_of_ok (h : r.queue.offer b = .ok queue) :
    r.react (.submit b) = (.submitted (.ok ()), { r with queue }) := by
  simp only [react, h]

theorem react_submit_of_error {cause : Refusal} (h : r.queue.offer b = .error cause) :
    r.react (.submit b) = (.submitted (.error (.ofRefusal b.server.name cause)), r) := by
  simp only [react, h]

theorem react_ingest_of_none (h : r.queue.take? = none) :
    r.react (.ingest id now) = (.idle, r) := by
  simp only [react, h]

theorem react_ingest_of_ok {i : Ingestor} (h : r.queue.take? = some (b, queue))
    (hingest : r.ingestor.ingest now b.server b.lines = (entries, .ok i)) :
    r.react (.ingest id now) = (.ingested now b entries, ⟨queue, i⟩) := by
  simp only [react, h, hingest]

theorem react_ingest_of_error {o : Overflow} (h : r.queue.take? = some (b, queue))
    (hingest : r.ingestor.ingest now b.server b.lines = (entries, .error o)) :
    r.react (.ingest id now) = (.ingested now b entries, ⟨queue.close, r.ingestor⟩) := by
  simp only [react, h, hingest]

end React

def after (r : Route) (ops : List Op) : Route := ops.foldl (fun r op => (r.react op).2) r

def answers (r : Route) : List Op → List Answer
  | [] => []
  | op :: ops => (r.react op).1 :: answers (r.react op).2 ops

end Route

namespace Intake
variable {x x' : Intake} {op : Op}

structure Steps (x : Intake) (op : Op) (a : Answer) (x' : Intake) : Prop where
  own : (x.router.route op.server).react op = (a, x'.router.route op.server)
  others : ∀ id, op.server ≠ id → x'.router.route id = x.router.route id
  goesOn : x'.router.isCancelled = false
  routed : ∀ id, (x'.router.routes.get? id).isSome =
    ((x.router.routes.get? id).isSome || op.submitted? = some id)
  bus : x'.bus = x.bus.publishAll (published ((ingestions [a]).map (·.2.2)).flatten)

/-- A step that gives the route that it concerns another value. -/
theorem Steps.of_get? {a : Answer} {r : Route}
    (hreact : (x.router.route op.server).react op = (a, r))
    (hcapacity : x'.router.capacity = x.router.capacity)
    (hgoes : x'.router.isCancelled = false)
    (hget : ∀ id, x'.router.routes.get? id =
      if op.server = id then some r else x.router.routes.get? id)
    (hrouted : (x.router.routes.get? op.server).isSome = true ∨ op.submitted? = some op.server)
    (hbus : x'.bus = x.bus.publishAll (published ((ingestions [a]).map (·.2.2)).flatten)) :
    Steps x op a x' where
  own := by
    have hroute : x'.router.route op.server = r := by simp [Router.route, hget]
    rw [hreact, hroute]
  others id hid := by simp only [Router.route, hget, if_neg hid, hcapacity]
  goesOn := hgoes
  routed id := by
    rw [hget]
    by_cases hid : op.server = id
    · subst hid
      rcases hrouted with h | h <;> simp [h]
    · have hsubmitted : op.submitted? ≠ some id := by
        cases op with
        | submit b => exact fun h => hid (Option.some.inj h)
        | ingest id now => nofun
      simp [hid, hsubmitted]
  bus := hbus

theorem route_of_get? {router : Router} {id : Int} {r : Route}
    (h : router.routes.get? id = some r) : router.route id = r := by
  rw [Router.route, h, Option.getD_some]

/-- A step in which a task enters the lines of a batch. -/
theorem Steps.of_ingested {id : Int} {now : Stamp} {r r' : Route} {router : Router} {b : Batch}
    {entries : List Entry} (hget : x.router.routes.get? id = some r)
    (hreact : r.react (.ingest id now) = (.ingested now b entries, r'))
    (hcapacity : router.capacity = x.router.capacity) (hgoes : router.isCancelled = false)
    (hroutes : ∀ id', router.routes.get? id' =
      if id = id' then some r' else x.router.routes.get? id') :
    Steps x (.ingest id now) (.ingested now b entries) ({ x with router }.publish entries) := by
  refine .of_get? ?_ hcapacity hgoes hroutes (.inl ?_) ?_
  · rw [Op.server, route_of_get? hget, hreact]
  · rw [Op.server, hget, Option.isSome_some]
  · simp [publish, ingestions, published]

theorem Steps.idle (hx : x.router.isCancelled = false) {id : Int} {now : Stamp}
    (hidle : (x.router.route id).queue.take? = none) : Steps x (.ingest id now) .idle x where
  own := Route.react_ingest_of_none hidle
  others _ _ := rfl
  goesOn := hx
  routed _ := by simp [Op.submitted?]
  bus := rfl

theorem steps_submit (hx : x.router.isCancelled = false) (b : Batch) :
    Steps x (.submit b) (x.step (.submit b)).1 (x.step (.submit b)).2 := by
  simp only [step, Router.submit]
  cases hoffer : (x.router.route b.server.id).queue.offer b with
  | ok queue =>
    exact .of_get? (Route.react_submit_of_ok hoffer) rfl hx (fun id => Table.get?_insert ..)
      (.inr rfl) rfl
  | error cause =>
    exact .of_get? (Route.react_submit_of_error hoffer) rfl hx (fun id => Table.get?_insert ..)
      (.inr rfl) rfl

theorem exists_take? {router : Router} {id : Int} {r : Route} {b : Batch} {queue : Queue Batch}
    (hget : router.routes.get? id = some r) (hqueue : r.queue.take? = some (b, queue)) :
    ∃ router', router.take? id = some (b, router') ∧ router'.capacity = router.capacity ∧
      router'.isCancelled = router.isCancelled ∧ ∀ id', router'.routes.get? id' =
        if id = id' then some { r with queue } else router.routes.get? id' :=
  ⟨{ router with routes := router.routes.insert id { r with queue } },
    by simp [Router.take?, hget, hqueue], rfl, rfl, fun id' => Table.get?_insert ..⟩

/-- A task that has taken a batch replaces its route once more. -/
theorem get?_insert_taken {router router' : Router} {id : Int} {r : Route}
    (hroutes : ∀ id', router'.routes.get? id' =
      if id = id' then some r else router.routes.get? id') (r' : Route) (id' : Int) :
    (router'.routes.insert id r').get? id' =
      if id = id' then some r' else router.routes.get? id' := by
  rw [Table.get?_insert, hroutes]
  split <;> rfl

theorem steps_ingest (hx : x.router.isCancelled = false) (id : Int) (now : Stamp) :
    Steps x (.ingest id now) (x.step (.ingest id now)).1 (x.step (.ingest id now)).2 := by
  cases hget : x.router.routes.get? id with
  | none =>
    have htake : x.router.take? id = none := by simp [Router.take?, hget]
    have hroute : x.router.route id = ⟨.ofCapacity x.router.capacity, .fresh⟩ := by
      simp [Router.route, hget]
    simp only [step, htake]
    exact .idle hx (by rw [hroute]; rfl)
  | some r =>
    cases hqueue : r.queue.take? with
    | none =>
      have htake : x.router.take? id = none := by simp [Router.take?, hget, hqueue]
      simp only [step, htake]
      exact .idle hx (by rw [route_of_get? hget, hqueue])
    | some taken =>
      obtain ⟨b, queue⟩ := taken
      obtain ⟨router, htake, hcapacity, hcancelled, hroutes⟩ := exists_take? hget hqueue
      have hrouter : router.route id = { r with queue } :=
        route_of_get? (by rw [hroutes, if_pos rfl])
      have hgoes : router.isCancelled = false := hcancelled.trans hx
      rcases hingest : r.ingestor.ingest now b.server b.lines with ⟨entries, result⟩
      cases result with
      | ok i =>
        have hnext : x.ingestNext? now id =
            some (entries, { x with router := router.setIngestor id i }.publish entries) := by
          simp [ingestNext?, htake, hgoes, hrouter, hingest]
        simp only [step, htake, hnext]
        refine .of_ingested hget (Route.react_ingest_of_ok hqueue hingest) hcapacity hgoes ?_
        rw [Router.setIngestor, hrouter]
        exact get?_insert_taken hroutes ⟨queue, i⟩
      | error o =>
        have hnext : x.ingestNext? now id =
            some (entries, { x with router := router.closeRoute id }.publish entries) := by
          simp [ingestNext?, htake, hgoes, hrouter, hingest]
        simp only [step, htake, hnext]
        refine .of_ingested hget (Route.react_ingest_of_error hqueue hingest) hcapacity hgoes ?_
        rw [Router.closeRoute, hrouter]
        exact get?_insert_taken hroutes ⟨queue.close, r.ingestor⟩

theorem steps_step (hx : x.router.isCancelled = false) (op : Op) :
    Steps x op (x.step op).1 (x.step op).2 := by
  cases op with
  | submit b => exact steps_submit hx b
  | ingest id now => exact steps_ingest hx id now

theorem after_append (x : Intake) (xs ys : List Op) :
    x.after (xs ++ ys) = (x.after xs).after ys :=
  List.foldl_append ..

theorem length_answers (x : Intake) (ops : List Op) : (x.answers ops).length = ops.length := by
  induction ops generalizing x with
  | nil => rfl
  | cons op ops ih => simp [answers, ih]

theorem answers_append (x : Intake) (xs ys : List Op) :
    x.answers (xs ++ ys) = x.answers xs ++ (x.after xs).answers ys := by
  induction xs generalizing x with
  | nil => rfl
  | cons op xs ih => simp [answers, after, ih]

theorem answers_at (x : Intake) (before : List Op) (op : Op) (later : List Op) :
    (x.answers (before ++ op :: later))[before.length]? = some ((x.after before).step op).1 := by
  rw [answers_append, List.getElem?_append_right (by rw [length_answers]), length_answers,
    Nat.sub_self]
  rfl

theorem ingestions_append (as bs : List Answer) :
    ingestions (as ++ bs) = ingestions as ++ ingestions bs :=
  List.filterMap_append

theorem submit_mem_of_accepted {ops : List Op} {as : List Answer} {b : Batch}
    (h : b ∈ accepted ops as) : .submit b ∈ ops := by
  obtain ⟨⟨op, a⟩, hmem, hop⟩ := List.mem_filterMap.1 h
  split at hop
  next heq =>
    cases heq
    cases hop
    exact (List.of_mem_zip hmem).1
  next => cases hop

theorem own_own (id : Int) (ops : List Op) : own id (own id ops) = own id ops := by
  simp [own]

theorem answersTo_own {id : Int} {ops : List Op} {as : List Answer}
    (h : as.length = (own id ops).length) : answersTo id (own id ops) as = as := by
  have hall : ∀ p ∈ (own id ops).zip as, decide (p.1.server = id) = true := fun p hp =>
    (List.mem_filter.1 (List.of_mem_zip hp).1).2
  rw [answersTo, List.filter_eq_self.2 hall]
  exact List.map_snd_zip (by omega)

/-- What a run does to the route of each server, it does with the steps of that server alone. -/
theorem run_own (hx : x.router.isCancelled = false) (ops : List Op) (id : Int) :
    (x.after ops).router.route id = (x.router.route id).after (own id ops) ∧
      answersTo id ops (x.answers ops) = (x.router.route id).answers (own id ops) := by
  induction ops generalizing x with
  | nil => exact ⟨rfl, rfl⟩
  | cons op ops ih =>
    have hstep := steps_step hx op
    obtain ⟨hroute, hanswers⟩ := ih hstep.goesOn
    by_cases hid : op.server = id
    · subst hid
      have hown : own op.server (op :: ops) = op :: own op.server ops := by simp [own]
      have hreact := hstep.own
      rw [hown]
      refine ⟨?_, ?_⟩
      · rw [Route.after, List.foldl_cons, hreact]
        exact hroute
      · rw [Route.answers, hreact, ← hanswers]
        simp [answersTo, answers]
    · have hown : own id (op :: ops) = own id ops := by simp [own, hid]
      rw [hstep.others id hid] at hroute hanswers
      rw [hown, ← hanswers]
      exact ⟨hroute, by simp [answersTo, answers, hid]⟩

theorem isCancelled_after (hx : x.router.isCancelled = false) (ops : List Op) :
    (x.after ops).router.isCancelled = false := by
  induction ops generalizing x with
  | nil => exact hx
  | cons op ops ih => exact ih (steps_step hx op).goesOn

theorem publishAll_append (b : Bus) (es fs : List Event) :
    b.publishAll (es ++ fs) = (b.publishAll es).publishAll fs :=
  List.foldl_append ..

/-- The bus gets what came of the lines, in the order of the steps. -/
theorem bus_after (hx : x.router.isCancelled = false) (ops : List Op) :
    (x.after ops).bus =
      x.bus.publishAll (published ((ingestions (x.answers ops)).map (·.2.2)).flatten) := by
  induction ops generalizing x with
  | nil => rfl
  | cons op ops ih =>
    have hstep := steps_step hx op
    have hanswers : x.answers (op :: ops) = [(x.step op).1] ++ (x.step op).2.answers ops := rfl
    rw [hanswers, ingestions_append, List.map_append, List.flatten_append, published_append,
      publishAll_append, ← hstep.bus]
    exact ih hstep.goesOn

/-- A server has a route from the first batch on that is submitted for it. -/
theorem routed_after (hx : x.router.isCancelled = false) (ops : List Op) (id : Int) :
    ((x.after ops).router.routes.get? id).isSome = true ↔
      (x.router.routes.get? id).isSome = true ∨ id ∈ ops.filterMap Op.submitted? := by
  induction ops generalizing x with
  | nil => simp [after]
  | cons op ops ih =>
    have hstep := steps_step hx op
    have hafter : x.after (op :: ops) = (x.step op).2.after ops := rfl
    rw [hafter, ih hstep.goesOn, hstep.routed]
    cases hop : op.submitted? with
    | none => simp [hop]
    | some id' =>
      rw [List.filterMap_cons_some hop, List.mem_cons, Bool.or_eq_true, decide_eq_true_eq,
        Option.some.injEq, or_assoc, eq_comm (a := id')]

theorem mem_keys_iff {t : Table Int Route} {id : Int} :
    id ∈ t.entries.map (·.1) ↔ (t.get? id).isSome = true := by
  rw [Option.isSome_iff_exists, List.mem_map]
  constructor
  · rintro ⟨⟨k, v⟩, hmem, rfl⟩
    exact ⟨v, Table.mem_entries_iff.1 hmem⟩
  · rintro ⟨v, hv⟩
    exact ⟨(id, v), Table.mem_entries_iff.2 hv, rfl⟩

theorem size_after (capacity : Nat) (bus : Bus) (unhandled : List String) (ops : List Op) :
    ((⟨.start capacity, bus, unhandled⟩ : Intake).after ops).router.size =
      (ops.filterMap Op.submitted?).dedup.length := by
  set y := (⟨.start capacity, bus, unhandled⟩ : Intake).after ops
  have hnodup : (y.router.routes.entries.map (·.1)).Nodup :=
    List.pairwise_map.2 (y.router.routes.ordered.imp fun h => Table.ne_of_before h)
  have hperm : (y.router.routes.entries.map (·.1)).Perm (ops.filterMap Op.submitted?).dedup := by
    refine (List.perm_ext_iff_of_nodup hnodup (List.nodup_dedup _)).2 fun id => ?_
    rw [mem_keys_iff, routed_after rfl ops id, List.mem_dedup]
    simp [Router.start, Table.get?_empty]
  rw [← hperm.length_eq, List.length_map]
  rfl

end Intake

namespace Route
open Intake
variable {r r' : Route}

/-- What has become of the batches that a route took: those that its ingestor has entered, in order,
and those that still wait. -/
structure Keeps (r : Route) (took : List Batch) (done : List (Stamp × Batch × List Entry))
    (r' : Route) : Prop where
  order : done.map (·.2.1) ++ r'.queue.items = r.queue.items ++ took
  entries : r.ingestor.followAll (done.map fun d => readings d.1 d.2.1) =
    (done.map (·.2.2), .ok r'.ingestor)
  capacity : r'.queue.capacity = r.queue.capacity
  isOpen : r'.queue.isOpen = true

namespace Keeps
variable {took took' : List Batch} {done done' : List (Stamp × Batch × List Entry)}

theorem nothing (hopen : r.queue.isOpen = true) : Keeps r [] [] r :=
  ⟨by simp, rfl, rfl, hopen⟩

theorem mem_of_waits (h : Keeps r took done r') {b : Batch} (hb : b ∈ r'.queue.items) :
    b ∈ r.queue.items ∨ b ∈ took := by
  have hall := List.mem_append_right (done.map (·.2.1)) hb
  rw [h.order] at hall
  exact List.mem_append.1 hall

theorem trans {r'' : Route} (h : Keeps r took done r') (h' : Keeps r' took' done' r'') :
    Keeps r (took ++ took') (done ++ done') r'' where
  order := by
    rw [List.map_append, List.append_assoc, h'.order, ← List.append_assoc, h.order,
      List.append_assoc]
  entries := by
    rw [List.map_append, Ingestor.followAll_append h.entries, h'.entries, List.map_append]
  capacity := h'.capacity.trans h.capacity
  isOpen := h'.isOpen

end Keeps

/-- A step of a route whose batches are readable. -/
theorem keeps_react (hopen : r.queue.isOpen = true) (hwait : ∀ b ∈ r.queue.items, b.IsReadable)
    (op : Op) :
    Keeps r (accepted [op] [(r.react op).1]) (ingestions [(r.react op).1]) (r.react op).2 := by
  cases op with
  | submit b =>
    cases hoffer : r.queue.offer b with
    | ok queue =>
      obtain ⟨hitems, hcapacity, hopen'⟩ := Queue.items_offer hoffer
      rw [react_submit_of_ok hoffer]
      exact ⟨by simp [accepted, ingestions, hitems], rfl, hcapacity, hopen'⟩
    | error cause =>
      rw [react_submit_of_error hoffer]
      exact .nothing hopen
  | ingest id now =>
    cases htake : r.queue.take? with
    | none =>
      rw [react_ingest_of_none htake]
      exact .nothing hopen
    | some taken =>
      obtain ⟨b, queue⟩ := taken
      obtain ⟨hitems, hcapacity, hopen'⟩ := Queue.items_take? htake
      obtain ⟨entries, i, hingest⟩ :=
        (hwait b (by simp [hitems])).exists_ingest r.ingestor now
      rw [react_ingest_of_ok htake hingest]
      have hfollow : r.ingestor.follow (readings now b) = (entries, .ok i) := hingest
      exact ⟨by simp [accepted, ingestions, hitems],
        by simp [ingestions, Ingestor.followAll, hfollow], hcapacity, hopen'.trans hopen⟩

theorem keeps_run (hopen : r.queue.isOpen = true) (hwait : ∀ b ∈ r.queue.items, b.IsReadable)
    {ops : List Op} (hread : ∀ b, .submit b ∈ ops → b.IsReadable) :
    Keeps r (accepted ops (r.answers ops)) (ingestions (r.answers ops)) (r.after ops) := by
  induction ops generalizing r with
  | nil => exact .nothing hopen
  | cons op ops ih =>
    have hstep := keeps_react hopen hwait op
    have hwait' : ∀ b ∈ (r.react op).2.queue.items, b.IsReadable := by
      intro b hb
      rcases hstep.mem_of_waits hb with hold | hnew
      · exact hwait b hold
      · exact hread b (by
        rw [List.mem_singleton.1 (submit_mem_of_accepted hnew)]
        exact List.mem_cons_self ..)
    have hrest := ih hstep.isOpen hwait' fun b hb => hread b (List.mem_cons_of_mem op hb)
    have haccepted : accepted (op :: ops) (r.answers (op :: ops)) =
        accepted [op] [(r.react op).1] ++ accepted ops ((r.react op).2.answers ops) :=
      List.filterMap_append (l := [(op, (r.react op).1)]) ..
    have hdone : ingestions (r.answers (op :: ops)) =
        ingestions [(r.react op).1] ++ ingestions ((r.react op).2.answers ops) :=
      ingestions_append [(r.react op).1] _
    rw [haccepted, hdone]
    exact hstep.trans hrest

/-- A batch is taken in exactly if there is room in the queue of the route. -/
theorem react_submit (hopen : r.queue.isOpen = true) (b : Batch) :
    (r.react (.submit b)).1 = .submitted
      (if r.queue.items.length < r.queue.capacity then .ok ()
        else .error (.queueFull b.server.name)) ∧
    (r.react (.submit b)).2.queue.items =
      if r.queue.items.length < r.queue.capacity then r.queue.items ++ [b] else r.queue.items := by
  by_cases hroom : r.queue.items.length < r.queue.capacity
  · obtain ⟨queue, hoffer⟩ := Queue.offer_of_hasRoom ⟨hopen, hroom⟩ b
    obtain ⟨hitems, -, -⟩ := Queue.items_offer hoffer
    rw [react_submit_of_ok hoffer, if_pos hroom, if_pos hroom]
    exact ⟨rfl, hitems⟩
  · have hoffer : r.queue.offer b = .error .full := by simp [Queue.offer, hopen, hroom]
    rw [react_submit_of_error hoffer, if_neg hroom, if_neg hroom]
    exact ⟨rfl, rfl⟩

/-- A task whose batches are readable ingests the one that has waited longest. -/
theorem react_ingest (id : Int) (now : Stamp) {b : Batch} {rest : List Batch}
    (hitems : r.queue.items = b :: rest) (hread : b.IsReadable) :
    ∃ entries, (r.react (.ingest id now)).1 = .ingested now b entries := by
  cases htake : r.queue.take? with
  | none =>
    rw [Queue.items_of_take?_eq_none htake] at hitems
    cases hitems
  | some taken =>
    obtain ⟨b', queue⟩ := taken
    obtain ⟨hitems', -, -⟩ := Queue.items_take? htake
    obtain ⟨rfl, -⟩ := List.cons.inj (hitems.symm.trans hitems')
    obtain ⟨entries, i, hingest⟩ := hread.exists_ingest r.ingestor now
    exact ⟨entries, by rw [react_ingest_of_ok htake hingest]⟩

end Route

namespace Intake

theorem step_at {x : Intake} (hx : x.router.isCancelled = false) (before : List Op) (op : Op)
    (later : List Op) :
    (x.answers (before ++ op :: later))[before.length]? =
      some (((x.after before).router.route op.server).react op).1 ∧
    (x.after (before ++ [op])).router.route op.server =
      (((x.after before).router.route op.server).react op).2 := by
  have hop := steps_step (isCancelled_after hx before) op
  rw [hop.own, after_append]
  exact ⟨answers_at x before op later, rfl⟩

/-- From the start on every route keeps the batches that were taken in. -/
theorem keeps_after (capacity : Nat) (bus : Bus) {ops : List Op}
    (hread : ∀ b, .submit b ∈ ops → b.IsReadable) (id : Int) :
    let x : Intake := ⟨.start capacity, bus, []⟩
    Route.Keeps ⟨.ofCapacity capacity, .fresh⟩
      (accepted (own id ops) (answersTo id ops (x.answers ops)))
      (ingestions (answersTo id ops (x.answers ops))) ((x.after ops).router.route id) := by
  intro x
  have hfresh : x.router.route id = ⟨.ofCapacity capacity, .fresh⟩ := rfl
  obtain ⟨hroute, hanswers⟩ := run_own (x := x) rfl ops id
  rw [hroute, hanswers, hfresh]
  exact Route.keeps_run rfl (by nofun) fun b hb => hread b (List.mem_of_mem_filter hb)

/-- Batches of readable lines are submitted while the servers ingest them. On each route the batches
that were ingested and those that wait are those taken in, in order, and one ingestor has entered
their lines. A batch is refused if the queue of its server is full and is then not queued; a task
goes on while a batch waits. What other servers do makes no difference. -/
theorem run_submissions (capacity : Nat) (bus : Bus) {ops : List Op}
    (hread : ∀ b, .submit b ∈ ops → b.IsReadable) :
    let x : Intake := ⟨.start capacity, bus, []⟩
    let as := x.answers ops
    let waiting (ops : List Op) (id : Int) := ((x.after ops).router.route id).queue.items
    (∀ id,
      let mine := answersTo id ops as
      let done := ingestions mine
      done.map (·.2.1) ++ waiting ops id = accepted (own id ops) mine ∧
      Ingestor.fresh.followAll (done.map fun d => readings d.1 d.2.1) =
        (done.map (·.2.2), .ok ((x.after ops).router.route id).ingestor) ∧
      (waiting ops id).length ≤ max 1 capacity ∧
      mine = x.answers (own id ops) ∧
      (x.after ops).router.route id = (x.after (own id ops)).router.route id) ∧
    (∀ before b later, ops = before ++ .submit b :: later →
      let hasRoom := (waiting before b.server.id).length < max 1 capacity
      as[before.length]? = some (.submitted
        (if hasRoom then .ok () else .error (.queueFull b.server.name))) ∧
      waiting (before ++ [.submit b]) b.server.id =
        if hasRoom then waiting before b.server.id ++ [b] else waiting before b.server.id) ∧
    (∀ before id now later b rest, ops = before ++ .ingest id now :: later →
      waiting before id = b :: rest →
        ∃ entries, as[before.length]? = some (.ingested now b entries)) ∧
    (x.after ops).bus = bus.publishAll (published ((ingestions as).map (·.2.2)).flatten) ∧
    (x.after ops).router.size = (ops.filterMap Op.submitted?).dedup.length := by
  intro x as waiting
  have hbefore : ∀ before op later, ops = before ++ op :: later →
      ∀ b, .submit b ∈ before → b.IsReadable := by
    rintro before op later rfl b hb
    exact hread b (List.mem_append_left _ hb)
  refine ⟨fun id => ?_, fun before b later heq => ?_,
    fun before id now later b rest heq hwaits => ?_, bus_after rfl ops,
    size_after capacity bus [] ops⟩
  · have h := keeps_after capacity bus hread id
    obtain ⟨hroute, hanswers⟩ := run_own (x := x) rfl ops id
    obtain ⟨hroute', hanswers'⟩ := run_own (x := x) rfl (own id ops) id
    rw [own_own] at hroute' hanswers'
    have hfits := ((x.after ops).router.route id).queue.fits
    rw [h.capacity] at hfits
    refine ⟨h.order, h.entries, hfits, ?_, hroute.trans hroute'.symm⟩
    rw [hanswers, ← hanswers', answersTo_own (length_answers ..)]
  · have h := keeps_after capacity bus (hbefore _ _ _ heq) b.server.id
    obtain ⟨hanswer, hroute⟩ := step_at (x := x) rfl before (.submit b) later
    obtain ⟨hreact, hitems⟩ := Route.react_submit h.isOpen b
    rw [h.capacity] at hreact hitems
    refine ⟨?_, (congrArg (·.queue.items) hroute).trans hitems⟩
    rw [show as = x.answers (before ++ .submit b :: later) by rw [← heq], hanswer]
    exact congrArg some hreact
  · have h := keeps_after capacity bus (hbefore _ _ _ heq) id
    have hqueue : ((x.after before).router.route id).queue.items = b :: rest := hwaits
    have hmem : b ∈ accepted (own id before) (answersTo id before (x.answers before)) :=
      (h.mem_of_waits (hqueue ▸ List.mem_cons_self ..)).resolve_left (by nofun)
    have hsubmit := List.mem_of_mem_filter (submit_mem_of_accepted hmem)
    obtain ⟨hanswer, -⟩ := step_at (x := x) rfl before (.ingest id now) later
    obtain ⟨entries, hreact⟩ := Route.react_ingest id now hqueue
      (hbefore _ _ _ heq b hsubmit)
    refine ⟨entries, ?_⟩
    rw [show as = x.answers (before ++ .ingest id now :: later) by rw [← heq], hanswer]
    exact congrArg some hreact

def clearBatch : Batch := ⟨⟨1, "s"⟩, ["L 03/01/2024 - 20:00:05: World triggered \"Round_Start\""]⟩

def darkBatch (id : Int) : Batch := ⟨⟨id, "s"⟩, ["mystery"]⟩

/-- The queue of the first server is full when its second batch comes, and has room for the
third. -/
def twoRoutes : List Op :=
  [.submit clearBatch, .submit (darkBatch 1), .submit (darkBatch 2), .ingest 1 ⟨0, 0⟩,
    .submit (darkBatch 1)]

theorem isReadable_clearBatch : clearBatch.IsReadable := by
  intro line hline now
  rw [List.mem_singleton.1 hline]
  exact ⟨_, rfl⟩

theorem isReadable_darkBatch (id : Int) : (darkBatch id).IsReadable := by
  intro line hline now
  rw [List.mem_singleton.1 hline]
  exact ⟨_, rfl⟩

theorem run_submissions_twoRoutes :
    (∀ b, .submit b ∈ twoRoutes → b.IsReadable) ∧
    let x : Intake := ⟨.start 0, .empty, []⟩
    (x.answers twoRoutes)[1]? = some (.submitted (.error (.queueFull "s"))) ∧
    (x.answers twoRoutes)[4]? = some (.submitted (.ok ())) ∧
    (x.after twoRoutes).router.size = 2 := by
  have hread : ∀ b, .submit b ∈ twoRoutes → b.IsReadable := by
    intro b hb
    simp only [twoRoutes, List.mem_cons, Op.submit.injEq, reduceCtorEq, List.not_mem_nil,
      or_false, false_or] at hb
    rcases hb with rfl | rfl | rfl | rfl
    · exact isReadable_clearBatch
    · exact isReadable_darkBatch 1
    · exact isReadable_darkBatch 2
    · exact isReadable_darkBatch 1
  obtain ⟨-, hsubmit, -, -, hsize⟩ := run_submissions 0 .empty hread
  have hsecond := (hsubmit [.submit clearBatch] (darkBatch 1) (twoRoutes.drop 2) rfl).1
  have hlast := (hsubmit (twoRoutes.take 4) (darkBatch 1) [] rfl).1
  refine ⟨hread, ?_, ?_, hsize⟩
  · rw [if_neg (by decide)] at hsecond
    exact hsecond
  · rw [if_pos (by decide +kernel)] at hlast
    exact hlast

end Intake
end Moderation.Ingest
