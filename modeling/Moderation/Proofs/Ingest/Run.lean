import Mathlib.Data.List.Basic
import Moderation.Ingest.Router
/-!
Runs of an ingestor. A line fails, is ignored or moves the time, and a run goes from line to line up
to the first overflow. Where the lines are cut into batches makes no difference.
-/
namespace Moderation.Ingest
open Log Number Time

theorem Standing.of_eq_failed {c : Classified} : Standing.of c = .failed ↔ c.failure.isSome := by
  unfold of
  split <;> simp_all

def published (entries : List Entry) : List Event := entries.filterMap Entry.event?

def Entry.isClean (e : Entry) : Bool := e.standing = .known || e.standing = .unknown

def ingested (batches : List (List Reading)) : List Entry :=
  (Ingestor.fresh.followAll batches).1.flatten

theorem published_append (xs ys : List Entry) :
    published (xs ++ ys) = published xs ++ published ys :=
  List.filterMap_append

theorem published_cons_of_ignored {e : Entry} (h : e.standing = .ignored) (es : List Entry) :
    published (e :: es) = published es := by
  simp [published, Entry.event?, h]

theorem published_cons_of_ne {e : Entry} (h : e.standing ≠ .ignored) (es : List Entry) :
    published (e :: es) = e.event :: published es := by
  simp [published, Entry.event?, h]

namespace Ingestor

inductive Enters (i : Ingestor) (line : String) (c : Classified) : Entry → Ingestor → Prop
  | fails (h : Standing.of c = .failed) :
    Enters i line c
      ⟨line, .failed, { c.event with occurredAt := i.lastSeen.getD c.event.occurredAt }⟩ i
  | ignores (h : Standing.of c = .ignored) : Enters i line c ⟨line, .ignored, c.event⟩ i
  | moves {s : Standing} (h : Standing.of c = s) (hs : s = .known ∨ s = .unknown) :
    Enters i line c ⟨line, s, { c.event with occurredAt := i.clamp c.event.occurredAt }⟩
      ⟨some (i.clamp c.event.occurredAt)⟩

theorem enter_enters (i : Ingestor) (line : String) (c : Classified) :
    Enters i line c (i.enter line c).1 (i.enter line c).2 := by
  unfold enter
  cases h : Standing.of c with
  | known => exact .moves h (.inl rfl)
  | unknown => exact .moves h (.inr rfl)
  | ignored => exact .ignores h
  | failed => exact .fails h

namespace Enters
variable {i i' : Ingestor} {line : String} {c : Classified} {e : Entry}

theorem line_eq (h : Enters i line c e i') : e.line = line := by
  cases h <;> rfl

theorem standing_eq (h : Enters i line c e i') : e.standing = Standing.of c := by
  cases h with
  | fails hc => exact hc.symm
  | ignores hc => exact hc.symm
  | moves hc hs => exact hc.symm

end Enters

theorem le_clamp {i : Ingestor} {last : Stamp} (h : i.lastSeen = some last) (t : Stamp) :
    last ≤ i.clamp t := by
  rw [clamp, h]
  exact Stamp.le_max_left last t

inductive Goes : Ingestor → List Reading → List Entry → Except Overflow Ingestor → Prop
  | done (i : Ingestor) : Goes i [] [] (.ok i)
  | stops {r : Reading} {o : Overflow} (i : Ingestor) (rs : List Reading)
    (h : r.classified = .error o) : Goes i (r :: rs) [] (.error o)
  | next {i i' : Ingestor} {r : Reading} {rs : List Reading} {c : Classified} {e : Entry}
    {es : List Entry} {result : Except Overflow Ingestor} (h : r.classified = .ok c)
    (he : Enters i r.line c e i') (hes : Goes i' rs es result) : Goes i (r :: rs) (e :: es) result

theorem follow_goes (i : Ingestor) (rs : List Reading) :
    Goes i rs (i.follow rs).1 (i.follow rs).2 := by
  induction rs generalizing i with
  | nil => exact .done i
  | cons r rs ih =>
    unfold follow
    cases h : r.classified with
    | error o => exact .stops i rs h
    | ok c => exact .next h (enter_enters i r.line c) (ih _)

theorem follow_append (i : Ingestor) (rs rs' : List Reading) :
    i.follow (rs ++ rs') = match i.follow rs with
      | (es, .error o) => (es, .error o)
      | (es, .ok i) => (es ++ (i.follow rs').1, (i.follow rs').2) := by
  induction rs generalizing i with
  | nil => rfl
  | cons r rs ih =>
    rw [List.cons_append, follow, follow]
    cases h : r.classified with
    | error o => rfl
    | ok c =>
      simp only [ih]
      rcases hrs : (i.enter r.line c).2.follow rs with ⟨es, _ | i'⟩ <;> rfl

theorem followAll_eq_follow (i : Ingestor) (batches : List (List Reading)) :
    ((i.followAll batches).1.flatten, (i.followAll batches).2) = i.follow batches.flatten := by
  induction batches generalizing i with
  | nil => rfl
  | cons batch batches ih =>
    rw [List.flatten_cons, follow_append, followAll]
    rcases h : i.follow batch with ⟨es, _ | i'⟩
    · simp
    · simp [← ih i']

/-- Batch after batch is line after line. -/
theorem flatten_followAll (i : Ingestor) (batches : List (List Reading)) :
    (i.followAll batches).1.flatten = (i.follow batches.flatten).1 :=
  congrArg Prod.fst (followAll_eq_follow i batches)

theorem result_followAll (i : Ingestor) (batches : List (List Reading)) :
    (i.followAll batches).2 = (i.follow batches.flatten).2 :=
  congrArg Prod.snd (followAll_eq_follow i batches)

theorem followAll_append {i i' : Ingestor} {batches later : List (List Reading)}
    {out : List (List Entry)} (h : i.followAll batches = (out, .ok i')) :
    i.followAll (batches ++ later) =
      (out ++ (i'.followAll later).1, (i'.followAll later).2) := by
  induction batches generalizing i out with
  | nil =>
    cases h
    rfl
  | cons batch batches ih =>
    rw [List.cons_append, followAll]
    rw [followAll] at h
    rcases hb : i.follow batch with ⟨es, _ | j⟩
    · rw [hb] at h
      cases h
    · rcases hrest : j.followAll batches with ⟨rest, result⟩
      simp only [hb, hrest] at h
      cases h
      simp [ih hrest]

theorem length_followAll {i i' : Ingestor} {batches : List (List Reading)}
    (h : (i.followAll batches).2 = .ok i') :
    (i.followAll batches).1.length = batches.length := by
  induction batches generalizing i with
  | nil => rfl
  | cons batch batches ih =>
    rw [followAll] at h ⊢
    rcases hb : i.follow batch with ⟨es, _ | j⟩
    · rw [hb] at h
      cases h
    · rw [hb] at h
      exact congrArg (· + 1) (ih h)

end Ingestor
end Moderation.Ingest
