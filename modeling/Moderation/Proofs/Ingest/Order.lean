import Moderation.Proofs.Ingest.Run
/-!
The order of published times. From the first line that is read without failure on, no event is dated
before an earlier one. Lines that fail before it keep the times of their own, and these alone can be
out of order.
-/
namespace Moderation.Ingest
open Log Number Time

def InOrder (es : List Event) : Prop := es.Pairwise fun e f => e.occurredAt ≤ f.occurredAt

instance (es : List Event) : Decidable (InOrder es) := inferInstanceAs (Decidable (List.Pairwise _ _))

/-- The entries up to the first clean one, which is the last of them. -/
def opening : List Entry → List Entry
  | [] => []
  | e :: es => if e.isClean then [e] else e :: opening es

theorem opening_cases (es : List Entry) :
    opening es = es ∨ ∃ lead e tail, es = lead ++ e :: tail ∧ e.isClean = true ∧
      opening es = lead ++ [e] := by
  induction es with
  | nil => exact .inl rfl
  | cons e es ih =>
    unfold opening
    cases he : e.isClean with
    | true => exact .inr ⟨[], e, es, rfl, he, rfl⟩
    | false =>
      rcases ih with ih | ⟨lead, f, tail, rfl, hf, hopening⟩
      · exact .inl (by simp [ih])
      · exact .inr ⟨e :: lead, f, tail, rfl, hf, by simp [hopening]⟩

theorem published_cons_of_isClean {e : Entry} (h : e.isClean = true) (es : List Entry) :
    published (e :: es) = e.event :: published es := by
  refine published_cons_of_ne (fun hs => ?_) es
  simp [Entry.isClean, hs] at h

namespace Ingestor

/-- Once a time has been seen, the events are in order and none is earlier. -/
theorem Goes.inOrder_of_seen {i : Ingestor} {rs : List Reading} {es : List Entry}
    {result : Except Overflow Ingestor} (h : Goes i rs es result) {last : Stamp}
    (hlast : i.lastSeen = some last) :
    InOrder (published es) ∧ ∀ e ∈ published es, last ≤ e.occurredAt := by
  induction h generalizing last with
  | done i => simp [published, InOrder]
  | stops i rs h => simp [published, InOrder]
  | next h he hes ih =>
    cases he with
    | fails hc =>
      obtain ⟨horder, hlater⟩ := ih hlast
      rw [published_cons_of_ne (by simp)]
      simp only [hlast, Option.getD_some]
      exact ⟨.cons hlater horder, List.forall_mem_cons.2 ⟨Stamp.le_refl last, hlater⟩⟩
    | ignores hc =>
      rw [published_cons_of_ignored rfl]
      exact ih hlast
    | moves hc hs =>
      obtain ⟨horder, hlater⟩ := ih rfl
      have hle := le_clamp hlast
      rw [published_cons_of_ne (by rcases hs with rfl | rfl <;> simp)]
      exact ⟨.cons hlater horder,
        List.forall_mem_cons.2 ⟨hle _, fun e he => Stamp.le_trans (hle _) (hlater e he)⟩⟩

/-- From a clean entry on, the events are in order. -/
theorem Goes.inOrder_from_clean {i : Ingestor} {rs : List Reading} {es lead tail : List Entry}
    {e : Entry} {result : Except Overflow Ingestor} (h : Goes i rs es result)
    (heq : es = lead ++ e :: tail) (hclean : e.isClean = true) :
    InOrder (published (e :: tail)) := by
  induction h generalizing lead with
  | done i => simp at heq
  | stops i rs h => simp at heq
  | next h he hes ih =>
    cases lead with
    | cons f lead => exact ih (List.cons.inj heq).2
    | nil =>
      obtain ⟨rfl, rfl⟩ := List.cons.inj heq
      rw [published_cons_of_isClean hclean]
      cases he with
      | fails hc => cases hclean
      | ignores hc => cases hclean
      | moves hc hs =>
        obtain ⟨horder, hlater⟩ := hes.inOrder_of_seen rfl
        exact .cons hlater horder

end Ingestor

theorem inOrder_iff_opening {es : List Entry}
    (h : ∀ lead e tail, es = lead ++ e :: tail → e.isClean = true →
      InOrder (published (e :: tail))) :
    InOrder (published es) ↔ InOrder (published (opening es)) := by
  rcases opening_cases es with hall | ⟨lead, e, tail, rfl, hclean, hopening⟩
  · rw [hall]
  · have htail := h lead e tail rfl hclean
    rw [published_cons_of_isClean hclean] at htail
    rw [hopening, published_append, published_append, published_cons_of_isClean hclean,
      published_cons_of_isClean hclean]
    constructor
    · intro horder
      exact horder.sublist (by simp [published])
    · intro horder
      obtain ⟨hlead, -, hcross⟩ := List.pairwise_append.1 horder
      refine List.pairwise_append.2 ⟨hlead, htail, fun x hx y hy => ?_⟩
      have hxe : x.occurredAt ≤ e.event.occurredAt := hcross x hx e.event (by simp)
      rcases List.mem_cons.1 hy with rfl | hy
      · exact hxe
      · exact Stamp.le_trans hxe ((List.pairwise_cons.1 htail).1 y hy)

/-- From the first clean line on the events are in order, whatever the lines; all events are if
those up to that line are. -/
theorem times_from_clean (batches : List (List Reading)) :
    InOrder (published ((ingested batches).dropWhile (!·.isClean))) ∧
    (InOrder (published (ingested batches)) ↔ InOrder (published (opening (ingested batches)))) := by
  have hgoes := Ingestor.follow_goes .fresh batches.flatten
  rw [← Ingestor.flatten_followAll] at hgoes
  have hclean : ∀ lead e tail, ingested batches = lead ++ e :: tail → e.isClean = true →
      InOrder (published (e :: tail)) := by
    intro lead e tail heq
    exact hgoes.inOrder_from_clean heq
  refine ⟨?_, inOrder_iff_opening hclean⟩
  cases hdrop : (ingested batches).dropWhile (!·.isClean) with
  | nil => exact .nil
  | cons e tail =>
    have hfirst := List.head?_dropWhile_not (fun x : Entry => !x.isClean) (ingested batches)
    rw [hdrop] at hfirst
    refine hclean ((ingested batches).takeWhile (!·.isClean)) e tail ?_ (by simpa using hfirst)
    rw [← hdrop, List.takeWhile_append_dropWhile]

/-- A round win without a winner, and then a round start that is five seconds earlier. -/
def lateFailure : List Reading :=
  [⟨⟨0, 0⟩, ⟨1, "srv-1"⟩, "L 03/01/2024 - 20:00:10: World triggered \"Round_Win\""⟩,
    ⟨⟨0, 0⟩, ⟨1, "srv-1"⟩, "L 03/01/2024 - 20:00:05: World triggered \"Round_Start\""⟩]

/-- A line that fails before any clean one can make the time of the next event go back. -/
theorem not_inOrder_lateFailure :
    ¬ InOrder (published (ingested [lateFailure])) := by
  decide +kernel

end Moderation.Ingest
