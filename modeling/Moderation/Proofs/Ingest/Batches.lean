import Moderation.Proofs.Ingest.Run
import Moderation.Proofs.Log.Accounts
/-!
The account of lines that are all classified: which events are published and when they are dated,
which lines are kept as they came, and what the reports add up to. It is an account of the lines;
how they are cut into batches does not matter.
-/
namespace Moderation

namespace Log.Classified

def isIgnored (c : Classified) : Bool := c.failure.isNone && c.event.kind = .ignored

def isUnknown (c : Classified) : Bool := c.failure.isNone && c.event.kind = .unknown

end Log.Classified

namespace Ingest
open Log Number Time

theorem Standing.of_eq_ignored {c : Classified} : Standing.of c = .ignored ↔ c.isIgnored := by
  unfold of Classified.isIgnored
  split <;> simp_all

theorem Standing.of_eq_unknown {c : Classified} : Standing.of c = .unknown ↔ c.isUnknown := by
  unfold of Classified.isUnknown
  split <;> simp_all

def cleanTimes (cs : List Classified) : List Stamp :=
  (cs.filter fun c => c.failure.isNone && !c.isIgnored).map (·.event.occurredAt)

/-- The events of lines that come after others. Each is dated at the latest clean time up to its
line, or at its own time if there is none. -/
def datedAfter (earlier : List Classified) : List Classified → List Event
  | [] => []
  | c :: cs =>
    let later := datedAfter (earlier ++ [c]) cs
    let time := (cleanTimes (earlier ++ [c])).max?.getD c.event.occurredAt
    if c.isIgnored then later else { c.event with occurredAt := time } :: later

def unhandledLines (lines : List Reading) (cs : List Classified) : List String :=
  ((lines.zip cs).filter fun (_, c) => c.failure.isSome || c.isUnknown).map (·.1.line)

theorem cleanTimes_concat_of_failed {c : Classified} (h : c.failure.isSome)
    (earlier : List Classified) : cleanTimes (earlier ++ [c]) = cleanTimes earlier := by
  have hnone : c.failure.isNone = false := by simpa using h
  simp [cleanTimes, hnone]

theorem cleanTimes_concat_of_ignored {c : Classified} (h : c.isIgnored = true)
    (earlier : List Classified) : cleanTimes (earlier ++ [c]) = cleanTimes earlier := by
  simp [cleanTimes, h]

theorem cleanTimes_concat {c : Classified} (hf : ¬ c.failure.isSome) (hi : ¬ c.isIgnored)
    (earlier : List Classified) :
    cleanTimes (earlier ++ [c]) = cleanTimes earlier ++ [c.event.occurredAt] := by
  have hnone : c.failure = none := by simpa using hf
  simp [cleanTimes, hnone, hi]

/-- The time seen last is the latest, and so is the one after it. -/
theorem max?_concat {i : Ingestor} {ts : List Stamp} (h : i.lastSeen = ts.max?) (t : Stamp) :
    (ts ++ [t]).max? = some (i.clamp t) := by
  unfold Ingestor.clamp
  cases ts with
  | nil => simp [h]
  | cons a ts =>
    rw [h, List.cons_append, List.max?_cons', List.max?_cons', List.foldl_append]
    rfl

namespace Ingestor

def Read (r : Reading) (c : Classified) : Prop := r.classified = .ok c

inductive EntersAll : Ingestor → List Reading → List Classified → List Entry → Ingestor → Prop
  | nil (i : Ingestor) : EntersAll i [] [] [] i
  | cons {i i' j : Ingestor} {r : Reading} {rs : List Reading} {c : Classified}
    {cs : List Classified} {e : Entry} {es : List Entry} (he : Enters i r.line c e i')
    (hes : EntersAll i' rs cs es j) : EntersAll i (r :: rs) (c :: cs) (e :: es) j

variable {i j : Ingestor} {lines : List Reading} {es : List Entry} {cs : List Classified}

theorem Goes.entersAll {result : Except Overflow Ingestor} (h : Goes i lines es result)
    (hread : List.Forall₂ Read lines cs) : ∃ j, result = .ok j ∧ EntersAll i lines cs es j := by
  induction h generalizing cs with
  | done i =>
    cases hread
    exact ⟨i, rfl, .nil i⟩
  | stops i rs h =>
    cases hread with
    | cons hr hrest => cases h.symm.trans hr
  | next h he hes ih =>
    cases hread with
    | cons hr hrest =>
      cases h.symm.trans hr
      obtain ⟨j, hj, hall⟩ := ih hrest
      exact ⟨j, hj, .cons he hall⟩

theorem EntersAll.published_eq (h : EntersAll i lines cs es j) {earlier : List Classified}
    (hseen : i.lastSeen = (cleanTimes earlier).max?) : published es = datedAfter earlier cs := by
  -- the time seen last is the latest clean one of the lines so far
  induction h generalizing earlier with
  | nil i => rfl
  | @cons i i' j r rs c cs e es he hes ih =>
    rw [datedAfter]
    cases he with
    | fails hc =>
      have hf := Standing.of_eq_failed.1 hc
      have hi : ¬ c.isIgnored := fun hi => by cases hc.symm.trans (Standing.of_eq_ignored.2 hi)
      have htimes := cleanTimes_concat_of_failed hf earlier
      rw [published_cons_of_ne (by simp), if_neg hi, htimes, ← hseen, ih (htimes ▸ hseen)]
    | ignores hc =>
      have hi := Standing.of_eq_ignored.1 hc
      have htimes := cleanTimes_concat_of_ignored hi earlier
      rw [published_cons_of_ignored rfl, if_pos hi, ih (htimes ▸ hseen)]
    | @moves s hc hs =>
      have hne : s ≠ .failed ∧ s ≠ .ignored := by rcases hs with rfl | rfl <;> simp
      have hf : ¬ c.failure.isSome := fun hf => hne.1 (hc ▸ Standing.of_eq_failed.2 hf)
      have hi : ¬ c.isIgnored := fun hi => hne.2 (hc ▸ Standing.of_eq_ignored.2 hi)
      have htimes := cleanTimes_concat hf hi earlier
      have hmax := max?_concat hseen c.event.occurredAt
      rw [published_cons_of_ne hne.2, if_neg hi, htimes, hmax, ih (by rw [htimes, hmax])]
      rfl

theorem EntersAll.standings (h : EntersAll i lines cs es j) :
    es.map (·.standing) = cs.map Standing.of := by
  induction h with
  | nil i => rfl
  | cons he hes ih => rw [List.map_cons, List.map_cons, ih, he.standing_eq]

theorem EntersAll.length_eq (h : EntersAll i lines cs es j) : es.length = lines.length := by
  induction h with
  | nil i => rfl
  | cons he hes ih => rw [List.length_cons, List.length_cons, ih]

theorem EntersAll.unhandled (h : EntersAll i lines cs es j) :
    es.filterMap Entry.unhandled? = unhandledLines lines cs := by
  induction h with
  | nil i => rfl
  | @cons i i' j r rs c cs e es he hes ih =>
    have hunhandled : (e.standing = .failed ∨ e.standing = .unknown) ↔
        (c.failure.isSome || c.isUnknown) = true := by
      rw [he.standing_eq, Standing.of_eq_failed, Standing.of_eq_unknown, Bool.or_eq_true]
    unfold unhandledLines at ih ⊢
    by_cases hc : (c.failure.isSome || c.isUnknown) = true
    · simp [Entry.unhandled?, hunhandled, hc, he.line_eq, ih]
    · simp [Entry.unhandled?, hunhandled, hc, ih]

end Ingestor

theorem length_published_add (es : List Entry) :
    (published es).length + es.countP (·.standing = .ignored) = es.length := by
  induction es with
  | nil => rfl
  | cons e es ih =>
    by_cases he : e.standing = .ignored
    · rw [published_cons_of_ignored he, List.countP_cons_of_pos (by simpa using he),
        List.length_cons]
      omega
    · rw [published_cons_of_ne he, List.countP_cons_of_neg (by simpa using he), List.length_cons,
        List.length_cons]
      omega

theorem countP_standings {es : List Entry} {cs : List Classified} {s : Standing}
    {p : Classified → Bool} (h : es.map (·.standing) = cs.map Standing.of)
    (hp : ∀ c, Standing.of c = s ↔ p c = true) :
    es.countP (·.standing = s) = cs.countP p := by
  calc
    es.countP (·.standing = s) = (es.map (·.standing)).countP (· = s) := by
      rw [List.countP_map]
      rfl
    _ = (cs.map Standing.of).countP (· = s) := by rw [h]
    _ = cs.countP p := by
      rw [List.countP_map]
      exact List.countP_congr fun c _ => by simp [hp c]

/-- What adds up over lines adds up over batches. -/
theorem total_flatten {f : List Entry → Nat} (hnil : f [] = 0)
    (happend : ∀ xs ys, f (xs ++ ys) = f xs + f ys) (out : List (List Entry)) :
    total (out.map f) = f out.flatten := by
  induction out with
  | nil => exact hnil.symm
  | cons es out ih => rw [List.map_cons, total_cons, ih, List.flatten_cons, happend]

theorem total_emitted (out : List (List Entry)) :
    total (out.map fun es => (Report.of es).emitted) = (published out.flatten).length := by
  refine total_flatten (f := fun es => (Report.of es).emitted) rfl (fun xs ys => ?_) out
  simp [Report.of]

theorem total_countP (s : Standing) (out : List (List Entry)) :
    total (out.map (·.countP (·.standing = s))) = out.flatten.countP (·.standing = s) :=
  total_flatten rfl (fun _ _ => List.countP_append) out

/-- Every line is reported as emitted or as ignored. -/
theorem total_lines (out : List (List Entry)) :
    total (out.map fun es => (Report.of es).emitted + (Report.of es).ignored) =
      out.flatten.length := by
  have hreport : ∀ es, (Report.of es).emitted + (Report.of es).ignored = es.length :=
    length_published_add
  simp only [hreport]
  exact total_flatten (f := List.length) rfl (fun xs ys => List.length_append) out

theorem foldl_publish (x : Intake) (out : List (List Entry)) :
    (out.foldl Intake.publish x).bus = x.bus.publishAll (published out.flatten) ∧
      (out.foldl Intake.publish x).unhandled =
        x.unhandled ++ out.flatten.filterMap Entry.unhandled? := by
  induction out generalizing x with
  | nil => exact ⟨rfl, by simp⟩
  | cons es out ih =>
    obtain ⟨hbus, hunhandled⟩ := ih (x.publish es)
    refine ⟨?_, ?_⟩
    · rw [List.foldl_cons, hbus, List.flatten_cons, published_append]
      exact (List.foldl_append ..).symm
    · rw [List.foldl_cons, hunhandled, List.flatten_cons, List.filterMap_append]
      exact List.append_assoc ..

theorem exists_read {lines : List Reading}
    (h : ∀ r ∈ lines, ∀ t ∈ tags r.now r.line, t.InRange) :
    ∃ cs, List.Forall₂ Ingestor.Read lines cs := by
  induction lines with
  | nil => exact ⟨[], .nil⟩
  | cons r lines ih =>
    obtain ⟨hr, hlines⟩ := List.forall_mem_cons.1 h
    obtain ⟨c, hc⟩ := exists_classify r.server hr
    obtain ⟨cs, hcs⟩ := ih hlines
    exact ⟨c :: cs, .cons hc hcs⟩

/-- Lines without too large an account number are all classified, and every cut into batches gives
the account of the lines. -/
theorem account_of_batches {lines : List Reading}
    (h : ∀ r ∈ lines, ∀ t ∈ tags r.now r.line, t.InRange) :
    ∃ cs, List.Forall₂ Ingestor.Read lines cs ∧
      ∀ batches : List (List Reading), batches.flatten = lines →
        ∃ out i, Ingestor.fresh.followAll batches = (out, .ok i) ∧ out.length = batches.length ∧
          published out.flatten = datedAfter [] cs ∧
          (∀ x : Intake, (out.foldl Intake.publish x).bus = x.bus.publishAll (datedAfter [] cs) ∧
            (out.foldl Intake.publish x).file =
              x.file ++ String.join ((unhandledLines lines cs).map (· ++ "\n"))) ∧
          total (out.map fun es => (Report.of es).emitted + (Report.of es).ignored) =
            lines.length ∧
          total (out.map fun es => (Report.of es).emitted) = (datedAfter [] cs).length ∧
          total (out.map fun es => (Report.of es).failed) = cs.countP (·.failure.isSome) ∧
          total (out.map fun es => (Report.of es).unknown) = cs.countP Classified.isUnknown := by
  obtain ⟨cs, hread⟩ := exists_read h
  refine ⟨cs, hread, fun batches hcut => ?_⟩
  have hgoes := Ingestor.follow_goes .fresh lines
  rw [← hcut, ← Ingestor.flatten_followAll, ← Ingestor.result_followAll, hcut] at hgoes
  obtain ⟨i, hresult, hall⟩ := hgoes.entersAll hread
  have hlength := Ingestor.length_followAll hresult
  rcases hout : Ingestor.fresh.followAll batches with ⟨out, result⟩
  rw [hout] at hresult hall hlength
  simp only at hresult hall hlength
  subst hresult
  have hpublished : published out.flatten = datedAfter [] cs := hall.published_eq rfl
  have hstandings := hall.standings
  refine ⟨out, i, rfl, hlength, hpublished, fun x => ?_, ?_, ?_, ?_, ?_⟩
  · obtain ⟨hbus, hunhandled⟩ := foldl_publish x out
    refine ⟨by rw [hbus, hpublished], ?_⟩
    rw [Intake.file, hunhandled, hall.unhandled, List.map_append, String.join_append]
    rfl
  · rw [total_lines, hall.length_eq]
  · rw [total_emitted, hpublished]
  · exact (total_countP .failed out).trans
      (countP_standings hstandings fun c => Standing.of_eq_failed)
  · exact (total_countP .unknown out).trans
      (countP_standings hstandings fun c => Standing.of_eq_unknown)

/-- Five lines of which one is out of order, one fails, one is of no interest and one is of
unfamiliar form. -/
def mixedLines : List Reading :=
  ["L 03/01/2024 - 20:00:10: World triggered \"Round_Start\"",
    "L 03/01/2024 - 20:00:05: \"A<2><[U:1:10]><Red>\" say \"gg\"",
    "L 03/01/2024 - 20:00:20: World triggered \"Round_Win\"",
    "L 03/01/2024 - 20:00:30: server_cvar: \"mp_timelimit\" \"30\"",
    "L 03/01/2024 - 20:00:12: mystery"].map (⟨⟨0, 0⟩, ⟨1, "srv-1"⟩, ·⟩)

theorem account_of_batches_mixedLines :
    (∀ r ∈ mixedLines, ∀ t ∈ tags r.now r.line, t.InRange) ∧
    ∃ cs, List.Forall₂ Ingestor.Read mixedLines cs ∧
      published (ingested [mixedLines]) = datedAfter [] cs ∧
      published (ingested [mixedLines.take 1, [], mixedLines.drop 1]) = datedAfter [] cs ∧
      (datedAfter [] cs).map (·.occurredAt.second) =
        [1709323210, 1709323210, 1709323210, 1709323212] := by
  have h : ∀ r ∈ mixedLines, ∀ t ∈ tags r.now r.line, t.InRange := by decide +kernel
  obtain ⟨cs, hread, hcuts⟩ := account_of_batches h
  obtain ⟨out, i, hrun, -, hone, -⟩ := hcuts [mixedLines] rfl
  obtain ⟨out', i', hrun', -, hthree, -⟩ := hcuts [mixedLines.take 1, [], mixedLines.drop 1] rfl
  have hpublished : published (ingested [mixedLines]) = datedAfter [] cs := by
    rw [ingested, hrun, hone]
  refine ⟨h, cs, hread, hpublished, by rw [ingested, hrun', hthree], ?_⟩
  rw [← hpublished]
  decide +kernel

/-- A line with too large an account number is neither published nor counted, and the line after it
is not read any more. -/
theorem followAll_tooLargeAccount :
    Ingestor.fresh.followAll [[⟨⟨0, 0⟩, ⟨1, "srv-1"⟩, tooLargeAccount⟩,
      ⟨⟨0, 0⟩, ⟨1, "srv-1"⟩, "L 03/01/2024 - 20:00:02: Log file closed."⟩]] =
      ([[]], .error .sum) := by
  rfl

end Ingest
end Moderation
