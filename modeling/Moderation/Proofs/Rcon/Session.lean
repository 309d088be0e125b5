import Moderation.Proofs.Rcon.Frame
/-!
Sessions with an arbitrary server. What the client sends and how the session ends is decided by the
frames that the stream starts with, wherever it stops; the command is sent only after the password
has been accepted.
-/
namespace Moderation.Rcon
open Packet Text Number

/-- A stream goes on with `rest` after responses to be passed over. -/
def Skips (s rest : List UInt8) : Prop :=
  ∃ fs : List Frame, (∀ f ∈ fs, f.kind = 0) ∧ s = fs.flatMap Frame.bytes ++ rest

/-- A stream accepts the password and goes on with `rest`. -/
def Grants (s rest : List UInt8) : Prop :=
  ∃ f : Frame, Skips s (f.bytes ++ rest) ∧ f.kind = 2 ∧ f.id ≠ -1

theorem Skips.refl (s : List UInt8) : Skips s s := ⟨[], by simp, rfl⟩

theorem Skips.cons {f : Frame} (hf : f.kind = 0) {s rest : List UInt8} (h : Skips s rest) :
    Skips (f.bytes ++ s) rest := by
  obtain ⟨fs, hfs, rfl⟩ := h
  refine ⟨f :: fs, List.forall_mem_cons.2 ⟨hf, hfs⟩, ?_⟩
  rw [List.flatMap_cons, List.append_assoc]

theorem Grants.cons {f : Frame} (hf : f.kind = 0) {s rest : List UInt8} (h : Grants s rest) :
    Grants (f.bytes ++ s) rest := by
  obtain ⟨g, hs, hg⟩ := h
  exact ⟨g, hs.cons hf, hg⟩

theorem awaitAuth_of_error {s : List UInt8} {e : ControlError} (h : Packet.read s = .error e) :
    awaitAuth s = .error e := by
  unfold awaitAuth
  split
  next h' =>
    cases h'.symm.trans h
    rfl
  next h' => cases h.symm.trans h'

theorem awaitAuth_frame (f : Frame) (rest : List UInt8) :
    awaitAuth (f.bytes ++ rest) =
      if f.kind = 0 then awaitAuth rest
      else if f.kind ≠ 2 then .error (.protocol ("unexpected packet type " ++ showInt f.kind))
      else if f.id = -1 then .error .authRejected
      else .ok rest := by
  conv_lhs => unfold awaitAuth
  split
  next h => cases (read_frame f rest).symm.trans h
  next h =>
    cases (read_frame f rest).symm.trans h
    rfl

theorem awaitAuth_skips {s rest : List UInt8} (h : Skips s rest) :
    awaitAuth s = awaitAuth rest := by
  obtain ⟨fs, hfs, rfl⟩ := h
  induction fs with
  | nil => rfl
  | cons f fs ih =>
    obtain ⟨hf, hfs⟩ := List.forall_mem_cons.1 hfs
    rw [List.flatMap_cons, List.append_assoc, awaitAuth_frame, if_pos hf, ih hfs]

theorem awaitAuth_eq_ok_iff {s rest : List UInt8} : awaitAuth s = .ok rest ↔ Grants s rest := by
  constructor
  · intro h
    induction hlen : s.length using Nat.strongRecOn generalizing s with
    | ind n ih =>
    cases opening s with
    | frame f t =>
      rw [awaitAuth_frame] at h
      split at h
      next hkind =>
        refine (ih t.length ?_ h rfl).cons hkind
        rw [← hlen, List.length_append, f.length_bytes]
        omega
      next =>
        split at h
        next => cases h
        next hkind =>
          split at h
          next => cases h
          next hid =>
            cases h
            exact ⟨f, .refl _, by omega, hid⟩
    | misfit hn hfit t => cases (awaitAuth_of_error (read_misfit hn hfit t)).symm.trans h
    | cut hcut => cases (awaitAuth_of_error (read_cut hcut)).symm.trans h
  · rintro ⟨f, hs, hkind, hid⟩
    have hnot : f.kind ≠ 0 := by omega
    rw [awaitAuth_skips hs, awaitAuth_frame, if_neg hnot, if_neg (not_not.2 hkind), if_neg hid]

theorem awaitOutput_of_error {s : List UInt8} {e : ControlError} (h : Packet.read s = .error e) :
    awaitOutput s = .error e := by
  rw [awaitOutput, h]
  rfl

theorem awaitOutput_frame (g : Frame) (rest : List UInt8) :
    awaitOutput (g.bytes ++ rest) =
      if g.id ≠ 2 then .error (.protocol ("response id " ++ showInt g.id)) else .ok g.text := by
  rw [awaitOutput, read_frame]
  rfl

theorem awaitOutput_eq_ok_iff {s : List UInt8} {body : String} :
    awaitOutput s = .ok body ↔ ∃ (g : Frame) (rest : List UInt8),
      s = g.bytes ++ rest ∧ g.id = 2 ∧ g.text = body := by
  constructor
  · intro h
    cases opening s with
    | frame g rest =>
      rw [awaitOutput_frame] at h
      split at h
      next => cases h
      next hid =>
        cases h
        exact ⟨g, rest, rfl, not_not.1 hid, rfl⟩
    | misfit hn hfit t => cases (awaitOutput_of_error (read_misfit hn hfit t)).symm.trans h
    | cut hcut => cases (awaitOutput_of_error (read_cut hcut)).symm.trans h
  · rintro ⟨g, rest, rfl, hid, rfl⟩
    rw [awaitOutput_frame, if_neg (not_not.2 hid)]

/-- How a session ends for a stream, and whether its command is sent. -/
inductive Ending (s : List UInt8) : Bool → Except ControlError String → Prop where
  | rejected (f : Frame) (rest : List UInt8) (hs : Skips s (f.bytes ++ rest)) (hkind : f.kind = 2)
    (hid : f.id = -1) : Ending s false (.error .authRejected)
  | unexpected (f : Frame) (rest : List UInt8) (hs : Skips s (f.bytes ++ rest))
    (hzero : f.kind ≠ 0) (hkind : f.kind ≠ 2) :
    Ending s false (.error (.protocol ("unexpected packet type " ++ showInt f.kind)))
  | misfit (n : Int) (rest : List UInt8) (hn : int32.Holds n) (hfit : ¬ (10 ≤ n ∧ n ≤ 4106))
    (hs : Skips s (int32Bytes n ++ rest)) :
    Ending s false (.error (.protocol ("packet size " ++ showInt n)))
  | cut (rest : List UInt8) (hcut : Cut rest) (hs : Skips s rest) :
    Ending s false (.error (.io .unexpectedEof))
  | answered (g : Frame) (rest : List UInt8) (hs : Grants s (g.bytes ++ rest)) (hid : g.id = 2) :
    Ending s true (.ok g.text)
  | mismatched (g : Frame) (rest : List UInt8) (hs : Grants s (g.bytes ++ rest)) (hid : g.id ≠ 2) :
    Ending s true (.error (.protocol ("response id " ++ showInt g.id)))
  | misfitAnswer (n : Int) (rest : List UInt8) (hn : int32.Holds n)
    (hfit : ¬ (10 ≤ n ∧ n ≤ 4106)) (hs : Grants s (int32Bytes n ++ rest)) :
    Ending s true (.error (.protocol ("packet size " ++ showInt n)))
  | cutAnswer (rest : List UInt8) (hcut : Cut rest) (hs : Grants s rest) :
    Ending s true (.error (.io .unexpectedEof))

/-- A response to be passed over changes nothing. -/
theorem Ending.cons {f : Frame} (hf : f.kind = 0) {s : List UInt8} {sends : Bool}
    {result : Except ControlError String} (h : Ending s sends result) :
    Ending (f.bytes ++ s) sends result := by
  cases h with
  | rejected g rest hs hkind hid => exact .rejected g rest (hs.cons hf) hkind hid
  | unexpected g rest hs hzero hkind => exact .unexpected g rest (hs.cons hf) hzero hkind
  | misfit n rest hn hfit hs => exact .misfit n rest hn hfit (hs.cons hf)
  | cut rest hcut hs => exact .cut rest hcut (hs.cons hf)
  | answered g rest hs hid => exact .answered g rest (hs.cons hf) hid
  | mismatched g rest hs hid => exact .mismatched g rest (hs.cons hf) hid
  | misfitAnswer n rest hn hfit hs => exact .misfitAnswer n rest hn hfit (hs.cons hf)
  | cutAnswer rest hcut hs => exact .cutAnswer rest hcut (hs.cons hf)

theorem exists_ending (s : List UInt8) : ∃ sends result, Ending s sends result := by
  induction hlen : s.length using Nat.strongRecOn generalizing s with
  | ind n ih =>
  cases opening s with
  | frame f t =>
    by_cases hzero : f.kind = 0
    -- a response to be passed over: the rest of the stream is shorter and ends the session
    · have hlt : t.length < n := by
        rw [← hlen, List.length_append, f.length_bytes]
        omega
      obtain ⟨sends, result, h⟩ := ih t.length hlt t rfl
      exact ⟨sends, result, h.cons hzero⟩
    by_cases hkind : f.kind = 2
    · by_cases hid : f.id = -1
      · exact ⟨_, _, .rejected f t (.refl _) hkind hid⟩
      have hgrants : Grants (f.bytes ++ t) t := ⟨f, .refl _, hkind, hid⟩
      cases opening t with
      | frame g u =>
        by_cases hanswer : g.id = 2
        · exact ⟨_, _, .answered g u hgrants hanswer⟩
        · exact ⟨_, _, .mismatched g u hgrants hanswer⟩
      | misfit hn hfit u => exact ⟨_, _, .misfitAnswer _ u hn hfit hgrants⟩
      | cut hcut => exact ⟨_, _, .cutAnswer t hcut hgrants⟩
    · exact ⟨_, _, .unexpected f t (.refl _) hzero hkind⟩
  | misfit hn hfit t => exact ⟨_, _, .misfit _ t hn hfit (.refl _)⟩
  | cut hcut => exact ⟨_, _, .cut s hcut (.refl s)⟩

def sentIf (password command : String) (sends : Bool) : List Packet :=
  if sends then [⟨1, 3, password⟩, ⟨2, 2, command⟩] else [⟨1, 3, password⟩]

variable {password command : String}

theorem session_of_error {s : List UInt8} {e : ControlError} (h : awaitAuth s = .error e) :
    session password command s = (sentIf password command false, .error e) := by
  rw [session, h]
  rfl

theorem session_of_grants {s rest : List UInt8} (h : Grants s rest) :
    session password command s = (sentIf password command true, awaitOutput rest) := by
  rw [session, awaitAuth_eq_ok_iff.2 h]
  rfl

theorem session_of_ending {s : List UInt8} {sends : Bool} {result : Except ControlError String}
    (h : Ending s sends result) :
    session password command s = (sentIf password command sends, result) := by
  cases h with
  | rejected f rest hs hkind hid =>
    refine session_of_error ?_
    have hzero : f.kind ≠ 0 := by omega
    rw [awaitAuth_skips hs, awaitAuth_frame, if_neg hzero, if_neg (not_not.2 hkind), if_pos hid]
  | unexpected f rest hs hzero hkind =>
    refine session_of_error ?_
    rw [awaitAuth_skips hs, awaitAuth_frame, if_neg hzero, if_pos hkind]
  | misfit n rest hn hfit hs =>
    refine session_of_error ?_
    rw [awaitAuth_skips hs, awaitAuth_of_error (read_misfit hn hfit rest)]
  | cut rest hcut hs =>
    refine session_of_error ?_
    rw [awaitAuth_skips hs, awaitAuth_of_error (read_cut hcut)]
  | answered g rest hs hid =>
    rw [session_of_grants hs, awaitOutput_frame, if_neg (not_not.2 hid)]
  | mismatched g rest hs hid => rw [session_of_grants hs, awaitOutput_frame, if_pos hid]
  | misfitAnswer n rest hn hfit hs =>
    rw [session_of_grants hs, awaitOutput_of_error (read_misfit hn hfit rest)]
  | cutAnswer rest hcut hs => rw [session_of_grants hs, awaitOutput_of_error (read_cut hcut)]

theorem sentIf_injective {a b : Bool} (h : sentIf password command a = sentIf password command b) :
    a = b := by
  cases a <;> cases b <;> simp [sentIf] at h ⊢

theorem exec_mem_sentIf {sends : Bool} :
    (⟨2, 2, command⟩ : Packet) ∈ sentIf password command sends ↔ sends = true := by
  cases sends <;> simp [sentIf]

theorem Ending.grants_iff {s : List UInt8} {sends : Bool} {result : Except ControlError String}
    (h : Ending s sends result) : sends = true ↔ ∃ rest, Grants s rest := by
  constructor
  · rintro rfl
    cases h with
    | answered g rest hs hid => exact ⟨_, hs⟩
    | mismatched g rest hs hid => exact ⟨_, hs⟩
    | misfitAnswer n rest hn hfit hs => exact ⟨_, hs⟩
    | cutAnswer rest hcut hs => exact ⟨_, hs⟩
  · rintro ⟨rest, hs⟩
    have hsession : (sentIf "" "" sends, result) = (sentIf "" "" true, awaitOutput rest) :=
      (session_of_ending h).symm.trans (session_of_grants hs)
    exact sentIf_injective (congrArg Prod.fst hsession)

/-- A client that is connected first sends the password. It sends the command, once, exactly if the
server accepts the password after any number of responses to be passed over, and it has an output
exactly if the answer to the command is next. Every session ends in one of the ways that `Ending`
lists, and in the way that the stream says. -/
theorem execute_exact (password command : String) (s : List UInt8) :
    let sent := (execute password command (.ok s)).1
    let result := (execute password command (.ok s)).2
    (sent = [⟨1, 3, password⟩] ∨ sent = [⟨1, 3, password⟩, ⟨2, 2, command⟩]) ∧
    (⟨2, 2, command⟩ ∈ sent ↔ ∃ rest, Grants s rest) ∧
    (∀ body, result = .ok body ↔
      ∃ (g : Frame) (rest : List UInt8), Grants s (g.bytes ++ rest) ∧ g.id = 2 ∧ g.text = body) ∧
    (∀ sends r, Ending s sends r ↔ (sent, result) = (sentIf password command sends, r)) := by
  intro sent result
  obtain ⟨sends, r, h⟩ := exists_ending s
  have hsession : (sent, result) = (sentIf password command sends, r) := session_of_ending h
  obtain ⟨hsent, hresult⟩ := Prod.mk.inj hsession
  refine ⟨?_, ?_, fun body => ?_, fun sends' r' => ⟨session_of_ending, fun heq => ?_⟩⟩
  · rw [hsent]
    cases sends
    · exact .inl rfl
    · exact .inr rfl
  · rw [hsent, exec_mem_sentIf, h.grants_iff]
  · constructor
    · intro hok
      obtain ⟨rest, hs⟩ : ∃ rest, Grants s rest := by
        rw [← h.grants_iff]
        rw [hresult] at hok
        subst hok
        cases h
        rfl
      have hanswer : (session password command s).2 = awaitOutput rest :=
        congrArg Prod.snd (session_of_grants hs)
      obtain ⟨g, rest', rfl, hid, htext⟩ := awaitOutput_eq_ok_iff.1 (hanswer.symm.trans hok)
      exact ⟨g, rest', hs, hid, htext⟩
    · rintro ⟨g, rest, hs, hid, rfl⟩
      exact congrArg Prod.snd (session_of_ending (.answered g rest hs hid))
  · obtain ⟨hsent', rfl⟩ := Prod.mk.inj heq
    obtain rfl := sentIf_injective (hsent.symm.trans hsent')
    rwa [hresult]

end Moderation.Rcon
