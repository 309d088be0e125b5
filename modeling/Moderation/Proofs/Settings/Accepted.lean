import Moderation.Proofs.Event.SteamId
import Moderation.Proofs.Settings.Length
import Moderation.Settings.Basic
/-!
Settings that were accepted: no size is zero, no interval is empty, bans are no longer than five
years, and automatic actions have an author. A variable that is blank is as good as none.
-/
namespace Moderation
open Number Text Time

namespace Settings
variable {vars : Variables} {key reason : String}

/-- A value that was read is the default, or what the text of the variable says. -/
theorem read_eq_ok {α : Type} {default a : α} {ofText? : List Char → Option α}
    (h : read vars key reason default ofText? = .ok a) :
    a = default ∨ ∃ s, ofText? s = some a := by
  unfold read at h
  split at h
  next =>
    cases h
    exact .inl rfl
  next raw _ =>
    split at h
    next ha =>
      cases h
      exact .inr ⟨_, ha⟩
    next => cases h

theorem positive_eq_ok {bound default n : Nat} (h : positive vars key bound default = .ok n) :
    1 ≤ n := by
  obtain ⟨k, -, h⟩ := bind_eq_ok h
  split at h
  next => cases h
  next hk =>
    cases h
    exact Nat.one_le_iff_ne_zero.2 hk

def BanLength.Bounded (l : BanLength) : Prop :=
  ∀ d, l.span? = some d → Span.zero < d ∧ d ≤ maxBan

theorem bounded_of_banLength? {s : List Char} {l : BanLength} (h : banLength? s = some l) :
    l.Bounded := by
  unfold banLength? at h
  simp only at h
  split at h
  · cases h
    nofun
  · obtain ⟨d, hd, rfl⟩ := Option.map_eq_some_iff.1 h
    have hnonneg := zero_le_of_length? hd
    split
    next => nofun
    next hbounds =>
      rintro d' ⟨⟩
      rw [not_or] at hbounds
      refine ⟨?_, Span.not_lt.1 hbounds.2⟩
      have hne : d.nanos ≠ 0 := fun hzero => hbounds.1 (by cases d; simpa [Span.zero] using hzero)
      change 0 < d.nanos
      omega

theorem zero_lt_of_read {default d : Span} (hdefault : Span.zero < default)
    (h : read vars key reason default positiveLength? = .ok d) : Span.zero < d := by
  obtain rfl | ⟨s, hs⟩ := read_eq_ok h
  · exact hdefault
  · simpa using (Option.filter_eq_some_iff.1 hs).2

theorem bounded_of_read {default l : BanLength} (hdefault : default.Bounded)
    (h : read vars key reason default banLength? = .ok l) : l.Bounded := by
  obtain rfl | ⟨s, hs⟩ := read_eq_ok h
  · exact hdefault
  · exact bounded_of_banLength? hs

/-- The author of automatic actions is nobody, or a player with a valid steam id. -/
theorem ownerId_eq_ok {id : SteamId} (h : ownerId vars = .ok id) : id = .none ∨ id.Valid := by
  unfold ownerId at h
  split at h
  next =>
    cases h
    exact .inl rfl
  next raw _ =>
    split at h
    next => cases h
    next found hfound =>
      cases h
      obtain ⟨steam3, hsteam3, hfound⟩ := bind_eq_ok hfound
      cases steam3 with
      | some id' =>
        cases hfound
        exact .inr (SteamId.valid_of_ofSteam3? hsteam3)
      | none =>
        have hword := Option.filter_eq_some_iff.1 (Except.ok.inj hfound)
        exact .inr (by simpa using hword.2)
    next => cases h

structure Usable (s : Settings) : Prop where
  busQueueCapacity : 1 ≤ s.busQueueCapacity
  ingestQueueCapacity : 1 ≤ s.ingestQueueCapacity
  noticeQueueCapacity : 1 ≤ s.noticeQueueCapacity
  workers : 1 ≤ s.workers
  workerQueueCapacity : 1 ≤ s.workerQueueCapacity
  storeTimeout : 1 ≤ s.storeTimeoutSeconds
  warningTimeout : Span.zero < s.warningTimeout
  sweepInterval : Span.zero < s.sweepInterval
  warningLength : s.warningLength.Bounded
  owner : s.owner = .none ∨ s.owner.Valid

theorem usable_of_ofVariables {s : Settings} (h : ofVariables vars = .ok s) : s.Usable := by
  unfold ofVariables at h
  obtain ⟨owner, howner, h⟩ := bind_eq_ok h
  obtain ⟨action, -, h⟩ := bind_eq_ok h
  obtain ⟨length, hlength, h⟩ := bind_eq_ok h
  obtain ⟨timeout, htimeout, h⟩ := bind_eq_ok h
  obtain ⟨interval, hinterval, h⟩ := bind_eq_ok h
  obtain ⟨port, -, h⟩ := bind_eq_ok h
  obtain ⟨enabled, -, h⟩ := bind_eq_ok h
  obtain ⟨busQueue, hbusQueue, h⟩ := bind_eq_ok h
  obtain ⟨ingestQueue, hingestQueue, h⟩ := bind_eq_ok h
  obtain ⟨noticeQueue, hnoticeQueue, h⟩ := bind_eq_ok h
  obtain ⟨workers, hworkers, h⟩ := bind_eq_ok h
  obtain ⟨workerQueue, hworkerQueue, h⟩ := bind_eq_ok h
  obtain ⟨storeTimeout, hstoreTimeout, h⟩ := bind_eq_ok h
  obtain ⟨grace, -, h⟩ := bind_eq_ok h
  obtain ⟨limit, -, h⟩ := bind_eq_ok h
  cases h
  exact {
    busQueueCapacity := positive_eq_ok hbusQueue
    ingestQueueCapacity := positive_eq_ok hingestQueue
    noticeQueueCapacity := positive_eq_ok hnoticeQueue
    workers := positive_eq_ok hworkers
    workerQueueCapacity := positive_eq_ok hworkerQueue
    storeTimeout := positive_eq_ok hstoreTimeout
    warningTimeout := zero_lt_of_read (by decide) htimeout
    sweepInterval := zero_lt_of_read (by decide) hinterval
    warningLength := bounded_of_read (by rintro d ⟨⟩; decide) hlength
    owner := ownerId_eq_ok howner }

def Void (vars : Variables) (key : String) : Prop :=
  ∀ v, vars key = some v → trim v.toList = []

/-- Variables that say the same, but for how they say nothing. -/
def Agree (vars vars' : Variables) : Prop :=
  ∀ key, vars key = vars' key ∨ Void vars key ∧ Void vars' key

theorem value?_of_void (h : Void vars key) : value? vars key = none := by
  unfold value?
  cases hv : vars key with
  | none => rfl
  | some v => simp [h v hv]

theorem Agree.value? {vars' : Variables} (h : Agree vars vars') :
    value? vars = value? vars' := by
  funext key
  obtain heq | ⟨hvoid, hvoid'⟩ := h key
  · rw [Settings.value?, Settings.value?, heq]
  · rw [value?_of_void hvoid, value?_of_void hvoid']

/-- Variables that agree give the same settings, or are rejected for the same reason. -/
theorem Agree.ofVariables {vars' : Variables} (h : Agree vars vars') :
    ofVariables vars = ofVariables vars' := by
  unfold Settings.ofVariables ownerId positive number flag read
  rw [h.value?]

end Settings
end Moderation
