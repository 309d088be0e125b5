import Moderation.Rcon.Packet
/-!
Sessions with a game server: authenticate, then run one command. A session is a function of the
bytes that the server sends; it gives the packets that the client sends and the result.
-/
namespace Moderation.Rcon
open Text Time

namespace Packet

def responseKind : Int := 0

def authResponseKind : Int := 2

def auth (password : String) : Packet := ⟨1, 3, password⟩

def exec (command : String) : Packet := ⟨2, 2, command⟩

theorem length_readInt32 {s r : List UInt8} {n : Int} (h : readInt32 s = .ok (n, r)) :
    r.length + 4 = s.length := by
  unfold readInt32 at h
  split at h
  · cases h
    rfl
  · cases h

theorem length_readBytes {s a r : List UInt8} {n : Nat} (h : readBytes n s = .ok (a, r)) :
    r.length ≤ s.length := by
  unfold readBytes at h
  split at h
  · cases h
  · cases h
    simp

theorem length_read {s r : List UInt8} {p : Packet} (h : Packet.read s = .ok (p, r)) :
    r.length < s.length := by
  simp only [Packet.read, bind, Except.bind] at h
  split at h
  next => cases h
  next x hx =>
    split at h
    next => cases h
    next =>
      split at h
      next => cases h
      next y hy =>
        split at h
        next => cases h
        next z hz =>
          split at h
          next => cases h
          next b hb =>
            cases h
            have a₁ := length_readInt32 hx
            have a₂ := length_readInt32 hy
            have a₃ := length_readInt32 hz
            have a₄ := length_readBytes hb
            omega

end Packet

/-- Waits for the answer to the password. Empty responses before it are passed over. -/
def awaitAuth (s : List UInt8) : Except ControlError (List UInt8) :=
  match _h : Packet.read s with
  | .error e => .error e
  | .ok (p, rest) =>
    if p.kind = Packet.responseKind then awaitAuth rest
    else if p.kind ≠ Packet.authResponseKind then
      .error (.protocol ("unexpected packet type " ++ showInt p.kind))
    else if p.id = -1 then .error .authRejected
    else .ok rest
termination_by s.length
decreasing_by exact Packet.length_read ‹_›

def awaitOutput (s : List UInt8) : Except ControlError String := do
  let (p, _) ← Packet.read s
  if p.id ≠ 2 then .error (.protocol ("response id " ++ showInt p.id)) else .ok p.body

def session (password command : String) (s : List UInt8) :
    List Packet × Except ControlError String :=
  match awaitAuth s with
  | .error e => ([.auth password], .error e)
  | .ok rest => ([.auth password, .exec command], awaitOutput rest)

/-- Connects and runs a command; `connected` is what the server sends, or why there is no
connection. -/
def execute (password command : String) (connected : Except IoError (List UInt8)) :
    List Packet × Except ControlError String :=
  match connected with
  | .error e => ([], .error (.io e))
  | .ok s => session password command s

def control (f : Fault) (limit : Span) (store : Store) (server : Server) (c : Command)
    (connected : Except IoError (List UInt8)) : List Packet × Except ControlError String :=
  match f.call limit (store.server server.id) with
  | .error e => ([], .error (.lookup e))
  | .ok record => execute record.password c.text connected

end Moderation.Rcon
