import Mathlib.Tactic.Common

/-!
# Lockstep request and reply sockets

A reply socket hands out one request at a time: the next one only after the
pending one has been answered. A request socket sends one request at a time: the
next one only after the whole reply has been received. A send out of turn is
refused and changes nothing. Messages are lists of frames, and a frame-wise
receiver is done only with the last frame.
-/

namespace ReqRep

universe u

variable {μ : Type u}

/-! ## The reply side -/

structure RepSocket (μ : Type u) where
  /-- A request has been received and not answered. -/
  pending : Bool := false
  /-- The messages sent so far. -/
  sent : List μ := []

namespace RepSocket

/-- Receive a request; not possible while one is pending. -/
def recv (s : RepSocket μ) : Option (RepSocket μ) :=
  if s.pending then none else some { s with pending := true }

/-- Answer the pending request; refused when there is none. -/
def send (s : RepSocket μ) (m : μ) : RepSocket μ :=
  if s.pending then { pending := false, sent := s.sent ++ [m] } else s

theorem recv_of_idle {s : RepSocket μ} (h : s.pending = false) :
    s.recv = some { s with pending := true } := by simp [recv, h]

theorem send_of_pending {s : RepSocket μ} (h : s.pending = true) (m : μ) :
    s.send m = { pending := false, sent := s.sent ++ [m] } := by simp [send, h]

end RepSocket

/-! ## The request side -/

structure ReqSocket (φ : Type u) where
  /-- A request has been sent and its reply not wholly received. -/
  awaiting : Bool := false
  /-- The frames of the reply that have arrived and not been read. -/
  inbox : List φ := []
deriving DecidableEq

namespace ReqSocket

variable {φ : Type u}

/-- No unanswered request. -/
def Idle (s : ReqSocket φ) : Prop := s.awaiting = false

instance (s : ReqSocket φ) : Decidable s.Idle := inferInstanceAs (Decidable (s.awaiting = false))

theorem idle_new : ({} : ReqSocket φ).Idle := rfl

/-- Send a request; refused while one is unanswered. -/
def send (s : ReqSocket φ) : Option (ReqSocket φ) :=
  if s.awaiting then none else some { awaiting := true, inbox := [] }

/-- The reply `frames` arrives; only a socket that waits for one accepts it. -/
def arrive (s : ReqSocket φ) (frames : List φ) : ReqSocket φ :=
  if s.awaiting ∧ s.inbox = [] then { s with inbox := frames } else s

/-- Read one frame. The request is answered once the last frame is read. -/
def recvFrame (s : ReqSocket φ) : Option (φ × ReqSocket φ) :=
  match s.inbox with
  | [] => none
  | f :: fs => some (f, { awaiting := !fs.isEmpty, inbox := fs })

@[simp] theorem arrive_awaiting (s : ReqSocket φ) (frames : List φ) :
    (s.arrive frames).awaiting = s.awaiting := by
  unfold arrive; split <;> rfl

end ReqSocket

end ReqRep
