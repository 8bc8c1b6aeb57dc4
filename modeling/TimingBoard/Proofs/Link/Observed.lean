import Mathlib.Tactic.Lemma
import TimingBoard.Link.Basic

/-!
# Links under observation

What a session does to its link can be observed: an observed link does what the link itself does,
and keeps an account of it, with every operation and what came of it in the order of their
happening.

A session gives its connection up for some of these events.  A write that fails is one of them, and
so is a read that finds the link closed, or fails in another way than by waiting too long or by
being broken off.
-/

namespace TimingBoard

/-- Something that was done with a link, and what came of it. -/
inductive LinkEvent where
  | read (result : Except LinkFault Bytes)
  | written (bytes : Bytes) (result : Except LinkFault Unit)
  | flushed (result : Except LinkFault Unit)
  | waitSet (wait : Span) (result : Except LinkFault Unit)

/-- Whether a read that fails in this way can be tried again. -/
def FaultKind.canRetry : FaultKind → Bool
  | .timedOut | .wouldBlock | .interrupted => true
  | _ => false

/-- The fault for which an event ends the connection, if it does. -/
def LinkEvent.loss? : LinkEvent → Option LinkFault
  | read (.ok chunk) => if chunk = [] then some .closedByPeer else none
  | read (.error fault) => if fault.kind.canRetry then none else some fault
  | written _ (.error fault) => some fault
  | flushed (.error fault) => some fault
  | written _ (.ok ()) => none
  | flushed (.ok ()) => none
  | waitSet _ _ => none

/-- A link with the account of what was done with it. -/
structure Observed (L : Type) where
  link : L
  account : List LinkEvent

namespace Observed

variable {L : Type}

/-- The observed link after an event. -/
def after {α : Type} (o : Observed L) (event : Except LinkFault α → LinkEvent)
    (outcome : Except LinkFault α × L) : Except LinkFault α × Observed L :=
  (outcome.1, ⟨outcome.2, o.account ++ [event outcome.1]⟩)

/-- What an operation of an observed link gives is what it gives on the link, and it is noted. -/
lemma eq_of_after {α : Type} {o o' : Observed L} {event : Except LinkFault α → LinkEvent}
    {outcome : Except LinkFault α × L} {result : Except LinkFault α}
    (h : o.after event outcome = (result, o')) :
    outcome = (result, o'.link) ∧ o'.account = o.account ++ [event result] := by
  obtain ⟨rfl, rfl⟩ := Prod.mk.inj h
  exact ⟨rfl, rfl⟩

variable [Link L]

instance : Link (Observed L) where
  read size o := o.after .read (Link.read size o.link)
  write bytes o := o.after (.written bytes) (Link.write bytes o.link)
  flush o := o.after .flushed (Link.flush o.link)
  setWait wait o := o.after (.waitSet wait) (Link.setWait wait o.link)
  pending o := Link.pending o.link
  pending_lt_of_bytes hsize h hchunk := Link.pending_lt_of_bytes hsize (eq_of_after h).1 hchunk
  pending_lt_of_interrupted h hkind := Link.pending_lt_of_interrupted (eq_of_after h).1 hkind

variable {o o' : Observed L}

lemma of_read {size : Nat} {result : Except LinkFault Bytes}
    (h : Link.read size o = (result, o')) :
    Link.read size o.link = (result, o'.link) ∧ o'.account = o.account ++ [.read result] :=
  eq_of_after h

lemma of_write {bytes : Bytes} {result : Except LinkFault Unit}
    (h : Link.write bytes o = (result, o')) :
    Link.write bytes o.link = (result, o'.link) ∧
      o'.account = o.account ++ [.written bytes result] :=
  eq_of_after h

lemma of_flush {result : Except LinkFault Unit} (h : Link.flush o = (result, o')) :
    Link.flush o.link = (result, o'.link) ∧ o'.account = o.account ++ [.flushed result] :=
  eq_of_after h

lemma of_setWait {wait : Span} {result : Except LinkFault Unit}
    (h : Link.setWait wait o = (result, o')) :
    Link.setWait wait o.link = (result, o'.link) ∧
      o'.account = o.account ++ [.waitSet wait result] :=
  eq_of_after h

end Observed

end TimingBoard
