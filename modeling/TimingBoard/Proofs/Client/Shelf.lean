import Mathlib.Logic.Function.Iterate
import TimingBoard.Proofs.Client.Asking
import TimingBoard.Proofs.Client.Calls
import TimingBoard.Proofs.Reply.Measurements

/-!
# The shelf of measurements

What a client that only measures can know of its board: a list of numbers, one for each stored
measurement, and whether a run is in progress.  A measurement has no name but its place in the list,
so the places behind a deleted one move up.

Time goes on by one tick with each line, and a tick may end the run in progress and put its
measurement last.  So a call that takes one line sees the shelf after one tick.  A table takes a
line for the list and one for each measurement in it; what is put on the shelf in the meantime is
not in the table.
-/

namespace TimingBoard

/-- The starts of the stored measurements, and what ends the run in progress. -/
structure Shelf where
  starts : List UInt32
  /-- When the run in progress began. -/
  runningSince : Option Instant
  /-- How long a run lasts at most; no time at all means that it is not ended. -/
  totalTime : Span
  /-- What the clock shows at each line to come. -/
  clock : Nat → Instant

/-- A call of a client that only measures. -/
inductive StoreCall where
  | startRun (length : TimeText) (now : Instant)
  | stopRun
  | measurements
  | statistics (id : UInt32) (cumulative : Bool)
  | table
  | save (id : UInt32) (file : Text)
  | delete (id : UInt32)
  | clear

namespace StoreCall

/-- The call as one of a client. -/
def toCall : StoreCall → ClientCall
  | startRun length now => .startRun length now
  | stopRun => .stopRun
  | measurements => .measurements
  | statistics id cumulative => .statistics id cumulative
  | table => .table
  | save id file => .save id file
  | delete id => .delete id
  | clear => .clear

/-- What the client does for a call. -/
def perform {L : Type} [Link L] (call : StoreCall) : Call (Client L) Answer :=
  call.toCall.perform

/-- A call that asks for the list. -/
def Lists : StoreCall → Prop
  | measurements => True
  | table => True
  | _ => False

instance : DecidablePred Lists := fun call => by
  cases call <;> unfold Lists <;> infer_instance

/-- A call that may start a run. -/
def isStart : StoreCall → Bool
  | startRun _ _ => true
  | _ => false

end StoreCall

/-- What becomes of a call. -/
inductive Outcome where
  | answered (answer : Answer)
  /-- The board rejects it for a reason. -/
  | rejected (reason : String)
  /-- The client refuses it, and sends nothing. -/
  | refused

/-- A result of a client that shows an outcome. -/
def Outcome.Matches : Outcome → Except Error Answer → Prop
  | answered expected, .ok answer => answer = expected
  | rejected expected, .error (.rejected _ reason) => reason = expected.toList
  | refused, .error (.refused _) => True
  | _, _ => False

namespace Shelf

/-- The run in progress ends, and its measurement is put last. -/
def endRun (now : Instant) (s : Shelf) : Shelf :=
  match s.runningSince with
  | none => s
  | some since =>
    { s with runningSince := none, starts := s.starts ++ [Board.startsOf (now.since since)] }

/-- Whether the run in progress is over. -/
def isOver (now : Instant) (s : Shelf) : Bool :=
  s.runningSince.any fun since =>
    s.totalTime.nanos ≠ 0 && s.totalTime.nanos ≤ (now.since since).nanos

/-- The run in progress ends if it is over. -/
def expire (now : Instant) (s : Shelf) : Shelf :=
  if s.isOver now then s.endRun now else s

/-- Time goes on by one line. A run that is over by then is ended. -/
def tick (s : Shelf) : Shelf :=
  { s.expire (s.clock 0) with clock := fun n => s.clock (n + 1) }

/-- The measurements of a list with their statistics. -/
def rows (starts : List UInt32) : List (Measurement × Statistics) :=
  (Measurement.listOf starts).map fun m => (m, .ofStarts m.starts)

/-- What becomes of a call, and the shelf after it. -/
def act (call : StoreCall) (s : Shelf) : Outcome × Shelf :=
  let ticked := s.tick
  match call with
  | .startRun _ _ =>
    if ticked.runningSince.isSome then (.rejected "9:START", ticked)
    else (.answered .done, { ticked with runningSince := some (s.clock 0) })
  | .stopRun => (.answered .done, ticked.endRun (s.clock 0))
  | .measurements => (.answered (.measurements (Measurement.listOf ticked.starts)), ticked)
  | .statistics id _ =>
    match ticked.starts[id.toNat]? with
    | some n => (.answered (.statistics [.ofStarts n]), ticked)
    | none => (.rejected "8:STAT", ticked)
  | .table => (.answered (.table (rows ticked.starts)), tick^[ticked.starts.length] ticked)
  | .save id file =>
    if Token.isToken file = false then (.refused, s)
    else if id.toNat < ticked.starts.length then (.answered .done, ticked)
    else (.rejected "4:SAVE", ticked)
  | .delete id =>
    if id.toNat < ticked.starts.length then
      (.answered .done, { ticked with starts := ticked.starts.eraseIdx id.toNat })
    else (.rejected "5:DELETE", ticked)
  | .clear => (.answered .done, { ticked with starts := [] })

/-- Calls one after the other: what becomes of them, and the shelf after them. -/
def runAll : List StoreCall → Shelf → List Outcome × Shelf
  | [], s => ([], s)
  | call :: rest, s =>
    let (outcome, s) := s.act call
    let (outcomes, s) := s.runAll rest
    (outcome :: outcomes, s)

/-- Whenever the list is asked for, the places in it fit into 32 bits. -/
def Fits : List StoreCall → Shelf → Prop
  | [], _ => True
  | call :: rest, s =>
    (call.Lists → s.tick.starts.length ≤ UInt32.size) ∧ (s.act call).2.Fits rest

instance decidableFits : ∀ (calls : List StoreCall) (s : Shelf), Decidable (s.Fits calls)
  | [], _ => inferInstanceAs (Decidable True)
  | call :: rest, s =>
    have := decidableFits rest (s.act call).2
    inferInstanceAs (Decidable
      ((call.Lists → s.tick.starts.length ≤ UInt32.size) ∧ (s.act call).2.Fits rest))

variable (s : Shelf)

/-! ## Room on the shelf -/

/-- The measurements on the shelf once the run in progress has ended. -/
def size : Nat :=
  s.starts.length + if s.runningSince.isSome then 1 else 0

lemma length_starts_le_size : s.starts.length ≤ s.size :=
  Nat.le_add_right _ _

/-- Taking measurements away makes no shelf larger. -/
lemma size_le_of_length {s' : Shelf} (hrun : s'.runningSince = s.runningSince)
    (hlength : s'.starts.length ≤ s.starts.length) : s'.size ≤ s.size := by
  unfold size
  rw [hrun]
  omega

lemma size_endRun (now : Instant) : (s.endRun now).size = s.size := by
  unfold endRun
  split
  · rfl
  · next hrun => simp [size, hrun]

lemma size_expire (now : Instant) : (s.expire now).size = s.size := by
  unfold expire
  split
  · exact s.size_endRun now
  · rfl

lemma size_tick : s.tick.size = s.size :=
  s.size_expire (s.clock 0)

lemma size_tick_iterate (n : Nat) : (tick^[n] s).size = s.size := by
  induction n generalizing s with
  | zero => rfl
  | succ n ih => rw [Function.iterate_succ_apply, ih, size_tick]

/-- A call adds at most the run that it starts. -/
lemma size_act_le (call : StoreCall) :
    (s.act call).2.size ≤ s.size + if call.isStart then 1 else 0 := by
  have htick := s.size_tick
  cases call with
  | startRun length now =>
    simp only [act]
    split
    · simp [htick]
    · next hrun =>
      have hnone : s.tick.runningSince = none := by simpa using hrun
      simp only [size, hnone, Option.isSome_some, Option.isSome_none, if_true] at htick ⊢
      simp only [StoreCall.isStart, if_true]
      omega
  | stopRun => exact Nat.le_of_eq ((s.tick.size_endRun _).trans htick)
  | measurements => exact Nat.le_of_eq htick
  | statistics id cumulative =>
    simp only [act]
    split <;> exact Nat.le_of_eq htick
  | table => exact Nat.le_of_eq ((s.tick.size_tick_iterate _).trans htick)
  | save id file =>
    simp only [act]
    split
    · exact Nat.le_refl _
    · split <;> exact Nat.le_of_eq htick
  | delete id =>
    simp only [act]
    split
    · exact htick ▸ s.tick.size_le_of_length rfl (List.length_eraseIdx_le _ _)
    · exact Nat.le_of_eq htick
  | clear => exact htick ▸ s.tick.size_le_of_length rfl (Nat.zero_le _)

/-- A shelf with room for all runs that are started fits at all times. -/
lemma fits_of_size {calls : List StoreCall}
    (h : s.size + calls.countP StoreCall.isStart ≤ UInt32.size) : s.Fits calls := by
  induction calls generalizing s with
  | nil => trivial
  | cons call rest ih =>
    rw [List.countP_cons] at h
    have hact := s.size_act_le call
    refine ⟨fun _ => ?_, ih _ (by omega)⟩
    have hlength := s.tick.length_starts_le_size
    rw [size_tick] at hlength
    omega

/-! ## Places -/

/-- What ends by itself is put last. -/
lemma exists_starts_tick : ∃ ended, s.tick.starts = s.starts ++ ended := by
  change ∃ ended, (s.expire (s.clock 0)).starts = s.starts ++ ended
  unfold expire endRun
  split
  · split
    · exact ⟨[], by simp⟩
    · exact ⟨_, rfl⟩
  · exact ⟨[], by simp⟩

/-- Time going on moves no measurement. -/
lemma getElem?_tick {place : Nat} {n : UInt32} (h : s.starts[place]? = some n) :
    s.tick.starts[place]? = some n := by
  obtain ⟨ended, hstarts⟩ := s.exists_starts_tick
  obtain ⟨hplace, -⟩ := List.getElem?_eq_some_iff.1 h
  rw [hstarts, List.getElem?_append_left hplace, h]

/-! ## Boards -/

/-- The shelf of a board. -/
def ofBoard (clock : Nat → Instant) (b : Board) : Shelf :=
  ⟨b.measurements, b.runningSince, b.totalTime.span, clock⟩

lemma ofBoard_endRun (clock : Nat → Instant) (now : Instant) (b : Board) :
    ofBoard clock (b.endRun now) = (ofBoard clock b).endRun now := by
  unfold Board.endRun endRun
  cases hrun : b.runningSince <;> simp [ofBoard, hrun]

lemma isOver_ofBoard (clock : Nat → Instant) (now : Instant) (b : Board) :
    (ofBoard clock b).isOver now = b.isOver now := by
  unfold Board.isOver isOver
  cases hrun : b.runningSince <;> simp [ofBoard, hrun]

lemma ofBoard_expire (clock : Nat → Instant) (now : Instant) (b : Board) :
    ofBoard clock (b.expire now) = (ofBoard clock b).expire now := by
  unfold Board.expire expire
  rw [isOver_ofBoard]
  split
  · exact ofBoard_endRun clock now b
  · rfl

/-- A board that is prepared for a line has its shelf after one tick. -/
lemma ofBoard_prepared (clock : Nat → Instant) (line : Text) (b : Board) :
    ofBoard (fun n => clock (n + 1)) (b.prepared (clock 0) line) = (ofBoard clock b).tick := by
  have hexpire := ofBoard_expire clock (clock 0) { b with received := b.received ++ [line] }
  exact congrArg (fun s : Shelf => { s with clock := fun n => clock (n + 1) }) hexpire

end Shelf

end TimingBoard
