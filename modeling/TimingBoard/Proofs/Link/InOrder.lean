import Mathlib.Tactic.Lemma
import TimingBoard.Board.Connection
import TimingBoard.Link.Script

/-!
# Links that keep the order of bytes

A link keeps the order of bytes when every read that answers gives the next of the bytes that were
sent, and every other read gives up for lack of bytes and takes none.  Such a link may be slow: a
read may give up although bytes are on their way.  A prompt one gives up only when there are none.

A scripted link that stays open and a connection to the simulated board are both of this kind, and
both are prompt: they differ in what is sent, not in how it is read.
-/

namespace TimingBoard

/-- What a read does to the bytes that are coming: it takes some from their start, or it gives
up. -/
inductive TakesFrom (coming rest : Bytes) : Except LinkFault Bytes → Prop
  | bytes {chunk : Bytes} : chunk ≠ [] → coming = chunk ++ rest → TakesFrom coming rest (.ok chunk)
  | nothing {fault : LinkFault} : fault.kind = .timedOut ∨ fault.kind = .wouldBlock →
      coming = rest → TakesFrom coming rest (.error fault)

/-- A link that keeps the order of the bytes it carries, as long as it is open. -/
class Link.InOrder (L : Type) [Link L] where
  /-- The link has not been closed. -/
  isOpen : L → Prop
  /-- The bytes that were sent and not read yet. -/
  coming : L → Bytes
  /-- The link apart from what is still to be read. -/
  withoutBytes : L → L
  /-- Reads give up only when no bytes are coming. -/
  isPrompt : Prop
  takesFrom_of_read {l l' : L} {size : Nat} {result : Except LinkFault Bytes} : isOpen l →
    0 < size → Link.read size l = (result, l') → TakesFrom (coming l) (coming l') result
  isOpen_of_read {l l' : L} {size : Nat} {result : Except LinkFault Bytes} : isOpen l →
    Link.read size l = (result, l') → isOpen l'
  withoutBytes_of_read {l l' : L} {size : Nat} {result : Except LinkFault Bytes} : isOpen l →
    Link.read size l = (result, l') → withoutBytes l' = withoutBytes l
  coming_of_prompt {l l' : L} {size : Nat} {fault : LinkFault} : isPrompt → isOpen l →
    Link.read size l = (.error fault, l') → coming l = []

/-! ## Chunks -/

section Chunks

variable {size : Nat} {chunk : Bytes} {chunks rest : List Bytes}

/-- What is taken from the first chunk is the start of all bytes. -/
lemma flatten_of_takeChunk? (h : takeChunk? size chunks = some (chunk, rest)) :
    chunks.flatten = chunk ++ rest.flatten := by
  cases chunks with
  | nil => simp [takeChunk?] at h
  | cons first more =>
    simp only [takeChunk?] at h
    split at h
    · simp only [Option.some.injEq, Prod.mk.injEq] at h
      obtain ⟨rfl, rfl⟩ := h
      simp
    · simp only [Option.some.injEq, Prod.mk.injEq] at h
      obtain ⟨rfl, rfl⟩ := h
      simp [← List.append_assoc]

/-- A chunk that is not empty gives bytes. -/
lemma ne_nil_of_takeChunk? (hsize : 0 < size) (hchunks : ∀ c ∈ chunks, c ≠ [])
    (h : takeChunk? size chunks = some (chunk, rest)) : chunk ≠ [] := by
  cases chunks with
  | nil => simp [takeChunk?] at h
  | cons first more =>
    have hfirst : 0 < first.length := List.length_pos_iff.2 (hchunks first (by simp))
    simp only [takeChunk?] at h
    split at h
    · simp only [Option.some.injEq, Prod.mk.injEq] at h
      exact h.1 ▸ List.ne_nil_of_length_pos hfirst
    · simp only [Option.some.injEq, Prod.mk.injEq] at h
      have hpos : 0 < (first.take size).length := by simp; omega
      exact h.1 ▸ List.ne_nil_of_length_pos hpos

/-- Taking bytes leaves no empty chunk behind. -/
lemma forall_ne_nil_of_takeChunk? (hchunks : ∀ c ∈ chunks, c ≠ [])
    (h : takeChunk? size chunks = some (chunk, rest)) : ∀ c ∈ rest, c ≠ [] := by
  cases chunks with
  | nil => simp [takeChunk?] at h
  | cons first more =>
    have hmore : ∀ c ∈ more, c ≠ [] := fun c hc => hchunks c (by simp [hc])
    simp only [takeChunk?] at h
    split at h
    · simp only [Option.some.injEq, Prod.mk.injEq] at h
      exact h.2 ▸ hmore
    · simp only [Option.some.injEq, Prod.mk.injEq] at h
      have hpos : 0 < (first.drop size).length := by simp; omega
      rw [← h.2]
      exact List.forall_mem_cons.2 ⟨List.ne_nil_of_length_pos hpos, hmore⟩

/-- Nothing can be taken only when there is no chunk. -/
lemma takeChunk?_eq_none (h : takeChunk? size chunks = none) : chunks = [] := by
  cases chunks with
  | nil => rfl
  | cons first more =>
    simp only [takeChunk?] at h
    split at h <;> simp at h

end Chunks

/-! ## Scripted links -/

namespace Script

variable {s s' : Script} {size : Nat} {result : Except LinkFault Bytes}

/-- A scripted link that is not closed at its end and holds no chunk that looks like it. -/
def IsOpen (s : Script) : Prop :=
  s.closing = false ∧ ∀ chunk ∈ s.chunks, chunk ≠ []

/-- A read of an open script takes from its first chunk, or times out at its end. -/
lemma read_cases (hopen : s.IsOpen) (h : Link.read size s = (result, s')) :
    (∃ chunk rest, takeChunk? size s.chunks = some (chunk, rest) ∧ result = .ok chunk ∧
      s' = { s with chunks := rest }) ∨
    (s.chunks = [] ∧ result = .error exhausted ∧ s' = s) := by
  change s.read size = (result, s') at h
  unfold read at h
  split at h
  · next chunk rest htake =>
    simp only [Prod.mk.injEq] at h
    exact Or.inl ⟨chunk, rest, htake, h.1.symm, h.2.symm⟩
  · next htake =>
    rw [hopen.1] at h
    simp only [Bool.false_eq_true, if_false, Prod.mk.injEq] at h
    exact Or.inr ⟨takeChunk?_eq_none htake, h.1.symm, h.2.symm⟩

instance : Link.InOrder Script where
  isOpen := IsOpen
  coming s := s.chunks.flatten
  withoutBytes s := { s with chunks := [] }
  isPrompt := True
  takesFrom_of_read hopen hsize h := by
    obtain ⟨chunk, rest, htake, rfl, rfl⟩ | ⟨hdry, rfl, rfl⟩ := read_cases hopen h
    · exact .bytes (ne_nil_of_takeChunk? hsize hopen.2 htake) (flatten_of_takeChunk? htake)
    · exact .nothing (Or.inl rfl) rfl
  isOpen_of_read hopen h := by
    obtain ⟨chunk, rest, htake, rfl, rfl⟩ | ⟨hdry, rfl, rfl⟩ := read_cases hopen h
    · exact ⟨hopen.1, forall_ne_nil_of_takeChunk? hopen.2 htake⟩
    · exact hopen
  withoutBytes_of_read hopen h := by
    obtain ⟨chunk, rest, htake, rfl, rfl⟩ | ⟨hdry, rfl, rfl⟩ := read_cases hopen h <;> rfl
  coming_of_prompt _ hopen h := by
    obtain ⟨chunk, rest, htake, hresult, -⟩ | ⟨hdry, -, -⟩ := read_cases hopen h
    · simp at hresult
    · simp [hdry]

end Script

/-! ## Connections to the simulated board -/

namespace Connection

variable {c c' : Connection} {size : Nat} {result : Except LinkFault Bytes}

/-- A connection on which no empty piece is waiting, which would look like its end. -/
def IsOpen (c : Connection) : Prop :=
  ∀ piece ∈ c.arriving, piece ≠ []

/-- A read of a connection takes from the first piece, or finds nothing there. -/
lemma read_cases (h : Link.read size c = (result, c')) :
    (∃ chunk rest, takeChunk? size c.arriving = some (chunk, rest) ∧ result = .ok chunk ∧
      c' = { c with arriving := rest }) ∨
    (c.arriving = [] ∧ result = .error nothingThere ∧ c' = c) := by
  change c.read size = (result, c') at h
  unfold read at h
  split at h
  · next chunk rest htake =>
    simp only [Prod.mk.injEq] at h
    exact Or.inl ⟨chunk, rest, htake, h.1.symm, h.2.symm⟩
  · next htake =>
    simp only [Prod.mk.injEq] at h
    exact Or.inr ⟨takeChunk?_eq_none htake, h.1.symm, h.2.symm⟩

instance : Link.InOrder Connection where
  isOpen := IsOpen
  coming c := c.arriving.flatten
  withoutBytes c := { c with arriving := [] }
  isPrompt := True
  takesFrom_of_read hopen hsize h := by
    obtain ⟨chunk, rest, htake, rfl, rfl⟩ | ⟨hdry, rfl, rfl⟩ := read_cases h
    · exact .bytes (ne_nil_of_takeChunk? hsize hopen htake) (flatten_of_takeChunk? htake)
    · exact .nothing (Or.inr rfl) rfl
  isOpen_of_read hopen h := by
    obtain ⟨chunk, rest, htake, rfl, rfl⟩ | ⟨hdry, rfl, rfl⟩ := read_cases h
    · exact forall_ne_nil_of_takeChunk? hopen htake
    · exact hopen
  withoutBytes_of_read _ h := by
    obtain ⟨chunk, rest, htake, rfl, rfl⟩ | ⟨hdry, rfl, rfl⟩ := read_cases h <;> rfl
  coming_of_prompt _ hopen h := by
    obtain ⟨chunk, rest, htake, hresult, -⟩ | ⟨hdry, -, -⟩ := read_cases h
    · simp at hresult
    · simp [hdry]

end Connection

end TimingBoard
