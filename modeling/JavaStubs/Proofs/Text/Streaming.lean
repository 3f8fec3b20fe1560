import JavaStubs.Proofs.Text.EscapeGroups
import JavaStubs.Text.Sink

/-!
# Streaming into a sink of limited room

However a text is cut into chunks, and however few bytes the sink takes at a time, it holds a
beginning of the escaped text after each chunk: all of it as long as there is room, and as much as
there is room for from then on. A chunk fails exactly if it brings a byte that has no room.
-/

namespace JavaStubs
namespace Text
namespace Sink

/-- As many bytes from the front as there is room for. -/
def firstBytes (limit : Option Nat) (bytes : List UInt8) : List UInt8 :=
  match limit with
  | none => bytes
  | some room => bytes.take room

def Overflows (limit : Option Nat) (bytes : List UInt8) : Prop :=
  ∃ room, limit = some room ∧ room < bytes.length

section Write

variable {s : Sink} {limit : Option Nat} {all bytes : List UInt8}

/-- The sink has been offered the bytes `all` and has kept their beginning. -/
structure Holds (s : Sink) (limit : Option Nat) (all : List UInt8) : Prop where
  limit_eq : s.limit = limit
  written_eq : s.written = firstBytes limit all

theorem holds_new (limit : Option Nat) : (new limit).Holds limit [] := by
  refine ⟨rfl, ?_⟩
  cases limit <;> simp [new, firstBytes]

theorem Holds.accepts_of_unlimited (holds : s.Holds none all) (n : Nat) : s.accepts n = n := by
  rw [accepts, holds.limit_eq]

theorem Holds.accepts_of_limited {room : Nat} (holds : s.Holds (some room) all) (n : Nat) :
    s.accepts n = min n (room - all.length) := by
  have length : s.written.length = min room all.length := by
    rw [holds.written_eq, firstBytes, List.length_take]
  rw [accepts, holds.limit_eq]
  dsimp only
  omega

/-- After a write the sink holds the beginning of what it was offered in all. -/
theorem Holds.write (holds : s.Holds limit all) (bytes : List UInt8) :
    (s.write bytes).2.Holds limit (all ++ bytes) := by
  refine ⟨holds.limit_eq, ?_⟩
  have written := holds.written_eq
  cases limit with
  | none =>
    simp only [firstBytes] at written ⊢
    rw [Sink.write, holds.accepts_of_unlimited, List.take_length, written]
  | some room =>
    simp only [firstBytes] at written ⊢
    have taken : bytes.take (min bytes.length (room - all.length)) =
        bytes.take (room - all.length) := by
      rw [List.take_eq_take_iff]
      omega
    rw [Sink.write, holds.accepts_of_limited, taken, written, List.take_append]

theorem Holds.write_fails_iff (holds : s.Holds limit all) (bytes : List UInt8) :
    (s.write bytes).1 = false ↔ bytes ≠ [] ∧ Overflows limit (all ++ bytes) := by
  rw [← List.length_pos_iff]
  cases limit with
  | none => simp [Sink.write, holds.accepts_of_unlimited, Overflows]
  | some room =>
    simp only [Sink.write, holds.accepts_of_limited, beq_eq_false_iff_ne, Overflows,
      Option.some.injEq, exists_eq_left', List.length_append]
    omega

end Write

section Pieces

/-- Offers the bytes to the sink until it has taken them all or takes none any more. Of what there is
room for, the sink may take as few as one byte at a time: `pieces` tells how many more than one. -/
def writeAll (pieces : Sink → List UInt8 → Nat) (s : Sink) : List UInt8 → Bool × Sink
  | [] => (true, s)
  | b :: rest =>
    let room := s.accepts (rest.length + 1)
    if room = 0 then (false, s)
    else
      let n := min room (pieces s (b :: rest) + 1)
      writeAll pieces { s with written := s.written ++ (b :: rest).take n } ((b :: rest).drop n)
termination_by bytes => bytes.length
decreasing_by
  simp only [List.length_drop, List.length_cons]
  omega

variable (pieces : Sink → List UInt8 → Nat)

theorem accepts_le (s : Sink) (n : Nat) : s.accepts n ≤ n := by
  unfold accepts
  split
  · exact Nat.le_refl n
  · exact Nat.min_le_left _ _

/-- Taking some of the bytes that there is room for first makes no difference. -/
theorem write_of_taken {s : Sink} {bytes : List UInt8} {n : Nat} (fits : n ≤ s.accepts bytes.length) :
    Sink.write { s with written := s.written ++ bytes.take n } (bytes.drop n) = s.write bytes := by
  have le := Nat.le_trans fits (s.accepts_le bytes.length)
  have later : accepts { s with written := s.written ++ bytes.take n } (bytes.length - n) =
      s.accepts bytes.length - n := by
    cases hlimit : s.limit with
    | none => simp [accepts, hlimit]
    | some room =>
      simp [accepts, hlimit] at fits ⊢
      omega
  have all : (s.accepts bytes.length - n == bytes.length - n) =
      (s.accepts bytes.length == bytes.length) := by
    rw [Bool.eq_iff_iff, beq_iff_eq, beq_iff_eq]
    have := s.accepts_le bytes.length
    omega
  have joined : bytes.take n ++ (bytes.drop n).take (s.accepts bytes.length - n) =
      bytes.take (s.accepts bytes.length) := by
    rw [← List.take_add, Nat.add_sub_cancel' fits]
  simp only [Sink.write, List.length_drop, later, all, List.append_assoc, joined]

/-- In whatever pieces a sink takes the bytes, it takes them all or as many as fit. -/
theorem writeAll_eq_write (s : Sink) (bytes : List UInt8) :
    s.writeAll pieces bytes = s.write bytes := by
  fun_induction writeAll pieces s bytes with
  | case1 s =>
    have nothing : s.accepts 0 = 0 := Nat.le_zero.mp (s.accepts_le 0)
    simp [Sink.write, nothing]
  | case2 s b rest room full =>
    have full : s.accepts (rest.length + 1) = 0 := full
    simp [Sink.write, full]
  | case3 s b rest room hasRoom n ih =>
    rw [ih]
    exact write_of_taken (Nat.min_le_left _ _)

/-- Writes the escaped form of each chunk in turn into a sink that takes it in pieces. -/
def streamChunks (s : Sink) : List String → List (Bool × Sink)
  | [] => []
  | chunk :: rest =>
    let step := s.writeAll pieces (Utf8.bytesOfString (escape chunk))
    step :: streamChunks step.2 rest

theorem streamChunks_eq_writeChunks (s : Sink) (chunks : List String) :
    s.streamChunks pieces chunks = s.writeChunks chunks := by
  induction chunks generalizing s with
  | nil => rfl
  | cons chunk rest ih => simp only [streamChunks, writeChunks, writeAll_eq_write, writeEscaped, ih]

end Pieces

section Chunks

def escapedBytes (chunks : List String) : List UInt8 :=
  Utf8.bytesOfString (escape (String.join chunks))

theorem escapedBytes_cons (chunk : String) (rest : List String) :
    escapedBytes (chunk :: rest) = Utf8.bytesOfString (escape chunk) ++ escapedBytes rest := by
  have joined : String.join (chunk :: rest) = chunk ++ String.join rest := by
    rw [← String.toList_inj]
    simp [String.toList_join]
  rw [escapedBytes, joined, escape_append]
  simp [escapedBytes, Utf8.bytesOfString, Utf8.bytesOfChars]

theorem bytesOfString_eq_nil_iff {text : String} : Utf8.bytesOfString text = [] ↔ text = "" := by
  have bytes : ∀ c, Utf8.bytesOfChar c ≠ [] := by
    intro c
    unfold Utf8.bytesOfChar
    dsimp only
    split_ifs <;> simp
  rw [Utf8.bytesOfString, Utf8.bytesOfChars, List.flatMap_eq_nil_iff, ← String.toList_eq_nil_iff]
  simp [bytes, List.eq_nil_iff_forall_not_mem]

theorem escape_eq_empty_iff {text : String} : escape text = "" ↔ text = "" := by
  constructor
  · intro nothing
    have read := unescape?_escape text
    rw [nothing] at read
    exact (Option.some.inj read).symm
  · rintro rfl
    rfl

variable {s : Sink} {limit : Option Nat} {all : List UInt8}

/-- After each chunk, the sink holds the beginning of all that it was offered up to this chunk. -/
theorem Holds.getElem?_writeChunks (holds : s.Holds limit all) (before after : List String)
    (chunk : String) :
    ∃ ok sink, (s.writeChunks (before ++ chunk :: after))[before.length]? = some (ok, sink) ∧
      sink.Holds limit (all ++ escapedBytes (before ++ [chunk])) ∧
      (ok = false ↔ chunk ≠ "" ∧ Overflows limit (all ++ escapedBytes (before ++ [chunk]))) := by
  induction before generalizing s all with
  | nil =>
    have bytes : escapedBytes [chunk] = Utf8.bytesOfString (escape chunk) := by
      simp [escapedBytes, String.join]
    have fails := holds.write_fails_iff (Utf8.bytesOfString (escape chunk))
    rw [ne_eq, bytesOfString_eq_nil_iff, escape_eq_empty_iff] at fails
    refine ⟨_, _, rfl, ?_⟩
    rw [List.nil_append, bytes]
    exact ⟨holds.write _, fails⟩
  | cons first rest ih =>
    obtain ⟨ok, sink, here, held, fails⟩ := ih (holds.write (Utf8.bytesOfString (escape first)))
    refine ⟨ok, sink, here, ?_⟩
    rw [List.cons_append, escapedBytes_cons, ← List.append_assoc]
    exact ⟨held, fails⟩

/-- Whatever chunks come before and after it, and in whatever pieces the sink takes the bytes, after
a chunk the sink holds the first bytes of the escaped form of all chunks so far, as many as there is
room for, and the chunk fails exactly if it is not empty and not all of them fit. -/
theorem writeChunks_exactPrefix (limit : Option Nat) (pieces : Sink → List UInt8 → Nat)
    (before after : List String) (chunk : String) :
    (new limit).streamChunks pieces (before ++ chunk :: after) =
        (new limit).writeChunks (before ++ chunk :: after) ∧
    ∃ ok sink,
      ((new limit).writeChunks (before ++ chunk :: after))[before.length]? = some (ok, sink) ∧
      sink.written = firstBytes limit (escapedBytes (before ++ [chunk])) ∧
      (ok = false ↔ chunk ≠ "" ∧ Overflows limit (escapedBytes (before ++ [chunk]))) := by
  refine ⟨streamChunks_eq_writeChunks pieces _ _, ?_⟩
  obtain ⟨ok, sink, here, held, fails⟩ := (holds_new limit).getElem?_writeChunks before after chunk
  rw [List.nil_append] at held fails
  exact ⟨ok, sink, here, held.written_eq, fails⟩

end Chunks

end Sink
end Text
end JavaStubs
