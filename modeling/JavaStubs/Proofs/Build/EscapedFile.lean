import JavaStubs.Proofs.Build.WriteSource
import JavaStubs.Proofs.Text.EscapeGroups

/-!
# Source files are ASCII and lose nothing

Escaped text has one group of upper-case digits for each code unit, so it is ASCII, and it is
unescaped to the text that was escaped. A source file holds the escaped source, so that the source
can be told from the bytes of the file alone.
-/

namespace JavaStubs

namespace Text

namespace Utf8

section Ascii

variable {c : Char} {s : List Char}

theorem bytesOfChar_ascii (ascii : c.toNat < 0x80) : bytesOfChar c = [c.toNat.toUInt8] := by
  simp [bytesOfChar, ascii]

theorem toNat_byte_ascii (ascii : c.toNat < 0x80) : c.toNat.toUInt8.toNat = c.toNat := by
  simp
  omega

theorem lt_of_mem_bytes_ascii (ascii : ∀ c ∈ s, c.toNat < 0x80) :
    ∀ b ∈ bytesOfChars s, b.toNat < 0x80 := by
  intro b hb
  obtain ⟨c, hc, hb⟩ := List.mem_flatMap.mp hb
  rw [bytesOfChar_ascii (ascii c hc), List.mem_singleton] at hb
  rw [hb, toNat_byte_ascii (ascii c hc)]
  exact ascii c hc

theorem front_ascii (ascii : c.toNat < 0x80) (rest : List UInt8) :
    front c.toNat.toUInt8 rest = (.char c, 1, false) := by
  rw [front, toNat_byte_ascii ascii, if_pos ascii, Char.ofNat_toNat]

theorem go_bytes_ascii (ascii : ∀ c ∈ s, c.toNat < 0x80) (index : Nat) (before : List Char) :
    decode.go index before (bytesOfChars s) = .ok (before.reverse ++ s) := by
  induction s generalizing index before with
  | nil => simp [bytesOfChars, decode.go]
  | cons c rest ih =>
    have front := front_ascii (ascii c List.mem_cons_self) (bytesOfChars rest)
    have bytes : bytesOfChars (c :: rest) = c.toNat.toUInt8 :: bytesOfChars rest := by
      rw [bytesOfChars, List.flatMap_cons, bytesOfChar_ascii (ascii c List.mem_cons_self)]
      rfl
    rw [bytes, decode.go, front]
    simp [ih fun d hd => ascii d (List.mem_cons_of_mem _ hd)]

theorem decode_bytes_ascii (ascii : ∀ c ∈ s, c.toNat < 0x80) :
    decode (bytesOfChars s) = .ok s :=
  go_bytes_ascii ascii 0 []

end Ascii

end Utf8

/-- Four upper-case digits whose value is `u`. -/
structure WritesUnit (quad : List Char) (u : Nat) : Prop where
  four : quad.length = 4
  digits : ∀ c ∈ quad, IsUpperHexDigit c
  value : hexNumber? quad = some u

/-- The escaped form of a text consists of groups, one for each code unit of the text in order. -/
def EscapedInGroups (t : String) : Prop :=
  ∃ quads, (escape t).toList = grouped quads ∧ List.Forall₂ WritesUnit quads (Utf16.units t.toList)

theorem writesUnit_hexQuad {u : Nat} (unit : u < 0x10000) : WritesUnit (hexQuad u) u :=
  ⟨length_hexQuad u, isUpperHexDigit_of_mem_hexQuad unit, hexNumber?_hexQuad unit⟩

theorem escapedInGroups (t : String) : EscapedInGroups t := by
  refine ⟨_, (toList_escape t).trans (escapeChars_eq_grouped t.toList), ?_⟩
  rw [List.forall₂_map_left_iff, List.forall₂_same]
  exact fun u hu => writesUnit_hexQuad (Utf16.unit_lt_of_mem_units hu)

theorem ascii_of_mem_escape {t : String} : ∀ c ∈ (escape t).toList, c.toNat < 0x80 := by
  intro c hc
  rw [toList_escape, escapeChars_eq_grouped, mem_grouped_iff] at hc
  obtain ⟨quad, hquad, rfl | rfl | digit⟩ := hc
  · decide
  · decide
  · obtain ⟨u, hu, rfl⟩ := List.mem_map.mp hquad
    have unit := Utf16.unit_lt_of_mem_units hu
    exact IsHexDigit.ascii (.inl (isUpperHexDigit_of_mem_hexQuad unit c digit))

end Text

open Text

namespace Plan

variable {p : Plan} {root file : Path} {script : MemoryScript} {before : MemoryState}

theorem read?_of_writeSource
    (ok : ((p.writeSource root).run.run script.world before).1 = .ok file) :
    ((p.writeSource root).run.run script.world before).2.disk.read? file =
      some (sourceBytes p.render) := by
  simp only [writeSource_eq, Procedure.run_call] at ok ⊢
  generalize script.world (.createDirAll (p.packageDir root)) before = answered at ok ⊢
  obtain ⟨made, s⟩ := answered
  cases made with
  | error => cases ok
  | ok =>
    simp only [Procedure.run_bind] at ok ⊢
    have content := read?_of_writeEscaped (p.sourcePath root) p.render script s
    generalize (writeEscaped (p.sourcePath root) p.render).run script.world s = ended
      at ok content ⊢
    obtain ⟨written, s⟩ := ended
    cases written with
    | error =>
      simp only [run_discard_fst] at ok
      cases ok
    | ok =>
      obtain rfl := Except.ok.inj ok
      exact content rfl

end Plan

structure TellsSource (bytes : List UInt8) (source : String) : Prop where
  ascii : ∀ b ∈ bytes, b.toNat < 0x80
  read : ∃ text, Utf8.decode bytes = .ok text ∧ unescapeChars? text = some source.toList

theorem tellsSource_sourceBytes (source : String) : TellsSource (sourceBytes source) source where
  ascii := Utf8.lt_of_mem_bytes_ascii ascii_of_mem_escape
  read := by
    refine ⟨_, Utf8.decode_bytes_ascii ascii_of_mem_escape, ?_⟩
    rw [toList_escape, unescapeChars?_escapeChars]

/-- Escaping loses nothing: the escaped form of a text has one group for each code unit, is put
together from the escaped forms of its parts and is unescaped to the text, and a source file that
was written is ASCII and tells its source. -/
theorem escape_lossless :
    (∀ t, EscapedInGroups t) ∧ (∀ s t, escape (s ++ t) = escape s ++ escape t) ∧
    (∀ t, unescape? (escape t) = some t) ∧
    ∀ (p : Plan) (root : Path) (script : MemoryScript) (before : MemoryState) (file : Path),
      ((p.writeSource root).run.run script.world before).1 = .ok file →
      ∃ bytes, ((p.writeSource root).run.run script.world before).2.disk.read? file = some bytes ∧
        TellsSource bytes p.render := by
  refine ⟨escapedInGroups, escape_append, unescape?_escape, ?_⟩
  intro p root script before file written
  exact ⟨_, p.read?_of_writeSource written, tellsSource_sourceBytes p.render⟩

/-- A target whose name has a letter beyond the basic plane, and a world without faults. -/
def doubleStruckPlan : Plan :=
  { target := ⟨"a.𝕊et", .interfaceType, .none⟩, generatedName := "𝕊etImpl",
    constructors := [], members := .empty }

def roomyDisk : MemoryScript :=
  { faults := [], compiler := ⟨none, ⟨0, ""⟩, none⟩, archiveError? := none, id := "1" }

theorem doubleStruckPlan_lossless :
    ((doubleStruckPlan.writeSource .empty).run.run roomyDisk.world ⟨.empty, []⟩).1 =
      .ok (doubleStruckPlan.sourcePath .empty) ∧
    ∃ bytes, ((doubleStruckPlan.writeSource .empty).run.run roomyDisk.world
        ⟨.empty, []⟩).2.disk.read? (doubleStruckPlan.sourcePath .empty) = some bytes ∧
      TellsSource bytes doubleStruckPlan.render := by
  have written : ((doubleStruckPlan.writeSource .empty).run.run roomyDisk.world ⟨.empty, []⟩).1 =
      .ok (doubleStruckPlan.sourcePath .empty) := rfl
  exact ⟨written, escape_lossless.2.2.2 _ _ _ _ _ written⟩

end JavaStubs
