import ModuleNats.Aot.Elf
import ModuleNats.Aot.ModuleInfo

set_option autoImplicit false

/-! # The note reader is total

`read_module_info()` ends on every byte string, with bytes or with a `ValueError`. Each read of the
script is at an offset that it has compared with the length before, so that `struct` and the tuples
raise nothing, and each pass over a note moves the position on. -/

namespace ModuleNats.Aot

open Packed

/-! ## Results -/

/-- With more fuel than the bound, a computation has one and the same result, which is a value or a
    `ValueError`. -/
def Settles {α : Type} (bound : ℕ) (run : ℕ → Py α) : Prop :=
  (∃ a, ∀ fuel, bound < fuel → run fuel = pure a) ∨
    ∃ message, ∀ fuel, bound < fuel → run fuel = Py.valueError message

section Settles

variable {α β : Type} {bound : ℕ}

theorem settles_pure (a : α) : Settles bound fun _ => pure a := Or.inl ⟨a, fun _ _ => rfl⟩

theorem settles_valueError (message : String) :
    Settles bound fun _ => (Py.valueError message : Py α) :=
  Or.inr ⟨message, fun _ _ => rfl⟩

theorem Settles.bind {run : ℕ → Py α} {next : ℕ → α → Py β} (h : Settles bound run)
    (hnext : ∀ a, Settles bound fun fuel => next fuel a) :
    Settles bound fun fuel => run fuel >>= next fuel := by
  rcases h with ⟨a, ha⟩ | ⟨message, hmessage⟩
  · rcases hnext a with ⟨b, hb⟩ | ⟨message, hmessage⟩
    · refine Or.inl ⟨b, fun fuel hfuel => ?_⟩
      show (run fuel >>= next fuel) = pure b
      rw [ha fuel hfuel, pure_bind]
      exact hb fuel hfuel
    · refine Or.inr ⟨message, fun fuel hfuel => ?_⟩
      show (run fuel >>= next fuel) = Py.valueError message
      rw [ha fuel hfuel, pure_bind]
      exact hmessage fuel hfuel
  · refine Or.inr ⟨message, fun fuel hfuel => ?_⟩
    show (run fuel >>= next fuel) = Py.valueError message
    rw [hmessage fuel hfuel, Py.valueError_bind]

end Settles

/-! ## The notes of a segment -/

section Notes

variable (segment : Bytes) (alignment position : ℕ) (records : List Bytes)

/-- Where the pass at a position looks for the descriptor. -/
def descStart : ℕ := align (position + 12 + field segment position 4) alignment

/-- Where it looks for the end of the descriptor. -/
def descEnd : ℕ := descStart segment alignment position + field segment (position + 4) 4

/-- What it adds to the records if the descriptor lies inside the segment. -/
def noteFound : List Bytes :=
  if field segment (position + 8) 4 = noteType ∧
      slice segment (position + 12) (position + 12 + field segment position 4) = noteName then
    [slice segment (descStart segment alignment position) (descEnd segment alignment position)]
  else []

variable {segment alignment position}

theorem notePass_eq (h : position + 12 ≤ segment.length) :
    notePass segment alignment position records =
      pure (if descEnd segment alignment position > segment.length then none
        else some (min (align (descEnd segment alignment position) alignment) segment.length,
          records ++ noteFound segment alignment position)) := by
  unfold notePass
  rw [Py.unpackFrom_of_le h, pure_bind]
  by_cases hout : descEnd segment alignment position > segment.length
  · rw [if_pos hout]
    exact if_pos hout
  · rw [if_neg hout]
    exact if_neg hout

section Fuel

variable {fuel : ℕ} (hfuel : 0 < fuel)

include hfuel

theorem noteLoop_done (h : segment.length < position + 12) :
    noteLoop segment alignment fuel position records = pure records := by
  obtain ⟨fuel, rfl⟩ := Nat.exists_eq_succ_of_ne_zero (Nat.ne_of_gt hfuel)
  rw [noteLoop, if_neg (by omega)]

theorem noteLoop_break (h : position + 12 ≤ segment.length)
    (hout : segment.length < descEnd segment alignment position) :
    noteLoop segment alignment fuel position records = pure records := by
  obtain ⟨fuel, rfl⟩ := Nat.exists_eq_succ_of_ne_zero (Nat.ne_of_gt hfuel)
  rw [noteLoop, if_pos (by omega), notePass_eq records h, pure_bind, if_pos hout]

theorem noteLoop_next (h : position + 12 ≤ segment.length)
    (hin : descEnd segment alignment position ≤ segment.length) :
    noteLoop segment alignment fuel position records =
      noteLoop segment alignment (fuel - 1)
        (min (align (descEnd segment alignment position) alignment) segment.length)
        (records ++ noteFound segment alignment position) := by
  obtain ⟨fuel, rfl⟩ := Nat.exists_eq_succ_of_ne_zero (Nat.ne_of_gt hfuel)
  rw [noteLoop, if_pos (by omega), notePass_eq records h, pure_bind, if_neg (by omega)]
  rfl

end Fuel

theorem lt_descEnd (segment : Bytes) (k position : ℕ) :
    position < descEnd segment (2 ^ k) position := by
  have hdesc := le_align (position + 12 + field segment position 4) k
  rw [descEnd, descStart]
  omega

/-- The loop over the notes ends: what is left of the segment gets shorter with each pass. -/
theorem noteLoop_settles (segment : Bytes) (k left : ℕ) :
    ∀ (position : ℕ) (records : List Bytes), segment.length - position = left →
      ∃ found, ∀ fuel, left < fuel →
        noteLoop segment (2 ^ k) fuel position records = pure found := by
  induction left using Nat.strongRecOn with
  | ind left ih =>
      intro position records hleft
      by_cases hlong : position + 12 ≤ segment.length
      · by_cases hin : descEnd segment (2 ^ k) position ≤ segment.length
        · have hmove := lt_descEnd segment k position
          have halign := le_align (descEnd segment (2 ^ k) position) k
          have hless : segment.length -
              min (align (descEnd segment (2 ^ k) position) (2 ^ k)) segment.length < left := by
            omega
          obtain ⟨found, hfound⟩ := ih _ hless _
            (records ++ noteFound segment (2 ^ k) position) rfl
          refine ⟨found, fun fuel hfuel => ?_⟩
          rw [noteLoop_next records (by omega) hlong hin]
          exact hfound (fuel - 1) (by omega)
        · refine ⟨records, fun fuel hfuel => ?_⟩
          exact noteLoop_break records (by omega) hlong (by omega)
      · refine ⟨records, fun fuel hfuel => ?_⟩
        exact noteLoop_done records (by omega) (by omega)

end Notes

/-! ## The headers -/

/-- The layout that the formats of the script are for. -/
def layout (wide : Bool) : Layout := if wide then elf64 else elf32

section Headers

variable {fuel : ℕ} {path : String} {data : Bytes} {wide : Bool} {phdr : ℕ}

theorem size_phdrFormat : size (phdrFormat wide) = (layout wide).phdrSize := by
  cases wide <;> rfl

theorem size_headerFormat : size (headerFormat wide) = (layout wide).ehdrSize := by
  cases wide <;> rfl

/-- A pass over a program header that lies inside the file. -/
theorem phdrPass_eq (records : List Bytes) (h : phdr + (layout wide).phdrSize ≤ data.length) :
    phdrPass fuel path data wide phdr records =
      let offset := field data (phdr + (layout wide).pOffset) (layout wide).word
      let size := field data (phdr + (layout wide).pFilesz) (layout wide).word
      if field data phdr 4 ≠ 4 then pure records
      else if offset + size > data.length then
        Py.valueError (path ++ ": truncated ELF note segment")
      else
        noteLoop (slice data offset (offset + size))
          (if field data (phdr + (layout wide).pAlign) (layout wide).word = 8 then 8 else 4)
          fuel 0 records := by
  rw [← size_phdrFormat] at h
  unfold phdrPass
  rw [Py.unpackFrom_of_le h, pure_bind]
  cases wide <;> rfl

variable (data) in
theorem length_slice_le (start stop : ℕ) : (slice data start stop).length ≤ data.length := by
  rw [slice, List.length_drop, List.length_take]
  omega

/-- The loop over the notes of a segment of the file. -/
theorem segment_settles (start stop align : ℕ) (records : List Bytes) :
    Settles data.length fun fuel =>
      noteLoop (slice data start stop) (if align = 8 then 8 else 4) fuel 0 records := by
  have hlength := length_slice_le data start stop
  by_cases halign : align = 8
  · rw [if_pos halign]
    obtain ⟨found, hfound⟩ := noteLoop_settles (slice data start stop) 3 _ 0 records rfl
    exact Or.inl ⟨found, fun fuel hfuel => hfound fuel (by omega)⟩
  · rw [if_neg halign]
    obtain ⟨found, hfound⟩ := noteLoop_settles (slice data start stop) 2 _ 0 records rfl
    exact Or.inl ⟨found, fun fuel hfuel => hfound fuel (by omega)⟩

theorem phdrPass_settles (path : String) (records : List Bytes)
    (h : phdr + (layout wide).phdrSize ≤ data.length) :
    Settles data.length fun fuel => phdrPass fuel path data wide phdr records := by
  simp only [phdrPass_eq records h]
  by_cases htype : field data phdr 4 ≠ 4
  · simp only [if_pos htype]
    exact settles_pure records
  · simp only [if_neg htype]
    by_cases hout : field data (phdr + (layout wide).pOffset) (layout wide).word +
        field data (phdr + (layout wide).pFilesz) (layout wide).word > data.length
    · simp only [if_pos hout]
      exact settles_valueError _
    · simp only [if_neg hout]
      exact segment_settles _ _ _ records

variable {phoff phentsize : ℕ}

theorem phdrLoop_settles (indices : List ℕ) (records : List Bytes)
    (h : ∀ k ∈ indices, phoff + k * phentsize + (layout wide).phdrSize ≤ data.length) :
    Settles data.length fun fuel =>
      phdrLoop fuel path data wide phoff phentsize indices records := by
  induction indices generalizing records with
  | nil => exact settles_pure records
  | cons k rest ih =>
      have hfirst := phdrPass_settles path records (h k (List.mem_cons_self ..))
      exact hfirst.bind fun found => ih found fun j hj => h j (List.mem_cons_of_mem k hj)

/-- The last of the program headers ends where they are checked to end. -/
theorem phdr_inside {count k : ℕ} (hk : k < count) (hsize : (layout wide).phdrSize ≤ phentsize)
    (hlast : phoff + count * phentsize ≤ data.length) :
    phoff + k * phentsize + (layout wide).phdrSize ≤ data.length := by
  have hmul : (k + 1) * phentsize ≤ count * phentsize := Nat.mul_le_mul_right _ hk
  rw [Nat.add_one_mul] at hmul
  omega

theorem readPhdrs_settles (phnum : ℕ) :
    Settles data.length fun fuel => readPhdrs fuel path data wide phoff phentsize phnum := by
  unfold readPhdrs
  rw [size_phdrFormat]
  by_cases hbad : phentsize < (layout wide).phdrSize ∨ phoff + phnum * phentsize > data.length
  · simp only [if_pos hbad]
    exact settles_valueError _
  · simp only [if_neg hbad]
    have hinside : ∀ k ∈ List.range phnum,
        phoff + k * phentsize + (layout wide).phdrSize ≤ data.length := by
      intro k hk
      exact phdr_inside (List.mem_range.1 hk) (by omega) (by omega)
    refine (phdrLoop_settles (List.range phnum) [] hinside).bind fun found => ?_
    rcases found with _ | ⟨record, _ | ⟨_, _⟩⟩
    · exact settles_pure []
    · exact settles_pure record
    · exact settles_valueError _

variable (path data wide) in
/-- The number of program headers, where the first section header lies inside the file if it is
    needed. -/
theorem readCount_eq :
    readCount path data wide (field data (layout wide).shoff (layout wide).word)
        ((layout wide).ePhnum data) =
      if (layout wide).ePhnum data = 0xFFFF ∧ (layout wide).infoOffset data + 4 > data.length then
        Py.valueError (path ++ ": truncated ELF section header")
      else pure ((layout wide).phdrCount data) := by
  have hinfo : field data (layout wide).shoff (layout wide).word + (if wide then 44 else 28) =
      (layout wide).infoOffset data := by
    cases wide <;> rfl
  unfold readCount Layout.phdrCount
  by_cases hext : (layout wide).ePhnum data = 0xFFFF
  · simp only [if_pos hext, hinfo]
    by_cases hout : (layout wide).infoOffset data + 4 > data.length
    · rw [if_pos hout, if_pos ⟨hext, hout⟩]
    · rw [if_neg hout, if_neg fun h => hout h.2, Py.unpackFrom_of_le (by
        show (layout wide).infoOffset data + 4 ≤ data.length
        omega), pure_bind]
      rfl
  · rw [if_neg hext, if_neg fun h => hext h.1, if_neg hext]

/-- What is read of an image whose header lies inside the file. -/
theorem readElf_eq (h : (layout wide).ehdrSize ≤ data.length) :
    readElf fuel path data wide =
      if (layout wide).ePhnum data = 0 then pure []
      else readCount path data wide (field data (layout wide).shoff (layout wide).word)
          ((layout wide).ePhnum data) >>=
        readPhdrs fuel path data wide (field data (layout wide).phoff (layout wide).word)
          (field data (layout wide).phentsize 2) := by
  rw [← size_headerFormat] at h
  unfold readElf
  rw [if_neg (Nat.not_lt.2 h), Py.unpackFrom_of_le (by omega), pure_bind]
  cases wide <;> rfl

theorem readElf_settles : Settles data.length fun fuel => readElf fuel path data wide := by
  by_cases hsize : (layout wide).ehdrSize ≤ data.length
  · simp only [readElf_eq hsize, readCount_eq]
    by_cases hnone : (layout wide).ePhnum data = 0
    · simp only [if_pos hnone]
      exact settles_pure []
    · simp only [if_neg hnone]
      refine Settles.bind ?_ fun count => readPhdrs_settles count
      by_cases hout : (layout wide).ePhnum data = 0xFFFF ∧
          (layout wide).infoOffset data + 4 > data.length
      · simp only [if_pos hout]
        exact settles_valueError _
      · simp only [if_neg hout]
        exact settles_pure _
  · unfold readElf
    rw [size_headerFormat]
    simp only [if_pos (Nat.not_le.1 hsize)]
    exact settles_valueError _

/-- What is read of a file with the magic number of ELF images. -/
theorem readModuleInfo_eq (hlength : 16 ≤ data.length)
    (hmagic : slice data 0 4 = [0x7F, 0x45, 0x4C, 0x46]) :
    readModuleInfo fuel path data =
      if data[5] ≠ 1 ∨ (data[4] ≠ 1 ∧ data[4] ≠ 2) then pure []
      else readElf fuel path data (data[4] == 2) := by
  unfold readModuleInfo
  rw [if_neg (not_or.2 ⟨Nat.not_lt.2 hlength, not_not.2 hmagic⟩),
    Py.getItem_of_lt (show 5 < data.length by omega),
    Py.getItem_of_lt (show 4 < data.length by omega), pure_bind, pure_bind]

theorem readModuleInfo_settles (path : String) (data : Bytes) :
    Settles data.length fun fuel => readModuleInfo fuel path data := by
  by_cases hmagic : 16 ≤ data.length ∧ slice data 0 4 = [0x7F, 0x45, 0x4C, 0x46]
  · simp only [readModuleInfo_eq hmagic.1 hmagic.2]
    by_cases hclass : data[5] ≠ 1 ∨ (data[4] ≠ 1 ∧ data[4] ≠ 2)
    · simp only [if_pos hclass]
      exact settles_pure []
    · simp only [if_neg hclass]
      exact readElf_settles
  · unfold readModuleInfo
    have hno : data.length < 16 ∨ slice data 0 4 ≠ [0x7F, 0x45, 0x4C, 0x46] := by
      rwa [not_and_or, Nat.not_le] at hmagic
    simp only [if_pos hno]
    exact settles_pure []

/-- More fuel than there are bytes is enough. -/
theorem readModuleInfo_isSome (path : String) (data : Bytes) :
    (readModuleInfo (data.length + 1) path data).run.isSome := by
  rcases readModuleInfo_settles path data with ⟨record, hrecord⟩ | ⟨message, hmessage⟩
  · have hrun : readModuleInfo (data.length + 1) path data = pure record :=
      hrecord _ (Nat.lt_succ_self _)
    rw [hrun]
    rfl
  · have hrun : readModuleInfo (data.length + 1) path data = Py.valueError message :=
      hmessage _ (Nat.lt_succ_self _)
    rw [hrun]
    rfl

/-- What `read_module_info()` returns or raises for these bytes. -/
def moduleInfo (path : String) (data : Bytes) : Except PyException Bytes :=
  (readModuleInfo (data.length + 1) path data).run.get (readModuleInfo_isSome path data)

/-- It is the result with any fuel that is enough. -/
theorem readModuleInfo_eq_moduleInfo {fuel : ℕ} (path : String) (data : Bytes)
    (hfuel : data.length < fuel) :
    (readModuleInfo fuel path data).run = some (moduleInfo path data) := by
  have hsame : readModuleInfo fuel path data = readModuleInfo (data.length + 1) path data := by
    rcases readModuleInfo_settles path data with ⟨record, hrecord⟩ | ⟨message, hmessage⟩
    · exact (hrecord fuel hfuel).trans (hrecord _ (Nat.lt_succ_self _)).symm
    · exact (hmessage fuel hfuel).trans (hmessage _ (Nat.lt_succ_self _)).symm
  rw [hsame, moduleInfo, Option.some_get]

end Headers

end ModuleNats.Aot
